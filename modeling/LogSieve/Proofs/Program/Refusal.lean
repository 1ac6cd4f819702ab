import LogSieve.Proofs.Program.Ending
import LogSieve.Proofs.Search.Fetches

/-!
# A refused request never touches the data

A filter is compiled before any record is fetched. Seen from a store, a search for a bad filter does
not exist; seen from outside, two runs that are refused for the same request cannot be told apart by
their record files (`refusal_ignores_data`).
-/

namespace LogSieve.Program

/-- Runs with the same settings whose request fails leave the same behind. -/
theorem refused_alike [RegexEngine] (environment : Environment) {invocation : Invocation}
    {one other : Disk}
    (hsettings : one.settings invocation.options.config = other.settings invocation.options.config)
    (h : RequestFails one invocation) :
    ∃ fault : RunFault, fault.exitCode = 2 ∧
      (run environment invocation : StateM Disk Outcome).run one =
        (failure environment invocation.options fault, one) ∧
      (run environment invocation : StateM Disk Outcome).run other =
        (failure environment invocation.options fault, other) := by
  obtain ⟨settings, hone, hrefused⟩ := h
  have hother := hsettings.symm.trans hone
  obtain ⟨fault, hcode, hreport⟩ := run_report_of_refused hrefused
  exact ⟨fault, hcode, by rw [run_of_settings hone, hreport],
    by rw [run_of_settings hother, hreport]⟩

/-- **A bad filter never touches the data.** Whatever the store does when it is asked, the three
kinds of search ask it for no filter that does not compile, and answer with the fault of compiling.
Else they ask it once, and answer with its own fault or with what `execute` makes of its records.
And two runs with the same environment, command line and settings whose request fails end alike,
with code 2, the same message and nothing on the standard output, whatever their files are
otherwise. -/
theorem refusal_ignores_data [RegexEngine] :
    (∀ {m : Type → Type} [Monad m] [LawfulMonad m] {R : Type} [HasFields R] (store : Store m R)
      (schema : Schema) (count : Nat),
      (∀ (limit : Nat) (raw : Json),
        (Search.advanced store.counting schema limit raw).run count =
          Search.answer store schema (Compiler.compileJson { schema, limit } raw) count) ∧
      (∀ filter : Filter,
        (Search.filtered store.counting schema filter).run count =
          Search.answer store schema (Compiler.compile { schema } filter) count) ∧
      (∀ browser country : String,
        (Search.simple store.counting schema browser country).run count =
          Search.answer store schema
            (Compiler.compile { schema } (Search.simpleFilter browser country)) count)) ∧
    (∀ (environment : Environment) (invocation : Invocation) (one other : Disk),
      one.settings invocation.options.config = other.settings invocation.options.config →
      RequestFails one invocation →
      ∃ outcome : Outcome, outcome.code = 2 ∧ outcome.stdout = "" ∧
        (run environment invocation : StateM Disk Outcome).run one = (outcome, one) ∧
        (run environment invocation : StateM Disk Outcome).run other = (outcome, other)) := by
  constructor
  · intro m _ _ R _ store schema count
    exact ⟨fun limit raw => Search.run_counting store schema _ count,
      fun filter => Search.run_counting store schema _ count,
      fun browser country => Search.run_counting store schema _ count⟩
  · intro environment invocation one other hsettings h
    obtain ⟨fault, hcode, hone, hother⟩ := refused_alike environment hsettings h
    exact ⟨failure environment invocation.options fault, hcode, rfl, hone, hother⟩

/-- A filter on a field that log records do not have. -/
def colourFilter : Json := .obj [("IS", .obj [("colour", .str "red")])]

theorem compileJson_colourFilter [RegexEngine] :
    Compiler.compileJson { schema := LogRecord.schema, limit := 64 } colourFilter =
      .error (.unknownField "colour") := rfl

/-- The text of the filter. -/
def colourText : String := "\x7b\"IS\": \x7b\"colour\": \"red\"\x7d\x7d"

theorem parse_colourText : Json.parse colourText = .ok colourFilter := by
  have hchars : colourText.toList = ['{', '"', 'I', 'S', '"', ':', ' ', '{', '"', 'c', 'o', 'l',
      'o', 'u', 'r', '"', ':', ' ', '"', 'r', 'e', 'd', '"', '}', '}'] := by decide +kernel
  rw [Json.parse, Json.parseWithin, hchars]
  rfl

/-- An advanced search with that text as its query. -/
def colourSearch : Invocation where
  options := { data := some "logs.json" }
  command := .advancedSearch (some colourText)

theorem requestFails_colourSearch [RegexEngine] (disk : Disk) :
    RequestFails disk colourSearch := by
  have hquery : queryText (some colourText) = colourText := by decide +kernel
  have hasks : Asks {} colourSearch.command
      (Compiler.compileJson { schema := LogRecord.schema, limit := 64 } colourFilter) := by
    refine .query (by rw [hquery]; decide) ?_
    rw [hquery, Search.parseQuery, parse_colourText]
  exact ⟨{}, rfl, .rejected (compileJson_colourFilter ▸ hasks) rfl⟩

/-- A search for a colour fails without a fetch, and in the same way without a record file and with
one that holds no records. -/
theorem colour_refusal_ignores_data :
    (Search.advanced (Store.ofList (m := Id) [Row.mk []]).counting LogRecord.schema 64
        colourFilter).run 0 = (.error (.badRequest (.unknownField "colour")), 0) ∧
      ∃ outcome : Outcome, outcome.code = 2 ∧ outcome.stdout = "" ∧
        (run {} colourSearch : StateM Disk Outcome).run ⟨[]⟩ = (outcome, ⟨[]⟩) ∧
        (run {} colourSearch : StateM Disk Outcome).run ⟨[("logs.json", "[]".toUTF8)]⟩ =
          (outcome, ⟨[("logs.json", "[]".toUTF8)]⟩) := by
  obtain ⟨hstore, hruns⟩ := refusal_ignores_data
  constructor
  · rw [(hstore (Store.ofList [Row.mk []]) LogRecord.schema 0).1, compileJson_colourFilter]
    rfl
  · exact hruns {} colourSearch ⟨[]⟩ ⟨[("logs.json", "[]".toUTF8)]⟩ rfl
      (requestFails_colourSearch _)

end LogSieve.Program
