import LogSieve.Proofs.Filter.Compile
import LogSieve.Proofs.Report.Json
import LogSieve.Proofs.Search.Positions
import LogSieve.Proofs.Search.Refinement

/-!
# Searching a report again

The JSON report of a search is a record file itself. The same search in it finds all of its
records, in the same order, and reports them in the same words (`report_of_own_report`): a search
sees no more of a record than a report shows, and sorting what has been sorted changes nothing.
-/

namespace LogSieve

/-! ### Records as a report shows them -/

namespace LogRecord

/-- A fraction of a second can be seen in no field. -/
theorem field_seconds (record : LogRecord) :
    HasFields.field record.seconds = HasFields.field record := rfl

/-- A report does not show fractions of a second. -/
theorem resultJson_map_seconds (records : List LogRecord) :
    Report.resultJson (records.map seconds) = Report.resultJson records := by
  rw [Report.resultJson, List.map_map]
  rfl

end LogRecord

/-! ### Reports -/

namespace Search

/-- The JSON report of a search in the text of a record file, if the text is one and the search has
a result. -/
def reportIn (search : Store Id LogRecord → Id (Except SearchFault (List LogRecord)))
    (text : String) : Option String :=
  match parseRecords text with
  | .error _ => none
  | .ok records =>
    match Id.run (search (.ofList records)) with
    | .error _ => none
    | .ok results => some (Report.resultJson results)

theorem reportIn_run {text : String} {records : List LogRecord}
    (h : parseRecords text = .ok records) (condition : Condition) :
    reportIn (run · LogRecord.schema (.ok condition)) text =
      some (Report.resultJson (execute LogRecord.schema condition records)) := by
  rw [reportIn, h]
  rfl

/-- A search with a filter that compiles reports, and reports the same of its own report. -/
theorem reportIn_report {text : String} {records : List LogRecord}
    (h : parseRecords text = .ok records) {compiled : Except FilterFault Condition}
    {condition : Condition} (hcompiled : compiled = .ok condition) :
    ∃ report, reportIn (run · LogRecord.schema compiled) text = some report ∧
      reportIn (run · LogRecord.schema compiled) report = some report := by
  subst hcompiled
  refine ⟨_, reportIn_run h condition, ?_⟩
  rw [reportIn_run (parseRecords_resultJson _), execute_map LogRecord.field_seconds,
    execute_execute, LogRecord.resultJson_map_seconds]

/-! ### Simple searches -/

/-- The fault of a term whose pattern is too large. -/
def termFault : FilterFault := .badOperand "ilike" (.patternTooLarge RegexEngine.sizeLimit)

variable [RegexEngine]

/-- Are the patterns of both terms small enough? -/
def TermsFit (browser country : String) : Prop :=
  (TextTest.ilike? browser).isSome ∧ (TextTest.ilike? country).isSome

/-- A search for a term is an `ilike` with that term. -/
theorem comparison_contains {name : String} {field : Field}
    (hfield : LogRecord.schema.field? name = some field) (term : String) :
    Compiler.comparison { schema := LogRecord.schema }
        { field := name, operator := "contains", argument := some (.str term) } =
      Operator.ilike field (.value (.str term)) := by
  have hlookup : Registry.builtin.lookup "contains" =
      .ok ⟨"contains", .binary, .binary Operator.ilike⟩ := rfl
  exact Compiler.comparison_value { schema := LogRecord.schema, registry := .builtin } hfield
    hlookup (.str term)

theorem ilike_str_cases (field : Field) (term : String) :
    ((TextTest.ilike? term).isSome ∧
      ∃ condition, Operator.ilike field (.value (.str term)) = .ok condition) ∨
    (¬ (TextTest.ilike? term).isSome ∧
      Operator.ilike field (.value (.str term)) = .error termFault) := by
  simp only [Operator.ilike, Operator.textual, Json.asText, Option.getD_some]
  cases TextTest.ilike? term with
  | none => exact .inr ⟨by simp, rfl⟩
  | some test => exact .inl ⟨rfl, _, rfl⟩

/-- The filter of a simple search is accepted if its terms fit. -/
theorem compile_simpleFilter_cases (browser country : String) :
    (TermsFit browser country ∧ ∃ condition,
      Compiler.compile { schema := LogRecord.schema } (simpleFilter browser country) =
        .ok condition) ∨
    (¬ TermsFit browser country ∧
      Compiler.compile { schema := LogRecord.schema } (simpleFilter browser country) =
        .error termFault) := by
  have hbrowser : LogRecord.schema.field? "browser" = some ⟨"browser", .text⟩ := rfl
  have hcountry : LogRecord.schema.field? "country" = some ⟨"country", .text⟩ := rfl
  simp only [simpleFilter, Filter.compare, Compiler.compile, Compiler.compileAll,
    comparison_contains hbrowser, comparison_contains hcountry]
  rcases ilike_str_cases ⟨"browser", .text⟩ browser with ⟨hfit, test, h⟩ | ⟨hfit, h⟩ <;> rw [h]
  · rcases ilike_str_cases ⟨"country", .text⟩ country with
      ⟨hfit', test', h'⟩ | ⟨hfit', h'⟩ <;> rw [h']
    · exact .inl ⟨⟨hfit, hfit'⟩, _, rfl⟩
    · exact .inr ⟨fun hboth => hfit' hboth.2, rfl⟩
  · exact .inr ⟨fun hboth => hfit hboth.1, rfl⟩

end Search

/-- **Searching a report again changes nothing.** Take the text of a record file and a search whose
filter is accepted. It has a report, and in this report, which is the text of a record file again,
the same search has the same report, character by character. The filter of an advanced search is
accepted if it compiles. That of a simple search is accepted exactly if the patterns of both its
terms are small enough, and is refused otherwise whatever the records are. -/
theorem Search.report_of_own_report [RegexEngine] (text : String) (records : List LogRecord)
    (h : parseRecords text = .ok records) :
    (∀ (limit : Nat) (raw : Json) (condition : Condition),
      Compiler.compileJson { schema := LogRecord.schema, limit } raw = .ok condition →
      ∃ report, reportIn (advanced · LogRecord.schema limit raw) text = some report ∧
        reportIn (advanced · LogRecord.schema limit raw) report = some report) ∧
    (∀ browser country : String,
      (TermsFit browser country →
        ∃ report, reportIn (simple · LogRecord.schema browser country) text = some report ∧
          reportIn (simple · LogRecord.schema browser country) report = some report) ∧
      (¬ TermsFit browser country → ∀ store : Store Id LogRecord,
        Id.run (simple store LogRecord.schema browser country) =
          .error (.badRequest termFault))) := by
  constructor
  · intro limit raw condition hcompile
    exact reportIn_report h hcompile
  · intro browser country
    rcases compile_simpleFilter_cases browser country with ⟨hfit, condition, hcompile⟩ |
      ⟨hfit, hcompile⟩
    · exact ⟨fun _ => reportIn_report h hcompile, fun hnot => absurd hfit hnot⟩
    · refine ⟨fun hyes => absurd hyes hfit, fun _ store => ?_⟩
      rw [simple, filtered, hcompile]
      rfl

/-- The text of a record file: the page is missing, and the time has a fraction. -/
def LogRecord.fileText : String :=
  "[\x7b\"id\": 7, \"browser\": \"Chrome\", \"country\": \"US\", \"message\": \"m\",\n" ++
    " \"created\": \"2018-03-01T10:20:30.5\"\x7d]"

/-- The file is searched for an id and for a browser, and so are the reports. -/
theorem Search.report_of_chrome_report :
    (parseRecords LogRecord.fileText).isOk ∧
      (∃ report,
        reportIn (advanced · LogRecord.schema 1 (.obj [("is", .obj [("id", .int 7)])]))
          LogRecord.fileText = some report ∧
        reportIn (advanced · LogRecord.schema 1 (.obj [("is", .obj [("id", .int 7)])])) report =
          some report) ∧
      ∃ report,
        reportIn (simple · LogRecord.schema "chrome" "de") LogRecord.fileText = some report ∧
        reportIn (simple · LogRecord.schema "chrome" "de") report = some report := by
  have hok : (parseRecords LogRecord.fileText).isOk := by decide +kernel
  refine ⟨hok, ?_⟩
  cases h : parseRecords LogRecord.fileText with
  | error fault =>
    rw [h] at hok
    cases hok
  | ok records =>
    obtain ⟨hadvanced, hsimple⟩ := report_of_own_report LogRecord.fileText records h
    exact ⟨hadvanced 1 _ _ rfl, (hsimple "chrome" "de").1 ⟨by decide +kernel, by decide +kernel⟩⟩

end LogSieve
