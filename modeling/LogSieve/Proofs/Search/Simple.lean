import LogSieve.Proofs.Filter.Anywhere
import LogSieve.Proofs.Search.IdOrder
import LogSieve.Proofs.Search.OwnReport

/-!
# What a simple search finds

A simple search looks for one term in the browser and for another in the country. Both are terms of
`contains`: those without special characters are found where they are parts of the text in lower
case, and a search for two such terms always has a result (`simple_search_finds`). Other terms are
not taken as they stand, since special characters in them are those of a pattern. So a term may be
missed in a text that contains it (`term_with_percent_missed`).
-/

namespace LogSieve

/-- Where no record meets the condition, none is found. -/
theorem execute_eq_nil {R : Type} [HasFields R] {schema : Schema} {condition : Condition}
    {records : List R} (h : ∀ record ∈ records, ¬ condition (HasFields.field record)) :
    execute schema condition records = [] := by
  rw [execute, List.filter_eq_nil_iff.mpr h]
  exact sortRecords_of_pairwise .nil

/-- A single record that meets the condition is found. -/
theorem execute_singleton {R : Type} [HasFields R] {schema : Schema} {condition : Condition}
    {record : R} (h : condition (HasFields.field record) = true) :
    execute schema condition [record] = [record] := by
  have hall : ∀ r ∈ [record], condition (HasFields.field r) = true :=
    List.forall_mem_singleton.mpr h
  rw [execute, List.filter_eq_self.mpr hall]
  exact sortRecords_of_pairwise (List.pairwise_singleton _ _)

namespace Search

open TextTest

/-- The condition of a simple search: the browser passes the one test, or the country the other. -/
def termCondition (browserTest countryTest : TextTest) : Condition :=
  .any [fun fields => (Operator.fieldText fields "browser").any browserTest.accepts,
    fun fields => (Operator.fieldText fields "country").any countryTest.accepts]

section

variable [RegexEngine]

theorem compile_simpleFilter {browser country : String} {browserTest countryTest : TextTest}
    (hbrowser : ilike? browser = some browserTest) (hcountry : ilike? country = some countryTest) :
    Compiler.compile { schema := LogRecord.schema } (simpleFilter browser country) =
      .ok (termCondition browserTest countryTest) := by
  have hfields : LogRecord.schema.field? "browser" = some ⟨"browser", .text⟩ ∧
      LogRecord.schema.field? "country" = some ⟨"country", .text⟩ := ⟨rfl, rfl⟩
  simp only [simpleFilter, Filter.compare, Compiler.compile, Compiler.compileAll,
    comparison_contains hfields.1, comparison_contains hfields.2, Operator.ilike, Operator.textual,
    Json.asText, Option.getD_some, hbrowser, hcountry]
  rfl

omit [RegexEngine] in
theorem termCondition_iff {browserTest countryTest : TextTest} (record : LogRecord) :
    termCondition browserTest countryTest (HasFields.field record) = true ↔
      browserTest.accepts record.browser = true ∨ countryTest.accepts record.country = true := by
  have hbrowser : Operator.fieldText (HasFields.field record) "browser" = some record.browser := rfl
  have hcountry : Operator.fieldText (HasFields.field record) "country" = some record.country := rfl
  simp [termCondition, Condition.any, hbrowser, hcountry]

/-- The simple search has a result: the records for which `found` holds, in the order of
`execute`. -/
def Yields (records : List LogRecord) (browser country : String) (found : LogRecord → Prop) :
    Prop :=
  ∃ condition : Condition,
    Id.run (simple (Store.ofList records) LogRecord.schema browser country) =
      .ok (execute LogRecord.schema condition records) ∧
    ∀ record : LogRecord, condition (HasFields.field record) = true ↔ found record

/-- A single record that is to be found is the result. -/
theorem Yields.singleton {record : LogRecord} {browser country : String}
    {found : LogRecord → Prop} (h : Yields [record] browser country found) (hfound : found record) :
    Id.run (simple (Store.ofList [record]) LogRecord.schema browser country) = .ok [record] := by
  obtain ⟨condition, hrun, hiff⟩ := h
  rw [hrun, execute_singleton ((hiff record).mpr hfound)]

/-- A search for terms that fit yields the records in which one of them is found. -/
theorem yields_of_termsFit {browser country : String} (h : TermsFit browser country)
    (records : List LogRecord) :
    Yields records browser country fun record =>
      Finds browser record.browser ∨ Finds country record.country := by
  obtain ⟨browserTest, hbrowser⟩ := Option.isSome_iff_exists.mp h.1
  obtain ⟨countryTest, hcountry⟩ := Option.isSome_iff_exists.mp h.2
  refine ⟨termCondition browserTest countryTest, ?_, fun record => ?_⟩
  · rw [simple, filtered, compile_simpleFilter hbrowser hcountry]
    rfl
  · rw [termCondition_iff, accepts_iff_finds hbrowser, accepts_iff_finds hcountry]

theorem termsFit_of_plain {browser country : String}
    (hbrowser : browser.toList.any isSpecial = false)
    (hcountry : country.toList.any isSpecial = false) : TermsFit browser country := by
  rw [TermsFit, ilike?_of_plain hbrowser, ilike?_of_plain hcountry]
  exact ⟨rfl, rfl⟩

/-- **What a simple search finds.** For two terms without special characters it always has a result:
the records whose browser contains the one or whose country contains the other, all in lower case,
in the order of `execute`. Special characters in a term are those of a pattern: in general the
search yields the records in which one of the terms is found so (`Finds`), if the patterns of both
are small enough, and otherwise it is refused, whatever the store is. -/
theorem simple_search_finds (records : List LogRecord) (browser country : String) :
    (browser.toList.any isSpecial = false → country.toList.any isSpecial = false →
      Yields records browser country fun record =>
        Text.toLower browser.toList <:+: Text.toLower record.browser.toList ∨
          Text.toLower country.toList <:+: Text.toLower record.country.toList) ∧
    (TermsFit browser country →
      Yields records browser country fun record =>
        Finds browser record.browser ∨ Finds country record.country) ∧
    (¬ TermsFit browser country → ∀ store : Store Id LogRecord,
      Id.run (simple store LogRecord.schema browser country) = .error (.badRequest termFault)) := by
  refine ⟨fun hbrowser hcountry => ?_, fun hfit => yields_of_termsFit hfit records,
    fun hfit store => ?_⟩
  · have hyields := yields_of_termsFit (termsFit_of_plain hbrowser hcountry) records
    simpa only [finds_of_plain hbrowser, finds_of_plain hcountry] using hyields
  · rcases compile_simpleFilter_cases browser country with ⟨hyes, -⟩ | ⟨-, hcompile⟩
    · exact absurd hyes hfit
    · rw [simple, filtered, hcompile]
      rfl

end

/-- A record of the given browser. -/
def browsedBy (browser : String) : LogRecord := { LogRecord.numbered 1 with browser }

/-- A plain term is found in the middle of the browser, and a term with a `%` as a pattern is; an
engine that takes no expression at all refuses the latter. -/
theorem simple_search_finds_browser :
    Id.run (simple (Store.ofList [browsedBy "Google CHROME 64"]) LogRecord.schema "Chrome" "x") =
        .ok [browsedBy "Google CHROME 64"] ∧
      Id.run (simple (Store.ofList [browsedBy "50 per cent"]) LogRecord.schema "50%" "x") =
        .ok [browsedBy "50 per cent"] ∧
      ∃ _ : RegexEngine, Id.run
          (simple (Store.ofList [browsedBy "50 per cent"]) LogRecord.schema "50%" "x") =
        .error (.badRequest termFault) := by
  have hbrowser : ilike? "50%" = some (.fits true [.literal '5', .literal '0', .anyRun]) := by
    decide +kernel
  have hcountry : ilike? "x" = some (.contains ['x']) := by decide +kernel
  refine ⟨?_, ?_, ⟨fun _ => true⟩, ?_⟩
  · have hyields := (simple_search_finds [browsedBy "Google CHROME 64"] "Chrome" "x").1
      (by decide +kernel) (by decide +kernel)
    exact hyields.singleton (.inl (by decide +kernel))
  · have hfit : TermsFit "50%" "x" := by
      rw [TermsFit, hbrowser, hcountry]
      exact ⟨rfl, rfl⟩
    have hyields := (simple_search_finds [browsedBy "50 per cent"] "50%" "x").2.1 hfit
    exact hyields.singleton (.inl ((accepts_iff_finds hbrowser _).mp (by decide +kernel)))
  · let _ : RegexEngine := ⟨fun _ => true⟩
    refine (simple_search_finds [] "50%" "x").2.2 (fun hfit => ?_) _
    have hrefused : ilike? "50%" = none := by decide +kernel
    rw [TermsFit, hrefused] at hfit
    cases hfit.1

/-- **A term with a `%` is missed in a text that contains it**, unless the text starts with what
stands before the `%`. -/
theorem term_with_percent_missed :
    "50%".toList <:+: (browsedBy "at 50% load").browser.toList ∧
      Text.toLower "50%".toList <:+: Text.toLower (browsedBy "at 50% load").browser.toList ∧
      Id.run (simple (Store.ofList [browsedBy "at 50% load"]) LogRecord.schema "50%" "x") =
        .ok [] := by
  refine ⟨by decide +kernel, by decide +kernel, ?_⟩
  have hbrowser : ilike? "50%" = some (.fits true [.literal '5', .literal '0', .anyRun]) := by
    decide +kernel
  have hcountry : ilike? "x" = some (.contains ['x']) := by decide +kernel
  rw [simple, filtered, compile_simpleFilter hbrowser hcountry]
  refine congrArg Except.ok (execute_eq_nil (List.forall_mem_singleton.mpr ?_))
  decide +kernel

end Search

end LogSieve
