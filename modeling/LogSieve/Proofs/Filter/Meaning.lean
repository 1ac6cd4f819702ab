import LogSieve.Filter.Operator
import LogSieve.Proofs.Entries
import LogSieve.Proofs.Filter.Canonical

/-!
# What filters mean

The truth of a filter for a record, twice: by recursion on the filter (`Filter.Holds`), and by
recursion on the JSON in which it is written (`Filter.Means`). Both rest on the relations that the
operators stand for between the value of a field and an operand, either of which may be missing. A
text means what the filters mean that derive from it (`DerivesList.means_iff`).
-/

namespace LogSieve

variable [RegexEngine]

/-! ### The relations of operators -/

namespace Operator

/-- Both are present and have the same value. -/
def SameValue (value operand : Option Json) : Prop :=
  ∃ a b, value = some a ∧ operand = some b ∧ Json.valuesEqual a b = true

/-- The operand is a list, and the value is present and equal to a member of it. -/
def MemberOf (value operand : Option Json) : Prop :=
  ∃ a members, value = some a ∧ operand = some (.arr members) ∧
    ∃ m ∈ members, Json.valuesEqual a m = true

/-- Both have text, and the text of the value passes the test that `test?` makes of the text of the
operand. -/
def TextPasses (test? : String → Option TextTest) (value operand : Option Json) : Prop :=
  ∃ text pattern test, value.bind Json.asText = some text ∧
    operand.bind Json.asText = some pattern ∧ test? pattern = some test ∧ test.accepts text = true

/-- The relation that a built-in operator stands for, by its name in lower case. -/
def Relates (name : String) (value operand : Option Json) : Prop :=
  match name with
  | "eq" | "is" | "equals" => SameValue value operand
  | "contains" | "contain" | "ilike" => TextPasses TextTest.ilike? value operand
  | "like" => TextPasses TextTest.like? value operand
  | "not_like" => ¬ TextPasses TextTest.like? value operand
  | "in" => MemberOf value operand
  | "not_in" => ¬ MemberOf value operand
  | _ => False

end Operator

/-! ### The truth of a filter -/

/-- The operand of a comparison for a record: the value of the other field if one is named, and the
argument otherwise. -/
def Comparison.operandFor (fields : Fields) (c : Comparison) : Option Json :=
  match c.other with
  | some other => fields other
  | none => c.argument

/-- The comparison is true of a record with these fields. -/
def Comparison.Holds (fields : Fields) (c : Comparison) : Prop :=
  Operator.Relates (Text.asciiLower c.operator) (fields c.field) (c.operandFor fields)

namespace Filter

/-- The filter is true of a record with these fields. -/
def Holds (fields : Fields) : Filter → Prop
  | leaf c => c.Holds fields
  | group .and members => ∀ member ∈ members, Holds fields member
  | group .or members => ∃ (member : Filter) (_ : member ∈ members), Holds fields member
  | group .not members => ¬ ∀ member ∈ members, Holds fields member

/-- The filter written by `raw` is true of a record with these fields. A comparison in its canonical
form has texts for `name` and `op`, and its operand is the field named by `field` or else `val`; any
other object has one entry, whose key counts in lower case. -/
def Means (fields : Fields) : Json → Prop
  | .obj entries =>
    match Entries.lookup "name" entries, Entries.lookup "op" entries with
    | some (.str name), some (.str op) =>
      Operator.Relates (Text.asciiLower op) (fields name)
        (match Entries.lookup "field" entries with
        | some (.str other) => fields other
        | _ => Entries.lookup "val" entries)
    | _, _ =>
      match entries with
      | [(key, v)] =>
        match Text.asciiLower key, v with
        | "and", .arr items => ∀ item ∈ items, Means fields item
        | "or", .arr items => ∃ (item : Json) (_ : item ∈ items), Means fields item
        | "not", .arr items => ¬ ∀ item ∈ items, Means fields item
        | "not", v => ¬ Means fields v
        | op, .obj [(name, w)] => Operator.Relates op (fields name) (some w)
        | _, _ => False
      | _ => False
  | _ => False

/-- The filters written by `raw`, a single one or a list, are all true of a record with these
fields. -/
def MeansList (fields : Fields) : Json → Prop
  | .arr items => ∀ item ∈ items, Means fields item
  | raw => Means fields raw

/-! ### `null` as an operand

`null` stands in no relation that a missing operand does not stand in. -/

end Filter

omit [RegexEngine] in
theorem Json.valuesEqual_null (a : Json) : a.valuesEqual null = false := by
  cases a <;> rfl

theorem Operator.relates_null {name : String} {value : Option Json} :
    Relates name value (some .null) ↔ Relates name value none := by
  have hsame : SameValue value (some .null) ↔ SameValue value none := by
    simp [SameValue, Json.valuesEqual_null]
  have hmember : MemberOf value (some .null) ↔ MemberOf value none := by simp [MemberOf]
  have htext (test? : String → Option TextTest) :
      TextPasses test? value (some .null) ↔ TextPasses test? value none := by
    simp [TextPasses, Json.asText]
  unfold Relates
  split <;> simp only [hsame, hmember, htext]

namespace Filter

theorem Argument.relates_iff {name : String} {value entry argument : Option Json}
    (h : Argument entry argument) :
    Operator.Relates name value entry ↔ Operator.Relates name value argument := by
  cases h with
  | missing => rfl
  | null => exact Operator.relates_null
  | value _ => rfl

/-! ### What is written means what is derived -/

theorem IsComparisonOf.means_iff {fields : Fields} {entries : List (String × Json)}
    {c : Comparison} (h : IsComparisonOf entries c) :
    Means fields (.obj entries) ↔ c.Holds fields := by
  obtain ⟨field, operator, argument, other⟩ := c
  obtain ⟨-, hname, ⟨op, hop, hoperator⟩, hval, hfield⟩ := h
  simp only at hname hoperator hval hfield
  rw [Means.eq_def]
  simp only [hname, hop, Comparison.Holds, hoperator, Text.asciiLower_asciiLower]
  generalize Entries.lookup "field" entries = entry at hfield
  cases hfield with
  | missing => exact hval.relates_iff
  | null => exact hval.relates_iff
  | name s => rfl

mutual

/-- **A text means what the filter means that derives from it.** -/
theorem Derives.means_iff {fields : Fields} {raw : Json} {filter : Filter} :
    Derives raw filter → (Means fields raw ↔ filter.Holds fields)
  | .comparison hc => by
    rw [Holds]
    exact hc.means_iff
  | @Derives.operator key field v argument hkey hv => by
    have hnot : Text.asciiLower key ≠ "not" := by
      intro h
      rw [h] at hkey
      exact absurd hkey (by decide)
    rw [Means.eq_def, Holds, Comparison.Holds, Text.asciiLower_asciiLower]
    simp only [Entries.lookup_singleton_of_ne (ne_comparisonKey (.inl hkey)).1]
    exact hv.relates_iff
  | @Derives.group key items kind members hkey hm => by
    have hne := (ne_comparisonKey (.inr ⟨kind, hkey⟩)).1
    rw [Means.eq_def]
    cases kind with
    | and =>
      simp only [Entries.lookup_singleton_of_ne hne, hkey, Connective.key, Holds]
      exact hm.forall_means_iff
    | or =>
      simp only [Entries.lookup_singleton_of_ne hne, hkey, Connective.key, Holds]
      exact hm.exists_means_iff
    | not =>
      simp only [Entries.lookup_singleton_of_ne hne, hkey, Connective.key, Holds]
      exact not_congr hm.forall_means_iff
  | @Derives.negation key v member hkey hm => by
    have hne := (ne_comparisonKey (.inr ⟨.not, hkey⟩)).1
    have hv : ∀ items, v ≠ .arr items := by
      rintro items rfl
      exact not_derives_arr hm
    rw [Means.eq_def]
    simp only [Entries.lookup_singleton_of_ne hne, hkey, Connective.key, Holds, List.mem_singleton,
      forall_eq]
    exact not_congr hm.means_iff

/-- All items are true when all filters are that derive from them. -/
theorem DerivesAll.forall_means_iff {fields : Fields} {items : List Json}
    {filters : List Filter} :
    DerivesAll items filters →
      ((∀ item ∈ items, Means fields item) ↔ ∀ filter ∈ filters, filter.Holds fields)
  | .nil => by simp
  | .cons hf hr => by
    rw [List.forall_mem_cons, List.forall_mem_cons]
    exact and_congr hf.means_iff hr.forall_means_iff

/-- Some item is true when some filter is that derives from one. -/
theorem DerivesAll.exists_means_iff {fields : Fields} {items : List Json}
    {filters : List Filter} :
    DerivesAll items filters →
      ((∃ (item : Json) (_ : item ∈ items), Means fields item) ↔
        ∃ (filter : Filter) (_ : filter ∈ filters), filter.Holds fields)
  | .nil => by simp
  | .cons hf hr => by
    simp only [List.mem_cons, exists_prop, exists_eq_or_imp]
    refine or_congr hf.means_iff ?_
    simpa only [exists_prop] using hr.exists_means_iff

end

theorem DerivesList.means_iff {fields : Fields} {raw : Json} {filters : List Filter}
    (h : DerivesList raw filters) :
    MeansList fields raw ↔ ∀ filter ∈ filters, filter.Holds fields := by
  cases h with
  | list h => exact h.forall_means_iff
  | single h =>
    obtain ⟨entries, rfl⟩ := h.exists_obj
    simp only [MeansList, List.mem_singleton, forall_eq]
    exact h.means_iff

end Filter

end LogSieve
