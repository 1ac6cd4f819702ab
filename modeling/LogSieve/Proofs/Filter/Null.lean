import LogSieve.Proofs.Filter.Compile
import LogSieve.Proofs.Filter.Like

/-!
# Missing values and `null`

The built-in operators are told apart by their names (`Builtin`), and a comparison compiles if one
of them makes a condition of its operand (`comparison_builtin_eq_ok_iff`).

No operator relates a value that is missing or `null` to anything, so that a comparison with such a
field or other field does not hold, and that of a complement does (`relates_of_absent`). The one
exception is an argument `null` given as a value, which cannot be read from JSON but can stand in a
filter made by hand. Patterns take it for the empty pattern (`TakesNull`), and `contains` finds that
in every text (`null_argument_matches`).
-/

namespace LogSieve

/-- The value is missing or `null`. -/
def Json.Absent (value : Option Json) : Prop := value = none ∨ value = some .null

theorem Json.asText_of_absent {value : Option Json} (h : Absent value) :
    value.bind asText = none := by
  rcases h with rfl | rfl <;> rfl

/-! ### Operators by their families -/

namespace Operator

/-- The names of equality. -/
def equalityNames : List String := ["eq", "is", "equals"]

/-- The names of the pattern whose case does not count. -/
def containmentNames : List String := ["contains", "contain", "ilike"]

/-- The names of the operators that hold where something is found. -/
def positiveNames : List String := equalityNames ++ containmentNames ++ ["like", "in"]

/-- The names of the operators that hold where nothing is found. -/
def complementNames : List String := ["not_like", "not_in"]

theorem mem_positiveNames_of_equality {name : String} (h : name ∈ equalityNames) :
    name ∈ positiveNames :=
  List.mem_append_left _ (List.mem_append_left _ h)

theorem mem_positiveNames_of_containment {name : String} (h : name ∈ containmentNames) :
    name ∈ positiveNames :=
  List.mem_append_left _ (List.mem_append_right _ h)

theorem not_mem_complementNames : ∀ name ∈ positiveNames, name ∉ complementNames := by
  decide

theorem not_mem_containmentNames : ∀ name ∈ equalityNames, name ∉ containmentNames := by
  decide

variable [RegexEngine]

/-- The built-in operators, each with the names that stand for it. -/
inductive Builtin : String → (Field → Operand → Except FilterFault Condition) → Prop where
  /-- Equality. -/
  | equal {name : String} : name ∈ equalityNames → Builtin name Operator.equal
  /-- A pattern whose case does not count. -/
  | ilike {name : String} : name ∈ containmentNames → Builtin name Operator.ilike
  /-- A pattern. -/
  | like : Builtin "like" Operator.like
  /-- The complement of a pattern. -/
  | notLike : Builtin "not_like" Operator.notLike
  /-- Membership. -/
  | member : Builtin "in" Operator.member
  /-- The complement of membership. -/
  | notMember : Builtin "not_in" Operator.notMember

theorem builtin_of_lookup {name : String} {operator : Operator}
    (h : Registry.builtin.lookup name = .ok operator) :
    ∃ build, operator.build = .binary build ∧ Builtin (Text.asciiLower name) build := by
  rw [Registry.lookup_builtin] at h
  generalize Text.asciiLower name = key at h
  split at h <;> cases h <;> refine ⟨_, rfl, ?_⟩
  · exact .equal (by decide)
  · exact .equal (by decide)
  · exact .equal (by decide)
  · exact .ilike (by decide)
  · exact .ilike (by decide)
  · exact .ilike (by decide)
  · exact .like
  · exact .notLike
  · exact .member
  · exact .notMember

theorem Builtin.exists_lookup {name : String}
    {build : Field → Operand → Except FilterFault Condition}
    (h : Builtin (Text.asciiLower name) build) :
    ∃ own, Registry.builtin.lookup name = .ok ⟨own, .binary, .binary build⟩ := by
  rw [Registry.lookup_builtin]
  generalize Text.asciiLower name = key at h
  cases h with
  | equal hkey =>
    simp only [equalityNames, List.mem_cons, List.not_mem_nil, or_false] at hkey
    rcases hkey with rfl | rfl | rfl <;> exact ⟨_, rfl⟩
  | ilike hkey =>
    simp only [containmentNames, List.mem_cons, List.not_mem_nil, or_false] at hkey
    rcases hkey with rfl | rfl | rfl <;> exact ⟨_, rfl⟩
  | like => exact ⟨_, rfl⟩
  | notLike => exact ⟨_, rfl⟩
  | member => exact ⟨_, rfl⟩
  | notMember => exact ⟨_, rfl⟩

theorem Builtin.eq_equal {name : String} {build : Field → Operand → Except FilterFault Condition}
    (h : Builtin name build) (hname : name ∈ equalityNames) : build = Operator.equal := by
  cases h with
  | equal _ => rfl
  | ilike hilike => exact absurd hilike (not_mem_containmentNames _ hname)
  | like => exact absurd hname (by decide)
  | notLike => exact absurd hname (by decide)
  | member => exact absurd hname (by decide)
  | notMember => exact absurd hname (by decide)

theorem Builtin.eq_ilike {name : String} {build : Field → Operand → Except FilterFault Condition}
    (h : Builtin name build) (hname : name ∈ containmentNames) : build = Operator.ilike := by
  cases h with
  | equal hequal => exact absurd hname (not_mem_containmentNames _ hequal)
  | ilike _ => rfl
  | like => exact absurd hname (by decide)
  | notLike => exact absurd hname (by decide)
  | member => exact absurd hname (by decide)
  | notMember => exact absurd hname (by decide)

end Operator

/-- **What it takes that a comparison compiles with the built-in operators**, and what it compiles
to: its fields are declared, it has one operand, and the operator makes the condition of it. -/
theorem Compiler.comparison_builtin_eq_ok_iff [RegexEngine] {compiler : Compiler}
    (hregistry : compiler.registry = .builtin) {c : Comparison} {condition : Condition} :
    compiler.comparison c = .ok condition ↔ ∃ field build operand,
      compiler.schema.field? c.field = some field ∧
      (∀ other, c.other = some other → compiler.schema.hasField other = true) ∧
      Operator.Builtin (Text.asciiLower c.operator) build ∧
      (c.argument = none ∨ c.other = none) ∧
      (c.other.map Operand.field).or (c.argument.map .value) = some operand ∧
      build field operand = .ok condition := by
  rw [comparison_eq_ok_iff, hregistry]
  constructor
  · rintro ⟨field, operator, operand?, hfield, hother, hoperator, hoperand, happly⟩
    obtain ⟨build, hbuild, hbuiltin⟩ := Operator.builtin_of_lookup hoperator
    obtain ⟨hone, rfl⟩ := operand_eq_ok_iff.mp hoperand
    obtain ⟨operand, hoperand, hcondition⟩ := apply_binary_eq_ok hbuild happly
    exact ⟨field, build, operand, hfield, hother, hbuiltin, hone, hoperand, hcondition⟩
  · rintro ⟨field, build, operand, hfield, hother, hbuiltin, hone, hoperand, hcondition⟩
    obtain ⟨own, hoperator⟩ := hbuiltin.exists_lookup
    exact ⟨field, _, some operand, hfield, hother, hoperator,
      operand_eq_ok_iff.mpr ⟨hone, hoperand.symm⟩, hcondition⟩

namespace Operator

/-! ### Absent values -/

variable {value operand : Option Json}

theorem not_sameValue_of_absent (h : Json.Absent value ∨ Json.Absent operand) :
    ¬ SameValue value operand := by
  rintro ⟨a, b, rfl, rfl, heq⟩
  rcases h with (h | h) | (h | h) <;> cases h
  · cases b <;> cases heq
  · rw [Json.valuesEqual_null] at heq
    cases heq

theorem not_memberOf_of_absent (h : Json.Absent value ∨ Json.Absent operand) :
    ¬ MemberOf value operand := by
  rintro ⟨a, members, rfl, rfl, m, -, heq⟩
  rcases h with (h | h) | (h | h) <;> cases h
  cases m <;> cases heq

theorem not_textPasses_of_absent {test? : String → Option TextTest}
    (h : Json.Absent value ∨ Json.Absent operand) : ¬ TextPasses test? value operand := by
  rintro ⟨text, pattern, test, hvalue, hoperand, -⟩
  rcases h with h | h
  · rw [Json.asText_of_absent h] at hvalue
    cases hvalue
  · rw [Json.asText_of_absent h] at hoperand
    cases hoperand

/-- The relation of equality, by any of its names. -/
theorem relates_equality [RegexEngine] {name : String} (h : name ∈ equalityNames) :
    Relates name value operand ↔ SameValue value operand := by
  simp only [equalityNames, List.mem_cons, List.not_mem_nil, or_false] at h
  rcases h with rfl | rfl | rfl <;> rfl

/-- The relation of a pattern whose case does not count, by any of its names. -/
theorem relates_containment [RegexEngine] {name : String} (h : name ∈ containmentNames) :
    Relates name value operand ↔ TextPasses TextTest.ilike? value operand := by
  simp only [containmentNames, List.mem_cons, List.not_mem_nil, or_false] at h
  rcases h with rfl | rfl | rfl <;> rfl

/-- **Nothing is found in an absent value, nor with one.** -/
theorem relates_of_absent [RegexEngine] (h : Json.Absent value ∨ Json.Absent operand)
    (name : String) :
    (name ∈ positiveNames → ¬ Relates name value operand) ∧
      (name ∈ complementNames → Relates name value operand) := by
  constructor
  · intro hname
    simp only [positiveNames, List.append_assoc, List.mem_append, List.mem_cons, List.not_mem_nil,
      or_false] at hname
    rcases hname with hname | hname | rfl | rfl
    · rw [relates_equality hname]
      exact not_sameValue_of_absent h
    · rw [relates_containment hname]
      exact not_textPasses_of_absent h
    · exact not_textPasses_of_absent h
    · exact not_memberOf_of_absent h
  · intro hname
    simp only [complementNames, List.mem_cons, List.not_mem_nil, or_false] at hname
    rcases hname with rfl | rfl
    · exact not_textPasses_of_absent h
    · exact not_memberOf_of_absent h

/-! ### `null` given as a value -/

/-- What an operator makes of `null` as its operand: equality holds of nothing, patterns are empty
ones, and membership is asked of lists only. -/
inductive TakesNull : String → Option String → Bool → Prop where
  /-- Nothing is equal to `null`. -/
  | equality {name : String} {text : Option String} :
      name ∈ equalityNames → TakesNull name text false
  /-- The empty text is found in every text. -/
  | containment {name : String} {text : Option String} :
      name ∈ containmentNames → TakesNull name text text.isSome
  /-- The empty pattern fits the empty text. -/
  | like {text : Option String} : TakesNull "like" text (text == some "")
  /-- The empty pattern fits no other text. -/
  | notLike {text : Option String} : TakesNull "not_like" text (text != some "")

/-- Without a text the answer to `null` is that to an absent value. -/
theorem TakesNull.of_none {name : String} {answer : Bool} (h : TakesNull name none answer) :
    (name ∈ positiveNames → answer = false) ∧ (name ∈ complementNames → answer = true) := by
  cases h with
  | equality hname =>
    have hnot := not_mem_complementNames name (mem_positiveNames_of_equality hname)
    exact ⟨fun _ => rfl, fun hcomplement => absurd hcomplement hnot⟩
  | containment hname =>
    have hnot := not_mem_complementNames name (mem_positiveNames_of_containment hname)
    exact ⟨fun _ => rfl, fun hcomplement => absurd hcomplement hnot⟩
  | like => exact ⟨fun _ => rfl, fun hcomplement => absurd hcomplement (by decide)⟩
  | notLike => exact ⟨fun hpositive => absurd hpositive (by decide), fun _ => rfl⟩

theorem textual_null {name : String} {test? : String → Option TextTest} {test : TextTest}
    (htest : test? "" = some test) (field : Field) :
    textual name test? field (.value .null) =
      .ok fun fields => (fieldText fields field.name).any test.accepts := by
  simp only [textual, Json.asText, Option.getD_none, htest]

theorem accepts_contains_nil (text : String) : (TextTest.contains []).accepts text = true := by
  rw [TextTest.accepts]
  cases Text.toLower text.toList <;> rfl

theorem accepts_fits_nil (text : String) :
    (TextTest.fits false []).accepts text = (text == "") := by
  rw [TextTest.accepts, LikeToken.fits_nil, Bool.eq_iff_iff, List.isEmpty_iff, beq_iff_eq,
    String.toList_eq_nil_iff]

variable [RegexEngine]

theorem ilike_null (field : Field) :
    ilike field (.value .null) = .ok fun fields => (fieldText fields field.name).isSome := by
  have hempty : TextTest.ilike? "" = some (.contains []) := rfl
  rw [ilike, textual_null hempty, Except.ok.injEq]
  funext fields
  cases fieldText fields field.name with
  | none => rfl
  | some text => exact accepts_contains_nil text

/-- The empty pattern has a test unless the engine refuses it. -/
theorem like_null {field : Field} {condition : Condition}
    (h : like field (.value .null) = .ok condition) :
    condition = fun fields => fieldText fields field.name == some "" := by
  cases htest : TextTest.like? "" with
  | none =>
    simp only [like, textual, Json.asText, Option.getD_none, htest, reduceCtorEq] at h
  | some test =>
    obtain rfl : test = .fits false [] := TextTest.ofTokens?_eq_some htest
    rw [like, textual_null htest, Except.ok.injEq] at h
    rw [← h]
    funext fields
    cases fieldText fields field.name with
    | none => rfl
    | some text => exact accepts_fits_nil text

/-- A built-in operator that can be built with `null` takes it as said. -/
theorem Builtin.takesNull {name : String} {build : Field → Operand → Except FilterFault Condition}
    (hbuiltin : Builtin name build) {field : Field} {condition : Condition}
    (h : build field (.value .null) = .ok condition) (fields : Fields) :
    TakesNull name (fieldText fields field.name) (condition fields) := by
  cases hbuiltin with
  | equal hname =>
    have hfalse : condition fields = false := by
      rw [Bool.eq_false_iff, ne_eq, equal_iff h]
      exact not_sameValue_of_absent (.inr (.inr rfl))
    rw [hfalse]
    exact .equality hname
  | ilike hname =>
    rw [ilike_null, Except.ok.injEq] at h
    exact h ▸ .containment hname
  | like =>
    rw [like_null h]
    exact .like
  | notLike =>
    obtain ⟨positive, hpositive, rfl⟩ := complement_eq_ok_iff.mp h
    rw [like_null hpositive]
    exact .notLike
  | member => cases h
  | notMember => cases h

theorem Builtin.name_mem {name : String} {build : Field → Operand → Except FilterFault Condition}
    (h : Builtin name build) : name ∈ positiveNames ∨ name ∈ complementNames := by
  cases h with
  | equal hname => exact .inl (mem_positiveNames_of_equality hname)
  | ilike hname => exact .inl (mem_positiveNames_of_containment hname)
  | like => exact .inl (by decide)
  | notLike => exact .inr (by decide)
  | member => exact .inl (by decide)
  | notMember => exact .inr (by decide)

end Operator

namespace Compiler

open Operator

section

variable [RegexEngine] {schema : Schema} {c : Comparison} {condition : Condition}

/-- A comparison that compiles is one with a built-in operator. -/
theorem name_mem_of_comparison (h : comparison { schema } c = .ok condition) :
    Text.asciiLower c.operator ∈ positiveNames ∨ Text.asciiLower c.operator ∈ complementNames := by
  obtain ⟨field, build, operand, -, -, hbuiltin, -⟩ := (comparison_builtin_eq_ok_iff rfl).mp h
  exact hbuiltin.name_mem

/-- An argument and another field exclude each other. -/
theorem argument_or_other_eq_none (h : comparison { schema } c = .ok condition) :
    c.argument = none ∨ c.other = none := by
  obtain ⟨field, build, operand, -, -, -, hone, -⟩ := (comparison_builtin_eq_ok_iff rfl).mp h
  exact hone

/-- A comparison with `null` as its argument takes it as its operator does. -/
theorem comparison_takesNull (h : comparison { schema } c = .ok condition)
    (hnull : c.argument = some .null) (fields : Fields) :
    TakesNull (Text.asciiLower c.operator) (fieldText fields c.field) (condition fields) := by
  obtain ⟨field, build, operand, hfield, -, hbuiltin, hone, hoperand, hcondition⟩ :=
    (comparison_builtin_eq_ok_iff rfl).mp h
  have hother : c.other = none := by simpa [hnull] using hone
  obtain rfl : Operand.value .null = operand := by simpa [hother, hnull] using hoperand
  rw [← Schema.name_of_field? hfield]
  exact hbuiltin.takesNull hcondition fields

/-- A comparison of absent values is decided by its operator alone. -/
theorem comparison_of_absent (h : comparison { schema } c = .ok condition) {fields : Fields}
    (habsent : Json.Absent (fields c.field) ∨
      ∃ other, c.other = some other ∧ Json.Absent (fields other)) :
    (Text.asciiLower c.operator ∈ positiveNames → condition fields = false) ∧
      (Text.asciiLower c.operator ∈ complementNames → condition fields = true) := by
  by_cases hnull : c.argument = some .null
  · have hother : c.other = none := by simpa [hnull] using argument_or_other_eq_none h
    have hfield : Json.Absent (fields c.field) := by simpa [hother] using habsent
    have htakes := comparison_takesNull h hnull fields
    rw [fieldText, Json.asText_of_absent hfield] at htakes
    exact htakes.of_none
  · have hholds : condition fields = true ↔ c.Holds fields := comparison_iff_holds rfl hnull h
    have hoperands : Json.Absent (fields c.field) ∨ Json.Absent (c.operandFor fields) := by
      refine habsent.imp_right ?_
      rintro ⟨other, hother, hvalue⟩
      rw [Comparison.operandFor, hother]
      exact hvalue
    obtain ⟨hpositive, hcomplement⟩ :=
      relates_of_absent hoperands (Text.asciiLower c.operator)
    refine ⟨fun hname => ?_, fun hname => hholds.mpr (hcomplement hname)⟩
    rw [Bool.eq_false_iff, ne_eq, hholds]
    exact hpositive hname

omit [RegexEngine] in
/-- No argument that is read from JSON is `null`. -/
theorem argument_ne_null_of_read {limit : Nat} {raw : Json} {filters : List Filter}
    (h : Filter.read limit raw = .ok filters) (hc : c ∈ Filter.comparisonsAll filters) :
    c.argument ≠ some .null := by
  obtain ⟨filter, hfilter, hc⟩ := Filter.mem_comparisonsAll.mp hc
  exact ((Filter.read_eq_ok_iff.mp h).1.isCanonical filter hfilter c hc).argument

/-- **Missing values and `null` satisfy no operator but the empty pattern.** A comparison that
compiles has a built-in operator, a positive one or a complement. Where its field is missing or
`null`, or the other field that it names, it is false for the one and true for the other. An
argument `null` is equal to nothing and is no list of members, but for patterns it is the empty
pattern, which fits the empty text and is found in every text (`TakesNull`). Only a filter that is
made by hand can have such an argument: none is read from JSON. -/
theorem null_satisfies_only_empty_patterns (schema : Schema) (c : Comparison)
    (condition : Condition) (h : compile { schema } (.leaf c) = .ok condition) (fields : Fields) :
    (Text.asciiLower c.operator ∈ positiveNames ∨ Text.asciiLower c.operator ∈ complementNames) ∧
    (Json.Absent (fields c.field) ∨ (∃ other, c.other = some other ∧ Json.Absent (fields other)) →
      (Text.asciiLower c.operator ∈ positiveNames → condition fields = false) ∧
      (Text.asciiLower c.operator ∈ complementNames → condition fields = true)) ∧
    (c.argument = some .null →
      TakesNull (Text.asciiLower c.operator) (fieldText fields c.field) (condition fields)) ∧
    ∀ (limit : Nat) (raw : Json) (filters : List Filter), Filter.read limit raw = .ok filters →
      c ∈ Filter.comparisonsAll filters → c.argument ≠ some .null := by
  rw [compile] at h
  exact ⟨name_mem_of_comparison h, comparison_of_absent h,
    fun hnull => comparison_takesNull h hnull fields,
    fun _ _ _ hread hc => argument_ne_null_of_read hread hc⟩

end

/-- Nothing is unlike a field that is `null`: the complement holds of every text. -/
theorem null_field_is_unlike :
    ∃ condition, compile { schema := pairSchema }
        (.leaf { field := "a", operator := "Not_Like", other := some "b" }) = .ok condition ∧
      condition (fun name => if name = "a" then some (.str "x") else some .null) = true := by
  refine ⟨_, rfl, ?_⟩
  obtain ⟨-, habsent, -⟩ := null_satisfies_only_empty_patterns pairSchema
    { field := "a", operator := "Not_Like", other := some "b" } _ rfl
    (fun name => if name = "a" then some (.str "x") else some .null)
  exact (habsent (.inr ⟨"b", rfl, .inr rfl⟩)).2 (by decide)

/-- `null` as an argument of `contains` is found in every text. -/
theorem null_argument_matches :
    ∃ condition, compile { schema := pairSchema } (.leaf
        { field := "a", operator := "contains", argument := some .null }) = .ok condition ∧
      condition (fun _ => some (.str "x")) = true :=
  ⟨_, rfl, by decide⟩

end Compiler

end LogSieve
