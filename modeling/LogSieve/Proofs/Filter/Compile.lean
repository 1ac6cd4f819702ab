import LogSieve.Filter.Compile
import LogSieve.Proofs.Filter.Meaning
import Mathlib.Data.List.Forall2

/-!
# Compiled filters mean what filters mean

What each built-in operator makes of a field and an operand, what the compiler makes of a
comparison and of a group, and from these by recursion on the filter that a compiled filter tests
its truth (`compile_iff_holds`).
-/

namespace LogSieve

theorem Schema.name_of_field? {schema : Schema} {name : String} {field : Field}
    (h : schema.field? name = some field) : field.name = name := by
  have := List.find?_some h
  exact eq_of_beq this

theorem Schema.hasField_of_field? {schema : Schema} {name : String} {field : Field}
    (h : schema.field? name = some field) : schema.hasField name = true := by
  have hmem := List.mem_of_find?_eq_some h
  exact List.any_eq_true.mpr
    ⟨field, List.mem_reverse.mp hmem, beq_iff_eq.mpr (name_of_field? h)⟩

/-! ### Operators -/

namespace Operator

theorem equal_iff {field : Field} {operand : Operand} {condition : Condition} {fields : Fields}
    (h : equal field operand = .ok condition) :
    condition fields = true ↔ SameValue (fields field.name) (operand.resolve fields) := by
  rw [equal, Except.ok.injEq] at h
  subst h
  cases hv : fields field.name with
  | none => simp [SameValue, hv]
  | some a =>
    cases ho : operand.resolve fields with
    | none => simp [SameValue, hv, ho]
    | some b => simp [SameValue, hv, ho]

theorem member_iff {field : Field} {operand : Operand} {condition : Condition} {fields : Fields}
    (h : member field operand = .ok condition) :
    condition fields = true ↔ MemberOf (fields field.name) (operand.resolve fields) := by
  unfold member at h
  split at h
  · next members =>
    rw [Except.ok.injEq] at h
    subst h
    cases hv : fields field.name with
    | none => simp [MemberOf, hv]
    | some a => simp [MemberOf, hv, Operand.resolve]
  · cases h
  · cases h

/-- A complement compiles where its operator does, to the opposite. -/
theorem complement_eq_ok_iff {build : Field → Operand → Except FilterFault Condition}
    {field : Field} {operand : Operand} {condition : Condition} :
    complement build field operand = .ok condition ↔
      ∃ positive, build field operand = .ok positive ∧ condition = positive.negate := by
  unfold complement
  cases build field operand with
  | error fault => simp [Except.map]
  | ok positive => simp [Except.map, eq_comm]

theorem complement_iff {build : Field → Operand → Except FilterFault Condition} {field : Field}
    {operand : Operand} {condition : Condition} {fields : Fields} {P : Prop}
    (h : complement build field operand = .ok condition)
    (hbuild : ∀ positive, build field operand = .ok positive → (positive fields = true ↔ P)) :
    condition fields = true ↔ ¬ P := by
  obtain ⟨positive, hpositive, rfl⟩ := complement_eq_ok_iff.mp h
  rw [← hbuild positive hpositive, Condition.negate, Bool.not_eq_true', Bool.not_eq_true]

theorem asText_eq_none_iff {v : Json} : v.asText = none ↔ v = .null := by
  cases v <;> simp [Json.asText]

/-- Patterns see any operand but a literal `null`, which counts as the empty pattern. -/
theorem textual_iff {name : String} {test? : String → Option TextTest} {field : Field}
    {operand : Operand} {condition : Condition} {fields : Fields}
    (h : textual name test? field operand = .ok condition) (hnull : operand ≠ .value .null) :
    condition fields = true ↔
      TextPasses test? (fields field.name) (operand.resolve fields) := by
  unfold textual at h
  split at h
  · cases h
  · cases h
  · next v _ _ =>
    obtain ⟨pattern, hp⟩ : ∃ pattern, v.asText = some pattern := by
      refine Option.ne_none_iff_exists'.mp fun hn => hnull ?_
      rw [asText_eq_none_iff.mp hn]
    rw [hp, Option.getD_some] at h
    split at h
    · cases h
    · next test htest =>
      rw [Except.ok.injEq] at h
      subst h
      simp only [TextPasses, Operand.resolve, fieldText, Option.bind_some, hp, Option.any_eq_true]
      constructor
      · rintro ⟨text, ht, haccepts⟩
        exact ⟨text, pattern, test, ht, rfl, htest, haccepts⟩
      · rintro ⟨text, pattern', test', ht, hp', htest', haccepts⟩
        rw [Option.some.injEq] at hp'
        subst hp'
        rw [htest, Option.some.injEq] at htest'
        subst htest'
        exact ⟨text, ht, haccepts⟩
  · next other =>
    rw [Except.ok.injEq] at h
    subst h
    simp only [TextPasses, Operand.resolve, fieldText]
    cases ht : (fields field.name).bind Json.asText with
    | none => simp
    | some text =>
      cases hp : (fields other).bind Json.asText with
      | none => simp
      | some pattern => simp [Option.any_eq_true]

end Operator

/-! ### Registry -/

/-- The operators that the names of the built-in registry stand for. -/
theorem Registry.lookup_builtin [RegexEngine] (name : String) :
    builtin.lookup name =
      match Text.asciiLower name with
      | "eq" | "is" | "equals" => .ok ⟨"eq", .binary, .binary Operator.equal⟩
      | "contains" | "contain" | "ilike" => .ok ⟨"contains", .binary, .binary Operator.ilike⟩
      | "like" => .ok ⟨"like", .binary, .binary Operator.like⟩
      | "not_like" => .ok ⟨"not_like", .binary, .binary Operator.notLike⟩
      | "in" => .ok ⟨"in", .binary, .binary Operator.member⟩
      | "not_in" => .ok ⟨"not_in", .binary, .binary Operator.notMember⟩
      | _ => .error (.unknownOperator name) := by
  have htable : builtin.table = [("contain", 1), ("contains", 1), ("eq", 0), ("equals", 0),
      ("ilike", 1), ("in", 4), ("is", 0), ("like", 2), ("not_in", 5), ("not_like", 3)] := by
    simp only [builtin, register, empty, List.nil_append, List.cons_append, List.length_cons,
      List.length_nil]
    decide
  unfold lookup
  rw [htable]
  generalize Text.asciiLower name = key
  by_cases hkey : key ∈ ["contain", "contains", "eq", "equals", "ilike", "in", "is", "like",
      "not_in", "not_like"]
  · simp only [List.mem_cons, List.not_mem_nil, or_false] at hkey
    rcases hkey with rfl | rfl | rfl | rfl | rfl | rfl | rfl | rfl | rfl | rfl <;> rfl
  · rw [Entries.lookup_eq_none_iff.mpr hkey, Option.bind_none]
    simp only [List.mem_cons, List.not_mem_nil, or_false, not_or] at hkey
    split <;> simp_all

/-- **The condition that a build makes tests the relation** that the operator of this name stands
for. Patterns take a literal `null` for the empty pattern, which no relation does. -/
def Operator.Tests [RegexEngine] (name : String)
    (build : Field → Operand → Except FilterFault Condition) : Prop :=
  ∀ field operand condition, build field operand = .ok condition → operand ≠ .value .null →
    ∀ fields, condition fields = true ↔
      Relates name (fields field.name) (operand.resolve fields)

/-- A built-in operator takes two operands and tests its relation, whatever name it is looked up
by. -/
theorem Registry.tests_of_lookup_builtin [RegexEngine] {name : String} {operator : Operator}
    (h : builtin.lookup name = .ok operator) :
    ∃ build, operator.build = .binary build ∧ Operator.Tests (Text.asciiLower name) build := by
  have hequal {key : String} (hkey : ∀ a b, Operator.Relates key a b ↔ Operator.SameValue a b) :
      Operator.Tests key Operator.equal := by
    intro field operand condition hb _ fields
    rw [hkey, Operator.equal_iff hb]
  have hilike {key : String}
      (hkey : ∀ a b, Operator.Relates key a b ↔ Operator.TextPasses TextTest.ilike? a b) :
      Operator.Tests key Operator.ilike := by
    intro field operand condition hb hnull fields
    rw [hkey, Operator.textual_iff hb hnull]
  rw [lookup_builtin] at h
  generalize Text.asciiLower name = key at h
  split at h <;> cases h <;> refine ⟨_, rfl, ?_⟩
  · exact hequal fun _ _ => Iff.rfl
  · exact hequal fun _ _ => Iff.rfl
  · exact hequal fun _ _ => Iff.rfl
  · exact hilike fun _ _ => Iff.rfl
  · exact hilike fun _ _ => Iff.rfl
  · exact hilike fun _ _ => Iff.rfl
  · exact fun _ _ _ hb hnull _ => Operator.textual_iff hb hnull
  · exact fun _ _ _ hb hnull _ =>
      Operator.complement_iff hb fun _ hp => Operator.textual_iff hp hnull
  · exact fun _ _ _ hb _ _ => Operator.member_iff hb
  · exact fun _ _ _ hb _ _ => Operator.complement_iff hb fun _ hp => Operator.member_iff hp

/-! ### Comparisons -/

namespace Compiler

theorem operand_eq_ok_iff {operator : Operator} {c : Comparison} {operand? : Option Operand} :
    operand operator c = .ok operand? ↔ (c.argument = none ∨ c.other = none) ∧
      operand? = (c.other.map .field).or (c.argument.map .value) := by
  unfold operand
  cases c.argument <;> cases c.other <;> simp [eq_comm]

/-- The one operand of a comparison resolves to what the comparison is made with. -/
theorem resolve_eq_operandFor {c : Comparison} {operand : Operand}
    (h : (c.other.map Operand.field).or (c.argument.map .value) = some operand) (fields : Fields) :
    operand.resolve fields = c.operandFor fields := by
  rw [Comparison.operandFor]
  cases hother : c.other with
  | some other =>
    rw [hother, Option.map_some, Option.some_or, Option.some.injEq] at h
    exact h ▸ rfl
  | none =>
    rw [hother, Option.map_none, Option.none_or, Option.map_eq_some_iff] at h
    obtain ⟨v, hargument, rfl⟩ := h
    exact hargument.symm

/-- An operator of two operands cannot do without the second. -/
theorem apply_binary_eq_ok {operator : Operator} {c : Comparison} {field : Field}
    {operand? : Option Operand} {condition : Condition}
    {build : Field → Operand → Except FilterFault Condition}
    (hbuild : operator.build = .binary build)
    (h : apply operator c field operand? = .ok condition) :
    ∃ operand, operand? = some operand ∧ build field operand = .ok condition := by
  simp only [apply, hbuild] at h
  cases operand? with
  | none => cases h
  | some operand => exact ⟨operand, rfl, h⟩

/-- What it takes that a comparison compiles. -/
theorem comparison_eq_ok_iff {compiler : Compiler} {c : Comparison} {condition : Condition} :
    compiler.comparison c = .ok condition ↔ ∃ field operator operand?,
      compiler.schema.field? c.field = some field ∧
      (∀ other, c.other = some other → compiler.schema.hasField other = true) ∧
      compiler.registry.lookup c.operator = .ok operator ∧
      operand operator c = .ok operand? ∧ apply operator c field operand? = .ok condition := by
  unfold comparison
  constructor
  · intro h
    split at h
    · cases h
    · next field hfield =>
      split at h
      · cases h
      · next hother =>
        obtain ⟨operator, hoperator, h⟩ := bind_eq_ok_iff.mp h
        obtain ⟨operand?, hoperand, h⟩ := bind_eq_ok_iff.mp h
        refine ⟨field, operator, operand?, hfield, ?_, hoperator, hoperand, h⟩
        intro other ho
        simpa [ho] using hother
  · rintro ⟨field, operator, operand?, hfield, hother, hoperator, hoperand, h⟩
    have hnone : c.other.filter (!compiler.schema.hasField ·) = none := by
      simpa [Option.filter_eq_none_iff] using hother
    simp only [hfield, hnone, hoperator, hoperand, ok_bind, h]

/-- A comparison with a value compiles to what its operator makes of the value. -/
theorem comparison_value (compiler : Compiler) {name operator own : String} {field : Field}
    {build : Field → Operand → Except FilterFault Condition}
    (hfield : compiler.schema.field? name = some field)
    (hoperator : compiler.registry.lookup operator = .ok ⟨own, .binary, .binary build⟩) (v : Json) :
    compiler.comparison { field := name, operator, argument := some v } =
      build field (.value v) := by
  simp only [comparison, hfield, Option.filter_none, hoperator, ok_bind, operand, apply]

/-- A comparison without an operand does not compile. -/
theorem comparison_without_operand (compiler : Compiler) {name operator own : String}
    {field : Field} {build : Field → Operand → Except FilterFault Condition}
    (hfield : compiler.schema.field? name = some field)
    (hoperator : compiler.registry.lookup operator = .ok ⟨own, .binary, .binary build⟩) :
    compiler.comparison { field := name, operator } = .error (.noOperand operator) := by
  simp only [comparison, hfield, Option.filter_none, hoperator, ok_bind, operand, apply]

/-- A compiled comparison tests its truth. -/
theorem comparison_iff_holds [RegexEngine] {compiler : Compiler}
    (hregistry : compiler.registry = .builtin) {c : Comparison} {condition : Condition}
    {fields : Fields} (hnull : c.argument ≠ some .null)
    (h : compiler.comparison c = .ok condition) :
    condition fields = true ↔ c.Holds fields := by
  obtain ⟨field, operator, operand?, hfield, -, hoperator, hoperand, h⟩ :=
    comparison_eq_ok_iff.mp h
  rw [hregistry] at hoperator
  obtain ⟨build, hbuild, htests⟩ := Registry.tests_of_lookup_builtin hoperator
  obtain ⟨-, rfl⟩ := operand_eq_ok_iff.mp hoperand
  obtain ⟨operand, hoperand, happly⟩ := apply_binary_eq_ok hbuild h
  have hvalue : operand ≠ .value .null := by
    rintro rfl
    cases hother : c.other <;> simp_all
  rw [Comparison.Holds, ← Schema.name_of_field? hfield, ← resolve_eq_operandFor hoperand]
  exact htests field operand condition happly hvalue fields

/-! ### Groups -/

/-- What it takes that the filters of a list compile: each does, from left to right. -/
theorem compileAll_cons_eq_ok_iff {compiler : Compiler} {filter : Filter} {rest : List Filter}
    {parts : List Condition} :
    compiler.compileAll (filter :: rest) = .ok parts ↔
      ∃ part others, compiler.compile filter = .ok part ∧ compiler.compileAll rest = .ok others ∧
        parts = part :: others := by
  rw [compileAll]
  constructor
  · intro h
    obtain ⟨part, hpart, h⟩ := bind_eq_ok_iff.mp h
    obtain ⟨others, hothers, h⟩ := bind_eq_ok_iff.mp h
    rw [pure_eq_ok, Except.ok.injEq] at h
    exact ⟨part, others, hpart, hothers, h.symm⟩
  · rintro ⟨part, others, hpart, hothers, rfl⟩
    rw [hpart, ok_bind, hothers, ok_bind, pure_eq_ok]

/-- The conditions of `parts` test the truth of the filters, one by one. -/
def TestAll [RegexEngine] (fields : Fields) (filters : List Filter) (parts : List Condition) :
    Prop :=
  List.Forall₂ (fun filter part => part fields = true ↔ filter.Holds fields) filters parts

theorem TestAll.forall_iff [RegexEngine] {fields : Fields} {filters : List Filter}
    {parts : List Condition} (h : TestAll fields filters parts) :
    (∀ part ∈ parts, part fields = true) ↔ ∀ filter ∈ filters, filter.Holds fields := by
  induction h with
  | nil => simp
  | cons hpart _ ih =>
    rw [List.forall_mem_cons, List.forall_mem_cons]
    exact and_congr hpart ih

theorem TestAll.exists_iff [RegexEngine] {fields : Fields} {filters : List Filter}
    {parts : List Condition} (h : TestAll fields filters parts) :
    (∃ part ∈ parts, part fields = true) ↔ ∃ filter ∈ filters, filter.Holds fields := by
  induction h with
  | nil => simp
  | cons hpart _ ih =>
    simp only [List.mem_cons, exists_eq_or_imp]
    exact or_congr hpart ih

theorem combine_iff_holds [RegexEngine] {fields : Fields} {kind : Connective}
    {members : List Filter} {parts : List Condition} {condition : Condition}
    (hparts : TestAll fields members parts)
    (h : combine kind parts = .ok condition) :
    condition fields = true ↔ (Filter.group kind members).Holds fields := by
  cases kind with
  | and =>
    cases h
    rw [Filter.Holds, ← hparts.forall_iff, Condition.all, List.all_eq_true]
  | or =>
    cases h
    simp only [Filter.Holds, exists_prop, ← hparts.exists_iff, Condition.any, List.any_eq_true]
  | not =>
    simp only [combine] at h
    split at h
    · cases h
    · cases h
      rw [Filter.Holds, ← hparts.forall_iff, Condition.negate, Bool.not_eq_true', Condition.all,
        ← List.all_eq_true, Bool.not_eq_true]

mutual

/-- **A compiled filter tests its truth**, if it is compiled with the built-in operators and is
canonical. -/
theorem compile_iff_holds [RegexEngine] {compiler : Compiler}
    (hregistry : compiler.registry = .builtin) {fields : Fields} :
    ∀ {filter : Filter} {condition : Condition}, filter.IsCanonical →
      compiler.compile filter = .ok condition → (condition fields = true ↔ filter.Holds fields)
  | .leaf c, condition, hc, h => by
    rw [compile] at h
    rw [Filter.Holds]
    exact comparison_iff_holds hregistry (Filter.isCanonical_leaf.mp hc).argument h
  | .group kind members, condition, hc, h => by
    rw [compile] at h
    obtain ⟨parts, hparts, h⟩ := bind_eq_ok_iff.mp h
    rw [Filter.isCanonical_group] at hc
    exact combine_iff_holds (compileAll_testAll hregistry hc hparts) h

theorem compileAll_testAll [RegexEngine] {compiler : Compiler}
    (hregistry : compiler.registry = .builtin) {fields : Fields} :
    ∀ {filters : List Filter} {parts : List Condition},
      (∀ filter ∈ filters, filter.IsCanonical) → compiler.compileAll filters = .ok parts →
      TestAll fields filters parts
  | [], parts, _, h => by
    rw [compileAll, Except.ok.injEq] at h
    subst h
    exact .nil
  | filter :: rest, parts, hc, h => by
    obtain ⟨part, others, hpart, hothers, rfl⟩ := compileAll_cons_eq_ok_iff.mp h
    rw [List.forall_mem_cons] at hc
    exact .cons (compile_iff_holds hregistry hc.1 hpart)
      (compileAll_testAll hregistry hc.2 hothers)

end

/-! ### Filters in JSON -/

theorem holds_ofList [RegexEngine] {fields : Fields} {filters : List Filter} :
    (Filter.ofList filters).Holds fields ↔ ∀ filter ∈ filters, filter.Holds fields := by
  unfold Filter.ofList
  split
  · simp
  · rw [Filter.Holds]

theorem isCanonical_ofList {filters : List Filter} (h : ∀ filter ∈ filters, filter.IsCanonical) :
    (Filter.ofList filters).IsCanonical := by
  unfold Filter.ofList
  split
  · exact h _ (by simp)
  · exact Filter.isCanonical_group.mpr h

/-- What it takes that a text is read as a filter. -/
theorem readFilter_eq_ok_iff {compiler : Compiler} {raw : Json} {filter : Filter} :
    compiler.readFilter raw = .ok filter ↔ ∃ filters,
      Filter.read compiler.limit raw = .ok filters ∧
      Filter.checkFieldsAll compiler.schema filters = .ok () ∧ filter = .ofList filters := by
  unfold readFilter
  simp only [bind_eq_ok_iff, pure_eq_ok, Except.ok.injEq]
  constructor
  · rintro ⟨filters, hread, ⟨⟩, hcheck, rfl⟩
    exact ⟨filters, hread, hcheck, rfl⟩
  · rintro ⟨filters, hread, hcheck, rfl⟩
    exact ⟨filters, hread, (), hcheck, rfl⟩

/-- An operator with its operand, in JSON, is read as the comparison that it writes. -/
theorem read_operator {limit : Nat} (hlimit : 1 ≤ limit) {key name : String}
    (hkey : Text.asciiLower key ∈ Filter.operatorKeys) {v : Json} {argument : Option Json}
    (hv : Filter.Argument (some v) argument) :
    Filter.read limit (.obj [(key, .obj [(name, v)])]) =
      .ok [.leaf { field := name, operator := Text.asciiLower key, argument }] := by
  refine Filter.read_eq_ok_iff.mpr ⟨.single (.operator hkey hv), ?_⟩
  rw [List.forall_mem_singleton, Filter.depth]
  exact hlimit

/-- An operator with its operand, in JSON, compiles as the comparison that it writes. -/
theorem compileJson_operator (compiler : Compiler) (hlimit : 1 ≤ compiler.limit) {key name : String}
    (hkey : Text.asciiLower key ∈ Filter.operatorKeys)
    (hfield : compiler.schema.hasField name = true) {v : Json} {argument : Option Json}
    (hv : Filter.Argument (some v) argument) :
    compiler.compileJson (.obj [(key, .obj [(name, v)])]) =
      compiler.comparison { field := name, operator := Text.asciiLower key, argument } := by
  have hfilter : compiler.readFilter (.obj [(key, .obj [(name, v)])]) =
      .ok (.leaf { field := name, operator := Text.asciiLower key, argument }) := by
    refine readFilter_eq_ok_iff.mpr ⟨_, read_operator hlimit hkey hv, ?_, rfl⟩
    simp [Filter.checkFieldsAll, Filter.checkFields, hfield]
  rw [compileJson, hfilter, ok_bind, compile]

section

variable {schema : Schema} {registry : Registry} {limit : Nat} {key name own : String}
  {field : Field} {build : Field → Operand → Except FilterFault Condition}

/-- An operator with a value, in JSON, compiles to what the operator makes of the value. -/
theorem compileJson_operator_value (hlimit : 1 ≤ limit)
    (hkey : Text.asciiLower key ∈ Filter.operatorKeys) (hfield : schema.field? name = some field)
    (hoperator : registry.lookup (Text.asciiLower key) = .ok ⟨own, .binary, .binary build⟩)
    {v : Json} (hv : v ≠ .null) :
    compileJson { schema, registry, limit } (.obj [(key, .obj [(name, v)])]) =
      build field (.value v) := by
  have hdeclared : schema.hasField name = true := schema.hasField_of_field? hfield
  rw [compileJson_operator { schema, registry, limit } hlimit hkey hdeclared (.value hv)]
  exact comparison_value { schema, registry, limit } hfield hoperator v

/-- An operator with `null`, in JSON, is refused for want of an operand. -/
theorem compileJson_operator_null (hlimit : 1 ≤ limit)
    (hkey : Text.asciiLower key ∈ Filter.operatorKeys) (hfield : schema.field? name = some field)
    (hoperator : registry.lookup (Text.asciiLower key) = .ok ⟨own, .binary, .binary build⟩) :
    compileJson { schema, registry, limit } (.obj [(key, .obj [(name, .null)])]) =
      .error (.noOperand (Text.asciiLower key)) := by
  have hdeclared : schema.hasField name = true := schema.hasField_of_field? hfield
  rw [compileJson_operator { schema, registry, limit } hlimit hkey hdeclared .null]
  exact comparison_without_operand { schema, registry, limit } hfield hoperator

end

/-- An operator with its operand, in JSON, compiles within the limit only, and about declared fields
only. -/
theorem accepts_of_compileJson_operator {compiler : Compiler} {key name : String}
    (hkey : Text.asciiLower key ∈ Filter.operatorKeys) {v : Json} {argument : Option Json}
    (hv : Filter.Argument (some v) argument) {condition : Condition}
    (h : compiler.compileJson (.obj [(key, .obj [(name, v)])]) = .ok condition) :
    1 ≤ compiler.limit ∧ compiler.schema.hasField name = true := by
  obtain ⟨filter, hfilter, -⟩ := bind_eq_ok_iff.mp h
  obtain ⟨filters, hread, hcheck, -⟩ := readFilter_eq_ok_iff.mp hfilter
  obtain ⟨hderives, hdepth⟩ := Filter.read_eq_ok_iff.mp hread
  -- under a greater limit, which is not 0, the same filters are read
  have hmore : Filter.read (compiler.limit + 1) (.obj [(key, .obj [(name, v)])]) = .ok filters :=
    Filter.read_eq_ok_iff.mpr
      ⟨hderives, fun filter hmem => Nat.le_succ_of_le (hdepth filter hmem)⟩
  rw [read_operator (Nat.le_add_left 1 _) hkey hv, Except.ok.injEq] at hmore
  subst hmore
  have hone := hdepth _ (List.mem_singleton_self _)
  rw [Filter.depth] at hone
  refine ⟨hone, ?_⟩
  by_contra hfield
  simp [Filter.checkFieldsAll, Filter.checkFields, hfield] at hcheck

/-- **A condition compiled from JSON is the truth of the filter that the JSON writes**: for every
schema, every limit and every text that compiles with the built-in operators, the condition holds of
a record, whatever its fields answer, exactly when all filters written by the text are true of
it. -/
theorem compileJson_tests_meaning [RegexEngine] (schema : Schema) (limit : Nat) (raw : Json)
    (condition : Condition) (h : compileJson { schema, limit } raw = .ok condition)
    (fields : Fields) : condition fields = true ↔ Filter.MeansList fields raw := by
  obtain ⟨filter, hfilter, hcompile⟩ := bind_eq_ok_iff.mp h
  obtain ⟨filters, hread, -, rfl⟩ := readFilter_eq_ok_iff.mp hfilter
  have hderives := (Filter.read_eq_ok_iff.mp hread).1
  have hcanonical := isCanonical_ofList hderives.isCanonical
  rw [compile_iff_holds rfl hcanonical hcompile, holds_ofList, hderives.means_iff]

/-- A schema of two texts, `a` and `b`. -/
def pairSchema : Schema := .ofFields "pair" [⟨"a", .text⟩, ⟨"b", .text⟩] []

/-- A filter for pairs: `a` is neither of two texts, or it is the same as `b`. -/
def pairFilter : Json :=
  .arr [.obj [("Or", .arr [
    .obj [("NOT", .obj [("In", .obj [("a", .arr [.str "x", .str "y"])])])],
    .obj [("field", .str "b"), ("name", .str "a"), ("op", .str "EQ")]])]]

/-- The filter is true of the pair of `x` and `x`. -/
theorem compileJson_pair_tests_meaning :
    ∃ condition, compileJson { schema := pairSchema, limit := 3 } pairFilter = .ok condition ∧
      Filter.MeansList (fun name => if name = "a" ∨ name = "b" then some (.str "x") else none)
        pairFilter := by
  refine ⟨_, rfl, (compileJson_tests_meaning pairSchema 3 pairFilter _ rfl _).mp ?_⟩
  decide

end Compiler

end LogSieve
