import LogSieve.Proofs.Filter.Compile

/-!
# Which fault a rejected filter gets

A filter may have many faults, and compiling tells one of them. Here all the faults of a filter are
listed: what may be wrong with a comparison, in the order in which it counts (`fault?`, with
`innerFault?` for all but the comparison's own field), and from that the faults of a tree, from left
to right (`faultsBy`). Compiling a filter gives the first of them (`fault?_compile`).

A filter in JSON is rejected in one of three ways (`Rejects`): it is not in the grammar; or a
comparison in it is about an undeclared field, whatever else stands before; or the tree has another
fault. `compileJson_eq_error_iff_rejects` says that these are the faults that are told. An operator
may answer with a fault of any kind, even that the field of its comparison is unknown
(`declared_field_told_unknown`).
-/

namespace LogSieve

theorem Schema.field?_eq_none_iff {schema : Schema} {name : String} :
    schema.field? name = none ↔ schema.hasField name = false := by
  simp [field?, hasField]

/-- A declared field is found by its name. -/
theorem Schema.exists_field? {schema : Schema} {name : String} (h : schema.hasField name = true) :
    ∃ field, schema.field? name = some field ∧ field.name = name := by
  obtain ⟨field, hfield⟩ : ∃ field, schema.field? name = some field := by
    rw [← Option.ne_none_iff_exists', Ne, field?_eq_none_iff, h]
    simp
  exact ⟨field, hfield, name_of_field? hfield⟩

theorem Registry.lookup_eq_error {registry : Registry} {name : String} {fault : FilterFault}
    (h : registry.lookup name = .error fault) : fault = .unknownOperator name := by
  unfold lookup at h
  split at h
  · cases h
  · exact (Except.error.inj h).symm

/-! ### The faults of a tree -/

namespace Filter

mutual

/-- The faults of a filter, from left to right: those that `check` finds in its comparisons, and the
empty negations. -/
def faultsBy (check : Comparison → Option FilterFault) : Filter → List FilterFault
  | leaf c => (check c).toList
  | group .not [] => [.malformed .emptyNegation]
  | group _ members => faultsAllBy check members

/-- The faults of several filters, from left to right. -/
def faultsAllBy (check : Comparison → Option FilterFault) : List Filter → List FilterFault
  | [] => []
  | filter :: rest => faultsBy check filter ++ faultsAllBy check rest

end

variable {check : Comparison → Option FilterFault}

theorem faultsBy_group_of_ne {kind : Connective} {members : List Filter}
    (h : kind = .not → members ≠ []) :
    faultsBy check (group kind members) = faultsAllBy check members := by
  cases kind with
  | and => rw [faultsBy]; simp
  | or => rw [faultsBy]; simp
  | not =>
    cases members with
    | nil => exact absurd rfl (h rfl)
    | cons filter rest => rw [faultsBy]; simp

theorem faultsBy_ofList (filters : List Filter) :
    faultsBy check (ofList filters) = faultsAllBy check filters := by
  unfold ofList
  split
  · simp [faultsAllBy]
  · exact faultsBy_group_of_ne (by simp)

mutual

/-- Only the faults of the comparisons that occur matter. -/
theorem faultsBy_congr {check check' : Comparison → Option FilterFault} :
    ∀ {filter : Filter}, (∀ c ∈ filter.comparisons, check c = check' c) →
      faultsBy check filter = faultsBy check' filter
  | leaf c, h => by
    rw [faultsBy, faultsBy, h c (by simp [comparisons])]
  | group kind members, h => by
    rw [comparisons] at h
    -- an empty negation is the one group that has a fault of its own
    by_cases hempty : kind = .not → members ≠ []
    · rw [faultsBy_group_of_ne hempty, faultsBy_group_of_ne hempty, faultsAllBy_congr h]
    · obtain ⟨rfl, rfl⟩ : kind = .not ∧ members = [] := by simpa using hempty
      rw [faultsBy, faultsBy]

theorem faultsAllBy_congr {check check' : Comparison → Option FilterFault} :
    ∀ {filters : List Filter}, (∀ c ∈ comparisonsAll filters, check c = check' c) →
      faultsAllBy check filters = faultsAllBy check' filters
  | [], _ => rfl
  | filter :: rest, h => by
    simp only [comparisonsAll, List.forall_mem_append] at h
    rw [faultsAllBy, faultsAllBy, faultsBy_congr h.1, faultsAllBy_congr h.2]

end

mutual

/-- A fault of a filter is that of a comparison or that of an empty negation. -/
theorem of_mem_faultsBy {fault : FilterFault} : ∀ {filter : Filter}, fault ∈ faultsBy check filter →
    fault = .malformed .emptyNegation ∨ ∃ c ∈ filter.comparisons, check c = some fault
  | leaf c, h => by
    rw [faultsBy, Option.mem_toList] at h
    exact .inr ⟨c, by simp [comparisons], h⟩
  | group kind members, h => by
    rw [comparisons]
    by_cases hempty : kind = .not → members ≠ []
    · rw [faultsBy_group_of_ne hempty] at h
      exact of_mem_faultsAllBy h
    · obtain ⟨rfl, rfl⟩ : kind = .not ∧ members = [] := by simpa using hempty
      rw [faultsBy, List.mem_singleton] at h
      exact .inl h

theorem of_mem_faultsAllBy {fault : FilterFault} :
    ∀ {filters : List Filter}, fault ∈ faultsAllBy check filters →
      fault = .malformed .emptyNegation ∨ ∃ c ∈ comparisonsAll filters, check c = some fault
  | filter :: rest, h => by
    rw [faultsAllBy, List.mem_append] at h
    simp only [comparisonsAll, List.mem_append]
    rcases h with h | h
    · rcases of_mem_faultsBy h with h | ⟨c, hc, h⟩
      · exact .inl h
      · exact .inr ⟨c, .inl hc, h⟩
    · rcases of_mem_faultsAllBy h with h | ⟨c, hc, h⟩
      · exact .inl h
      · exact .inr ⟨c, .inr hc, h⟩

end

end Filter

/-! ### The faults of a comparison -/

/-- The operand that a comparison gives: the other field if it names one, and its argument
otherwise. -/
def Comparison.operand? (c : Comparison) : Option Operand :=
  (c.other.map .field).or (c.argument.map .value)

/-- What an operator answers to a comparison of a field: it takes the field alone, or the operand
too, or the name of the field as well. Without the operand that it takes it cannot be asked. -/
def Build.answer? (build : Build) (field : Field) (c : Comparison) :
    Option (Except FilterFault Condition) :=
  match build with
  | .unary build => some (build field)
  | .binary build => c.operand?.map (build field)
  | .ternary build => c.operand?.map fun operand => build field operand c.field

namespace Operator

/-- Whatever the build refuses, it refuses for the operand. -/
def RefusesOperands (build : Field → Operand → Except FilterFault Condition) : Prop :=
  ∀ field operand fault, build field operand = .error fault →
    ∃ operator reason, fault = .badOperand operator reason

theorem equal_refusesOperands : RefusesOperands equal := by
  intro field operand fault h
  cases h

theorem member_refusesOperands : RefusesOperands member := by
  intro field operand fault h
  unfold member at h
  split at h <;> cases h <;> exact ⟨_, _, rfl⟩

theorem textual_refusesOperands (name : String) (test? : String → Option TextTest) :
    RefusesOperands (textual name test?) := by
  intro field operand fault h
  unfold textual at h
  split at h
  · cases h
    exact ⟨_, _, rfl⟩
  · cases h
    exact ⟨_, _, rfl⟩
  · split at h <;> cases h
    exact ⟨_, _, rfl⟩
  · cases h

theorem RefusesOperands.complement {build : Field → Operand → Except FilterFault Condition}
    (hbuild : RefusesOperands build) : RefusesOperands (complement build) := by
  intro field operand fault h
  unfold Operator.complement at h
  cases hpositive : build field operand with
  | ok positive =>
    rw [hpositive] at h
    cases h
  | error refusal =>
    rw [hpositive] at h
    cases h
    exact hbuild field operand fault hpositive

end Operator

theorem Registry.mem_operators_of_lookup {registry : Registry} {name : String}
    {operator : Operator} (h : registry.lookup name = .ok operator) :
    operator ∈ registry.operators := by
  unfold lookup at h
  split at h
  · next found hfound =>
    obtain ⟨place, -, hplace⟩ := Option.bind_eq_some_iff.mp hfound
    rw [← Except.ok.inj h]
    exact List.mem_of_getElem? hplace
  · cases h

/-- A built-in operator takes two operands and refuses the second only. -/
theorem Registry.refusesOperands_of_mem_builtin [RegexEngine] {operator : Operator}
    (h : operator ∈ builtin.operators) :
    ∃ build, operator.build = .binary build ∧ Operator.RefusesOperands build := by
  simp only [builtin, register, empty, List.nil_append, List.cons_append, List.mem_cons,
    List.not_mem_nil, or_false] at h
  rcases h with rfl | rfl | rfl | rfl | rfl | rfl
  · exact ⟨_, rfl, Operator.equal_refusesOperands⟩
  · exact ⟨_, rfl, Operator.textual_refusesOperands _ _⟩
  · exact ⟨_, rfl, Operator.textual_refusesOperands _ _⟩
  · exact ⟨_, rfl, (Operator.textual_refusesOperands _ _).complement⟩
  · exact ⟨_, rfl, Operator.member_refusesOperands⟩
  · exact ⟨_, rfl, Operator.member_refusesOperands.complement⟩

namespace Compiler

variable (compiler : Compiler) (c : Comparison)

/-- The comparison is about an undeclared field. -/
def fieldFault? : Option FilterFault :=
  if compiler.schema.hasField c.field then none else some (.unknownField c.field)

/-- The comparison is with an undeclared field. -/
def otherFault? : Option FilterFault :=
  (c.other.filter (!compiler.schema.hasField ·)).map .unknownField

/-- The operator is not registered. -/
def operatorFault? : Option FilterFault :=
  match compiler.registry.lookup c.operator with
  | .ok _ => none
  | .error _ => some (.unknownOperator c.operator)

/-- The comparison gives both an argument and another field. -/
def countFault? : Option FilterFault :=
  match compiler.registry.lookup c.operator, c.argument, c.other with
  | .ok operator, some _, some _ =>
    some (.wrongCount c.operator operator.arity.count (operator.arity.count + 1))
  | _, _, _ => none

/-- The comparison gives no operand, and the operator takes one. -/
def operandFault? : Option FilterFault :=
  match compiler.registry.lookup c.operator, c.operand? with
  | .ok operator, none =>
    if operator.build.arity = .unary then none else some (.noOperand c.operator)
  | _, _ => none

/-- The operator itself refuses the comparison. -/
def buildFault? : Option FilterFault :=
  match compiler.schema.field? c.field, compiler.registry.lookup c.operator with
  | some field, .ok operator => (operator.build.answer? field c).bind fault?
  | _, _ => none

/-- The fault of a comparison whose own field is declared: the first of what may be wrong. -/
def innerFault? : Option FilterFault :=
  (compiler.otherFault? c).or <| (compiler.operatorFault? c).or <| (compiler.countFault? c).or <|
    (compiler.operandFault? c).or (compiler.buildFault? c)

/-- The fault of a comparison: that of its own field counts before all others. -/
def comparisonFault? : Option FilterFault :=
  (compiler.fieldFault? c).or (compiler.innerFault? c)

variable {compiler c} {operator : Operator} {field : Field}

/-- What is wrong once the operand is known: there is none, or the operator refuses it. -/
theorem fault?_apply (hfield : compiler.schema.field? c.field = some field)
    (hoperator : compiler.registry.lookup c.operator = .ok operator) :
    fault? (apply operator c field c.operand?) =
      (compiler.operandFault? c).or (compiler.buildFault? c) := by
  simp only [operandFault?, buildFault?, hfield, hoperator]
  cases hbuild : operator.build <;> cases hoperand : c.operand? <;>
    simp [apply, Build.answer?, Build.arity, hbuild, hoperand]

/-- What is wrong once the field and the operator are known. -/
theorem fault?_operand_apply (hfield : compiler.schema.field? c.field = some field)
    (hoperator : compiler.registry.lookup c.operator = .ok operator) :
    fault? (operand operator c >>= apply operator c field) =
      (compiler.countFault? c).or ((compiler.operandFault? c).or (compiler.buildFault? c)) := by
  rw [← fault?_apply hfield hoperator]
  simp only [countFault?, hoperator, operand, Comparison.operand?]
  cases c.argument <;> cases c.other <;> rfl

/-- A comparison gives the first of its faults. -/
theorem fault?_comparison : fault? (compiler.comparison c) = compiler.comparisonFault? c := by
  unfold comparison comparisonFault? fieldFault?
  cases hfield : compiler.schema.field? c.field with
  | none => simp [Schema.field?_eq_none_iff.mp hfield]
  | some field =>
    have hown : compiler.schema.hasField c.field = true := by
      rw [← Bool.not_eq_false, ← Schema.field?_eq_none_iff, hfield]
      simp
    rw [if_pos hown, Option.none_or, innerFault?, otherFault?]
    cases hother : c.other.filter (!compiler.schema.hasField ·) with
    | some other => rfl
    | none =>
      rw [Option.map_none, Option.none_or, operatorFault?]
      cases hoperator : compiler.registry.lookup c.operator with
      | error fault =>
        obtain rfl := Registry.lookup_eq_error hoperator
        rfl
      | ok operator => exact fault?_operand_apply hfield hoperator

/-! ### The faults of a compiled filter -/

theorem compileAll_eq_nil_iff {members : List Filter} {parts : List Condition}
    (h : compiler.compileAll members = .ok parts) : parts = [] ↔ members = [] := by
  cases members with
  | nil =>
    rw [compileAll, Except.ok.injEq] at h
    simp [← h]
  | cons member rest =>
    obtain ⟨part, others, -, -, rfl⟩ := compileAll_cons_eq_ok_iff.mp h
    simp

theorem fault?_combine (kind : Connective) (parts : List Condition) :
    fault? (combine kind parts) =
      if kind = .not ∧ parts = [] then some (.malformed .emptyNegation) else none := by
  cases kind <;> cases parts <;> rfl

mutual

/-- **Compiling a filter gives the first of its faults.** -/
theorem fault?_compile : ∀ {filter : Filter},
    fault? (compiler.compile filter) = (filter.faultsBy compiler.comparisonFault?).head?
  | .leaf c => by
    rw [compile, Filter.faultsBy, fault?_comparison]
    cases compiler.comparisonFault? c <;> rfl
  | .group kind members => by
    -- what `combine` may find wrong with the parts depends on the members only
    have hlater : ∀ parts, compiler.compileAll members = .ok parts →
        fault? (combine kind parts) =
          if kind = .not ∧ members = [] then some (.malformed .emptyNegation) else none := by
      intro parts hparts
      simp only [fault?_combine, compileAll_eq_nil_iff hparts]
    rw [compile, fault?_bind hlater, fault?_compileAll]
    by_cases hempty : kind = .not → members ≠ []
    · rw [if_neg (by simpa using hempty), Option.or_none, Filter.faultsBy_group_of_ne hempty]
    · obtain ⟨rfl, rfl⟩ : kind = .not ∧ members = [] := by simpa using hempty
      rfl

theorem fault?_compileAll : ∀ {filters : List Filter},
    fault? (compiler.compileAll filters) =
      (Filter.faultsAllBy compiler.comparisonFault? filters).head?
  | [] => rfl
  | filter :: rest => by
    rw [compileAll, Filter.faultsAllBy, List.head?_append, ← fault?_compile, ← fault?_compileAll]
    refine fault?_bind fun condition _ => ?_
    exact (fault?_bind fun _ _ => fault?_ok _).trans Option.or_none

end

/-! ### Rejected filters in JSON -/

/-- The first comparison that is about an undeclared field. -/
def firstUndeclared? (compiler : Compiler) (filters : List Filter) : Option Comparison :=
  (Filter.comparisonsAll filters).find? fun c => !compiler.schema.hasField c.field

mutual

theorem fault?_checkFields : ∀ {filter : Filter},
    fault? (filter.checkFields compiler.schema) =
      (filter.comparisons.find? fun c => !compiler.schema.hasField c.field).map
        (.unknownField ·.field)
  | .leaf c => by
    rw [Filter.checkFields, Filter.comparisons, List.find?_singleton]
    cases compiler.schema.hasField c.field <;> rfl
  | .group kind members => by
    rw [Filter.checkFields, Filter.comparisons, fault?_checkFieldsAll, firstUndeclared?]

theorem fault?_checkFieldsAll : ∀ {filters : List Filter},
    fault? (Filter.checkFieldsAll compiler.schema filters) =
      (compiler.firstUndeclared? filters).map (.unknownField ·.field)
  | [] => rfl
  | filter :: rest => by
    rw [Filter.checkFieldsAll, fault?_bind fun _ _ => fault?_checkFieldsAll, fault?_checkFields,
      firstUndeclared?, firstUndeclared?, Filter.comparisonsAll, List.find?_append, Option.map_or]

end

theorem firstUndeclared?_eq_none_iff {filters : List Filter} :
    compiler.firstUndeclared? filters = none ↔
      ∀ c ∈ Filter.comparisonsAll filters, compiler.schema.hasField c.field = true := by
  simp [firstUndeclared?]

/-- Where all comparisons are about declared fields, only the other faults are left. -/
theorem faultsAllBy_of_declared {filters : List Filter}
    (h : compiler.firstUndeclared? filters = none) :
    Filter.faultsAllBy compiler.comparisonFault? filters =
      Filter.faultsAllBy compiler.innerFault? filters := by
  refine Filter.faultsAllBy_congr fun c hc => ?_
  rw [comparisonFault?, fieldFault?, if_pos (firstUndeclared?_eq_none_iff.mp h c hc),
    Option.none_or]

theorem fault?_compileJson_of_read {raw : Json} {filters : List Filter}
    (hread : Filter.read compiler.limit raw = .ok filters) :
    fault? (compiler.compileJson raw) =
      ((compiler.firstUndeclared? filters).map (.unknownField ·.field)).or
        (Filter.faultsAllBy compiler.innerFault? filters).head? := by
  have hfilter : fault? (compiler.readFilter raw) =
      (compiler.firstUndeclared? filters).map (.unknownField ·.field) := by
    rw [readFilter, hread, ok_bind, ← fault?_checkFieldsAll]
    exact (fault?_bind fun _ _ => fault?_ok _).trans Option.or_none
  rw [compileJson, ← hfilter]
  refine fault?_bind fun filter hok => ?_
  -- the filter was read, so no comparison is about an undeclared field any more
  obtain ⟨filters', hread', hcheck, rfl⟩ := readFilter_eq_ok_iff.mp hok
  obtain rfl : filters = filters' := Except.ok.inj (hread.symm.trans hread')
  have hdeclared : compiler.firstUndeclared? filters = none := by
    rw [← Option.map_eq_none_iff, ← fault?_checkFieldsAll, hcheck, fault?_ok]
  rw [fault?_compile, Filter.faultsBy_ofList, faultsAllBy_of_declared hdeclared]

/-- `Rejects compiler raw fault`: the compiler has this fault to find with the filter in `raw`. -/
inductive Rejects (compiler : Compiler) (raw : Json) : FilterFault → Prop where
  /-- It is not in the grammar. -/
  | form {form : FormFault} :
      Filter.read compiler.limit raw = .error (.malformed form) →
      Rejects compiler raw (.malformed form)
  /-- The first comparison about an undeclared field is `c`. -/
  | field {filters : List Filter} {c : Comparison} :
      Filter.read compiler.limit raw = .ok filters → compiler.firstUndeclared? filters = some c →
      Rejects compiler raw (.unknownField c.field)
  /-- All comparisons are about declared fields, and of the other faults it is the first. -/
  | inner {filters : List Filter} {fault : FilterFault} :
      Filter.read compiler.limit raw = .ok filters → compiler.firstUndeclared? filters = none →
      (Filter.faultsAllBy compiler.innerFault? filters).head? = some fault →
      Rejects compiler raw fault

theorem compileJson_eq_error_iff {raw : Json} {fault : FilterFault} :
    compiler.compileJson raw = .error fault ↔ Rejects compiler raw fault := by
  cases hread : Filter.read compiler.limit raw with
  | error found =>
    obtain ⟨form, rfl⟩ := Filter.read_formOnly compiler.limit raw found hread
    have herror : compiler.compileJson raw = .error (.malformed form) := by
      rw [compileJson, readFilter, hread]
      rfl
    rw [herror, Except.error.injEq]
    constructor
    · rintro rfl
      exact .form hread
    · intro h
      cases h with
      | form h => rw [hread] at h; exact Except.error.inj h
      | field h => rw [hread] at h; cases h
      | inner h => rw [hread] at h; cases h
  | ok filters =>
    rw [← fault?_eq_some_iff, fault?_compileJson_of_read hread, Option.or_eq_some_iff,
      Option.map_eq_some_iff, Option.map_eq_none_iff]
    constructor
    · rintro (⟨c, hc, rfl⟩ | ⟨hnone, hhead⟩)
      · exact .field hread hc
      · exact .inner hread hnone hhead
    · intro h
      cases h with
      | form h => rw [hread] at h; cases h
      | field h hc =>
        obtain rfl := Except.ok.inj (hread.symm.trans h)
        exact .inl ⟨_, hc, rfl⟩
      | inner h hnone hhead =>
        obtain rfl := Except.ok.inj (hread.symm.trans h)
        exact .inr ⟨hnone, hhead⟩

theorem compileJson_eq_ok_iff {raw : Json} :
    (∃ condition, compiler.compileJson raw = .ok condition) ↔
      ∀ fault, ¬ Rejects compiler raw fault := by
  simp only [← compileJson_eq_error_iff, ← fault?_eq_some_iff]
  rw [← fault?_eq_none_iff, Option.eq_none_iff_forall_ne_some]

theorem compile_eq_error_iff {filter : Filter} {fault : FilterFault} :
    compiler.compile filter = .error fault ↔
      (filter.faultsBy compiler.comparisonFault?).head? = some fault := by
  rw [← fault?_eq_some_iff, fault?_compile]

theorem compile_eq_ok_iff {filter : Filter} :
    (∃ condition, compiler.compile filter = .ok condition) ↔
      filter.faultsBy compiler.comparisonFault? = [] := by
  rw [← fault?_eq_none_iff, fault?_compile, List.head?_eq_none_iff]

/-! ### Unknown fields -/

/-- Where the own field of a comparison is not at fault, an unknown field is the other one, unless
the operator itself complains. -/
theorem innerFault?_unknownField {name : String}
    (h : compiler.innerFault? c = some (.unknownField name)) :
    compiler.schema.hasField name = false ∨ compiler.buildFault? c = some (.unknownField name) := by
  simp only [innerFault?, Option.or_eq_some_iff] at h
  rcases h with h | ⟨-, h | ⟨-, h | ⟨-, h | ⟨-, h⟩⟩⟩⟩
  · obtain ⟨other, hother, hname⟩ := Option.map_eq_some_iff.mp h
    rw [← FilterFault.unknownField.inj hname]
    exact .inl (by simpa using (Option.filter_eq_some_iff.mp hother).2)
  · unfold operatorFault? at h
    split at h <;> cases h
  · unfold countFault? at h
    split at h <;> cases h
  · unfold operandFault? at h
    split at h
    · split at h <;> cases h
    · cases h
  · exact .inr h

/-- A built-in operator finds fault with the operand only. -/
theorem badOperand_of_buildFault? [RegexEngine] {fault : FilterFault}
    (h : compiler.buildFault? c = some fault) (hregistry : compiler.registry = .builtin) :
    ∃ operator reason, fault = .badOperand operator reason := by
  unfold buildFault? at h
  split at h
  · next field operator hfield hoperator =>
    rw [hregistry] at hoperator
    obtain ⟨build, hbuild, hrefuses⟩ :=
      Registry.refusesOperands_of_mem_builtin (Registry.mem_operators_of_lookup hoperator)
    obtain ⟨answer, hanswer, hfault⟩ := Option.bind_eq_some_iff.mp h
    rw [hbuild, Build.answer?, Option.map_eq_some_iff] at hanswer
    obtain ⟨operand, -, rfl⟩ := hanswer
    exact hrefuses field operand fault (fault?_eq_some_iff.mp hfault)
  · cases h

/-- Once all comparisons are about declared fields, one of these fields is told as unknown only if
the operator of a comparison says so. -/
theorem exists_buildFault?_of_own_field {raw : Json} {filters : List Filter}
    (hread : Filter.read compiler.limit raw = .ok filters)
    (hdeclared : compiler.firstUndeclared? filters = none) (hc : c ∈ Filter.comparisonsAll filters)
    (herror : compiler.compileJson raw = .error (.unknownField c.field)) :
    ∃ c' ∈ Filter.comparisonsAll filters,
      compiler.buildFault? c' = some (.unknownField c.field) := by
  rw [← fault?_eq_some_iff, fault?_compileJson_of_read hread, hdeclared] at herror
  rcases Filter.of_mem_faultsAllBy (List.mem_of_head? herror) with h | ⟨c', hc', h⟩
  · cases h
  · rcases innerFault?_unknownField h with hname | hbuild
    · rw [firstUndeclared?_eq_none_iff.mp hdeclared c hc] at hname
      cases hname
    · exact ⟨c', hc', hbuild⟩

/-- **Which fault is told of a rejected filter.** JSON is rejected with a fault exactly if the
compiler has that fault to find with it, and accepted exactly if there is none: what is not in the
grammar is malformed; of the rest, the first comparison about an undeclared field is told, whatever
else is wrong before it; and only then the first of the other faults. There, the own field of a
comparison is told as unknown only if an operator answers so, which no built-in one does
(`declared_field_told_unknown` is about one that does). A filter that is compiled as it is has all
its faults told from left to right, where that of a comparison's own field comes before the others
of the same comparison. -/
theorem compileJson_eq_error_iff_rejects [RegexEngine] (compiler : Compiler) (raw : Json) :
    (∀ fault, compiler.compileJson raw = .error fault ↔ Rejects compiler raw fault) ∧
    ((∃ condition, compiler.compileJson raw = .ok condition) ↔
      ∀ fault, ¬ Rejects compiler raw fault) ∧
    (∀ fault, Filter.read compiler.limit raw = .error fault →
      compiler.compileJson raw = .error fault ∧ ∃ form, fault = .malformed form) ∧
    (∀ filters, Filter.read compiler.limit raw = .ok filters →
      compiler.firstUndeclared? filters = none → ∀ c ∈ Filter.comparisonsAll filters,
        (compiler.compileJson raw = .error (.unknownField c.field) →
          ∃ c' ∈ Filter.comparisonsAll filters,
            compiler.buildFault? c' = some (.unknownField c.field)) ∧
        (compiler.registry = .builtin →
          compiler.compileJson raw ≠ .error (.unknownField c.field))) ∧
    ∀ filter, (∀ fault, compiler.compile filter = .error fault ↔
        (filter.faultsBy compiler.comparisonFault?).head? = some fault) ∧
      ((∃ condition, compiler.compile filter = .ok condition) ↔
        filter.faultsBy compiler.comparisonFault? = []) := by
  refine ⟨fun fault => compileJson_eq_error_iff, compileJson_eq_ok_iff, fun fault hread => ?_,
    fun filters hread hdeclared c hc =>
      ⟨exists_buildFault?_of_own_field hread hdeclared hc, fun hregistry herror => ?_⟩,
    fun filter => ⟨fun fault => compile_eq_error_iff, compile_eq_ok_iff⟩⟩
  · obtain ⟨form, rfl⟩ := Filter.read_formOnly compiler.limit raw fault hread
    exact ⟨compileJson_eq_error_iff.mpr (.form hread), form, rfl⟩
  · obtain ⟨c', -, hbuild⟩ := exists_buildFault?_of_own_field hread hdeclared hc herror
    obtain ⟨operator, reason, h⟩ := badOperand_of_buildFault? hbuild hregistry
    cases h

/-- A filter for pairs with many faults: an unknown operator, a negation of nothing, and the
undeclared field `c`. -/
def faultyFilter : Json :=
  .obj [("AND", .arr [
    .obj [("name", .str "a"), ("op", .str "near")],
    .obj [("NOT", .arr [])],
    .obj [("is", .obj [("c", .int 1)])]])]

/-- The undeclared field is told, though it comes last. -/
theorem compileJson_faultyFilter :
    compileJson { schema := pairSchema } faultyFilter = .error (.unknownField "c") :=
  ((compileJson_eq_error_iff_rejects { schema := pairSchema } faultyFilter).1 _).mpr
    (.field (c := { field := "c", operator := "is", argument := some (.int 1) }) rfl rfl)

/-- A compiler for pairs whose only operator answers that it knows no field. -/
def knowingNoField : Compiler where
  schema := pairSchema
  registry := .register .empty ["eq"] (.unary fun field => .error (.unknownField field.name))

/-- An operator may answer with any fault. So the declared field of a comparison can be told as
unknown, though the filter is in the grammar and all its comparisons are about declared fields. -/
theorem declared_field_told_unknown :
    ∃ filters,
      Filter.read knowingNoField.limit (.obj [("EQ", .obj [("a", .int 1)])]) = .ok filters ∧
      knowingNoField.firstUndeclared? filters = none ∧
      ∃ c ∈ Filter.comparisonsAll filters,
        knowingNoField.compileJson (.obj [("EQ", .obj [("a", .int 1)])]) =
          .error (.unknownField c.field) :=
  ⟨[.leaf { field := "a", operator := "eq", argument := some (.int 1) }], rfl, rfl, _, .head _, rfl⟩

end Compiler
end LogSieve
