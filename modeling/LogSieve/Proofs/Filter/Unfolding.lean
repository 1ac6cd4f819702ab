import LogSieve.Proofs.Filter.Negation

/-!
# Operators that others express

`IN` asks whether a field is equal to some member of a list, and so does the disjunction of the
equalities with its members (`any_equals`); those with `null`, which do not compile, may be left
out. `NOT_IN` and `NOT_LIKE` are the negations of `IN` and `LIKE` (`alike_complement`), up to the
name of the operator in a fault. `derived_operators_unfold` says so of filters in JSON.
-/

namespace LogSieve

/-! ### Conditions of equality -/

namespace Condition

/-- The field is equal to the value. -/
def equals (name : String) (v : Json) : Condition := fun fields =>
  (fields name).any (·.valuesEqual v)

/-- The field is equal to one of the values. -/
def equalsSome (name : String) (members : List Json) : Condition := fun fields =>
  (fields name).any fun value => members.any value.valuesEqual

/-- Members that are `null` make no difference to membership, nor do the order of the others and how
often they stand in the list. -/
theorem equalsSome_congr {name : String} {members members' : List Json}
    (h : ∀ v, v ≠ .null → (v ∈ members ↔ v ∈ members')) :
    equalsSome name members = equalsSome name members' := by
  have himplies {first second : List Json} (hsub : ∀ v, v ≠ .null → v ∈ first → v ∈ second)
      {value : Json} (hany : first.any value.valuesEqual = true) :
      second.any value.valuesEqual = true := by
    obtain ⟨v, hv, hequal⟩ := List.any_eq_true.mp hany
    refine List.any_eq_true.mpr ⟨v, hsub v ?_ hv, hequal⟩
    rintro rfl
    rw [Json.valuesEqual_null] at hequal
    cases hequal
  funext fields
  unfold equalsSome
  cases fields name with
  | none => rfl
  | some value =>
    rw [Option.any_some, Option.any_some, Bool.eq_iff_iff]
    exact ⟨himplies fun v hv => (h v hv).mp, himplies fun v hv => (h v hv).mpr⟩

/-- **To be equal to one of several values is to be equal to this one or that one.** -/
theorem any_equals (name : String) (members : List Json) :
    any (members.map (equals name)) = equalsSome name members := by
  funext fields
  unfold any equalsSome equals
  rw [List.any_map]
  cases hvalue : fields name with
  | none => simp [Function.comp_def, hvalue]
  | some value => simp only [Function.comp_def, hvalue, Option.any_some]

end Condition

namespace Operator

theorem equal_value (field : Field) (v : Json) :
    equal field (.value v) = .ok (Condition.equals field.name v) := by
  rw [equal, Except.ok.injEq]
  funext fields
  rw [Condition.equals]
  cases fields field.name <;> rfl

theorem member_list (field : Field) (members : List Json) :
    member field (.value (.arr members)) = .ok (Condition.equalsSome field.name members) := by
  rw [member, Except.ok.injEq]
  funext fields
  rw [Condition.equalsSome]
  cases fields field.name <;> rfl

end Operator

/-! ### Operators in JSON -/

namespace Filter

/-- An operator with its operand, in JSON. -/
def operatorJson (key name : String) (v : Json) : Json := .obj [(key, .obj [(name, v)])]

variable {limit level : Nat} {key : String}

theorem readAt_operatorJson (hlevel : level ≤ limit) (hkey : Text.asciiLower key ∈ operatorKeys)
    (name : String) (v : Json) :
    readAt limit level (operatorJson key name v) =
      .ok (leaf { field := name, operator := Text.asciiLower key, argument := nonNull v }) := by
  refine (readAt_eq_ok_iff level _ _).mpr ⟨.operator hkey (nonNull_eq_iff.mp rfl), ?_⟩
  rw [depth]
  omega

/-- Items of which each can be read are read one by one. -/
theorem readAll_map {α : Type} {write : α → Json} {filter : α → Filter} {values : List α}
    (h : ∀ v ∈ values, readAt limit level (write v) = .ok (filter v)) :
    readAll limit level (values.map write) = .ok (values.map filter) := by
  induction values with
  | nil => rfl
  | cons v rest ih =>
    obtain ⟨hv, hrest⟩ := List.forall_mem_cons.mp h
    exact readAll_cons_eq_ok_iff.mpr ⟨_, _, hv, ih hrest, rfl⟩

end Filter

namespace Compiler

open LogSieve.Filter LogSieve.Operator

variable {compiler : Compiler}

/-- Filters of which each compiles are compiled one by one. -/
theorem compileAll_map {α : Type} {filter : α → Filter} {part : α → Condition} {values : List α}
    (h : ∀ v ∈ values, compiler.compile (filter v) = .ok (part v)) :
    compiler.compileAll (values.map filter) = .ok (values.map part) := by
  induction values with
  | nil => rfl
  | cons v rest ih =>
    obtain ⟨hv, hrest⟩ := List.forall_mem_cons.mp h
    exact compileAll_cons_eq_ok_iff.mpr ⟨_, _, hv, ih hrest, rfl⟩

theorem checkFieldsAll_eq_ok {filters : List Filter}
    (h : ∀ c ∈ comparisonsAll filters, compiler.schema.hasField c.field = true) :
    checkFieldsAll compiler.schema filters = .ok () := by
  rw [← firstUndeclared?_eq_none_iff] at h
  obtain ⟨⟨⟩, hok⟩ : ∃ u, checkFieldsAll compiler.schema filters = .ok u := by
    rw [← fault?_eq_none_iff, fault?_checkFieldsAll, h, Option.map_none]
  exact hok

/-- JSON that is read as one filter, all of whose fields are declared, compiles as it does. -/
theorem compileJson_of_read_single {raw : Json} {filter : Filter}
    (hread : Filter.read compiler.limit raw = .ok [filter])
    (hfields : ∀ c ∈ filter.comparisons, compiler.schema.hasField c.field = true) :
    compiler.compileJson raw = compiler.compile filter := by
  have hcheck : checkFieldsAll compiler.schema [filter] = .ok () := by
    refine checkFieldsAll_eq_ok fun c hc => hfields c ?_
    simpa [comparisonsAll] using hc
  rw [compileJson, readFilter, hread, ok_bind, hcheck]
  rfl

variable {schema : Schema} {limit : Nat} {name : String}

/-- The negation of an operator with its operand, in JSON, compiles to the opposite. -/
theorem compileJson_negated_operator (hlimit : 2 ≤ compiler.limit)
    (hfield : compiler.schema.hasField name = true) {key : String}
    (hkey : Text.asciiLower key ∈ operatorKeys) (v : Json) :
    compiler.compileJson (negationJson (operatorJson key name v)) =
      (compiler.compileJson (operatorJson key name v)).map Condition.negate := by
  have hpositive : Filter.read compiler.limit (operatorJson key name v) = .ok
      [.leaf { field := name, operator := Text.asciiLower key, argument := nonNull v }] :=
    read_operator (by omega) hkey (nonNull_eq_iff.mp rfl)
  have hnegative : Filter.read compiler.limit (negationJson (operatorJson key name v)) = .ok
      [negation
        (.leaf { field := name, operator := Text.asciiLower key, argument := nonNull v })] := by
    rw [operatorJson, read_negationJson (by omega), ← operatorJson,
      readAt_operatorJson hlimit hkey]
    rfl
  rw [compileJson_of_read_single hpositive (by simpa [comparisons] using hfield),
    compileJson_of_read_single hnegative
      (by simpa [negation, comparisons, comparisonsAll] using hfield),
    compile_negation]

/-! ### Alike -/

/-- Two texts are accepted alike and match alike: both compile or neither does, and if they do,
their conditions hold of the same records. -/
def Alike (compiler : Compiler) (first second : Json) : Prop :=
  ((∃ p, compiler.compileJson first = .ok p) ↔ ∃ q, compiler.compileJson second = .ok q) ∧
    ∀ p q, compiler.compileJson first = .ok p → compiler.compileJson second = .ok q →
      ∀ fields, p fields = q fields

theorem alike_of_eq {first second : Json}
    (h : compiler.compileJson first = compiler.compileJson second) :
    compiler.Alike first second := by
  refine ⟨by rw [h], fun p q hp hq fields => ?_⟩
  rw [h, hq, Except.ok.injEq] at hp
  rw [hp]

theorem alike_of_refused {first second : Json} {fault fault' : FilterFault}
    (hfirst : compiler.compileJson first = .error fault)
    (hsecond : compiler.compileJson second = .error fault') : compiler.Alike first second := by
  refine ⟨iff_of_false ?_ ?_, fun p q hp _ => ?_⟩
  · rintro ⟨p, hp⟩
    rw [hfirst] at hp
    cases hp
  · rintro ⟨q, hq⟩
    rw [hsecond] at hq
    cases hq
  · rw [hfirst] at hp
    cases hp

/-! ### Membership and complements -/

section

variable [RegexEngine]

theorem compileJson_member (hlimit : 1 ≤ limit) (hfield : schema.hasField name = true)
    (members : List Json) :
    compileJson { schema, limit } (operatorJson "IN" name (.arr members)) =
      .ok (Condition.equalsSome name members) := by
  obtain ⟨field, hdeclared, rfl⟩ := Schema.exists_field? hfield
  have hnull : Json.arr members ≠ .null := by rintro ⟨⟩
  have hlookup : Registry.builtin.lookup (Text.asciiLower "IN") =
      .ok ⟨"in", .binary, .binary member⟩ :=
    Registry.lookup_builtin _
  rw [operatorJson, compileJson_operator_value hlimit (by decide) hdeclared hlookup hnull,
    member_list]

/-- The disjunction of the equalities with values that are not `null`. -/
theorem compileJson_equalities (hlimit : 2 ≤ limit) (hfield : schema.hasField name = true)
    {members : List Json} (hnull : ∀ v ∈ members, nonNull v = some v) :
    compileJson { schema, limit } (groupJson .or (members.map (operatorJson "EQ" name))) =
      .ok (Condition.equalsSome name members) := by
  obtain ⟨field, hdeclared, rfl⟩ := Schema.exists_field? hfield
  let equality (v : Json) : Filter :=
    .leaf { field := field.name, operator := "eq", argument := some v }
  have hread : Filter.read limit (groupJson .or (members.map (operatorJson "EQ" field.name))) =
      .ok [.group .or (members.map equality)] := by
    have hmembers : ∀ v ∈ members,
        readAt limit 2 (operatorJson "EQ" field.name v) = .ok (equality v) := by
      intro v hv
      rw [readAt_operatorJson hlimit (by decide), hnull v hv]
      rfl
    rw [read_groupJson (by omega), readAll_map hmembers]
    rfl
  have hfields : ∀ c ∈ (Filter.group .or (members.map equality)).comparisons,
      schema.hasField c.field = true := by
    intro c hc
    rw [comparisons, mem_comparisonsAll] at hc
    obtain ⟨filter, hfilter, hc⟩ := hc
    obtain ⟨v, -, rfl⟩ := List.mem_map.mp hfilter
    rw [List.mem_singleton.mp hc]
    exact hfield
  have hcompile : ∀ v ∈ members, compile { schema, limit } (equality v) =
      .ok (Condition.equals field.name v) := by
    intro v _
    have hlookup : Registry.builtin.lookup "eq" = .ok ⟨"eq", .binary, .binary equal⟩ := rfl
    rw [compile, comparison_value { schema, registry := .builtin, limit } hdeclared hlookup,
      equal_value]
  rw [compileJson_of_read_single hread hfields, compile, compileAll_map hcompile, ok_bind, combine,
    Condition.any_equals]

/-- **A complement is the negation of its operator**: where one operator builds the complement of
what another builds, its filters in JSON are accepted and match as the negations of the other's. -/
theorem alike_complement {own own' key key' : String}
    {build : Field → Operand → Except FilterFault Condition}
    (hlookup : Registry.builtin.lookup (Text.asciiLower key) =
      .ok ⟨own, .binary, .binary (complement build)⟩)
    (hlookup' : Registry.builtin.lookup (Text.asciiLower key') =
      .ok ⟨own', .binary, .binary build⟩)
    (hkey : Text.asciiLower key ∈ operatorKeys) (hkey' : Text.asciiLower key' ∈ operatorKeys)
    (hlimit : 2 ≤ limit) (hfield : schema.hasField name = true) (v : Json) :
    Alike { schema, limit } (operatorJson key name v)
      (negationJson (operatorJson key' name v)) := by
  obtain ⟨field, hdeclared, rfl⟩ := Schema.exists_field? hfield
  have hone : 1 ≤ limit := by omega
  by_cases hv : v = .null
  · -- either is refused for want of an operand, each under its own name
    subst hv
    have hfirst : compileJson { schema, limit } (operatorJson key field.name .null) =
        .error (.noOperand (Text.asciiLower key)) :=
      compileJson_operator_null hone hkey hdeclared hlookup
    have hsecond : compileJson { schema, limit }
        (negationJson (operatorJson key' field.name .null)) =
          .error (.noOperand (Text.asciiLower key')) := by
      rw [compileJson_negated_operator hlimit hfield hkey', operatorJson,
        compileJson_operator_null hone hkey' hdeclared hlookup']
      rfl
    exact alike_of_refused hfirst hsecond
  · refine alike_of_eq ?_
    rw [compileJson_negated_operator hlimit hfield hkey', operatorJson, operatorJson,
      compileJson_operator_value hone hkey hdeclared hlookup hv,
      compileJson_operator_value hone hkey' hdeclared hlookup' hv]
    rfl

/-- **Derived operators unfold.** Where the limit allows for two levels, and for any declared field:
`IN` with a list and the disjunction of `EQ` over its members other than `null` are both accepted
and match the same records, and so is `IN` with any list of the same members, whatever their order
and however often each stands there, `null` or not; and `NOT_IN` and `NOT_LIKE`, with whatever
operand, are accepted and match as the negations of `IN` and `LIKE`. -/
theorem derived_operators_unfold (schema : Schema) (limit : Nat) (name : String)
    (hlimit : 2 ≤ limit) (hfield : schema.hasField name = true) :
    (∀ members : List Json,
      (∃ p q,
        compileJson { schema, limit } (operatorJson "IN" name (.arr members)) = .ok p ∧
        compileJson { schema, limit } (groupJson .or
          ((members.filter fun v => !v.isNull).map (operatorJson "EQ" name))) = .ok q ∧
        ∀ fields, p fields = q fields) ∧
      ∀ members' : List Json, (∀ v, v ≠ .null → (v ∈ members ↔ v ∈ members')) →
        Alike { schema, limit } (operatorJson "IN" name (.arr members))
          (operatorJson "IN" name (.arr members'))) ∧
    ∀ v : Json,
      Alike { schema, limit } (operatorJson "NOT_IN" name v)
        (negationJson (operatorJson "IN" name v)) ∧
      Alike { schema, limit } (operatorJson "NOT_LIKE" name v)
        (negationJson (operatorJson "LIKE" name v)) := by
  have hone : 1 ≤ limit := by omega
  refine ⟨fun members => ⟨?_, fun members' hsame => ?_⟩, fun v => ⟨?_, ?_⟩⟩
  · have hnull : ∀ v ∈ members.filter (fun v => !v.isNull), nonNull v = some v := by
      intro v hv
      have hisNull : v.isNull = false := by simpa using (List.mem_filter.mp hv).2
      simp [nonNull, hisNull]
    have hpresent : ∀ v, v ≠ .null → (v ∈ members ↔ v ∈ members.filter fun v => !v.isNull) := by
      intro v hv
      have hisNull : v.isNull = false := by cases v <;> first | rfl | exact absurd rfl hv
      simp [List.mem_filter, hisNull]
    refine ⟨_, _, compileJson_member hone hfield members,
      compileJson_equalities hlimit hfield hnull, fun fields => ?_⟩
    rw [Condition.equalsSome_congr hpresent]
  · refine alike_of_eq ?_
    rw [compileJson_member hone hfield, compileJson_member hone hfield,
      Condition.equalsSome_congr hsame]
  · have hlookup : Registry.builtin.lookup (Text.asciiLower "NOT_IN") =
        .ok ⟨"not_in", .binary, .binary (complement member)⟩ :=
      Registry.lookup_builtin _
    have hlookup' : Registry.builtin.lookup (Text.asciiLower "IN") =
        .ok ⟨"in", .binary, .binary member⟩ :=
      Registry.lookup_builtin _
    exact alike_complement hlookup hlookup' (by decide) (by decide) hlimit hfield v
  · have hlookup : Registry.builtin.lookup (Text.asciiLower "NOT_LIKE") =
        .ok ⟨"not_like", .binary, .binary (complement like)⟩ :=
      Registry.lookup_builtin _
    have hlookup' : Registry.builtin.lookup (Text.asciiLower "LIKE") =
        .ok ⟨"like", .binary, .binary like⟩ :=
      Registry.lookup_builtin _
    exact alike_complement hlookup hlookup' (by decide) (by decide) hlimit hfield v

end

/-- A list with `null` and a text, a longer one with the same text, and `null` alone. -/
theorem derived_operators_unfold_pair :
    (∃ p q,
      compileJson { schema := pairSchema, limit := 2 }
        (operatorJson "IN" "a" (.arr [.str "x", .null])) = .ok p ∧
      compileJson { schema := pairSchema, limit := 2 }
        (groupJson .or [operatorJson "EQ" "a" (.str "x")]) = .ok q ∧
      (∀ fields, p fields = q fields) ∧ q (fun _ => some (.str "x")) = true) ∧
    Alike { schema := pairSchema, limit := 2 } (operatorJson "IN" "a" (.arr [.str "x", .null]))
      (operatorJson "IN" "a" (.arr [.null, .str "x", .str "x"])) ∧
    Alike { schema := pairSchema, limit := 2 } (operatorJson "NOT_LIKE" "a" .null)
      (negationJson (operatorJson "LIKE" "a" .null)) := by
  obtain ⟨hmember, hcomplement⟩ :=
    derived_operators_unfold pairSchema 2 "a" (Nat.le_refl 2) (by decide)
  obtain ⟨⟨p, q, hp, hq, hsame⟩, hmembers⟩ := hmember [.str "x", .null]
  refine ⟨⟨p, q, hp, hq, hsame, ?_⟩, hmembers _ fun v hv => ?_, (hcomplement .null).2⟩
  · cases hq
    decide
  · simp [hv]

end Compiler

end LogSieve
