import LogSieve.Proofs.Filter.Negation

/-!
# Groups that may be left out

The same filters can be grouped in several ways: a list at the top is an `AND`, a negation of
several filters negates their `AND`, and the single member of a negation need not be listed. A group
that is written out takes a level of its own, so that what is in it stands one level deeper; if the
limit is greater by one, it is read as it was (`readAt_deeper`), and compiling does not tell the
ways apart (`compile_ofList`, `compile_group_not`). `grouping_is_sugar` puts this together.
-/

namespace LogSieve

/-! ### Steps that differ in the limit only -/

/-- Two steps end alike if the second has a limit that is greater by one: both have the same result
or the same fault, but a filter that is nested too deep is so for the limit of each. -/
inductive SameButLimit (limit : Nat) {α : Type} :
    Except FilterFault α → Except FilterFault α → Prop where
  /-- The same result. -/
  | result (a : α) : SameButLimit limit (.ok a) (.ok a)
  /-- The same fault. -/
  | fault (fault : FilterFault) : SameButLimit limit (.error fault) (.error fault)
  /-- Nested too deep, either for its limit. -/
  | tooDeep :
    SameButLimit limit (Filter.malformed (.tooDeep limit)) (Filter.malformed (.tooDeep (limit + 1)))

namespace SameButLimit

variable {limit : Nat} {α β : Type}

theorem refl (step : Except FilterFault α) : SameButLimit limit step step := by
  cases step with
  | ok a => exact .result a
  | error fault => exact .fault fault

theorem bind {step step' : Except FilterFault α} {next next' : α → Except FilterFault β}
    (h : SameButLimit limit step step')
    (hnext : ∀ a, step = .ok a → SameButLimit limit (next a) (next' a)) :
    SameButLimit limit (step >>= next) (step' >>= next') := by
  cases h with
  | result a => exact hnext a rfl
  | fault fault => exact .fault fault
  | tooDeep => exact .tooDeep

end SameButLimit

namespace Filter

/-! ### One level deeper -/

mutual

/-- **One level deeper, with one level more to go, the same is read.** -/
theorem readAt_deeper (limit level : Nat) (raw : Json) :
    SameButLimit limit (readAt limit level raw) (readAt (limit + 1) (level + 1) raw) := by
  rw [readAt.eq_def, readAt.eq_def]
  simp only [Nat.add_lt_add_iff_right]
  split
  · next entries =>
    split
    · exact .tooDeep
    · split
      · exact .refl _
      · exact readNode_deeper limit level entries
  · split
    · exact .tooDeep
    · exact .refl _
termination_by sizeOf raw

theorem readNode_deeper (limit level : Nat) (entries : List (String × Json)) :
    SameButLimit limit (readNode limit level entries)
      (readNode (limit + 1) (level + 1) entries) := by
  rw [readNode.eq_def, readNode.eq_def]
  split
  · exact .refl _
  · next key v =>
    split
    · split
      · next items =>
        exact (readAll_deeper limit (level + 1) items).bind fun members _ => .refl _
      · split
        · exact (readAt_deeper limit (level + 1) v).bind fun member _ => .refl _
        · exact .refl _
    · exact .refl _
  · exact .refl _
termination_by sizeOf entries

theorem readAll_deeper (limit level : Nat) (items : List Json) :
    SameButLimit limit (readAll limit level items) (readAll (limit + 1) (level + 1) items) := by
  cases items with
  | nil => exact .refl _
  | cons item rest =>
    rw [readAll, readAll]
    refine (readAt_deeper limit level item).bind fun filter _ => ?_
    exact (readAll_deeper limit level rest).bind fun others _ => .refl _
termination_by sizeOf items

end

/-! ### Groups as they are read -/

variable {limit : Nat}

/-- The one member of a negation may be listed. -/
theorem read_negation_listed (entries : List (String × Json)) :
    read limit (negationJson (.obj entries)) = read limit (groupJson .not [.obj entries]) := by
  by_cases h : 1 ≤ limit
  · rw [read_negationJson h, read_groupJson h, readAll, readAll]
    cases readAt limit 2 (.obj entries) <;> rfl
  · have hlevel : limit < 1 := by omega
    rw [negationJson, groupJson, read_obj, read_obj, readAt_of_gt hlevel, readAt_of_gt hlevel]

theorem ne_nil_of_readAll {level : Nat} {items : List Json} {filters : List Filter}
    (h : readAll limit level items = .ok filters) (hne : items ≠ []) : filters ≠ [] := by
  obtain ⟨item, rest, rfl⟩ := List.exists_cons_of_ne_nil hne
  obtain ⟨filter, others, -, -, rfl⟩ := readAll_cons_eq_ok_iff.mp h
  exact List.cons_ne_nil filter others

end Filter

namespace Compiler

open LogSieve.Filter

/-! ### Groups as they are compiled -/

variable (schema : Schema) (registry : Registry) (limit : Nat)

mutual

/-- The limit is for reading only. -/
theorem compile_limit (limit' : Nat) : ∀ filter,
    compile { schema, registry, limit } filter =
      compile { schema, registry, limit := limit' } filter
  | .leaf _ => rfl
  | .group kind members => by
    rw [compile, compile, compileAll_limit limit' members]

theorem compileAll_limit (limit' : Nat) : ∀ filters,
    compileAll { schema, registry, limit } filters =
      compileAll { schema, registry, limit := limit' } filters
  | [] => rfl
  | filter :: rest => by
    rw [compileAll, compileAll, compile_limit limit' filter, compileAll_limit limit' rest]

end

variable (compiler : Compiler)

/-- A list of filters compiles as their conjunction, also if it is a single one. -/
theorem compile_ofList (filters : List Filter) :
    compiler.compile (.ofList filters) = compiler.compile (.group .and filters) := by
  unfold ofList
  split
  · next filter =>
    rw [compile, compileAll, compileAll]
    cases compiler.compile filter with
    | error fault => rfl
    | ok condition =>
      change _ = combine .and [condition]
      rw [combine, Condition.all_singleton]
  · rfl

/-- A negation of filters is the negation of their conjunction. -/
theorem compile_group_not {members : List Filter} (hne : members ≠ []) :
    compiler.compile (.group .not members) =
      compiler.compile (negation (.group .and members)) := by
  rw [compile_negation, compile, compile]
  cases hparts : compiler.compileAll members with
  | error fault => rfl
  | ok parts =>
    have hnot : parts.isEmpty = false := by
      rw [List.isEmpty_eq_false_iff, Ne, compileAll_eq_nil_iff hparts]
      exact hne
    rw [ok_bind, ok_bind, combine, combine, hnot]
    rfl

/-- A list of filters in JSON, checked and compiled. -/
theorem compileJson_arr (items : List Json) :
    compiler.compileJson (.arr items) = readAll compiler.limit 1 items >>= fun filters =>
      checkFieldsAll compiler.schema filters >>= fun _ => compiler.compile (.ofList filters) := by
  rw [compileJson, readFilter, Filter.read]
  cases readAll compiler.limit 1 items with
  | error fault => rfl
  | ok filters =>
    rw [ok_bind, ok_bind]
    cases checkFieldsAll compiler.schema filters <;> rfl

/-! ### The ways to group the same filters -/

variable (items : List Json)

/-- A list at the top is a conjunction. -/
theorem compileJson_conjunction :
    SameButLimit limit (compileJson { schema, registry, limit } (.arr items))
      (compileJson { schema, registry, limit := limit + 1 } (groupJson .and items)) := by
  rw [compileJson_arr, compileJson_of_read (read_groupJson (Nat.le_add_left 1 limit) .and items)]
  refine (readAll_deeper limit 1 items).bind fun filters _ => ?_
  rw [checkFields, compile_ofList, compile_limit schema registry limit (limit + 1)]
  exact .refl _

/-- A negation of several filters negates their conjunction. -/
theorem compileJson_negated_conjunction (hne : items ≠ []) :
    SameButLimit limit (compileJson { schema, registry, limit } (groupJson .not items))
      (compileJson { schema, registry, limit := limit + 1 }
        (negationJson (groupJson .and items))) := by
  cases limit with
  | zero =>
    -- neither negation can be read: the one stands too deep, and so does the group in the other
    exact .tooDeep
  | succ limit =>
    have hone : 1 ≤ limit + 1 := by omega
    have htwo : 2 ≤ limit + 1 + 1 := by omega
    rw [compileJson_of_read (read_groupJson hone .not items),
      compileJson_of_read (read_negated_group htwo .and items)]
    refine (readAll_deeper (limit + 1) 2 items).bind fun members hmembers => ?_
    rw [checkFields_negation, checkFields, checkFields,
      compile_group_not _ (ne_nil_of_readAll hmembers hne),
      compile_limit schema registry (limit + 1) (limit + 1 + 1)]
    exact .refl _

/-- **Grouping sugar is only sugar**, for every schema and every registry. Under a limit, a list of
any values at the top is accepted and matches as the `AND` of them does under a limit that is
greater by one, and a negation of some values as the negation of their `AND`; and if they are
refused, it is for the same fault, unless they are nested too deep, each for its limit. Under one
limit, the negation of an object and that of a list with this object alone come to the same. -/
theorem grouping_is_sugar (schema : Schema) (registry : Registry) (limit : Nat) :
    (∀ items : List Json,
      SameButLimit limit (compileJson { schema, registry, limit } (.arr items))
        (compileJson { schema, registry, limit := limit + 1 } (groupJson .and items))) ∧
    (∀ items : List Json, items ≠ [] →
      SameButLimit limit (compileJson { schema, registry, limit } (groupJson .not items))
        (compileJson { schema, registry, limit := limit + 1 }
          (negationJson (groupJson .and items)))) ∧
    ∀ entries : List (String × Json),
      compileJson { schema, registry, limit } (negationJson (.obj entries)) =
        compileJson { schema, registry, limit } (groupJson .not [.obj entries]) := by
  refine ⟨compileJson_conjunction schema registry limit,
    compileJson_negated_conjunction schema registry limit, fun entries => ?_⟩
  rw [compileJson, compileJson, readFilter, readFilter, read_negation_listed]

/-- A negation of one member, under a limit that allows for it and under one that does not. -/
theorem grouping_is_sugar_single :
    [Json.obj [("is", .obj [("a", .str "x")])]] ≠ [] ∧
    SameButLimit 2
      (compileJson { schema := pairSchema, limit := 2 }
        (groupJson .not [.obj [("is", .obj [("a", .str "x")])]]))
      (compileJson { schema := pairSchema, limit := 3 }
        (negationJson (groupJson .and [.obj [("is", .obj [("a", .str "x")])]]))) ∧
    (∃ p, compileJson { schema := pairSchema, limit := 2 }
        (groupJson .not [.obj [("is", .obj [("a", .str "x")])]]) = .ok p ∧
      p (fun _ => some (.str "x")) = false) ∧
    compileJson { schema := pairSchema, limit := 1 }
        (groupJson .not [.obj [("is", .obj [("a", .str "x")])]]) =
      Filter.malformed (.tooDeep 1) ∧
    compileJson { schema := pairSchema, limit := 2 }
        (negationJson (groupJson .and [.obj [("is", .obj [("a", .str "x")])]])) =
      Filter.malformed (.tooDeep 2) := by
  have hne : [Json.obj [("is", .obj [("a", .str "x")])]] ≠ [] := List.cons_ne_nil _ _
  exact ⟨hne, (grouping_is_sugar pairSchema .builtin 2).2.1 _ hne, ⟨_, rfl, by decide⟩, rfl, rfl⟩

end Compiler

end LogSieve
