import LogSieve.Proofs.Filter.Faults
import LogSieve.Search

/-!
# De Morgan's laws for filters

The negation of a group and the group of the negations under the other connective are one filter in
two spellings. Both are read at the same levels (`read_negated`, `read_dual`), both have the
comparisons of their members in the same order, and both compile to the same condition
(`compile_negated_eq_dual`). Hence `compileJson_deMorgan`: as JSON they are refused with the same
fault, or find the same records.
-/

namespace LogSieve

/-- The connective that De Morgan's laws exchange with the given one. -/
def Connective.dual : Connective → Connective
  | and => or
  | or => and
  | not => not

namespace Filter

/-! ### Groups in JSON -/

/-- A group with the given members, in JSON. -/
def groupJson (kind : Connective) (items : List Json) : Json := .obj [(kind.title, .arr items)]

/-- The negation of one filter, which is not listed, in JSON. -/
def negationJson (item : Json) : Json := .obj [(Connective.not.title, item)]

/-- The negation of one filter. -/
def negation (filter : Filter) : Filter := group .not [filter]

theorem asciiLower_title (kind : Connective) : Text.asciiLower kind.title = kind.key := by
  cases kind <;> decide

theorem ofKey?_title (kind : Connective) :
    Connective.ofKey? (Text.asciiLower kind.title) = some kind :=
  Connective.ofKey?_eq_some_iff.mpr (asciiLower_title kind)

theorem isComparison_title (kind : Connective) (v : Json) :
    isComparison [(kind.title, v)] = false :=
  isComparison_singleton (.inr ⟨kind, asciiLower_title kind⟩)

variable {limit level : Nat}

theorem readAt_groupJson (h : level ≤ limit) (kind : Connective) (items : List Json) :
    readAt limit level (groupJson kind items) =
      (readAll limit (level + 1) items).map (group kind) := by
  rw [groupJson, readAt, if_neg (Nat.not_lt.mpr h), if_neg (by simp [isComparison_title]), readNode,
    ofKey?_title]
  dsimp only
  cases readAll limit (level + 1) items <;> rfl

theorem readAt_negationJson (h : level ≤ limit) (entries : List (String × Json)) :
    readAt limit level (negationJson (.obj entries)) =
      (readAt limit (level + 1) (.obj entries)).map negation := by
  rw [negationJson, readAt, if_neg (Nat.not_lt.mpr h), if_neg (by simp [isComparison_title]),
    readNode, ofKey?_title]
  dsimp only
  rw [if_pos rfl]
  cases readAt limit (level + 1) (.obj entries) <;> rfl

theorem readAt_of_gt (h : limit < level) (entries : List (String × Json)) :
    readAt limit level (.obj entries) = malformed (.tooDeep limit) := by
  rw [readAt, if_pos h]

/-- Negations are read as their members are one level below. -/
theorem readAll_map_negationJson (h : level ≤ limit) (objects : List (List (String × Json))) :
    readAll limit level (objects.map fun entries => negationJson (.obj entries)) =
      (readAll limit (level + 1) (objects.map .obj)).map (List.map negation) := by
  induction objects with
  | nil => rfl
  | cons entries rest ih =>
    rw [List.map_cons, List.map_cons, readAll, readAll, readAt_negationJson h, ih]
    cases readAt limit (level + 1) (.obj entries) with
    | error fault => rfl
    | ok filter => cases readAll limit (level + 1) (rest.map .obj) <;> rfl

/-! ### Reading -/

variable {objects : List (List (String × Json))}

theorem readAll_of_gt (h : limit < level) (hne : objects ≠ []) :
    readAll limit level (objects.map .obj) = malformed (.tooDeep limit) := by
  cases objects with
  | nil => exact absurd rfl hne
  | cons entries rest =>
    rw [List.map_cons, readAll, readAt_of_gt h]
    rfl

theorem read_obj (entries : List (String × Json)) :
    read limit (.obj entries) = (readAt limit 1 (.obj entries)).map ([·]) := by
  rw [read.eq_def]
  dsimp only
  cases readAt limit 1 (.obj entries) <;> rfl

/-- The members of a group stand on the second level. -/
theorem read_groupJson (h : 1 ≤ limit) (kind : Connective) (items : List Json) :
    read limit (groupJson kind items) =
      (readAll limit 2 items).map fun members => [group kind members] := by
  rw [groupJson, read_obj, ← groupJson, readAt_groupJson h]
  cases readAll limit 2 items <;> rfl

/-- What is negated stands on the second level. -/
theorem read_negationJson (h : 1 ≤ limit) (entries : List (String × Json)) :
    read limit (negationJson (.obj entries)) =
      (readAt limit 2 (.obj entries)).map fun member => [negation member] := by
  rw [negationJson, read_obj, ← negationJson, readAt_negationJson h]
  cases readAt limit 2 (.obj entries) <;> rfl

/-- The members of a group that is negated stand on the third level. -/
theorem read_negated_group (h : 2 ≤ limit) (kind : Connective) (items : List Json) :
    read limit (negationJson (groupJson kind items)) =
      (readAll limit 3 items).map fun members => [negation (group kind members)] := by
  rw [groupJson, read_negationJson (by omega), ← groupJson, readAt_groupJson h]
  cases readAll limit 3 items <;> rfl

/-- The members of a negated group stand on the third level, also if the limit does not allow for
it. -/
theorem read_negated (kind : Connective) (hne : objects ≠ []) :
    read limit (negationJson (groupJson kind (objects.map .obj))) =
      (readAll limit 3 (objects.map .obj)).map fun members => [negation (group kind members)] := by
  by_cases htwo : 2 ≤ limit
  · exact read_negated_group htwo kind _
  · rw [readAll_of_gt (by omega) hne]
    by_cases hone : 1 ≤ limit
    · rw [groupJson, read_negationJson hone, readAt_of_gt (by omega)]
      rfl
    · rw [negationJson, read_obj, readAt_of_gt (by omega)]
      rfl

/-- The members of the negations in a group stand on the third level. -/
theorem read_dual (kind : Connective) (hne : objects ≠ []) :
    read limit (groupJson kind (objects.map fun entries => negationJson (.obj entries))) =
      (readAll limit 3 (objects.map .obj)).map fun members =>
        [group kind (members.map negation)] := by
  by_cases hone : 1 ≤ limit
  · rw [read_groupJson hone]
    by_cases htwo : 2 ≤ limit
    · rw [readAll_map_negationJson htwo]
      cases readAll limit 3 (objects.map .obj) <;> rfl
    · -- the negations themselves stand beyond the limit
      have hne' : (objects.map fun entries => [(Connective.not.title, Json.obj entries)]) ≠ [] := by
        simpa using hne
      have hnegations := readAll_of_gt (show limit < 2 by omega) hne'
      rw [List.map_map] at hnegations
      rw [show (fun entries => negationJson (.obj entries)) =
        Json.obj ∘ fun entries => [(Connective.not.title, Json.obj entries)] from rfl, hnegations,
        readAll_of_gt (by omega) hne]
      rfl
  · rw [groupJson, read_obj, readAt_of_gt (by omega), readAll_of_gt (by omega) hne]
    rfl

/-! ### Fields -/

theorem checkFields_negation (schema : Schema) (filter : Filter) :
    checkFields schema (negation filter) = checkFields schema filter := by
  rw [negation, checkFields, checkFieldsAll, checkFieldsAll]
  cases checkFields schema filter <;> rfl

theorem checkFieldsAll_map_negation (schema : Schema) (filters : List Filter) :
    checkFieldsAll schema (filters.map negation) = checkFieldsAll schema filters := by
  induction filters with
  | nil => rfl
  | cons filter rest ih =>
    rw [List.map_cons, checkFieldsAll, checkFieldsAll, checkFields_negation, ih]

/-- A negated group and the group of negations have the same comparisons in the same order. -/
theorem checkFields_negated_eq_dual (schema : Schema) (kind : Connective) (members : List Filter) :
    checkFields schema (negation (group kind members)) =
      checkFields schema (group kind.dual (members.map negation)) := by
  rw [checkFields_negation, checkFields, checkFields, checkFieldsAll_map_negation]

end Filter

theorem Condition.all_singleton (condition : Condition) : all [condition] = condition := by
  funext fields
  simp [Condition.all]

namespace Compiler

open LogSieve.Filter

/-! ### Compiling -/

variable (compiler : Compiler)

theorem compile_negation (filter : Filter) :
    compiler.compile (negation filter) = (compiler.compile filter).map Condition.negate := by
  rw [negation, compile, compileAll, compileAll]
  cases compiler.compile filter with
  | error fault => rfl
  | ok condition =>
    change combine .not [condition] = _
    rw [combine, Condition.all_singleton]
    rfl

theorem compileAll_map_negation (filters : List Filter) :
    compiler.compileAll (filters.map negation) =
      (compiler.compileAll filters).map (List.map Condition.negate) := by
  induction filters with
  | nil => rfl
  | cons filter rest ih =>
    rw [List.map_cons, compileAll, compileAll, compile_negation, ih]
    cases compiler.compile filter with
    | error fault => rfl
    | ok condition => cases compiler.compileAll rest <;> rfl

/-- De Morgan's laws for conditions: the dual connective of the opposites is the opposite. -/
theorem combine_dual {kind : Connective} (hkind : kind ≠ .not) (parts : List Condition) :
    combine kind.dual (parts.map Condition.negate) = (combine kind parts).map Condition.negate := by
  cases kind with
  | and =>
    refine congrArg Except.ok (funext fun fields => ?_)
    simp [Condition.any, Condition.all, Condition.negate, List.not_all_eq_any_not,
      Function.comp_def]
  | or =>
    refine congrArg Except.ok (funext fun fields => ?_)
    simp [Condition.any, Condition.all, Condition.negate, List.not_any_eq_all_not,
      Function.comp_def]
  | not => exact absurd rfl hkind

/-- **De Morgan's laws for filters**: a negated group and the group of the negations under the other
connective compile to the same condition, or have the same fault. -/
theorem compile_negated_eq_dual {kind : Connective} (hkind : kind ≠ .not) (members : List Filter) :
    compiler.compile (negation (group kind members)) =
      compiler.compile (group kind.dual (members.map negation)) := by
  rw [compile_negation, compile, compile, compileAll_map_negation]
  cases compiler.compileAll members with
  | error fault => rfl
  | ok parts => exact (combine_dual hkind parts).symm

variable {compiler}

/-- JSON that is read as one filter is that filter, checked and compiled. -/
theorem compileJson_of_read {raw : Json} {reading : Except FilterFault (List Filter)}
    {form : List Filter → Filter}
    (h : Filter.read compiler.limit raw = reading.map fun members => [form members]) :
    compiler.compileJson raw = reading >>= fun members =>
      checkFields compiler.schema (form members) >>= fun _ => compiler.compile (form members) := by
  rw [compileJson, readFilter, h]
  cases reading with
  | error fault => rfl
  | ok members =>
    change (checkFieldsAll compiler.schema [form members] >>= _) >>= _ = _
    rw [checkFieldsAll, checkFieldsAll]
    change _ = checkFields compiler.schema (form members) >>= _
    cases checkFields compiler.schema (form members) <;> rfl

/-- **De Morgan's laws for filters in JSON.** Take any objects, filters or not, and put them into a
list under `AND` or `OR`. The negation of that, and the list of their negations under the other key,
are both refused with the same fault; or both compile, to conditions that hold of the same records,
so that they find the same in every collection. -/
theorem compileJson_deMorgan (compiler : Compiler) (kind : Connective) (hkind : kind ≠ .not)
    (objects : List (List (String × Json))) (hne : objects ≠ []) :
    (∃ fault,
      compiler.compileJson (negationJson (groupJson kind (objects.map .obj))) = .error fault ∧
      compiler.compileJson (groupJson kind.dual (objects.map fun entries =>
        negationJson (.obj entries))) = .error fault) ∨
    ∃ p q,
      compiler.compileJson (negationJson (groupJson kind (objects.map .obj))) = .ok p ∧
      compiler.compileJson (groupJson kind.dual (objects.map fun entries =>
        negationJson (.obj entries))) = .ok q ∧
      (∀ fields, p fields = q fields) ∧
      ∀ (R : Type) [HasFields R] (schema : Schema) (records : List R),
        execute schema p records = execute schema q records := by
  have hsame : compiler.compileJson (negationJson (groupJson kind (objects.map .obj))) =
      compiler.compileJson (groupJson kind.dual (objects.map fun entries =>
        negationJson (.obj entries))) := by
    rw [compileJson_of_read (read_negated kind hne), compileJson_of_read (read_dual kind.dual hne)]
    simp only [checkFields_negated_eq_dual, compile_negated_eq_dual compiler hkind]
  rw [← hsame]
  cases h : compiler.compileJson (negationJson (groupJson kind (objects.map .obj))) with
  | error fault => exact .inl ⟨fault, rfl, rfl⟩
  | ok p => exact .inr ⟨p, p, rfl, rfl, fun _ => rfl, fun _ _ _ _ => rfl⟩

/-- Neither `a` is `x` nor `b` starts with `y`: the negations may take the place of the group at the
least limit that it has, and a pair of `z` and `y` meets neither condition. -/
theorem compileJson_deMorgan_pair :
    ∃ p q,
      compileJson { schema := pairSchema, limit := 3 } (.obj [("NOT", .obj [("OR", .arr [
        .obj [("is", .obj [("a", .str "x")])],
        .obj [("like", .obj [("b", .str "y%")])]])])]) = .ok p ∧
      compileJson { schema := pairSchema, limit := 3 } (.obj [("AND", .arr [
        .obj [("NOT", .obj [("is", .obj [("a", .str "x")])])],
        .obj [("NOT", .obj [("like", .obj [("b", .str "y%")])])]])]) = .ok q ∧
      (∀ fields, p fields = q fields) ∧
      q (fun name => some (.str (if name = "a" then "z" else "y"))) = false := by
  rcases compileJson_deMorgan { schema := pairSchema, limit := 3 } .or (by decide)
    [[("is", .obj [("a", .str "x")])], [("like", .obj [("b", .str "y%")])]] (by simp) with
    ⟨fault, h, -⟩ | ⟨p, q, hp, hq, hsame, -⟩
  · cases h
  · refine ⟨p, q, hp, hq, hsame, ?_⟩
    cases hq
    decide

end Compiler

end LogSieve
