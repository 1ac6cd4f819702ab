import LogSieve.Filter.Compile
import LogSieve.Proofs.Entries
import LogSieve.Proofs.Outcome

/-!
# What the names of a registry stand for

A registry keeps two tables that refer to each other, the operators and the names with the places of
their operators. Whatever is registered, the tables fit each other and say what the history of
registrations says (`Reflects`): a registration keeps that (`Reflects.register`), and so does any
number of them (`Reflects.registerAll`). A name in lower case stands for the operator of the latest
registration that lists it, however it is spelled (`lookup_follows_history`).

Names are listed as they were given, but looked up in lower case. So a listed name is accepted
exactly if its lower case is listed too (`listed_name_follows_lower_case`), which need not be
(`listed_name_unknown`).
-/

namespace LogSieve

/-! ### Histories -/

/-- An operator as it is registered. -/
structure Registration where
  /-- The names it is registered under. -/
  names : List String
  /-- How it makes a condition. -/
  build : Build

/-- The operator that is registered, called by the first of the names; none without a name. -/
def Registration.operator? (r : Registration) : Option Operator :=
  r.names.head?.map fun name => ⟨name, r.build.arity, r.build⟩

theorem Registration.exists_operator {r : Registration} {name : String} (h : name ∈ r.names) :
    ∃ operator, r.operator? = some operator := by
  obtain ⟨names, build⟩ := r
  cases names with
  | nil => cases h
  | cons first rest => exact ⟨_, rfl⟩

namespace Registry

/-- The registry with several more registrations, one after the other. -/
def registerAll (registry : Registry) (history : List Registration) : Registry :=
  history.foldl (fun registry r => registry.register r.names r.build) registry

/-- The registrations of the built-in operators. -/
def builtinHistory [RegexEngine] : List Registration :=
  [⟨["eq", "is", "equals"], .binary Operator.equal⟩,
    ⟨["contains", "contain", "ilike"], .binary Operator.ilike⟩,
    ⟨["like"], .binary Operator.like⟩, ⟨["not_like"], .binary Operator.notLike⟩,
    ⟨["in"], .binary Operator.member⟩, ⟨["not_in"], .binary Operator.notMember⟩]

/-- The registries to start from, each with the registrations that it comes from. -/
inductive Origin [RegexEngine] : Registry → List Registration → Prop where
  /-- The empty registry. -/
  | empty : Origin .empty []
  /-- The built-in operators. -/
  | builtin : Origin .builtin builtinHistory

/-- The registration is the latest of the history that lists the name. -/
def IsLatest (name : String) (history : List Registration) (r : Registration) : Prop :=
  ∃ before after, history = before ++ r :: after ∧ name ∈ r.names ∧
    ∀ later ∈ after, name ∉ later.names

theorem IsLatest.mem {name : String} {history : List Registration} {r : Registration}
    (h : IsLatest name history r) : r ∈ history ∧ name ∈ r.names := by
  obtain ⟨before, after, rfl, hname, -⟩ := h
  exact ⟨by simp, hname⟩

/-- A name that was registered has a latest registration. -/
theorem exists_isLatest {name : String} {history : List Registration}
    (h : ∃ r ∈ history, name ∈ r.names) : ∃ r, IsLatest name history r := by
  induction history with
  | nil => simp at h
  | cons r rest ih =>
    by_cases hrest : ∃ later ∈ rest, name ∈ later.names
    · obtain ⟨latest, before, after, rfl, hname, hlater⟩ := ih hrest
      exact ⟨latest, r :: before, after, rfl, hname, hlater⟩
    · have hname : name ∈ r.names := by
        obtain ⟨other, hother, hname⟩ := h
        rcases List.mem_cons.mp hother with rfl | hother
        · exact hname
        · exact absurd ⟨other, hother, hname⟩ hrest
      exact ⟨r, [], rest, rfl, hname, fun later hlater hmem => hrest ⟨later, hlater, hmem⟩⟩

/-- With one more registration, that one is the latest of its names, and nothing changes for the
others. -/
theorem isLatest_concat_iff {name : String} {history : List Registration}
    {r latest : Registration} :
    IsLatest name (history ++ [r]) latest ↔
      if name ∈ r.names then latest = r else IsLatest name history latest := by
  constructor
  · rintro ⟨before, after, hhistory, hname, hlater⟩
    rcases List.eq_nil_or_concat after with rfl | ⟨after, last, rfl⟩
    · obtain ⟨-, heq⟩ := List.append_inj' hhistory rfl
      cases heq
      rw [if_pos hname]
    · rw [List.concat_eq_append, ← List.cons_append, ← List.append_assoc] at hhistory
      obtain ⟨rfl, heq⟩ := List.append_inj' hhistory rfl
      cases heq
      rw [if_neg (hlater r (by simp))]
      exact ⟨before, after, rfl, hname, fun later hmem => hlater later (by simp [hmem])⟩
  · intro h
    split at h
    · next hname =>
      subst h
      exact ⟨history, [], rfl, hname, by simp⟩
    · next hname =>
      obtain ⟨before, after, rfl, hlatest, hlater⟩ := h
      refine ⟨before, after ++ [r], by simp, hlatest, fun later hmem => ?_⟩
      rcases List.mem_append.mp hmem with hmem | hmem
      · exact hlater later hmem
      · rwa [List.mem_singleton.mp hmem]

/-! ### The two tables -/

/-- The tables of a registry fit each other. -/
structure IsSound (registry : Registry) : Prop where
  /-- Every name has the place of an operator. -/
  place_lt : ∀ entry ∈ registry.table, entry.2 < registry.operators.length
  /-- Every operator has the arity of its build. -/
  arity_eq : ∀ operator ∈ registry.operators, operator.arity = operator.build.arity
  /-- The names ascend, so that none is listed twice. -/
  ascending : registry.names.Pairwise (· < ·)

/-- The operator that a key of the table points to. -/
def operatorAt? (registry : Registry) (key : String) : Option Operator :=
  (Entries.lookup key registry.table).bind (registry.operators[·]?)

theorem lookup_eq_ok_iff {registry : Registry} {spelling : String} {operator : Operator} :
    registry.lookup spelling = .ok operator ↔
      registry.operatorAt? (Text.asciiLower spelling) = some operator := by
  rw [lookup, ← operatorAt?]
  cases registry.operatorAt? (Text.asciiLower spelling) <;> simp

theorem operatorAt?_eq_none {registry : Registry} {key : String} (h : key ∉ registry.names) :
    registry.operatorAt? key = none := by
  rw [operatorAt?, Entries.lookup_eq_none_iff.mpr h]
  rfl

theorem lookup_eq_unknown {registry : Registry} {spelling : String}
    (h : Text.asciiLower spelling ∉ registry.names) :
    registry.lookup spelling = .error (.unknownOperator spelling) := by
  rw [lookup, ← operatorAt?, operatorAt?_eq_none h]

/-- The lookup of a spelling depends on the operator of its lower case only. -/
theorem lookup_congr {registry other : Registry} {spelling : String}
    (h : other.operatorAt? (Text.asciiLower spelling) =
      registry.operatorAt? (Text.asciiLower spelling)) :
    other.lookup spelling = registry.lookup spelling := by
  rw [lookup, lookup, ← operatorAt?, ← operatorAt?, h]

theorem isSound_empty : IsSound empty := ⟨by simp [empty], by simp [empty], .nil⟩

/-! ### One more registration -/

section Register

variable {registry : Registry} {names : List String} {build : Build}

theorem IsSound.register (h : registry.IsSound) : (registry.register names build).IsSound := by
  cases names with
  | nil => exact h
  | cons first rest =>
    refine ⟨?_, ?_, ?_⟩
    · intro entry hentry
      rw [Registry.register, List.length_append, List.length_singleton]
      rcases Entries.snd_eq_or_mem_of_mem_foldl_put hentry with hplace | hentry
      · rw [hplace]
        exact Nat.lt_succ_self _
      · exact Nat.lt_succ_of_lt (h.place_lt entry hentry)
    · intro operator hoperator
      rcases List.mem_append.mp hoperator with hold | hnew
      · exact h.arity_eq operator hold
      · rw [List.mem_singleton.mp hnew]
    · exact Entries.pairwise_keys_foldl_put h.ascending

theorem mem_names_register {name : String} :
    name ∈ (registry.register names build).names ↔ name ∈ names ∨ name ∈ registry.names := by
  cases names with
  | nil => simp [register]
  | cons first rest =>
    rw [← Decidable.not_iff_not, names, ← Entries.lookup_eq_none_iff, register,
      Entries.lookup_foldl_put]
    by_cases h : name ∈ first :: rest
    · simp [h]
    · rw [if_neg h, Entries.lookup_eq_none_iff, or_iff_right h, ← Registry.names]

/-- A registration changes the operators of its names and of no others. -/
theorem operatorAt?_register (h : registry.IsSound) (key : String) :
    (registry.register names build).operatorAt? key =
      if key ∈ names then Registration.operator? ⟨names, build⟩ else registry.operatorAt? key := by
  cases names with
  | nil => rfl
  | cons first rest =>
    rw [operatorAt?, register, Entries.lookup_foldl_put]
    split
    · exact List.getElem?_concat_length
    · rw [operatorAt?]
      cases hplace : Entries.lookup key registry.table with
      | none => rfl
      | some place =>
        exact List.getElem?_append_left (h.place_lt _ (Entries.mem_of_lookup hplace))

end Register

/-! ### Any history -/

/-- The registry says what the history says. -/
structure Reflects (registry : Registry) (history : List Registration) : Prop where
  /-- Its tables fit each other. -/
  sound : registry.IsSound
  /-- Its names are those that were registered. -/
  mem_names_iff : ∀ name, name ∈ registry.names ↔ ∃ r ∈ history, name ∈ r.names
  /-- A name has the operator of its latest registration. -/
  operatorAt? : ∀ name r, IsLatest name history r → registry.operatorAt? name = r.operator?

/-- A registration becomes the last one of the history. -/
theorem Reflects.register {registry : Registry} {history : List Registration}
    (h : registry.Reflects history) (r : Registration) :
    (registry.register r.names r.build).Reflects (history ++ [r]) where
  sound := h.sound.register
  mem_names_iff name := by
    rw [mem_names_register, h.mem_names_iff]
    simp [or_comm, or_and_right, exists_or]
  operatorAt? name latest hlatest := by
    rw [isLatest_concat_iff] at hlatest
    rw [operatorAt?_register h.sound]
    split at hlatest
    · next hname => rw [if_pos hname, hlatest]
    · next hname => rw [if_neg hname, h.operatorAt? name latest hlatest]

/-- **Any number of registrations is reflected**: each is added to the history behind the others. -/
theorem Reflects.registerAll {registry : Registry} {past : List Registration}
    (h : registry.Reflects past) (calls : List Registration) :
    (registry.registerAll calls).Reflects (past ++ calls) := by
  induction calls generalizing registry past with
  | nil => rwa [List.append_nil]
  | cons r rest ih =>
    have hrest := ih (h.register r)
    rwa [List.append_assoc, List.singleton_append] at hrest

theorem reflects_empty : Reflects empty [] :=
  ⟨isSound_empty, by simp [names, empty], by rintro name r ⟨before, after, h, -⟩; simp at h⟩

theorem Origin.reflects [RegexEngine] {start : Registry} {past : List Registration}
    (h : Origin start past) :
    start.Reflects past := by
  cases h with
  | empty => exact reflects_empty
  | builtin => exact reflects_empty.registerAll builtinHistory

/-- A listed name has a latest registration, which made an operator. -/
theorem Reflects.exists_latest {registry : Registry} {history : List Registration}
    (h : registry.Reflects history) {name : String} (hlisted : name ∈ registry.names) :
    ∃ r operator, IsLatest name history r ∧ r.operator? = some operator := by
  obtain ⟨r, hlatest⟩ := exists_isLatest ((h.mem_names_iff name).mp hlisted)
  obtain ⟨operator, hoperator⟩ := Registration.exists_operator hlatest.mem.2
  exact ⟨r, operator, hlatest, hoperator⟩

/-- The operators that are found are those of the latest registrations of lower cases. -/
theorem Reflects.finds_iff {registry : Registry} {history : List Registration}
    (h : registry.Reflects history) {spelling : String} {operator : Operator} :
    registry.lookup spelling = .ok operator ↔
      ∃ r, IsLatest (Text.asciiLower spelling) history r ∧ r.operator? = some operator := by
  rw [lookup_eq_ok_iff]
  constructor
  · intro hoperator
    have hlisted : Text.asciiLower spelling ∈ registry.names := by
      refine Decidable.not_not.mp fun hnot => ?_
      rw [operatorAt?_eq_none hnot] at hoperator
      cases hoperator
    obtain ⟨r, -, hlatest, -⟩ := h.exists_latest hlisted
    rw [h.operatorAt? _ r hlatest] at hoperator
    exact ⟨r, hlatest, hoperator⟩
  · rintro ⟨r, hlatest, hoperator⟩
    rw [h.operatorAt? _ r hlatest, hoperator]

/-- A spelling is looked up as the latest registration of its lower case, and is unknown without
one. -/
theorem Reflects.lookup_cases {registry : Registry} {history : List Registration}
    (h : registry.Reflects history) (spelling : String) :
    (∃ r operator, IsLatest (Text.asciiLower spelling) history r ∧ r.operator? = some operator ∧
      registry.lookup spelling = .ok operator) ∨
    ((∀ r ∈ history, Text.asciiLower spelling ∉ r.names) ∧
      registry.lookup spelling = .error (.unknownOperator spelling)) := by
  by_cases hlisted : Text.asciiLower spelling ∈ registry.names
  · obtain ⟨r, operator, hlatest, hoperator⟩ := h.exists_latest hlisted
    exact .inl ⟨r, operator, hlatest, hoperator, h.finds_iff.mpr ⟨r, hlatest, hoperator⟩⟩
  · refine .inr ⟨fun r hr hname => hlisted ?_, lookup_eq_unknown hlisted⟩
    exact (h.mem_names_iff _).mpr ⟨r, hr, hname⟩

/-- **Names stand for what was registered last under them.** Start with the empty registry or the
built-in one, and register anything. Then every name points to an operator, every operator has the
arity of its build, and the names are those that were registered, in ascending order. A name in
lower case, however it is spelled, is looked up as the operator of the latest registration that
lists it, and is unknown if there is none. One more registration changes no lookup but those of the
names that it lists. -/
theorem lookup_follows_history [RegexEngine] {start : Registry} {past : List Registration}
    (h : Origin start past) (calls : List Registration) :
    (start.registerAll calls).IsSound ∧
    (∀ name, name ∈ (start.registerAll calls).names ↔ ∃ r ∈ past ++ calls, name ∈ r.names) ∧
    (∀ name spelling : String, Text.asciiLower name = name → Text.asciiLower spelling = name →
      (∃ r operator, IsLatest name (past ++ calls) r ∧ r.operator? = some operator ∧
        (start.registerAll calls).lookup spelling = .ok operator) ∨
      ((∀ r ∈ past ++ calls, name ∉ r.names) ∧
        (start.registerAll calls).lookup spelling = .error (.unknownOperator spelling))) ∧
    ∀ (r : Registration) (spelling : String), Text.asciiLower spelling ∉ r.names →
      (start.registerAll (calls ++ [r])).lookup spelling =
        (start.registerAll calls).lookup spelling := by
  have hreflects := h.reflects.registerAll calls
  refine ⟨hreflects.sound, hreflects.mem_names_iff, ?_, ?_⟩
  · rintro name spelling - rfl
    exact hreflects.lookup_cases spelling
  · intro r spelling hnot
    refine lookup_congr ?_
    rw [registerAll, List.foldl_append]
    exact (operatorAt?_register hreflects.sound _).trans (if_neg hnot)

/-- The built-in `like` is overridden: the new operator is called by its first name, and the other
names are as before. -/
theorem overridden_like_follows_history :
    let registry := builtin.registerAll [⟨["matches", "like"], .binary Operator.equal⟩]
    registry.IsSound ∧
      registry.lookup "Like" = .ok ⟨"matches", .binary, .binary Operator.equal⟩ ∧
      registry.lookup "IS" = builtin.lookup "IS" := by
  obtain ⟨hsound, -, -, -⟩ :=
    lookup_follows_history .builtin [⟨["matches", "like"], .binary Operator.equal⟩]
  obtain ⟨-, -, -, hothers⟩ := lookup_follows_history .builtin []
  exact ⟨hsound, rfl, hothers ⟨["matches", "like"], .binary Operator.equal⟩ "IS" (by decide)⟩

/-! ### Listed names -/

/-- The name stands for the operator: it is looked up as that operator, and so all comparisons of
declared fields by that name are made with it. -/
def StandsFor (registry : Registry) (name : String) (operator : Operator) : Prop :=
  registry.lookup name = .ok operator ∧
  ∀ (schema : Schema) (limit : Nat) (c : Comparison) (field : Field), c.operator = name →
    schema.field? c.field = some field →
    (∀ other, c.other = some other → schema.hasField other = true) →
    Compiler.comparison { schema, registry, limit } c =
      (Compiler.operand operator c >>= Compiler.apply operator c field)

/-- What is found under a name is what comparisons are made with. -/
theorem standsFor_iff {registry : Registry} {name : String} {operator : Operator} :
    registry.StandsFor name operator ↔ registry.lookup name = .ok operator := by
  refine ⟨And.left, fun h => ⟨h, fun schema limit c field hname hfield hother => ?_⟩⟩
  have hnone : c.other.filter (!schema.hasField ·) = none := by
    simpa [Option.filter_eq_none_iff] using hother
  simp only [Compiler.comparison, hfield, hnone, hname, h, ok_bind]

/-- **What a listed name stands for is decided by its lower case.** Of the names that a registry
lists, those are accepted whose lower case is listed too, and the others are unknown. A listed name
stands for the operator that was registered last under it exactly if that operator was also
registered last under its lower case. So names in lower case always do. -/
theorem listed_name_follows_lower_case [RegexEngine] {start : Registry} {past : List Registration}
    (h : Origin start past) (calls : List Registration) {name : String}
    (hlisted : name ∈ (start.registerAll calls).names) :
    (if Text.asciiLower name ∈ (start.registerAll calls).names then
      ∃ operator, (start.registerAll calls).lookup name = .ok operator
    else (start.registerAll calls).lookup name = .error (.unknownOperator name)) ∧
    ∃ r operator, IsLatest name (past ++ calls) r ∧ r.operator? = some operator ∧
      ((start.registerAll calls).StandsFor name operator ↔
        ∃ lower, IsLatest (Text.asciiLower name) (past ++ calls) lower ∧
          lower.operator? = some operator) ∧
      (Text.asciiLower name = name → (start.registerAll calls).StandsFor name operator) := by
  have hreflects := h.reflects.registerAll calls
  constructor
  · split
    · next hlower =>
      obtain ⟨r, operator, hlatest, hoperator⟩ := hreflects.exists_latest hlower
      exact ⟨operator, hreflects.finds_iff.mpr ⟨r, hlatest, hoperator⟩⟩
    · next hlower => exact lookup_eq_unknown hlower
  · obtain ⟨r, operator, hlatest, hoperator⟩ := hreflects.exists_latest hlisted
    have hstands : (start.registerAll calls).StandsFor name operator ↔ _ :=
      standsFor_iff.trans hreflects.finds_iff
    refine ⟨r, operator, hlatest, hoperator, hstands, fun hsame => hstands.mpr ⟨r, ?_, hoperator⟩⟩
    rwa [hsame]

/-- A new operator takes the name `is` over from a built-in one. -/
theorem overridden_is_follows_lower_case :
    "is" ∈ (builtin.registerAll [⟨["same", "is"], .binary Operator.ilike⟩]).names ∧
      ∃ r operator, IsLatest "is" (builtinHistory ++ [⟨["same", "is"], .binary Operator.ilike⟩]) r ∧
        r.operator? = some operator ∧
        (builtin.registerAll [⟨["same", "is"], .binary Operator.ilike⟩]).StandsFor "is"
          operator := by
  have hlisted : "is" ∈ (builtin.registerAll [⟨["same", "is"], .binary Operator.ilike⟩]).names := by
    decide
  obtain ⟨-, r, operator, hlatest, hoperator, -, hlower⟩ :=
    listed_name_follows_lower_case .builtin [⟨["same", "is"], .binary Operator.ilike⟩] hlisted
  exact ⟨hlisted, r, operator, hlatest, hoperator, hlower (by decide)⟩

/-- A name in capitals is listed as it was registered, and is unknown when it is looked up. -/
theorem listed_name_unknown :
    "EQ" ∈ (empty.registerAll [⟨["EQ"], .binary Operator.equal⟩]).names ∧
      (empty.registerAll [⟨["EQ"], .binary Operator.equal⟩]).lookup "EQ" =
        .error (.unknownOperator "EQ") :=
  ⟨by decide, rfl⟩

end Registry

end LogSieve
