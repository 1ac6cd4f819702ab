import LogSieve.Proofs.Filter.Grouping
import LogSieve.Proofs.Filter.Null
import Mathlib.Logic.Relation

/-!
# Other spellings

The keys of groups and operators may be in either case, and some operators have several names.
`Respelled` is one step from a filter in JSON to another spelling of it: at one place, however deep,
a key or the operator of a comparison is replaced. Fields and arguments are out of its reach. What
derives from the one spelling has a counterpart that derives from the other, which is as deep, is
about the same fields, and compiles to the same condition (`Replaces`). So no number of steps
changes what an accepted filter compiles to (`spelling_does_not_matter`).
-/

namespace LogSieve

/-! ### Names of one operator -/

namespace Operator

/-- Two names are those of one built-in operator: they differ in case only, or they are two names of
its family. -/
def SameOperator (name name' : String) : Prop :=
  Text.asciiLower name = Text.asciiLower name' ∨
    ∃ family ∈ [equalityNames, containmentNames],
      Text.asciiLower name ∈ family ∧ Text.asciiLower name' ∈ family

variable {name name' : String} {build : Field → Operand → Except FilterFault Condition}

theorem SameOperator.asciiLower (h : SameOperator name name') :
    SameOperator (Text.asciiLower name) (Text.asciiLower name') := by
  simpa only [SameOperator, Text.asciiLower_asciiLower] using h

theorem SameOperator.mem_operatorKeys (h : SameOperator name name')
    (hkey : Text.asciiLower name ∈ Filter.operatorKeys) :
    Text.asciiLower name' ∈ Filter.operatorKeys := by
  have hkeys : ∀ family ∈ [equalityNames, containmentNames], ∀ key ∈ family,
      key ∈ Filter.operatorKeys := by
    decide
  rcases h with h | ⟨family, hfamily, -, hname⟩
  · rwa [← h]
  · exact hkeys family hfamily _ hname

theorem SameOperator.builtin [RegexEngine] (h : SameOperator name name')
    (hbuiltin : Builtin (Text.asciiLower name) build) :
    Builtin (Text.asciiLower name') build := by
  rcases h with h | ⟨family, hfamily, hname, hname'⟩
  · rwa [← h]
  · rcases List.mem_pair.mp hfamily with rfl | rfl
    · rw [hbuiltin.eq_equal hname]
      exact .equal hname'
    · rw [hbuiltin.eq_ilike hname]
      exact .ilike hname'

end Operator

/-! ### Other spellings of a filter in JSON -/

namespace Filter

open LogSieve.Operator

mutual

/-- `Respelled raw raw'`: one key or one operator of the filter `raw` is spelled differently in
`raw'`. -/
inductive Respelled : Json → Json → Prop where
  /-- The key of a group, in another case. -/
  | groupKey {key key' : String} {kind : Connective} {v : Json} :
      Text.asciiLower key = kind.key → Text.asciiLower key' = kind.key →
      Respelled (.obj [(key, v)]) (.obj [(key', v)])
  /-- The key of an operator, in another case or by another name. -/
  | operatorKey {key key' : String} {v : Json} :
      Text.asciiLower key ∈ operatorKeys → SameOperator key key' →
      Respelled (.obj [(key, v)]) (.obj [(key', v)])
  /-- The operator of a comparison in its canonical form, in another case or by another name. -/
  | operator {entries : List (String × Json)} {name name' : String} :
      Entries.lookup "op" entries = some (.str name) → SameOperator name name' →
      Respelled (.obj entries) (.obj (Entries.put "op" (.str name') entries))
  /-- Something in a listed member of a group. -/
  | member {key : String} {kind : Connective} {items items' : List Json} :
      Text.asciiLower key = kind.key → RespelledAll items items' →
      Respelled (.obj [(key, .arr items)]) (.obj [(key, .arr items')])
  /-- Something in the one member of a negation. -/
  | negated {key : String} {v v' : Json} :
      Text.asciiLower key = Connective.not.key → Respelled v v' →
      Respelled (.obj [(key, v)]) (.obj [(key, v')])

/-- `RespelledAll items items'`: one of the filters is respelled. -/
inductive RespelledAll : List Json → List Json → Prop where
  /-- It is the first. -/
  | head {item item' : Json} {rest : List Json} :
      Respelled item item' → RespelledAll (item :: rest) (item' :: rest)
  /-- It is a later one. -/
  | tail {item : Json} {rest rest' : List Json} :
      RespelledAll rest rest' → RespelledAll (item :: rest) (item :: rest')

end

/-- `RespelledList raw raw'`: at the top stands one filter, which is respelled, or a list of
filters, one of which is. -/
inductive RespelledList : Json → Json → Prop where
  /-- One of a list of filters. -/
  | list {items items' : List Json} :
      RespelledAll items items' → RespelledList (.arr items) (.arr items')
  /-- A single filter. -/
  | single {raw raw' : Json} : Respelled raw raw' → RespelledList raw raw'

/-- Only objects are respelled, no lists. -/
theorem not_respelled_arr {items : List Json} {raw' : Json} : ¬ Respelled (.arr items) raw' := by
  rintro ⟨⟩

/-! ### What derives from an object -/

variable {key : String} {v : Json} {filter : Filter}

/-- From the key of a group derives a group with listed members, or a negation of one that is not
listed. -/
theorem derives_group_iff {kind : Connective} (hkey : Text.asciiLower key = kind.key) :
    Derives (.obj [(key, v)]) filter ↔
      (∃ items members, v = .arr items ∧ DerivesAll items members ∧ filter = .group kind members) ∨
        kind = .not ∧ ∃ member, Derives v member ∧ filter = .group .not [member] := by
  have hkind {other : Connective} (hother : Text.asciiLower key = other.key) : other = kind := by
    rw [← Connective.ofKey?_eq_some_iff] at hkey hother
    exact Option.some.inj (hother.symm.trans hkey)
  constructor
  · intro h
    cases h with
    | comparison hc =>
      have hcomparison := isComparison_of_isComparisonOf hc
      rw [isComparison_singleton (.inr ⟨kind, hkey⟩)] at hcomparison
      cases hcomparison
    | operator hoperator _ =>
      have hnone := ofKey?_of_mem_operatorKeys hoperator
      rw [Connective.ofKey?_eq_some_iff.mpr hkey] at hnone
      cases hnone
    | group hother hm =>
      obtain rfl := hkind hother
      exact .inl ⟨_, _, rfl, hm, rfl⟩
    | negation hother hm =>
      obtain rfl := hkind hother
      exact .inr ⟨rfl, _, hm, rfl⟩
  · rintro (⟨items, members, rfl, hm, rfl⟩ | ⟨rfl, member, hm, rfl⟩)
    · exact .group hkey hm
    · exact .negation hkey hm

/-- From the key of an operator derives a comparison of one field. -/
theorem derives_operator_iff (hkey : Text.asciiLower key ∈ operatorKeys) :
    Derives (.obj [(key, v)]) filter ↔ ∃ field w argument, v = .obj [(field, w)] ∧
      Argument (some w) argument ∧
      filter = .leaf { field, operator := Text.asciiLower key, argument } := by
  have hnone := ofKey?_of_mem_operatorKeys hkey
  constructor
  · intro h
    cases h with
    | comparison hc =>
      have hcomparison := isComparison_of_isComparisonOf hc
      rw [isComparison_singleton (.inl hkey)] at hcomparison
      cases hcomparison
    | operator _ hargument => exact ⟨_, _, _, rfl, hargument, rfl⟩
    | group hother _ =>
      rw [Connective.ofKey?_eq_some_iff.mpr hother] at hnone
      cases hnone
    | negation hother _ =>
      rw [Connective.ofKey?_eq_some_iff.mpr hother] at hnone
      cases hnone
  · rintro ⟨field, w, argument, rfl, hargument, rfl⟩
    exact .operator hkey hargument

/-- From an object with an operator derives a comparison in its canonical form. -/
theorem derives_comparison_iff {entries : List (String × Json)}
    (h : isComparison entries = true) :
    Derives (.obj entries) filter ↔ ∃ c, filter = .leaf c ∧ IsComparisonOf entries c := by
  constructor
  · intro hd
    cases hd with
    | comparison hc => exact ⟨_, rfl, hc⟩
    | operator hkey _ =>
      rw [isComparison_singleton (.inl hkey)] at h
      cases h
    | group hkey _ =>
      rw [isComparison_singleton (.inr ⟨_, hkey⟩)] at h
      cases h
    | negation hkey _ =>
      rw [isComparison_singleton (.inr ⟨_, hkey⟩)] at h
      cases h
  · rintro ⟨c, rfl, hc⟩
    exact .comparison hc

/-- With another operator the entries are those of the comparison with this operator. -/
theorem IsComparisonOf.put_op {entries : List (String × Json)} {c : Comparison}
    (h : IsComparisonOf entries c) (name : String) :
    IsComparisonOf (Entries.put "op" (.str name) entries)
      { c with operator := Text.asciiLower name } where
  keys entry hentry := by
    rcases Entries.eq_or_mem_of_mem_put hentry with rfl | hentry
    · exact .inr (.inl rfl)
    · exact h.keys entry hentry
  name := by
    rw [Entries.lookup_put_of_ne (by decide)]
    exact h.name
  op := ⟨name, Entries.lookup_put_self _ _, rfl⟩
  val := by
    rw [Entries.lookup_put_of_ne (by decide)]
    exact h.val
  field := by
    rw [Entries.lookup_put_of_ne (by decide)]
    exact h.field

end Filter

namespace Compiler

open LogSieve.Filter LogSieve.Operator

/-! ### Filters that take the place of others -/

/-- The second filter may take the place of the first: it is as deep, its fields are declared alike,
and it compiles to the same condition if the first compiles. -/
structure Replaces (compiler : Compiler) (filter filter' : Filter) : Prop where
  depth : filter'.depth = filter.depth
  checkFields : filter'.checkFields compiler.schema = filter.checkFields compiler.schema
  compile : ∀ condition, compiler.compile filter = .ok condition →
    compiler.compile filter' = .ok condition

/-- The second filters may take the places of the first ones. -/
structure ReplacesAll (compiler : Compiler) (filters filters' : List Filter) : Prop where
  depth : depthAll filters' = depthAll filters
  checkFields : checkFieldsAll compiler.schema filters' = checkFieldsAll compiler.schema filters
  compile : ∀ parts, compiler.compileAll filters = .ok parts →
    compiler.compileAll filters' = .ok parts

variable {compiler : Compiler}

theorem Replaces.refl (filter : Filter) : compiler.Replaces filter filter :=
  ⟨rfl, rfl, fun _ h => h⟩

theorem ReplacesAll.refl (filters : List Filter) : compiler.ReplacesAll filters filters :=
  ⟨rfl, rfl, fun _ h => h⟩

theorem ReplacesAll.cons {filter filter' : Filter} {filters filters' : List Filter}
    (hfilter : compiler.Replaces filter filter') (hrest : compiler.ReplacesAll filters filters') :
    compiler.ReplacesAll (filter :: filters) (filter' :: filters') where
  depth := by rw [depthAll, depthAll, hfilter.depth, hrest.depth]
  checkFields := by rw [checkFieldsAll, checkFieldsAll, hfilter.checkFields, hrest.checkFields]
  compile parts h := by
    obtain ⟨part, others, hpart, hothers, rfl⟩ := compileAll_cons_eq_ok_iff.mp h
    exact compileAll_cons_eq_ok_iff.mpr
      ⟨part, others, hfilter.compile part hpart, hrest.compile others hothers, rfl⟩

theorem ReplacesAll.group {members members' : List Filter}
    (h : compiler.ReplacesAll members members') (kind : Connective) :
    compiler.Replaces (.group kind members) (.group kind members') where
  depth := by rw [Filter.depth, Filter.depth, h.depth]
  checkFields := by rw [Filter.checkFields, Filter.checkFields, h.checkFields]
  compile condition hcompile := by
    rw [Compiler.compile] at hcompile
    obtain ⟨parts, hparts, hcompile⟩ := bind_eq_ok_iff.mp hcompile
    rw [Compiler.compile, h.compile parts hparts, ok_bind, hcompile]

/-- A comparison with an operator by another name: the name is told in faults only. -/
theorem replaces_leaf [RegexEngine] (hregistry : compiler.registry = .builtin) {c : Comparison}
    {name : String} (hsame : SameOperator c.operator name) :
    compiler.Replaces (.leaf c) (.leaf { c with operator := name }) where
  depth := rfl
  checkFields := rfl
  compile condition h := by
    rw [Compiler.compile, comparison_builtin_eq_ok_iff hregistry] at h ⊢
    obtain ⟨field, build, operand, hfield, hother, hbuiltin, hone, hoperand, hcondition⟩ := h
    exact ⟨field, build, operand, hfield, hother, hsame.builtin hbuiltin, hone, hoperand,
      hcondition⟩

/-! ### One step -/

mutual

/-- **A filter that is respelled derives a filter that takes its place.** -/
theorem replaces_of_respelled [RegexEngine] (hregistry : compiler.registry = .builtin)
    {raw raw' : Json} {filter : Filter} : Respelled raw raw' → Derives raw filter →
      ∃ filter', Derives raw' filter' ∧ compiler.Replaces filter filter'
  | .groupKey hkey hkey', hd => by
    rw [derives_group_iff hkey, ← derives_group_iff hkey'] at hd
    exact ⟨filter, hd, .refl filter⟩
  | .operatorKey hkey hsame, hd => by
    obtain ⟨field, w, argument, rfl, hargument, rfl⟩ := (derives_operator_iff hkey).mp hd
    exact ⟨_, .operator (hsame.mem_operatorKeys hkey) hargument,
      replaces_leaf hregistry hsame.asciiLower⟩
  | @Respelled.operator entries name name' hop hsame, hd => by
    obtain ⟨c, rfl, hc⟩ := (derives_comparison_iff (isComparison_of_lookup (.inr rfl) hop)).mp hd
    obtain ⟨op, hop', hoperator⟩ := hc.op
    obtain rfl : name = op := by
      rw [hop] at hop'
      cases hop'
      rfl
    refine ⟨_, .comparison (hc.put_op name'), replaces_leaf hregistry ?_⟩
    rw [hoperator]
    exact hsame.asciiLower
  | @Respelled.member key kind items items' hkey hitems, hd => by
    rcases (derives_group_iff hkey).mp hd with ⟨_, members, ⟨⟩, hm, rfl⟩ | ⟨-, member, hm, -⟩
    · obtain ⟨members', hm', hreplaces⟩ := replacesAll_of_respelledAll hregistry hitems hm
      exact ⟨_, .group hkey hm', hreplaces.group kind⟩
    · exact absurd hm not_derives_arr
  | .negated hkey hv, hd => by
    rcases (derives_group_iff hkey).mp hd with ⟨items, members, rfl, -, -⟩ | ⟨-, member, hm, rfl⟩
    · exact absurd hv not_respelled_arr
    · obtain ⟨member', hm', hreplaces⟩ := replaces_of_respelled hregistry hv hm
      exact ⟨_, .negation hkey hm', (ReplacesAll.cons hreplaces (.refl [])).group .not⟩

theorem replacesAll_of_respelledAll [RegexEngine] (hregistry : compiler.registry = .builtin)
    {items items' : List Json} {filters : List Filter} :
    RespelledAll items items' → DerivesAll items filters →
      ∃ filters', DerivesAll items' filters' ∧ compiler.ReplacesAll filters filters'
  | .head hitem, .cons hf hr => by
    obtain ⟨filter', hf', hreplaces⟩ := replaces_of_respelled hregistry hitem hf
    exact ⟨_, .cons hf' hr, .cons hreplaces (.refl _)⟩
  | .tail hrest, .cons hf hr => by
    obtain ⟨filters', hr', hreplaces⟩ := replacesAll_of_respelledAll hregistry hrest hr
    exact ⟨_, .cons hf hr', .cons (.refl _) hreplaces⟩

end

theorem replacesAll_of_respelledList [RegexEngine] (hregistry : compiler.registry = .builtin)
    {raw raw' : Json} {filters : List Filter} (h : RespelledList raw raw')
    (hd : DerivesList raw filters) :
    ∃ filters', DerivesList raw' filters' ∧ compiler.ReplacesAll filters filters' := by
  cases h with
  | list hitems =>
    cases hd with
    | list hd =>
      obtain ⟨filters', hd', hreplaces⟩ := replacesAll_of_respelledAll hregistry hitems hd
      exact ⟨filters', .list hd', hreplaces⟩
    | single hd => exact absurd hd not_derives_arr
  | single hraw =>
    cases hd with
    | list _ => exact absurd hraw not_respelled_arr
    | single hd =>
      obtain ⟨filter', hd', hreplaces⟩ := replaces_of_respelled hregistry hraw hd
      exact ⟨[filter'], .single hd', .cons hreplaces (.refl [])⟩

section

variable [RegexEngine] {schema : Schema} {limit : Nat} {raw raw' : Json} {condition : Condition}

/-- One step changes nothing: what is compiled is compiled to the same condition. -/
theorem compileJson_of_respelled (h : RespelledList raw raw')
    (hcompile : compileJson { schema, limit } raw = .ok condition) :
    compileJson { schema, limit } raw' = .ok condition := by
  obtain ⟨filter, hfilter, hcondition⟩ := bind_eq_ok_iff.mp hcompile
  obtain ⟨filters, hread, hcheck, rfl⟩ := readFilter_eq_ok_iff.mp hfilter
  obtain ⟨hderives, hdepth⟩ := read_eq_ok_iff.mp hread
  obtain ⟨filters', hderives', hreplaces⟩ : ∃ filters', DerivesList raw' filters' ∧
      ReplacesAll { schema, registry := .builtin, limit } filters filters' :=
    replacesAll_of_respelledList rfl h hderives
  have hfilter' : readFilter { schema, limit } raw' = .ok (.ofList filters') := by
    refine readFilter_eq_ok_iff.mpr ⟨filters', ?_, ?_, rfl⟩
    · rw [← depthAll_le_iff, ← hreplaces.depth, depthAll_le_iff] at hdepth
      exact read_eq_ok_iff.mpr ⟨hderives', hdepth⟩
    · rw [hreplaces.checkFields, hcheck]
  refine bind_eq_ok_iff.mpr ⟨.ofList filters', hfilter', ?_⟩
  rw [compile_ofList] at hcondition ⊢
  exact (hreplaces.group .and).compile condition hcondition

/-! ### Any number of steps -/

/-- **Spelling does not matter.** Take a filter in JSON that compiles with the built-in operators,
and change the case of keys and operators or replace operators by other names of theirs, anywhere in
the tree and any number of times: it still compiles, and to the same condition. -/
theorem spelling_does_not_matter (hcompile : compileJson { schema, limit } raw = .ok condition)
    (h : Relation.ReflTransGen RespelledList raw raw') :
    compileJson { schema, limit } raw' = .ok condition := by
  induction h with
  | refl => exact hcompile
  | tail _ hstep ih => exact compileJson_of_respelled hstep ih

end

/-- A filter whose values are keys as well: `a` is `is`, and `b` does not contain `not`. -/
def keysAsValues (groupKey equality negationKey containment : String) : Json :=
  .obj [(groupKey, .arr [
    .obj [(equality, .obj [("a", .str "is")])],
    .obj [(negationKey,
      .obj [("name", .str "b"), ("op", .str containment), ("val", .str "not")])]])]

/-- Its keys and its operators are respelled one after the other; the values stay as they are. -/
theorem spelling_does_not_matter_nested :
    ∃ condition,
      compileJson { schema := pairSchema } (keysAsValues "and" "Is" "NOT" "contains") =
        .ok condition ∧
      Relation.ReflTransGen RespelledList (keysAsValues "and" "Is" "NOT" "contains")
        (keysAsValues "AND" "equals" "nOt" "ILIKE") ∧
      compileJson { schema := pairSchema } (keysAsValues "AND" "equals" "nOt" "ILIKE") =
        .ok condition ∧
      condition (fun name => if name = "a" then some (.str "is") else some (.str "no")) = true := by
  have hand : Text.asciiLower "and" = Connective.and.key := by decide
  have hgroup : Text.asciiLower "AND" = Connective.and.key := by decide
  have hnegation : Text.asciiLower "NOT" = Connective.not.key := by decide
  have hnot : Text.asciiLower "nOt" = Connective.not.key := by decide
  have hequality : SameOperator "Is" "equals" := .inr (by decide)
  have hcontainment : SameOperator "contains" "ILIKE" := .inr (by decide)
  have hfirst : RespelledList (keysAsValues "and" "Is" "NOT" "contains")
      (keysAsValues "AND" "Is" "NOT" "contains") :=
    .single (.groupKey hand hgroup)
  have hsecond : RespelledList (keysAsValues "AND" "Is" "NOT" "contains")
      (keysAsValues "AND" "equals" "NOT" "contains") :=
    .single (.member hgroup (.head (.operatorKey (by decide) hequality)))
  have hthird : RespelledList (keysAsValues "AND" "equals" "NOT" "contains")
      (keysAsValues "AND" "equals" "nOt" "contains") :=
    .single (.member hgroup (.tail (.head (.groupKey hnegation hnot))))
  have hfourth : RespelledList (keysAsValues "AND" "equals" "nOt" "contains")
      (keysAsValues "AND" "equals" "nOt" "ILIKE") :=
    .single (.member hgroup (.tail (.head (.negated hnot (.operator rfl hcontainment)))))
  have hsteps : Relation.ReflTransGen RespelledList (keysAsValues "and" "Is" "NOT" "contains")
      (keysAsValues "AND" "equals" "nOt" "ILIKE") :=
    (((Relation.ReflTransGen.single hfirst).tail hsecond).tail hthird).tail hfourth
  exact ⟨_, rfl, hsteps, spelling_does_not_matter rfl hsteps, by decide⟩

end Compiler

end LogSieve
