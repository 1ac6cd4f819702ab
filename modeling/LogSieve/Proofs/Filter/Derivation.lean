import LogSieve.Filter.Grammar
import LogSieve.Proofs.Entries
import LogSieve.Proofs.Outcome

/-!
# The grammar of filters

The grammar of filters in JSON as a relation, which knows no limit of nesting, and what the reader
makes of it. `Derives raw filter` says that `raw` is a written form of `filter`. A filter has many
written forms: keys in either case, the one member of a negation listed or not, an argument left out
or `null`.

The reader accepts exactly the derivable filters whose depth is within the limit
(`readAt_eq_ok_iff`), and whatever it refuses it refuses as malformed (`readAt_formOnly`). The limit
is therefore nothing but a cut: it never changes what an accepted text stands for.
-/

namespace LogSieve

/-! ### Keys of groups -/

theorem Connective.ofKey?_eq_some_iff {key : String} {kind : Connective} :
    ofKey? key = some kind ↔ key = kind.key := by
  constructor
  · intro h
    have := List.find?_some h
    exact (eq_of_beq this).symm
  · rintro rfl
    cases kind <;> decide

namespace Filter

/-- No operator has the key of a group. -/
theorem ofKey?_of_mem_operatorKeys {key : String} (h : key ∈ operatorKeys) :
    Connective.ofKey? key = none := by
  cases hk : Connective.ofKey? key with
  | none => rfl
  | some kind =>
    rw [Connective.ofKey?_eq_some_iff] at hk
    subst hk
    cases kind <;> exact absurd h (by decide)

/-! ### The grammar -/

/-- `Argument entry argument`: what the entry for an argument gives. A missing entry and `null` give
none. -/
inductive Argument : Option Json → Option Json → Prop where
  /-- There is no entry. -/
  | missing : Argument none none
  /-- The entry is `null`. -/
  | null : Argument (some .null) none
  /-- The entry is any other value. -/
  | value {v : Json} (hv : v ≠ .null) : Argument (some v) (some v)

/-- `OtherField entry other`: what the entry for the other field gives. It may be missing, `null` or
a name. -/
inductive OtherField : Option Json → Option String → Prop where
  /-- There is no entry. -/
  | missing : OtherField none none
  /-- The entry is `null`. -/
  | null : OtherField (some .null) none
  /-- The entry is a name. -/
  | name (s : String) : OtherField (some (.str s)) (some s)

/-- The entries are those of the comparison `c` in its canonical form: there are no others than
`name`, `op`, `val` and `field`, the first two are texts, and the operator counts in lower case. -/
structure IsComparisonOf (entries : List (String × Json)) (c : Comparison) : Prop where
  keys : ∀ entry ∈ entries, entry.1 = "name" ∨ entry.1 = "op" ∨ entry.1 = "val" ∨ entry.1 = "field"
  name : Entries.lookup "name" entries = some (.str c.field)
  op : ∃ op, Entries.lookup "op" entries = some (.str op) ∧ c.operator = Text.asciiLower op
  val : Argument (Entries.lookup "val" entries) c.argument
  field : OtherField (Entries.lookup "field" entries) c.other

mutual

/-- `Derives raw filter`: the value `raw` is a written form of the filter. -/
inductive Derives : Json → Filter → Prop where
  /-- A comparison in its canonical form. -/
  | comparison {entries : List (String × Json)} {c : Comparison} :
      IsComparisonOf entries c → Derives (.obj entries) (.leaf c)
  /-- The key of an operator with an object of one entry, as in `{"IS": {"browser": "Chrome"}}`. -/
  | operator {key field : String} {v : Json} {argument : Option Json} :
      Text.asciiLower key ∈ operatorKeys → Argument (some v) argument →
      Derives (.obj [(key, .obj [(field, v)])])
        (.leaf { field, operator := Text.asciiLower key, argument })
  /-- The key of a group with the list of its members. -/
  | group {key : String} {items : List Json} {kind : Connective} {members : List Filter} :
      Text.asciiLower key = kind.key → DerivesAll items members →
      Derives (.obj [(key, .arr items)]) (.group kind members)
  /-- The key of a negation with its one member. -/
  | negation {key : String} {v : Json} {member : Filter} :
      Text.asciiLower key = Connective.not.key → Derives v member →
      Derives (.obj [(key, v)]) (.group .not [member])

/-- `DerivesAll items filters`: the items are written forms of the filters, in their order. -/
inductive DerivesAll : List Json → List Filter → Prop where
  /-- No items, no filters. -/
  | nil : DerivesAll [] []
  /-- One item more, one filter more. -/
  | cons {item : Json} {filter : Filter} {items : List Json} {filters : List Filter} :
      Derives item filter → DerivesAll items filters →
      DerivesAll (item :: items) (filter :: filters)

end

/-- `DerivesList raw filters`: at the top stands one filter or a list of filters. -/
inductive DerivesList : Json → List Filter → Prop where
  /-- A list of filters. -/
  | list {items : List Json} {filters : List Filter} :
      DerivesAll items filters → DerivesList (.arr items) filters
  /-- A single filter. -/
  | single {raw : Json} {filter : Filter} : Derives raw filter → DerivesList raw [filter]

/-- Only objects are written forms of a filter. -/
theorem Derives.exists_obj {raw : Json} {filter : Filter} (h : Derives raw filter) :
    ∃ entries, raw = .obj entries := by
  cases h <;> exact ⟨_, rfl⟩

theorem not_derives_arr {items : List Json} {filter : Filter} : ¬ Derives (.arr items) filter := by
  intro h
  obtain ⟨entries, h⟩ := h.exists_obj
  cases h

/-! ### Depth -/

theorem depthAll_le_iff {filters : List Filter} {d : Nat} :
    depthAll filters ≤ d ↔ ∀ filter ∈ filters, filter.depth ≤ d := by
  induction filters with
  | nil => simp [depthAll]
  | cons filter rest ih => rw [depthAll, Nat.max_le, List.forall_mem_cons, ih]

/-- A group that stands at `level` is within the limit when its members, one level deeper, are. -/
theorem level_add_depth_group {level limit : Nat} {kind : Connective} {members : List Filter} :
    level + depth (group kind members) ≤ limit + 1 ↔
      level ≤ limit ∧ ∀ member ∈ members, level + 1 + member.depth ≤ limit + 1 := by
  have hle : level + depth (group kind members) ≤ limit + 1 ↔
      level ≤ limit ∧ depthAll members ≤ limit - level := by
    rw [depth]
    omega
  rw [hle, depthAll_le_iff]
  refine and_congr_right fun hl => forall₂_congr fun member _ => ?_
  omega

/-! ### Reading the parts of a comparison -/

theorem nonNull_eq_iff {v : Json} {argument : Option Json} :
    nonNull v = argument ↔ Argument (some v) argument := by
  constructor
  · rintro rfl
    cases v with
    | null => exact .null
    | _ => exact .value (by simp)
  · intro h
    cases h with
    | null => rfl
    | value hv => cases v <;> first | rfl | exact absurd rfl hv

theorem bind_nonNull_eq_iff {entry argument : Option Json} :
    entry.bind nonNull = argument ↔ Argument entry argument := by
  cases entry with
  | none =>
    constructor
    · rintro rfl
      exact .missing
    · rintro ⟨⟩
      rfl
  | some v => exact nonNull_eq_iff

theorem requiredText_eq_ok_iff {key text : String} {entries : List (String × Json)} :
    requiredText key entries = .ok text ↔ Entries.lookup key entries = some (.str text) := by
  unfold requiredText
  split <;> simp_all [malformed]

theorem otherField_eq_ok_iff {entries : List (String × Json)} {other : Option String} :
    otherField entries = .ok other ↔ OtherField (Entries.lookup "field" entries) other := by
  unfold otherField
  split
  · next h =>
    rw [h, Except.ok.injEq]
    exact ⟨fun h => h ▸ .missing, fun h => by cases h; rfl⟩
  · next h =>
    rw [h, Except.ok.injEq]
    exact ⟨fun h => h ▸ .null, fun h => by cases h; rfl⟩
  · next s h =>
    rw [h, Except.ok.injEq]
    exact ⟨fun h => h ▸ .name s, fun h => by cases h; rfl⟩
  · next v hnull hstr h =>
    rw [h]
    constructor
    · intro h
      simp [malformed] at h
    · intro h
      cases h with
      | null => exact (hnull rfl).elim
      | name s => exact (hstr s rfl).elim

theorem find?_extraKey_eq_none_iff {entries : List (String × Json)} :
    (entries.find? fun entry => !comparisonKeys.contains entry.1) = none ↔
      ∀ entry ∈ entries,
        entry.1 = "name" ∨ entry.1 = "op" ∨ entry.1 = "val" ∨ entry.1 = "field" := by
  rw [List.find?_eq_none]
  refine forall₂_congr fun entry _ => ?_
  rw [Bool.not_eq_true, Bool.not_eq_false', List.contains_iff_mem]
  simp [comparisonKeys]

theorem readComparison_eq_ok_iff {entries : List (String × Json)} {filter : Filter} :
    readComparison entries = .ok filter ↔ ∃ c, filter = .leaf c ∧ IsComparisonOf entries c := by
  unfold readComparison
  constructor
  · intro h
    split at h
    · simp [malformed] at h
    · next hkeys =>
      obtain ⟨field, hname, h⟩ := bind_eq_ok_iff.mp h
      obtain ⟨op, hop, h⟩ := bind_eq_ok_iff.mp h
      obtain ⟨other, hother, h⟩ := bind_eq_ok_iff.mp h
      rw [pure_eq_ok, Except.ok.injEq] at h
      refine ⟨_, h.symm, ?_, ?_, ⟨op, ?_, rfl⟩, ?_, ?_⟩
      · exact find?_extraKey_eq_none_iff.mp hkeys
      · exact requiredText_eq_ok_iff.mp hname
      · exact requiredText_eq_ok_iff.mp hop
      · exact bind_nonNull_eq_iff.mp rfl
      · exact otherField_eq_ok_iff.mp hother
  · rintro ⟨c, rfl, hkeys, hname, ⟨op, hop, hoperator⟩, hval, hfield⟩
    rw [find?_extraKey_eq_none_iff.mpr hkeys]
    simp only [requiredText_eq_ok_iff.mpr hname, requiredText_eq_ok_iff.mpr hop,
      otherField_eq_ok_iff.mpr hfield, bind_nonNull_eq_iff.mpr hval, ok_bind, pure_eq_ok,
      ← hoperator]

/-- A name or an operator makes an object a comparison. -/
theorem isComparison_of_lookup {key : String} {v : Json} {entries : List (String × Json)}
    (hkey : key = "name" ∨ key = "op") (h : Entries.lookup key entries = some v) :
    isComparison entries = true := by
  rw [isComparison, List.any_eq_true]
  refine ⟨(key, v), Entries.mem_of_lookup h, ?_⟩
  rcases hkey with rfl | rfl <;> rfl

theorem isComparison_of_isComparisonOf {entries : List (String × Json)} {c : Comparison}
    (h : IsComparisonOf entries c) : isComparison entries = true :=
  isComparison_of_lookup (.inl rfl) h.name

/-! ### Reading an object of one entry -/

theorem readOperand_eq_ok_iff {key : String} {v : Json} {filter : Filter} :
    readOperand key v = .ok filter ↔
      ∃ field w argument, v = .obj [(field, w)] ∧ Argument (some w) argument ∧
        filter = .leaf { field, operator := Text.asciiLower key, argument } := by
  unfold readOperand
  constructor
  · intro h
    split at h
    · next field w =>
      rw [Except.ok.injEq] at h
      exact ⟨field, w, _, rfl, nonNull_eq_iff.mp rfl, h.symm⟩
    · simp [malformed] at h
    · simp [malformed] at h
  · rintro ⟨field, w, argument, rfl, hw, rfl⟩
    simp only [nonNull_eq_iff.mpr hw]

/-- What an object that is no comparison can be: a group with a list of members, a negation of a
single member, or an operator with its operand. -/
theorem readNode_eq_ok_iff {limit level : Nat} {entries : List (String × Json)} {filter : Filter} :
    readNode limit level entries = .ok filter ↔ ∃ key v, entries = [(key, v)] ∧
      ((∃ kind items members, Text.asciiLower key = kind.key ∧ v = .arr items ∧
          readAll limit (level + 1) items = .ok members ∧ filter = .group kind members) ∨
        (Text.asciiLower key = Connective.not.key ∧ (∀ items, v ≠ .arr items) ∧
          ∃ member, readAt limit (level + 1) v = .ok member ∧ filter = .group .not [member]) ∨
        (Text.asciiLower key ∈ operatorKeys ∧ readOperand key v = .ok filter)) := by
  constructor
  · intro h
    rw [readNode.eq_def] at h
    split at h
    · simp [malformed] at h
    · next key v =>
      refine ⟨key, v, rfl, ?_⟩
      split at h
      · next kind hkind =>
        rw [Connective.ofKey?_eq_some_iff] at hkind
        split at h
        · next items =>
          obtain ⟨members, hmembers, h⟩ := bind_eq_ok_iff.mp h
          rw [pure_eq_ok, Except.ok.injEq] at h
          exact .inl ⟨kind, items, members, hkind, rfl, hmembers, h.symm⟩
        · next hv =>
          split at h
          · next hnot =>
            subst hnot
            obtain ⟨member, hmember, h⟩ := bind_eq_ok_iff.mp h
            rw [pure_eq_ok, Except.ok.injEq] at h
            exact .inr (.inl ⟨hkind, hv, member, hmember, h.symm⟩)
          · simp [malformed] at h
      · split at h
        · next hop => exact .inr (.inr ⟨by simpa using hop, h⟩)
        · simp [malformed] at h
    · simp [malformed] at h
  · rintro ⟨key, v, rfl, ⟨kind, items, members, hkey, rfl, hmembers, rfl⟩ |
      ⟨hkey, hv, member, hmember, rfl⟩ | ⟨hkey, h⟩⟩
    · rw [readNode, Connective.ofKey?_eq_some_iff.mpr hkey]
      simp only [hmembers, ok_bind, pure_eq_ok]
    · rw [readNode, Connective.ofKey?_eq_some_iff.mpr hkey]
      dsimp only
      split
      · next items => exact absurd rfl (hv items)
      · rw [if_pos rfl, hmember, ok_bind, pure_eq_ok]
    · rw [readNode, ofKey?_of_mem_operatorKeys hkey]
      simp only [List.contains_iff_mem.mpr hkey, if_true, h]

theorem readAll_cons_eq_ok_iff {limit level : Nat} {item : Json} {rest : List Json}
    {filters : List Filter} :
    readAll limit level (item :: rest) = .ok filters ↔
      ∃ filter others, readAt limit level item = .ok filter ∧
        readAll limit level rest = .ok others ∧ filters = filter :: others := by
  rw [readAll]
  constructor
  · intro h
    obtain ⟨filter, hfilter, h⟩ := bind_eq_ok_iff.mp h
    obtain ⟨others, hothers, h⟩ := bind_eq_ok_iff.mp h
    rw [pure_eq_ok, Except.ok.injEq] at h
    exact ⟨filter, others, hfilter, hothers, h.symm⟩
  · rintro ⟨filter, others, hfilter, hothers, rfl⟩
    rw [hfilter, ok_bind, hothers, ok_bind, pure_eq_ok]

/-- What a filter that is read can be: it is an object within the limit, a comparison if the object
has one of its keys, and what its one entry says otherwise. -/
theorem readAt_eq_ok_iff_cases {limit level : Nat} {raw : Json} {filter : Filter} :
    readAt limit level raw = .ok filter ↔ level ≤ limit ∧ ∃ entries, raw = .obj entries ∧
      ((isComparison entries = true ∧ readComparison entries = .ok filter) ∨
        (isComparison entries = false ∧ readNode limit level entries = .ok filter)) := by
  constructor
  · intro h
    rw [readAt.eq_def] at h
    split at h
    · next entries =>
      split at h
      · simp [malformed] at h
      · next hlevel =>
        refine ⟨by omega, entries, rfl, ?_⟩
        split at h
        · next hc => exact .inl ⟨hc, h⟩
        · next hc => exact .inr ⟨by simpa using hc, h⟩
    · split at h <;> simp [malformed] at h
  · rintro ⟨hlevel, entries, rfl, ⟨hc, h⟩ | ⟨hc, h⟩⟩
    · rw [readAt, if_neg (by omega), if_pos hc, h]
    · rw [readAt, if_neg (by omega), if_neg (by simp [hc]), h]

/-- The key of a group or of an operator is no key of a comparison. -/
theorem ne_comparisonKey {key : String}
    (h : Text.asciiLower key ∈ operatorKeys ∨ ∃ kind : Connective, Text.asciiLower key = kind.key) :
    key ≠ "name" ∧ key ≠ "op" := by
  constructor <;> rintro rfl <;> rcases h with h | ⟨kind, h⟩
  · exact absurd h (by decide)
  · cases kind <;> exact absurd h (by decide)
  · exact absurd h (by decide)
  · cases kind <;> exact absurd h (by decide)

theorem isComparison_singleton {key : String} {v : Json}
    (h : Text.asciiLower key ∈ operatorKeys ∨ ∃ kind : Connective, Text.asciiLower key = kind.key) :
    isComparison [(key, v)] = false := by
  obtain ⟨hname, hop⟩ := ne_comparisonKey h
  simp [isComparison, hname, hop]

/-! ### Reading is deriving within the limit -/

mutual

/-- **The reader accepts the derivable filters within the limit**, and reads each text as the filter
that it derives. -/
theorem readAt_eq_ok_iff {limit : Nat} (level : Nat) (raw : Json) (filter : Filter) :
    readAt limit level raw = .ok filter ↔
      Derives raw filter ∧ level + filter.depth ≤ limit + 1 := by
  constructor
  · intro h
    obtain ⟨hlevel, entries, rfl, ⟨-, h⟩ | ⟨-, h⟩⟩ := readAt_eq_ok_iff_cases.mp h
    · obtain ⟨c, rfl, hc⟩ := readComparison_eq_ok_iff.mp h
      exact ⟨.comparison hc, by rw [depth]; omega⟩
    · obtain ⟨key, v, rfl, ⟨kind, items, members, hkey, rfl, hitems, rfl⟩ |
        ⟨hkey, -, member, hmember, rfl⟩ | ⟨hkey, hoperand⟩⟩ := readNode_eq_ok_iff.mp h
      · obtain ⟨hm, hd⟩ := (readAll_eq_ok_iff (level + 1) items members).mp hitems
        exact ⟨.group hkey hm, level_add_depth_group.mpr ⟨hlevel, hd⟩⟩
      · obtain ⟨hm, hd⟩ := (readAt_eq_ok_iff (level + 1) v member).mp hmember
        exact ⟨.negation hkey hm, level_add_depth_group.mpr ⟨hlevel, by simpa using hd⟩⟩
      · obtain ⟨field, w, argument, rfl, hw, rfl⟩ := readOperand_eq_ok_iff.mp hoperand
        exact ⟨.operator hkey hw, by rw [depth]; omega⟩
  · rintro ⟨h, hd⟩
    cases h with
    | comparison hc =>
      refine readAt_eq_ok_iff_cases.mpr ⟨by rw [depth] at hd; omega, _, rfl, .inl ⟨?_, ?_⟩⟩
      · exact isComparison_of_isComparisonOf hc
      · exact readComparison_eq_ok_iff.mpr ⟨_, rfl, hc⟩
    | operator hkey hw =>
      refine readAt_eq_ok_iff_cases.mpr ⟨by rw [depth] at hd; omega, _, rfl, .inr ⟨?_, ?_⟩⟩
      · exact isComparison_singleton (.inl hkey)
      · refine readNode_eq_ok_iff.mpr ⟨_, _, rfl, .inr (.inr ⟨hkey, ?_⟩)⟩
        exact readOperand_eq_ok_iff.mpr ⟨_, _, _, rfl, hw, rfl⟩
    | @group key items kind members hkey hm =>
      obtain ⟨hlevel, hd⟩ := level_add_depth_group.mp hd
      refine readAt_eq_ok_iff_cases.mpr ⟨hlevel, _, rfl, .inr ⟨?_, ?_⟩⟩
      · exact isComparison_singleton (.inr ⟨kind, hkey⟩)
      · refine readNode_eq_ok_iff.mpr ⟨_, _, rfl, .inl ⟨kind, items, members, hkey, rfl, ?_, rfl⟩⟩
        exact (readAll_eq_ok_iff (level + 1) items members).mpr ⟨hm, hd⟩
    | @negation key v member hkey hm =>
      obtain ⟨hlevel, hd⟩ := level_add_depth_group.mp hd
      refine readAt_eq_ok_iff_cases.mpr ⟨hlevel, _, rfl, .inr ⟨?_, ?_⟩⟩
      · exact isComparison_singleton (.inr ⟨.not, hkey⟩)
      · refine readNode_eq_ok_iff.mpr ⟨_, _, rfl, .inr (.inl ⟨hkey, ?_, member, ?_, rfl⟩)⟩
        · rintro items rfl
          exact not_derives_arr hm
        · exact (readAt_eq_ok_iff (level + 1) v member).mpr ⟨hm, hd member (by simp)⟩
termination_by sizeOf raw

/-- The reader of several filters accepts those that are derivable, each within the limit. -/
theorem readAll_eq_ok_iff {limit : Nat} (level : Nat) (items : List Json)
    (filters : List Filter) :
    readAll limit level items = .ok filters ↔
      DerivesAll items filters ∧ ∀ filter ∈ filters, level + filter.depth ≤ limit + 1 := by
  cases items with
  | nil =>
    rw [readAll, Except.ok.injEq]
    constructor
    · rintro rfl
      exact ⟨.nil, by simp⟩
    · rintro ⟨⟨⟩, -⟩
      rfl
  | cons item rest =>
    rw [readAll_cons_eq_ok_iff]
    constructor
    · rintro ⟨filter, others, hfilter, hothers, rfl⟩
      obtain ⟨hf, hd⟩ := (readAt_eq_ok_iff level item filter).mp hfilter
      obtain ⟨ho, hds⟩ := (readAll_eq_ok_iff level rest others).mp hothers
      exact ⟨.cons hf ho, by simpa using ⟨hd, hds⟩⟩
    · rintro ⟨h, hd⟩
      cases h with
      | @cons _ filter _ others hf ho =>
        rw [List.forall_mem_cons] at hd
        exact ⟨filter, others, (readAt_eq_ok_iff level item filter).mpr ⟨hf, hd.1⟩,
          (readAll_eq_ok_iff level rest others).mpr ⟨ho, hd.2⟩, rfl⟩
termination_by sizeOf items

end

/-! ### Faults of the reader -/

/-- All faults of a step are faults of the form. -/
def FormOnly {α : Type} (step : Except FilterFault α) : Prop :=
  ∀ fault, step = .error fault → ∃ form, fault = .malformed form

theorem formOnly_ok {α : Type} (a : α) : FormOnly (.ok a) := by
  intro fault h
  cases h

theorem formOnly_malformed {α : Type} (form : FormFault) :
    FormOnly (malformed form : Except FilterFault α) := by
  intro fault h
  cases h
  exact ⟨form, rfl⟩

theorem FormOnly.bind {α β : Type} {step : Except FilterFault α}
    {next : α → Except FilterFault β} (h : FormOnly step) (hnext : ∀ a, FormOnly (next a)) :
    FormOnly (step >>= next) := by
  intro fault hfault
  rcases bind_eq_error_iff.mp hfault with hs | ⟨a, -, hn⟩
  · exact h fault hs
  · exact hnext a fault hn

theorem requiredText_formOnly (key : String) (entries : List (String × Json)) :
    FormOnly (requiredText key entries) := by
  unfold requiredText
  split
  · exact formOnly_ok _
  · exact formOnly_malformed _
  · exact formOnly_malformed _

theorem otherField_formOnly (entries : List (String × Json)) : FormOnly (otherField entries) := by
  unfold otherField
  split
  · exact formOnly_ok _
  · exact formOnly_ok _
  · exact formOnly_ok _
  · exact formOnly_malformed _

theorem readComparison_formOnly (entries : List (String × Json)) :
    FormOnly (readComparison entries) := by
  unfold readComparison
  split
  · exact formOnly_malformed _
  · refine (requiredText_formOnly _ _).bind fun field => ?_
    refine (requiredText_formOnly _ _).bind fun operator => ?_
    exact (otherField_formOnly _).bind fun other => formOnly_ok _

theorem readOperand_formOnly (key : String) (v : Json) : FormOnly (readOperand key v) := by
  unfold readOperand
  split
  · exact formOnly_ok _
  · exact formOnly_malformed _
  · exact formOnly_malformed _

mutual

/-- Whatever the reader refuses, it refuses as malformed. -/
theorem readAt_formOnly (limit level : Nat) (raw : Json) : FormOnly (readAt limit level raw) := by
  rw [readAt.eq_def]
  split
  · next entries =>
    split
    · exact formOnly_malformed _
    · split
      · exact readComparison_formOnly entries
      · exact readNode_formOnly limit level entries
  · split <;> exact formOnly_malformed _
termination_by sizeOf raw

theorem readNode_formOnly (limit level : Nat) (entries : List (String × Json)) :
    FormOnly (readNode limit level entries) := by
  rw [readNode.eq_def]
  split
  · exact formOnly_malformed _
  · next key v =>
    split
    · split
      · next items =>
        exact (readAll_formOnly limit (level + 1) items).bind fun members => formOnly_ok _
      · split
        · exact (readAt_formOnly limit (level + 1) v).bind fun member => formOnly_ok _
        · exact formOnly_malformed _
    · split
      · exact readOperand_formOnly key v
      · exact formOnly_malformed _
  · exact formOnly_malformed _
termination_by sizeOf entries

theorem readAll_formOnly (limit level : Nat) (items : List Json) :
    FormOnly (readAll limit level items) := by
  rw [readAll.eq_def]
  split
  · exact formOnly_ok _
  · next item rest =>
    refine (readAt_formOnly limit level item).bind fun filter => ?_
    exact (readAll_formOnly limit level rest).bind fun others => formOnly_ok _
termination_by sizeOf items

end

/-! ### The whole text -/

theorem read_eq_ok_iff {limit : Nat} {raw : Json} {filters : List Filter} :
    read limit raw = .ok filters ↔
      DerivesList raw filters ∧ ∀ filter ∈ filters, filter.depth ≤ limit := by
  have hlevel : ∀ filter : Filter, 1 + filter.depth ≤ limit + 1 ↔ filter.depth ≤ limit := by
    intro filter
    omega
  unfold read
  split
  · next items =>
    simp only [readAll_eq_ok_iff, hlevel]
    refine and_congr_left fun _ => ⟨.list, ?_⟩
    rintro (h | h)
    · exact h
    · exact absurd h not_derives_arr
  · next hraw =>
    simp only [bind_eq_ok_iff, readAt_eq_ok_iff, hlevel, pure_eq_ok, Except.ok.injEq]
    constructor
    · rintro ⟨filter, ⟨h, hd⟩, rfl⟩
      exact ⟨.single h, by simpa using hd⟩
    · rintro ⟨h, hd⟩
      cases h with
      | @list items _ _ => exact absurd rfl (hraw items)
      | @single _ filter h => exact ⟨filter, ⟨h, hd filter (by simp)⟩, rfl⟩

theorem read_formOnly (limit : Nat) (raw : Json) : FormOnly (read limit raw) := by
  unfold read
  split
  · exact readAll_formOnly limit 1 _
  · exact (readAt_formOnly limit 1 _).bind fun filter => formOnly_ok _

/-- **Reading accepts exactly the grammar, cut at the limit**: a text is read as the filters that
derive from it when none of them is deeper than the limit; everything else is refused as malformed;
and a greater limit reads what a smaller one reads in the same way. -/
theorem read_accepts_grammar_within_limit (limit : Nat) (raw : Json) :
    (∀ filters, read limit raw = .ok filters ↔
      DerivesList raw filters ∧ ∀ filter ∈ filters, filter.depth ≤ limit) ∧
    ((∃ filters, read limit raw = .ok filters) ∨
      ∃ form, read limit raw = .error (.malformed form)) ∧
    ∀ greater filters, limit ≤ greater → read limit raw = .ok filters →
      read greater raw = .ok filters := by
  refine ⟨fun filters => read_eq_ok_iff, ?_, ?_⟩
  · cases h : read limit raw with
    | ok filters => exact .inl ⟨filters, rfl⟩
    | error fault =>
      obtain ⟨form, rfl⟩ := read_formOnly limit raw fault h
      exact .inr ⟨form, rfl⟩
  · intro greater filters hle h
    obtain ⟨hderives, hdepth⟩ := read_eq_ok_iff.mp h
    exact read_eq_ok_iff.mpr ⟨hderives, fun filter hf => Nat.le_trans (hdepth filter hf) hle⟩

/-- A negation of depth 2 is read under the limit 2 and therefore under the limit 9. -/
theorem read_negation_under_greater_limit :
    read 2 (.obj [("Not", .obj [("IS", .obj [("id", .null)])])]) =
        .ok [.group .not [.leaf { field := "id", operator := "is" }]] ∧ 2 ≤ 9 ∧
      read 9 (.obj [("Not", .obj [("IS", .obj [("id", .null)])])]) =
        .ok [.group .not [.leaf { field := "id", operator := "is" }]] :=
  ⟨rfl, by decide, (read_accepts_grammar_within_limit 2 _).2.2 9 _ (by decide) rfl⟩

end Filter

end LogSieve
