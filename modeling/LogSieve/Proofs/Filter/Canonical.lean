import LogSieve.Proofs.Filter.Derivation

/-!
# The canonical form

The canonical JSON of a filter derives the filter again (`derives_toJson`), provided that it could
have been read at all: its operators are in lower case and none of its arguments is `null`
(`IsCanonical`). Every filter that derives from some text is of that kind
(`Derives.isCanonical`), so that reading what was read gives the same filters once more, at the same
depth.
-/

namespace LogSieve

/-! ### Lower case -/

theorem Text.asciiLower_asciiLower (s : String) : asciiLower (asciiLower s) = asciiLower s := by
  have hascii : ∀ n < 128, (Char.ofNat n).toLower.toLower = (Char.ofNat n).toLower := by decide
  have hchar (c : Char) : c.toLower.toLower = c.toLower := by
    by_cases hc : c.toNat < 128
    · simpa only [Char.ofNat_toNat] using hascii c.toNat hc
    · have hlower : c.toLower = c :=
        dif_neg fun h => hc (Nat.lt_of_le_of_lt (UInt32.le_iff_toNat_le.mp h.2) (by decide))
      rw [hlower, hlower]
  unfold asciiLower
  rw [String.toList_ofList, List.map_map]
  congr 1
  exact List.map_congr_left fun c _ => hchar c

theorem Connective.asciiLower_key (kind : Connective) : Text.asciiLower kind.key = kind.key := by
  cases kind <;> decide

namespace Filter

/-! ### Filters that can be read -/

/-- The operator is in lower case and the argument, if there is one, is not `null`. -/
structure IsCanonicalComparison (c : Comparison) : Prop where
  operator : Text.asciiLower c.operator = c.operator
  argument : c.argument ≠ some .null

mutual

/-- The comparisons of a filter, from left to right. -/
def comparisons : Filter → List Comparison
  | leaf c => [c]
  | group _ members => comparisonsAll members

/-- The comparisons of several filters, from left to right. -/
def comparisonsAll : List Filter → List Comparison
  | [] => []
  | filter :: rest => comparisons filter ++ comparisonsAll rest

end

/-- Every comparison of the filter is canonical. -/
def IsCanonical (filter : Filter) : Prop := ∀ c ∈ filter.comparisons, IsCanonicalComparison c

theorem isCanonical_leaf {c : Comparison} : IsCanonical (leaf c) ↔ IsCanonicalComparison c := by
  simp [IsCanonical, comparisons]

theorem mem_comparisonsAll {c : Comparison} {filters : List Filter} :
    c ∈ comparisonsAll filters ↔ ∃ filter ∈ filters, c ∈ filter.comparisons := by
  induction filters with
  | nil => simp [comparisonsAll]
  | cons filter rest ih => simp [comparisonsAll, ih]

theorem isCanonical_group {kind : Connective} {members : List Filter} :
    IsCanonical (group kind members) ↔ ∀ member ∈ members, IsCanonical member := by
  simp only [IsCanonical, comparisons, mem_comparisonsAll]
  constructor
  · intro h member hm c hc
    exact h c ⟨member, hm, hc⟩
  · rintro h c ⟨member, hm, hc⟩
    exact h member hm c hc

theorem Argument.ne_null {entry argument : Option Json} (h : Argument entry argument) :
    argument ≠ some .null := by
  cases h with
  | missing => simp
  | null => simp
  | value hv => simpa using hv

mutual

/-- Whatever derives from a text is canonical. -/
theorem Derives.isCanonical {raw : Json} {filter : Filter} :
    Derives raw filter → IsCanonical filter
  | .comparison hc => by
    obtain ⟨op, -, hop⟩ := hc.op
    refine isCanonical_leaf.mpr ⟨?_, hc.val.ne_null⟩
    rw [hop, Text.asciiLower_asciiLower]
  | .operator _ hv => isCanonical_leaf.mpr ⟨Text.asciiLower_asciiLower _, hv.ne_null⟩
  | .group _ hm => isCanonical_group.mpr hm.isCanonical
  | .negation _ hm => isCanonical_group.mpr (by simpa using hm.isCanonical)

theorem DerivesAll.isCanonical {items : List Json} {filters : List Filter} :
    DerivesAll items filters → ∀ filter ∈ filters, IsCanonical filter
  | .nil => by simp
  | .cons hf hr => by simpa using ⟨hf.isCanonical, hr.isCanonical⟩

end

/-! ### The canonical form derives its filter -/

/-- The entries that are written for a canonical comparison are entries of it. -/
theorem isComparisonOf_comparisonJson {c : Comparison} (h : IsCanonicalComparison c) :
    ∃ entries, comparisonJson c = .obj entries ∧ IsComparisonOf entries c := by
  obtain ⟨field, operator, argument, other⟩ := c
  have hval : Argument (some (argument.getD .null)) argument := by
    cases argument with
    | none => exact .null
    | some v => exact .value fun hv => h.argument (congrArg some hv)
  refine ⟨_, rfl, ?_⟩
  cases other with
  | none => exact ⟨by simp, rfl, ⟨operator, rfl, h.operator.symm⟩, hval, .missing⟩
  | some other => exact ⟨by simp, rfl, ⟨operator, rfl, h.operator.symm⟩, hval, .name other⟩

mutual

/-- **The canonical form of a filter derives it.** -/
theorem derives_toJson : ∀ {filter : Filter}, IsCanonical filter → Derives filter.toJson filter
  | leaf c, h => by
    obtain ⟨entries, he, hc⟩ := isComparisonOf_comparisonJson (isCanonical_leaf.mp h)
    rw [toJson, he]
    exact .comparison hc
  | group kind members, h => by
    rw [toJson]
    exact .group kind.asciiLower_key (derivesAll_toJsonAll (isCanonical_group.mp h))

theorem derivesAll_toJsonAll : ∀ {filters : List Filter},
    (∀ filter ∈ filters, IsCanonical filter) → DerivesAll (toJsonAll filters) filters
  | [], _ => .nil
  | filter :: rest, h => by
    rw [List.forall_mem_cons] at h
    exact .cons (derives_toJson h.1) (derivesAll_toJsonAll h.2)

end

/-- **Reading the canonical form**: canonical filters within the limit are read back from it. -/
theorem read_canonical {limit : Nat} {filters : List Filter}
    (h : ∀ filter ∈ filters, IsCanonical filter)
    (hd : ∀ filter ∈ filters, filter.depth ≤ limit) :
    read limit (canonical filters) = .ok filters :=
  read_eq_ok_iff.mpr ⟨.list (derivesAll_toJsonAll h), hd⟩

theorem DerivesList.isCanonical {raw : Json} {filters : List Filter} (h : DerivesList raw filters) :
    ∀ filter ∈ filters, IsCanonical filter := by
  cases h with
  | list h => exact h.isCanonical
  | single h => simpa using h.isCanonical

/-- **The canonical form is faithful**: what was read once is read again from its canonical form,
under the same limit, and so are all filters of lower-case operators without `null` arguments that
are within the limit, whatever their fields, operators and arguments are. -/
theorem canonical_is_faithful (limit : Nat) :
    (∀ raw filters, read limit raw = .ok filters →
      read limit (canonical filters) = .ok filters) ∧
    ∀ filters : List Filter,
      (∀ filter ∈ filters, ∀ c ∈ filter.comparisons,
        Text.asciiLower c.operator = c.operator ∧ c.argument ≠ some .null) →
      (∀ filter ∈ filters, filter.depth ≤ limit) →
      read limit (canonical filters) = .ok filters := by
  constructor
  · intro raw filters h
    obtain ⟨hderives, hdepth⟩ := read_eq_ok_iff.mp h
    exact read_canonical hderives.isCanonical hdepth
  · intro filters h hdepth
    refine read_canonical (fun filter hf c hc => ?_) hdepth
    obtain ⟨hoperator, hargument⟩ := h filter hf c hc
    exact ⟨hoperator, hargument⟩

/-- A comparison that no registry knows, of a field that is called like a connective. -/
def oddComparison : Comparison where
  field := "not"
  operator := "between"
  argument := some (.arr [.null])
  other := some "op"

/-- Its negation is read back under its own depth, and so is what a text in mixed case gives. -/
theorem read_canonical_negation :
    read 2 (canonical [.group .not [.leaf oddComparison]]) =
        .ok [.group .not [.leaf oddComparison]] ∧
      ∃ filters, read 2 (.obj [("Not", .obj [("IS", .obj [("id", .int 1)])])]) = .ok filters ∧
        read 2 (canonical filters) = .ok filters := by
  constructor
  · refine (canonical_is_faithful 2).2 _ ?_ (by decide)
    intro filter hf c hc
    rw [List.mem_singleton.mp hf] at hc
    rw [List.mem_singleton.mp hc]
    exact ⟨by decide, by simp [oddComparison]⟩
  · refine ⟨_, rfl, (canonical_is_faithful 2).1 ?_ _ ?_⟩
    · exact .obj [("Not", .obj [("IS", .obj [("id", .int 1)])])]
    · rfl

end Filter

end LogSieve
