import LogSieve.Entries

/-!
# Looking up entries

What is bound to a key in a table of entries, after one entry was put or after several. Putting
keeps the keys ascending (`pairwise_keys_put`), and a table of given entries binds what these bind,
if no key is given twice (`lookup_ofList`, `lookup_reverse`).
-/

namespace LogSieve.Entries

variable {α : Type} {key : String}

theorem lookup_eq_none_iff {entries : List (String × α)} :
    lookup key entries = none ↔ key ∉ entries.map (·.1) := by
  rw [lookup, Option.map_eq_none_iff, List.find?_eq_none, List.mem_map]
  constructor
  · rintro h ⟨entry, hentry, rfl⟩
    exact h entry hentry (beq_self_eq_true _)
  · intro h entry hentry heq
    exact h ⟨entry, hentry, eq_of_beq heq⟩

/-- What is bound to a key is one of the entries. -/
theorem mem_of_lookup {v : α} {entries : List (String × α)} (h : lookup key entries = some v) :
    (key, v) ∈ entries := by
  obtain ⟨entry, hentry, rfl⟩ := Option.map_eq_some_iff.mp h
  have hkey := List.find?_some hentry
  obtain rfl := eq_of_beq hkey
  exact List.mem_of_find?_eq_some hentry

theorem lookup_singleton_of_ne {other : String} {v : α} (h : key ≠ other) :
    lookup other [(key, v)] = none := by
  rw [lookup_eq_none_iff]
  simpa using h.symm

theorem lookup_cons (entry : String × α) (rest : List (String × α)) :
    lookup key (entry :: rest) = if entry.1 = key then some entry.2 else lookup key rest := by
  rw [lookup, List.find?_cons]
  by_cases h : entry.1 = key
  · rw [if_pos h, beq_iff_eq.mpr h]
    rfl
  · rw [if_neg h, beq_eq_false_iff_ne.mpr h, lookup]

/-! ### Entries that were put -/

theorem lookup_put_self (v : α) (entries : List (String × α)) :
    lookup key (put key v entries) = some v := by
  induction entries with
  | nil => rw [put, lookup_cons, if_pos rfl]
  | cons entry rest ih =>
    rw [put]
    split
    · rw [lookup_cons, if_pos rfl]
    · split
      · rw [lookup_cons, if_pos rfl]
      · next hne => rw [lookup_cons, if_neg fun h => hne h.symm, ih]

theorem lookup_put_of_ne {other : String} (h : other ≠ key) (v : α)
    (entries : List (String × α)) : lookup other (put key v entries) = lookup other entries := by
  induction entries with
  | nil => rw [put, lookup_cons, if_neg h.symm]
  | cons entry rest ih =>
    rw [put]
    split
    · rw [lookup_cons, if_neg h.symm]
    · split
      · next heq => rw [lookup_cons, lookup_cons, if_neg h.symm, if_neg (heq ▸ h.symm)]
      · rw [lookup_cons, lookup_cons, ih]

theorem mem_keys_put {other : String} {v : α} {entries : List (String × α)} :
    other ∈ (put key v entries).map (·.1) ↔ other = key ∨ other ∈ entries.map (·.1) := by
  by_cases h : other = key
  · subst h
    refine iff_of_true (Decidable.not_not.mp fun hnot => ?_) (.inl rfl)
    rw [← lookup_eq_none_iff, lookup_put_self] at hnot
    cases hnot
  · rw [or_iff_right h, ← Decidable.not_iff_not, ← lookup_eq_none_iff, ← lookup_eq_none_iff,
      lookup_put_of_ne h]

/-- Nothing else is put than the entry itself. -/
theorem eq_or_mem_of_mem_put {v : α} {entries : List (String × α)} {entry : String × α}
    (h : entry ∈ put key v entries) : entry = (key, v) ∨ entry ∈ entries := by
  induction entries with
  | nil => exact .inl (List.mem_singleton.mp h)
  | cons head rest ih =>
    rw [put] at h
    split at h
    · exact List.mem_cons.mp h
    · split at h
      · exact (List.mem_cons.mp h).imp_right (List.mem_cons_of_mem _)
      · rcases List.mem_cons.mp h with rfl | h
        · exact .inr List.mem_cons_self
        · exact (ih h).imp_right (List.mem_cons_of_mem _)

/-- The keys keep ascending. -/
theorem pairwise_keys_put {v : α} {entries : List (String × α)}
    (h : (entries.map (·.1)).Pairwise (· < ·)) :
    ((put key v entries).map (·.1)).Pairwise (· < ·) := by
  induction entries with
  | nil => exact List.pairwise_singleton _ _
  | cons entry rest ih =>
    rw [List.map_cons, List.pairwise_cons] at h
    obtain ⟨hhead, hrest⟩ := h
    rw [put]
    split
    · next hlt =>
      refine List.pairwise_cons.mpr ⟨fun other hother => ?_, List.pairwise_cons.mpr ⟨hhead, hrest⟩⟩
      rcases List.mem_cons.mp hother with rfl | hother
      · exact hlt
      · exact String.lt_trans hlt (hhead other hother)
    · next hnot =>
      split
      · next heq => exact List.pairwise_cons.mpr ⟨heq ▸ hhead, hrest⟩
      · next hne =>
        have hlt : entry.1 < key := Std.lt_of_le_of_ne (String.not_lt.mp hnot) (Ne.symm hne)
        refine List.pairwise_cons.mpr ⟨fun other hother => ?_, ih hrest⟩
        rcases mem_keys_put.mp hother with rfl | hother
        · exact hlt
        · exact hhead other hother

/-! ### Several keys with one value -/

variable {keys : List String} {v : α} {entries : List (String × α)}

theorem lookup_foldl_put :
    lookup key (keys.foldl (fun entries key => put key v entries) entries) =
      if key ∈ keys then some v else lookup key entries := by
  induction keys generalizing entries with
  | nil => rfl
  | cons first rest ih =>
    rw [List.foldl_cons, ih]
    by_cases hrest : key ∈ rest
    · rw [if_pos hrest, if_pos (List.mem_cons_of_mem _ hrest)]
    · rw [if_neg hrest]
      by_cases hfirst : key = first
      · subst hfirst
        rw [if_pos List.mem_cons_self, lookup_put_self]
      · rw [if_neg (by simp [hfirst, hrest]), lookup_put_of_ne hfirst]

theorem snd_eq_or_mem_of_mem_foldl_put {entry : String × α}
    (h : entry ∈ keys.foldl (fun entries key => put key v entries) entries) :
    entry.2 = v ∨ entry ∈ entries := by
  induction keys generalizing entries with
  | nil => exact .inr h
  | cons first rest ih =>
    rcases ih h with hv | hmem
    · exact .inl hv
    · rcases eq_or_mem_of_mem_put hmem with rfl | hmem
      · exact .inl rfl
      · exact .inr hmem

theorem pairwise_keys_foldl_put (h : (entries.map (·.1)).Pairwise (· < ·)) :
    ((keys.foldl (fun entries key => put key v entries) entries).map (·.1)).Pairwise (· < ·) := by
  induction keys generalizing entries with
  | nil => exact h
  | cons first rest ih => exact ih (pairwise_keys_put h)

/-! ### Tables of given entries -/

/-- Of several given entries with one key the last one counts. -/
theorem lookup_ofList (entries : List (String × α)) :
    lookup key (ofList entries) = lookup key entries.reverse := by
  rw [ofList, List.foldl_eq_foldr_reverse]
  induction entries.reverse with
  | nil => rfl
  | cons entry rest ih =>
    rw [List.foldr_cons, lookup_cons]
    by_cases h : entry.1 = key
    · rw [if_pos h, h, lookup_put_self]
    · rw [if_neg h, lookup_put_of_ne (Ne.symm h), ih]

theorem lookup_append (first second : List (String × α)) :
    lookup key (first ++ second) = (lookup key first).or (lookup key second) := by
  rw [lookup, List.find?_append, Option.map_or]
  rfl

/-- Where no key is given twice, the order of the entries makes no difference. -/
theorem lookup_reverse {entries : List (String × α)} (h : (entries.map (·.1)).Nodup) :
    lookup key entries.reverse = lookup key entries := by
  induction entries with
  | nil => rfl
  | cons entry rest ih =>
    rw [List.map_cons, List.nodup_cons] at h
    rw [List.reverse_cons, lookup_append, ih h.2, lookup_cons, lookup_cons]
    by_cases hkey : entry.1 = key
    · rw [if_pos hkey, if_pos hkey, lookup_eq_none_iff.mpr (hkey ▸ h.1), Option.none_or]
    · rw [if_neg hkey, if_neg hkey]
      exact Option.or_none

end LogSieve.Entries
