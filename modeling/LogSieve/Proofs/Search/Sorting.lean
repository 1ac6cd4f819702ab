import LogSieve.Proofs.Json.Order
import LogSieve.Search

/-!
# Sorted records

Sorting by the keys of a schema, for records of any type. The records are compared by
`recordOrder`, a total preorder, since their sorting values are. What sorting returns is a
permutation (`sortRecords_perm`) in this order (`sortRecords_pairwise`) that leaves records which
tie as they were (`filter_tied_sortRecords`).
-/

namespace LogSieve

open Std

/-! ### The order of records -/

/-- Tuples of one length are compared as lists are. -/
theorem compareKeys_eq : ∀ {as bs : List (Option Json)}, as.length = bs.length →
    compareKeys as bs = List.compareLex Json.compareForSort as bs
  | [], [], _ => rfl
  | a :: as, b :: bs, h => by
    rw [compareKeys, List.compareLex_cons_cons, compareKeys_eq (Nat.succ.inj h)]

variable {R : Type} [HasFields R] {schema : Schema}

/-- The order of two records by the sort keys of a schema. -/
def recordOrder (schema : Schema) (a b : R) : Ordering :=
  compareKeys (sortValues schema a) (sortValues schema b)

theorem recordOrder_eq (a b : R) : recordOrder schema a b =
    List.compareLex Json.compareForSort (sortValues schema a) (sortValues schema b) :=
  compareKeys_eq (by rw [sortValues, sortValues, List.length_map, List.length_map])

instance : TransCmp (recordOrder schema (R := R)) where
  eq_swap {a b} := by
    rw [recordOrder_eq, recordOrder_eq]
    exact OrientedCmp.eq_swap
  isLE_trans {a b c} hab hbc := by
    rw [recordOrder_eq] at hab hbc ⊢
    exact TransCmp.isLE_trans hab hbc

/-- Does the first record come no later than the second in the order of a schema? -/
def ordered (schema : Schema) (a b : R) : Bool := (recordOrder schema a b).isLE

theorem ordered_trans (a b c : R) (hab : ordered schema a b) (hbc : ordered schema b c) :
    ordered schema a c :=
  TransCmp.isLE_trans hab hbc

theorem ordered_total (a b : R) : ordered schema a b || ordered schema b a := by
  have hswap : recordOrder schema a b = (recordOrder schema b a).swap := OrientedCmp.eq_swap
  rw [ordered, ordered, hswap]
  cases recordOrder schema b a <;> rfl

/-- Do two records tie in the order of a schema? -/
def tied (schema : Schema) (a b : R) : Bool := recordOrder schema a b == .eq

theorem tied_iff {a b : R} : tied schema a b ↔ recordOrder schema a b = .eq := beq_iff_eq

theorem tied_self (a : R) : tied schema a a :=
  tied_iff.mpr ReflCmp.compare_self

theorem tied_comm {a b : R} (h : tied schema a b) : tied schema b a :=
  tied_iff.mpr (OrientedCmp.eq_symm (tied_iff.mp h))

theorem ordered_of_tied {a b : R} (h : tied schema a b) : ordered schema a b := by
  rw [ordered, tied_iff.mp h]
  rfl

theorem tied_of_ordered {a b : R} (hab : ordered schema a b) (hba : ordered schema b a) :
    tied schema a b :=
  tied_iff.mpr (OrientedCmp.isLE_antisymm hab hba)

/-! ### Sorting -/

/-- Sorting pairs each record with its values, and forgets them in the end. -/
theorem sortRecords_eq_mergeSort (records : List R) :
    sortRecords schema records = records.mergeSort (ordered schema) := by
  have hkey (a b : R) : (compareKeys (sortValues schema a) (sortValues schema b) != .gt) =
      ordered schema a b := by
    rw [ordered, recordOrder]
    cases compareKeys (sortValues schema a) (sortValues schema b) <;> rfl
  rw [sortRecords, List.map_mergeSort (s := ordered schema), List.map_map]
  · exact congrArg (List.mergeSort · _) (List.map_id _)
  · simp only [List.mem_map]
    rintro _ ⟨a, -, rfl⟩ _ ⟨b, -, rfl⟩
    exact hkey a b

theorem sortRecords_perm (records : List R) : (sortRecords schema records).Perm records := by
  rw [sortRecords_eq_mergeSort]
  exact List.mergeSort_perm _ _

/-- **Sorted records are in order.** -/
theorem sortRecords_pairwise (records : List R) :
    (sortRecords schema records).Pairwise fun a b => ordered schema a b := by
  rw [sortRecords_eq_mergeSort]
  exact List.pairwise_mergeSort ordered_trans ordered_total _

/-- Records that are in order already stay so among the others. -/
theorem sublist_sortRecords {some records : List R}
    (hordered : some.Pairwise fun a b => ordered schema a b) (h : some.Sublist records) :
    some.Sublist (sortRecords schema records) := by
  rw [sortRecords_eq_mergeSort]
  exact List.sublist_mergeSort ordered_trans ordered_total hordered h

/-- Records that are in order already stay as they are. -/
theorem sortRecords_of_pairwise {records : List R}
    (h : records.Pairwise fun a b => ordered schema a b) :
    sortRecords schema records = records := by
  rw [sortRecords_eq_mergeSort]
  exact List.mergeSort_of_pairwise h

/-- **Sorting is stable**: the records that tie with a given one keep their order. -/
theorem filter_tied_sortRecords (record : R) (records : List R) :
    (sortRecords schema records).filter (tied schema record) =
      records.filter (tied schema record) := by
  have hordered : (records.filter (tied schema record)).Pairwise fun a b => ordered schema a b := by
    refine List.pairwise_of_forall_mem_list fun a ha b hb => ordered_of_tied ?_
    have ha := tied_iff.mp (List.mem_filter.mp ha).2
    have hb := tied_iff.mp (List.mem_filter.mp hb).2
    exact tied_iff.mpr (TransCmp.eq_trans (OrientedCmp.eq_symm ha) hb)
  have hsub := (sublist_sortRecords hordered List.filter_sublist).filter (tied schema record)
  rw [List.filter_filter, funext fun a => Bool.and_self _] at hsub
  exact (hsub.eq_of_length ((sortRecords_perm records).filter _).length_eq.symm).symm

/-- Records that tie were stored in the order in which they come out. -/
theorem pair_sublist_of_tied {a b : R} {records : List R} (htied : tied schema a b)
    (h : [a, b].Sublist (sortRecords schema records)) : [a, b].Sublist records := by
  have hpair : [a, b].filter (tied schema a) = [a, b] := by
    simp [tied_self, htied]
  have hsub := h.filter (tied schema a)
  rw [hpair, filter_tied_sortRecords] at hsub
  exact hsub.trans List.filter_sublist

/-! ### The order of the store -/

/-- Where no two records tie, the order in which they are stored does not matter. -/
theorem sortRecords_eq_of_perm {records others : List R} (hperm : others.Perm records)
    (h : records.Pairwise fun a b => ¬ tied schema a b) :
    sortRecords schema others = sortRecords schema records := by
  refine List.Perm.eq_of_pairwise (fun a b ha hb hab hba => ?_) (sortRecords_pairwise others)
    (sortRecords_pairwise records)
    ((sortRecords_perm others).trans (hperm.trans (sortRecords_perm records).symm))
  have ha : a ∈ records := hperm.mem_iff.mp ((sortRecords_perm others).mem_iff.mp ha)
  have hb : b ∈ records := (sortRecords_perm records).mem_iff.mp hb
  have hsame : ∀ a ∈ records, ∀ b ∈ records, tied schema a b → a = b :=
    List.Pairwise.forall_of_forall_of_flip (fun _ _ _ => rfl)
      (h.imp fun hnot ht => absurd ht hnot) (h.imp fun hnot ht => absurd (tied_comm ht) hnot)
  exact hsame a ha b hb (tied_of_ordered hab hba)

/-- In a list without duplicates two members stand in one order only. -/
theorem not_sublist_swap {α : Type} {a b : α} : ∀ {items : List α}, items.Nodup →
    [a, b].Sublist items → ¬ [b, a].Sublist items
  | [], _, hab, _ => by cases hab
  | item :: rest, hnodup, hab, hba => by
    obtain ⟨hnew, hrest⟩ := List.nodup_cons.mp hnodup
    cases hab with
    | cons _ hab =>
      cases hba with
      | cons _ hba => exact not_sublist_swap hrest hab hba
      | cons_cons _ hba => exact hnew (hab.subset (by simp))
    | cons_cons _ hb =>
      cases hba with
      | cons _ hba => exact hnew (hba.subset (by simp))
      | cons_cons _ hba => exact hnew (hb.subset (by simp))

/-- Two different records that tie come out the other way around when they are stored the other
way around. -/
theorem not_tied_of_sortRecords_reverse {records : List R} (hnodup : records.Nodup)
    (h : sortRecords schema records.reverse = sortRecords schema records) :
    records.Pairwise fun a b => ¬ tied schema a b := by
  refine List.pairwise_of_forall_sublist fun {a b} hab ht => ?_
  have hsorted : [a, b].Sublist (sortRecords schema records) :=
    sublist_sortRecords (List.pairwise_pair.mpr (ordered_of_tied ht)) hab
  have hreverse : [b, a].Sublist (sortRecords schema records.reverse) :=
    sublist_sortRecords (List.pairwise_pair.mpr (ordered_of_tied (tied_comm ht))) hab.reverse
  rw [h] at hreverse
  exact not_sublist_swap ((sortRecords_perm records).nodup_iff.mpr hnodup) hsorted hreverse

end LogSieve
