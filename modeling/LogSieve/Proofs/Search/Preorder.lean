import LogSieve.Proofs.Search.Sorting

/-!
# The sorting order is a total preorder

Sorting relies on its comparison: a value ties with itself, turning two values around turns the
answer around, and what is not greater may be chained. These laws hold of the comparison of any two
values, of whatever kinds, and with it of that of tuples of one length, which is by the first place
where they differ (`sorting_order_is_preorder`). Both know what ties: values of one place in the
sorting order, and tuples of such values.
-/

namespace LogSieve

open Std

/-- The laws of a total preorder, for a comparison. -/
structure IsPreorder {α : Type} (cmp : α → α → Ordering) : Prop where
  /-- What is compared with itself ties. -/
  tie_self (a : α) : cmp a a = .eq
  /-- Turned around, the two compare the other way around. -/
  turned (a b : α) : cmp b a = (cmp a b).swap
  /-- What is not greater may be chained. -/
  chain {a b c : α} : cmp a b ≠ .gt → cmp b c ≠ .gt → cmp a c ≠ .gt
  /-- What is less may be chained. -/
  chain_less {a b c : α} : cmp a b = .lt → cmp b c = .lt → cmp a c = .lt
  /-- Ties may be chained. -/
  chain_ties {a b c : α} : cmp a b = .eq → cmp b c = .eq → cmp a c = .eq
  /-- What ties compares alike. -/
  alike {a a' b b' : α} : cmp a a' = .eq → cmp b b' = .eq → cmp a b = cmp a' b'

theorem IsPreorder.of_transCmp {α : Type} (cmp : α → α → Ordering) [TransCmp cmp] :
    IsPreorder cmp where
  tie_self _ := ReflCmp.compare_self
  turned _ _ := OrientedCmp.eq_swap
  chain hab hbc := by
    have hac :=
      TransCmp.isLE_trans (Ordering.isLE_iff_ne_gt.mpr hab) (Ordering.isLE_iff_ne_gt.mpr hbc)
    exact Ordering.isLE_iff_ne_gt.mp hac
  chain_less := TransCmp.lt_trans
  chain_ties := TransCmp.eq_trans
  alike ha hb := (TransCmp.congr_left ha).trans (TransCmp.congr_right hb)

/-! ### Tuples -/

/-- The tuples of sorting values of one length. -/
def SortTuple (n : Nat) : Type := { values : List (Option Json) // values.length = n }

/-- The order of two tuples of one length. -/
def SortTuple.compare {n : Nat} (as bs : SortTuple n) : Ordering := compareKeys as.val bs.val

theorem SortTuple.compare_eq {n : Nat} (as bs : SortTuple n) :
    as.compare bs = List.compareLex Json.compareForSort as.val bs.val :=
  compareKeys_eq (as.property.trans bs.property.symm)

instance (n : Nat) : TransCmp (SortTuple.compare (n := n)) where
  eq_swap {as bs} := by
    rw [SortTuple.compare_eq, SortTuple.compare_eq]
    exact OrientedCmp.eq_swap
  isLE_trans {as bs cs} hab hbc := by
    rw [SortTuple.compare_eq] at hab hbc ⊢
    exact TransCmp.isLE_trans hab hbc

/-- Tuples of one length tie exactly if their values do, place by place. -/
theorem compareKeys_eq_eq_iff : ∀ {as bs : List (Option Json)}, as.length = bs.length →
    (compareKeys as bs = .eq ↔ as.map Json.sortPlaceOf = bs.map Json.sortPlaceOf)
  | [], [], _ => by simp [compareKeys]
  | a :: as, b :: bs, h => by
    rw [compareKeys, Ordering.then_eq_eq, Json.compareForSort_eq_eq_iff,
      compareKeys_eq_eq_iff (Nat.succ.inj h), List.map_cons, List.map_cons, List.cons.injEq]

/-! ### The laws -/

/-- **The sorting order is a total preorder** on all values, missing ones and `null` included, and
on all tuples of one length. Two values tie exactly if they have one place, that is, are of one kind
and have one number and text by which values of this kind are sorted; and two tuples tie exactly if
their values do. -/
theorem sorting_order_is_preorder :
    (IsPreorder Json.compareForSort ∧
      ∀ a b, Json.compareForSort a b = .eq ↔ Json.sortPlaceOf a = Json.sortPlaceOf b) ∧
    ∀ n, IsPreorder (SortTuple.compare (n := n)) ∧
      ∀ as bs : SortTuple n,
        as.compare bs = .eq ↔ as.val.map Json.sortPlaceOf = bs.val.map Json.sortPlaceOf := by
  refine ⟨⟨.of_transCmp _, fun a b => Json.compareForSort_eq_eq_iff⟩, fun n =>
    ⟨.of_transCmp _, fun as bs => ?_⟩⟩
  exact compareKeys_eq_eq_iff (as.property.trans bs.property.symm)

end LogSieve
