import LogSieve.Json.Order

/-!
# The sorting order of values

`compareForSort` compares any two values, missing ones included, by going through their kinds. Here
every value gets a `SortPlace`, and two values are compared as their places are
(`compareForSort_eq`). So the comparison is a total preorder on all values, and two values tie
exactly if they have one place.
-/

namespace LogSieve.Json

open Std

/-- Where a value stands in the sorting order. -/
structure SortPlace where
  /-- The place of its kind. -/
  kind : Nat
  /-- The place of its number, or truth value. -/
  number : Int
  /-- Its text, unless the number decides. -/
  text : String

/-- The order of places: by kind, then by number, then by text. -/
def SortPlace.compare : SortPlace → SortPlace → Ordering :=
  compareLex (compareOn SortPlace.kind)
    (compareLex (compareOn SortPlace.number) (compareOn SortPlace.text))

instance : TransCmp SortPlace.compare :=
  inferInstanceAs (TransCmp (compareLex (compareOn SortPlace.kind)
    (compareLex (compareOn SortPlace.number) (compareOn SortPlace.text))))

instance : LawfulEqCmp SortPlace.compare where
  eq_of_compare {p q} h := by
    simp only [SortPlace.compare, compareLex, compareOn, Ordering.then_eq_eq,
      LawfulEqOrd.compare_eq_iff_eq] at h
    obtain ⟨hkind, hnumber, htext⟩ := h
    cases p
    cases q
    cases hkind
    cases hnumber
    cases htext
    rfl

/-- The place of a value. -/
def sortPlace (value : Json) : SortPlace where
  kind := value.kind.rank
  number :=
    match value with
    | bool b => if b then 1 else 0
    | num n => n.toDouble.totalKey
    | _ => 0
  text :=
    match value with
    | str s => s
    | arr items => compact (arr items)
    | obj entries => compact (obj entries)
    | _ => ""

/-- The place of a value that may be missing: a missing value stands where `null` does. -/
def sortPlaceOf (value : Option Json) : SortPlace := sortPlace (value.getD null)

theorem SortPlace.compare_eq (p q : SortPlace) :
    SortPlace.compare p q = (Ord.compare p.kind q.kind).then
      ((Ord.compare p.number q.number).then (Ord.compare p.text q.text)) := rfl

/-- Within one kind the rest of the place decides. -/
theorem compareSameKind_eq {a b : Json} (h : a.kind.rank = b.kind.rank) :
    compareSameKind a b = (compare a.sortPlace.number b.sortPlace.number).then
      (compare a.sortPlace.text b.sortPlace.text) := by
  cases a <;> cases b <;> simp only [kind, Kind.rank, reduceCtorEq, Nat.reduceEqDiff] at h <;>
    simp [compareSameKind, sortPlace, Double.compareTotal]
  case bool.bool a b => cases a <;> cases b <;> rfl

theorem comparePresent_eq (a b : Json) :
    comparePresent a b = SortPlace.compare a.sortPlace b.sortPlace := by
  rw [comparePresent, SortPlace.compare_eq]
  by_cases h : a.kind.rank = b.kind.rank
  · rw [compareSameKind_eq h]
    rfl
  · have hne : compare a.kind.rank b.kind.rank ≠ .eq := fun heq => h (Nat.compare_eq_eq.mp heq)
    simp only [sortPlace]
    cases hcmp : compare a.kind.rank b.kind.rank with
    | lt => rfl
    | gt => rfl
    | eq => exact absurd hcmp hne

theorem filter_isNull (value : Option Json) :
    value.filter (!·.isNull) =
      if (value.getD null).isNull then none else some (value.getD null) := by
  cases value with
  | none => rfl
  | some value => cases value <;> rfl

/-- **Values are compared as their places.** -/
theorem compareForSort_eq (a b : Option Json) :
    compareForSort a b = SortPlace.compare (sortPlaceOf a) (sortPlaceOf b) := by
  rw [compareForSort, filter_isNull, filter_isNull, sortPlaceOf, sortPlaceOf, ← comparePresent_eq]
  -- Only `null` is of the least kind.
  cases a.getD null <;> cases b.getD null <;> rfl

instance : TransCmp compareForSort where
  eq_swap {a b} := by
    rw [compareForSort_eq, compareForSort_eq]
    exact OrientedCmp.eq_swap
  isLE_trans {a b c} hab hbc := by
    rw [compareForSort_eq] at hab hbc ⊢
    exact TransCmp.isLE_trans hab hbc

/-- Values tie exactly if they have one place. -/
theorem compareForSort_eq_eq_iff {a b : Option Json} :
    compareForSort a b = .eq ↔ sortPlaceOf a = sortPlaceOf b := by
  rw [compareForSort_eq, LawfulEqCmp.compare_eq_iff_eq]

end LogSieve.Json
