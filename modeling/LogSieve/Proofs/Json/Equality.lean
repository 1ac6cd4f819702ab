import LogSieve.Proofs.Json.Order
import LogSieve.Proofs.Number.Rounding

/-!
# Comparisons and equality agree

There are three ways to compare two values. `compareValues` takes numbers by their value,
`compareForSort` in a total order that tells the two zeros apart, and `valuesEqual` goes by the
structure of lists and objects. Here they are brought together. The total order of doubles is the
order by value, and where values tie that of the signs (`compareTotal_eq`), which decides between
zeros only; so whatever `compareValues` says of two values, `compareForSort` says too, unless they
are zeros of different signs. Two values are equal exactly if they have one `equalForm`, in which no
zero has a sign (`valuesEqual_iff`), so that equality is symmetric and transitive. All this together
is `comparisons_agree`.
-/

namespace LogSieve

/-! ### Zeros -/

namespace Double

/-- Both keys of a double, by its sign. -/
theorem keys_cases (x : Double) :
    x.negative = true ∧ x.valueKey = -x.rank ∧ x.totalKey = -(x.rank + 1) ∨
      x.negative = false ∧ x.valueKey = x.rank ∧ x.totalKey = x.rank := by
  unfold valueKey totalKey
  cases x.negative <;> simp

/-- **The total order is by value, and then by sign.** -/
theorem compareTotal_eq (x y : Double) :
    x.compareTotal y = (x.compareValue y).then (compare y.negative x.negative) := by
  have hx := x.keys_cases
  have hy := y.keys_cases
  rw [compareTotal, compareValue]
  rcases Int.lt_trichotomy x.valueKey y.valueKey with h | h | h
  · rw [Int.compare_eq_lt.mpr h, Int.compare_eq_lt.mpr (by omega)]
    rfl
  · rw [Int.compare_eq_eq.mpr h, Ordering.eq_then]
    rcases hx with ⟨hx, hvx, htx⟩ | ⟨hx, hvx, htx⟩ <;>
      rcases hy with ⟨hy, hvy, hty⟩ | ⟨hy, hvy, hty⟩ <;> rw [hx, hy]
    · exact Int.compare_eq_eq.mpr (by omega)
    · exact Int.compare_eq_lt.mpr (by omega)
    · exact Int.compare_eq_gt.mpr (by omega)
    · exact Int.compare_eq_eq.mpr (by omega)
  · rw [Int.compare_eq_gt.mpr h, Int.compare_eq_gt.mpr (by omega)]
    rfl

/-- The sign decides between zeros only. -/
theorem compareTotal_eq_compareValue {x y : Double}
    (h : x.rank = 0 → y.rank = 0 → x.negative = y.negative) :
    x.compareTotal y = x.compareValue y := by
  have hx := x.keys_cases
  have hy := y.keys_cases
  rw [compareTotal_eq]
  by_cases hsign : x.negative = y.negative
  · have hself : compare y.negative y.negative = .eq := Std.ReflCmp.compare_self
    rw [hsign, hself, Ordering.then_eq]
  · have hne : x.valueKey ≠ y.valueKey := by
      intro heq
      rcases hx with ⟨hx, hvx, -⟩ | ⟨hx, hvx, -⟩ <;> rcases hy with ⟨hy, hvy, -⟩ | ⟨hy, hvy, -⟩
      · exact hsign (hx.trans hy.symm)
      · exact hsign (h (by omega) (by omega))
      · exact hsign (h (by omega) (by omega))
      · exact hsign (hx.trans hy.symm)
    rw [compareValue]
    rcases Int.lt_or_gt_of_ne hne with hlt | hgt
    · rw [Int.compare_eq_lt.mpr hlt]
      rfl
    · rw [Int.compare_eq_gt.mpr hgt]
      rfl

theorem rank_withSign (x : Double) (negative : Bool) :
    ({ x with negative } : Double).rank = x.rank := rfl

/-- No integer but zero is rounded to zero. -/
theorem rank_ofInt_eq_zero_iff {n : Int} : (ofInt n).rank = 0 ↔ n = 0 := by
  rw [ofInt_eq, rank_withSign]
  constructor
  · intro h
    by_contra hn
    have hone : 0 < (ofNat 1).rank := by decide +kernel
    have hmono : (ofNat 1).rank ≤ (ofNat n.natAbs).rank :=
      rank_ofNat_mono (Int.natAbs_pos.mpr hn)
    rw [h] at hmono
    exact absurd hmono (Nat.not_le_of_gt hone)
  · rintro rfl
    decide +kernel

/-- The double without the sign of zero. -/
def unsignedZero (x : Double) : Double := if x.rank = 0 then zero else x

/-- Doubles have the same value exactly if they are one without the sign of zero. -/
theorem valueKey_eq_iff_unsignedZero {x y : Double} :
    x.valueKey = y.valueKey ↔ x.unsignedZero = y.unsignedZero := by
  have hx := x.keys_cases
  have hy := y.keys_cases
  rw [← totalKey_inj, unsignedZero, unsignedZero]
  have hzero : zero.totalKey = 0 := rfl
  split <;> split <;> omega

end Double

/-- The number without the sign of zero. -/
def Number.unsignedZero : Number → Number
  | .int n => .int n
  | .double x => .double x.unsignedZero

namespace Json

/-- Both values are zeros, and of the two only the first is the negative zero. -/
def NegativeZeroFirst (a b : Json) : Prop :=
  a = num (.double Double.zero.neg) ∧ (b = int 0 ∨ b = num (.double Double.zero))

/-- Both values are zeros, and exactly one of them is the negative zero. -/
def ZerosApart (a b : Json) : Prop := NegativeZeroFirst a b ∨ NegativeZeroFirst b a

/-- A number that is compared as a zero is one. -/
theorem num_eq_zero {n : Number} (h : n.toDouble.rank = 0) :
    (n.toDouble.negative = true ∧ num n = num (.double Double.zero.neg)) ∨
      (n.toDouble.negative = false ∧ (num n = int 0 ∨ num n = num (.double Double.zero))) := by
  cases n with
  | int n =>
    obtain rfl := Double.rank_ofInt_eq_zero_iff.mp h
    exact .inr ⟨by decide +kernel, .inl rfl⟩
  | double x =>
    obtain ⟨negative, rank, hrank⟩ := x
    obtain rfl : rank = 0 := h
    cases negative with
    | true => exact .inl ⟨rfl, rfl⟩
    | false => exact .inr ⟨rfl, .inr rfl⟩

/-- Numbers that are compared as zeros of different signs are such zeros. -/
theorem negative_eq_of_zeros {m n : Number} (h : ¬ ZerosApart (num m) (num n))
    (hm : m.toDouble.rank = 0) (hn : n.toDouble.rank = 0) :
    m.toDouble.negative = n.toDouble.negative := by
  rcases num_eq_zero hm with ⟨hsm, hm⟩ | ⟨hsm, hm⟩ <;>
    rcases num_eq_zero hn with ⟨hsn, hn⟩ | ⟨hsn, hn⟩
  · exact hsm.trans hsn.symm
  · exact absurd (.inl ⟨hm, hn⟩) h
  · exact absurd (.inr ⟨hn, hm⟩) h
  · exact hsm.trans hsn.symm

/-! ### The two comparisons -/

/-- Truth values, numbers and strings. -/
def IsScalar : Json → Prop
  | bool _ | num _ | str _ => True
  | _ => False

/-- Two values are comparable exactly if they are scalars of one kind. -/
theorem exists_compareValues_iff {a b : Json} :
    (∃ o, compareValues a b = some o) ↔ a.IsScalar ∧ b.IsScalar ∧ a.kind = b.kind := by
  cases a <;> cases b <;> simp [compareValues, IsScalar, kind]

/-- **The sorting order says what the comparison says**, unless zeros are of different signs. -/
theorem compareForSort_of_compareValues {a b : Json} {o : Ordering} (h : compareValues a b = some o)
    (hzeros : ¬ ZerosApart a b) : compareForSort (some a) (some b) = o := by
  cases a <;> cases b <;> simp only [compareValues, reduceCtorEq, Option.some.injEq] at h <;>
    subst h
  case bool.bool a b => rfl
  case num.num m n => exact Double.compareTotal_eq_compareValue (negative_eq_of_zeros hzeros)
  case str.str s t => rfl

/-- Of two zeros the negative one is sorted first, although they compare as equal. -/
theorem NegativeZeroFirst.comparisons {a b : Json} (h : NegativeZeroFirst a b) :
    compareValues a b = some .eq ∧ compareValues b a = some .eq ∧
      compareForSort (some a) (some b) = .lt ∧ compareForSort (some b) (some a) = .gt := by
  obtain ⟨rfl, rfl | rfl⟩ := h
  · decide +kernel
  · decide +kernel

/-! ### Structure -/

mutual

/-- The value without the signs of zeros in it. -/
def unsignedZeros : Json → Json
  | num n => num n.unsignedZero
  | arr items => arr (unsignedZerosAll items)
  | obj entries => obj (unsignedZerosEntries entries)
  | value => value

/-- The items of a list without the signs of zeros in them. -/
def unsignedZerosAll : List Json → List Json
  | [] => []
  | item :: rest => item.unsignedZeros :: unsignedZerosAll rest

/-- The entries of an object without the signs of zeros in them. -/
def unsignedZerosEntries : List (String × Json) → List (String × Json)
  | [] => []
  | (key, value) :: rest => (key, value.unsignedZeros) :: unsignedZerosEntries rest

end

theorem sameNumber_iff {m n : Number} :
    sameNumber m n = true ↔ m.unsignedZero = n.unsignedZero := by
  cases m <;> cases n <;>
    simp [sameNumber, Number.unsignedZero, Double.sameValue, Double.valueKey_eq_iff_unsignedZero]

mutual

/-- **Two values have the same structure exactly if they are one** without the signs of zeros. -/
theorem same_iff (a b : Json) : same a b = true ↔ a.unsignedZeros = b.unsignedZeros := by
  -- values of two kinds differ on both sides, so that only pairs of one kind say something
  cases a with
  | null => cases b <;> simp [same, unsignedZeros]
  | bool _ => cases b <;> simp [same, unsignedZeros]
  | str _ => cases b <;> simp [same, unsignedZeros]
  | num m => cases b <;> simp [same, unsignedZeros, sameNumber_iff]
  | arr items => cases b <;> simp [same, unsignedZeros, sameItems_iff]
  | obj entries => cases b <;> simp [same, unsignedZeros, sameEntries_iff]

theorem sameItems_iff (items items' : List Json) :
    sameItems items items' = true ↔ unsignedZerosAll items = unsignedZerosAll items' := by
  cases items with
  | nil => cases items' <;> simp [sameItems, unsignedZerosAll]
  | cons item rest => cases items' <;> simp [sameItems, unsignedZerosAll, same_iff, sameItems_iff]

theorem sameEntries_iff (entries entries' : List (String × Json)) :
    sameEntries entries entries' = true ↔
      unsignedZerosEntries entries = unsignedZerosEntries entries' := by
  cases entries with
  | nil => cases entries' <;> simp [sameEntries, unsignedZerosEntries]
  | cons entry rest =>
    obtain ⟨key, value⟩ := entry
    cases entries' <;>
      simp [sameEntries, unsignedZerosEntries, same_iff, sameEntries_iff]

end

/-! ### Equality -/

/-- What equality goes by: a number counts as its double, and no zero has a sign. -/
def equalForm : Json → Json
  | num n => num (.double n.toDouble.unsignedZero)
  | value => value.unsignedZeros

theorem kind_equalForm (a : Json) : a.equalForm.kind = a.kind := by
  cases a <;> simp [equalForm, unsignedZeros, kind]

theorem equalForm_eq_null_iff {a : Json} : a.equalForm = null ↔ a = null := by
  cases a <;> simp [equalForm, unsignedZeros]

/-- **Two values are equal exactly if they have one form**, and this is not `null`. -/
theorem valuesEqual_iff {a b : Json} :
    valuesEqual a b = true ↔ a.equalForm = b.equalForm ∧ a.equalForm ≠ null := by
  cases a with
  | null => simp [valuesEqual, equalForm, unsignedZeros]
  | num m =>
    cases b with
    | num n =>
      simp [valuesEqual, equalForm, Double.compareValue, Double.valueKey_eq_iff_unsignedZero]
    | _ => simp [valuesEqual, same, equalForm, unsignedZeros]
  | _ =>
    cases b <;>
      simp [valuesEqual, same_iff, equalForm, unsignedZeros]

theorem valuesEqual_symm {a b : Json} (h : valuesEqual a b = true) : valuesEqual b a = true := by
  obtain ⟨hform, hnull⟩ := valuesEqual_iff.mp h
  exact valuesEqual_iff.mpr ⟨hform.symm, hform ▸ hnull⟩

theorem valuesEqual_trans {a b c : Json} (hab : valuesEqual a b = true)
    (hbc : valuesEqual b c = true) : valuesEqual a c = true := by
  obtain ⟨hform, hnull⟩ := valuesEqual_iff.mp hab
  exact valuesEqual_iff.mpr ⟨hform.trans (valuesEqual_iff.mp hbc).1, hnull⟩

theorem valuesEqual_self {a : Json} (h : a ≠ null) : valuesEqual a a = true :=
  valuesEqual_iff.mpr ⟨rfl, fun hform => h (equalForm_eq_null_iff.mp hform)⟩

/-- Where two values are comparable, they are equal exactly if they compare as equal. -/
theorem valuesEqual_iff_of_compareValues {a b : Json} {o : Ordering}
    (h : compareValues a b = some o) : valuesEqual a b = true ↔ o = .eq := by
  cases a <;> cases b <;> simp only [compareValues, reduceCtorEq, Option.some.injEq] at h <;>
    subst h
  case bool.bool a b => simp [valuesEqual, same]
  case num.num m n => exact beq_iff_eq
  case str.str s t => simp [valuesEqual, same]

theorem kind_eq_of_rank_eq {k k' : Kind} (h : k.rank = k'.rank) : k = k' := by
  cases k <;> cases k' <;> simp [Kind.rank] at h ⊢

/-- **Scalars are equal exactly if they tie in the sorting order**, unless they are zeros of
different signs. -/
theorem valuesEqual_iff_compareForSort {a b : Json} (ha : a.IsScalar) (hb : b.IsScalar)
    (hzeros : ¬ ZerosApart a b) :
    valuesEqual a b = true ↔ compareForSort (some a) (some b) = .eq := by
  by_cases hkind : a.kind = b.kind
  · obtain ⟨o, ho⟩ := exists_compareValues_iff.mpr ⟨ha, hb, hkind⟩
    rw [valuesEqual_iff_of_compareValues ho, compareForSort_of_compareValues ho hzeros]
  · constructor
    · -- equal values are of one kind, and so are values that tie
      intro h
      have hform := congrArg kind (valuesEqual_iff.mp h).1
      rw [kind_equalForm, kind_equalForm] at hform
      exact absurd hform hkind
    · intro h
      have hrank := congrArg SortPlace.kind (compareForSort_eq_eq_iff.mp h)
      exact absurd (kind_eq_of_rank_eq hrank) hkind

/-- **The comparisons and equality agree.** Exactly the scalars of one kind are comparable, and the
sorting order of two comparable values is as they compare, unless they are zeros of which exactly
one is the negative zero: these compare as equal and are equal, but are sorted with the negative one
first. Other scalars, of one kind or of two, are equal exactly if they tie in the sorting order.
Equality is symmetric and transitive on all values, and reflexive on all but `null`. -/
theorem comparisons_agree :
    (∀ a b, (∃ o, compareValues a b = some o) ↔ a.IsScalar ∧ b.IsScalar ∧ a.kind = b.kind) ∧
    (∀ a b o, compareValues a b = some o → ¬ ZerosApart a b →
      compareForSort (some a) (some b) = o) ∧
    (∀ a b, NegativeZeroFirst a b →
      (compareValues a b = some .eq ∧ compareValues b a = some .eq) ∧
      (compareForSort (some a) (some b) = .lt ∧ compareForSort (some b) (some a) = .gt) ∧
      valuesEqual a b = true) ∧
    (∀ a b, a.IsScalar → b.IsScalar → ¬ ZerosApart a b →
      (valuesEqual a b = true ↔ compareForSort (some a) (some b) = .eq)) ∧
    (∀ a b, valuesEqual a b = true → valuesEqual b a = true) ∧
    (∀ a b c, valuesEqual a b = true → valuesEqual b c = true → valuesEqual a c = true) ∧
    ∀ a, a ≠ null → valuesEqual a a = true := by
  refine ⟨fun a b => exists_compareValues_iff, fun a b o => compareForSort_of_compareValues,
    fun a b h => ?_, fun a b => valuesEqual_iff_compareForSort, fun a b => valuesEqual_symm,
    fun a b c => valuesEqual_trans, fun a => valuesEqual_self⟩
  obtain ⟨hab, hba, hlt, hgt⟩ := h.comparisons
  exact ⟨⟨hab, hba⟩, ⟨hlt, hgt⟩, (valuesEqual_iff_of_compareValues hab).mpr rfl⟩

/-- The integer 2^53 + 1 ties with the double 2^53, and so is equal to the integer 2^53; the
negative zero comes before the integer 0; a string that looks like a number is not equal to it; and
a list with `null` in it is equal to itself. -/
theorem comparisons_agree_rounded :
    compareForSort (some (int 9007199254740993))
      (some (num (.double (Double.ofInt 9007199254740992)))) = .eq ∧
    valuesEqual (int 9007199254740993) (int 9007199254740992) = true ∧
    compareForSort (some (num (.double Double.zero.neg))) (some (int 0)) = .lt ∧
    ¬ valuesEqual (str "1") (int 1) = true ∧
    valuesEqual (arr [null]) (arr [null]) = true := by
  obtain ⟨-, hsort, hzero, hscalar, hsymm, htrans, hself⟩ := comparisons_agree
  have hapart : ∀ a b, a ≠ num (.double Double.zero.neg) → b ≠ num (.double Double.zero.neg) →
      ¬ ZerosApart a b := by
    rintro a b ha hb (⟨h, -⟩ | ⟨h, -⟩)
    · exact ha h
    · exact hb h
  have hdouble : Double.ofInt 9007199254740992 ≠ Double.zero.neg := by decide +kernel
  have htie : ¬ ZerosApart (int 9007199254740993) (num (.double (Double.ofInt 9007199254740992))) :=
    hapart _ _ (by rintro ⟨⟩) fun h => hdouble (Number.double.inj (num.inj h))
  have hmixed : ¬ ZerosApart (str "1") (int 1) := hapart _ _ (by rintro ⟨⟩) (by rintro ⟨⟩)
  refine ⟨hsort _ _ _ (by decide +kernel) htie, ?_, (hzero _ _ ⟨rfl, .inl rfl⟩).2.1.1, ?_,
    hself _ (by rintro ⟨⟩)⟩
  · exact htrans _ (num (.double (Double.ofInt 9007199254740992))) _ (by decide +kernel)
      (hsymm _ _ (by decide +kernel))
  · rw [hscalar (str "1") (int 1) trivial trivial hmixed]
    decide

end Json

end LogSieve
