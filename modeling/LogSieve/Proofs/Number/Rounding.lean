import LogSieve.Number.Double
import Mathlib.Tactic.Ring

/-!
# Rounding integers to doubles

The double nearest to an integer. Rounding never turns the order of two integers around
(`totalKey_ofInt_mono`), but it may make them one: the double is the integer to 53 binary digits
(`value_ofInt`). Up to 2^53 in magnitude every integer is a double itself (`roundNat_of_le`), so
that different ones stay different (`ofInt_inj`).
-/

namespace LogSieve.Double

/-! ### Rounding a quotient -/

/-- A quotient is rounded up when its fraction is over a half, or a half and the quotient odd. -/
theorem roundDiv_eq (num den : Nat) :
    roundDiv num den = num / den +
      (if 2 * (num % den) < den then 0
        else if den < 2 * (num % den) then 1 else num / den % 2) := by
  unfold roundDiv
  dsimp only
  split
  · next h =>
    rw [Nat.compare_eq_lt] at h
    rw [if_pos h, Nat.add_zero]
  · next h =>
    rw [Nat.compare_eq_gt] at h
    rw [if_neg (by omega), if_pos h]
  · next h =>
    rw [Nat.compare_eq_eq] at h
    simp only [h, Nat.lt_irrefl, if_false]
    split <;> omega

theorem div_le_roundDiv (num den : Nat) : num / den ≤ roundDiv num den := by
  rw [roundDiv_eq]
  omega

theorem roundDiv_le_succ (num den : Nat) : roundDiv num den ≤ num / den + 1 := by
  rw [roundDiv_eq]
  split
  · omega
  · split <;> omega

theorem roundDiv_mono {a b den : Nat} (h : a ≤ b) : roundDiv a den ≤ roundDiv b den := by
  have hdiv : a / den ≤ b / den := Nat.div_le_div_right h
  rcases Nat.lt_or_eq_of_le hdiv with hlt | heq
  · have ha := roundDiv_le_succ a den
    have hb := div_le_roundDiv b den
    omega
  · have hmod : a % den ≤ b % den := by
      have ha := Nat.div_add_mod a den
      have hb := Nat.div_add_mod b den
      rw [heq] at ha
      omega
    rw [roundDiv_eq, roundDiv_eq, heq]
    refine Nat.add_le_add_left ?_ _
    rcases Nat.lt_or_ge (2 * (a % den)) den with ha | ha
    · rw [if_pos ha]
      exact Nat.zero_le _
    · rw [if_neg (by omega), if_neg (by omega : ¬ 2 * (b % den) < den)]
      split <;> split <;> omega

/-- A quotient without remainder is not rounded. -/
theorem roundDiv_mul (q : Nat) {den : Nat} (h : 0 < den) : roundDiv (q * den) den = q := by
  rw [roundDiv_eq, Nat.mul_mod_left, Nat.mul_div_cancel q h, if_pos (by omega), Nat.add_zero]

/-! ### The rank of a natural number -/

/-- The exponent of the doubles around a magnitude: they are multiples of two to it. -/
def gapExponent (num : Nat) : Nat := num.log2 - 52

theorem nearestRank_one (num : Nat) :
    nearestRank num 1 = gapExponent num * 2 ^ 52 + roundDiv num (2 ^ gapExponent num) := by
  simp only [nearestRank, gapExponent, Nat.div_one, Nat.shiftLeft_eq, Nat.one_mul]

theorem gapExponent_mono {a b : Nat} (h : a ≤ b) : gapExponent a ≤ gapExponent b := by
  unfold gapExponent
  by_cases ha : a = 0
  · subst ha
    rw [Nat.log2_zero]
    omega
  · have hb : b ≠ 0 := by omega
    have : a.log2 ≤ b.log2 := (Nat.le_log2 hb).mpr (Nat.le_trans (Nat.log2_self_le ha) h)
    omega

/-- A magnitude is less than 2^53 gaps. -/
theorem div_gap_lt (num : Nat) : num / 2 ^ gapExponent num < 2 ^ 53 := by
  rw [Nat.div_lt_iff_lt_mul (Nat.two_pow_pos _), ← Nat.pow_add]
  refine Nat.lt_of_lt_of_le Nat.lt_log2_self (Nat.pow_le_pow_right (by decide) ?_)
  unfold gapExponent
  omega

/-- A magnitude is at least 2^52 gaps, unless the gap is the least. -/
theorem le_div_gap {num : Nat} (h : 0 < gapExponent num) : 2 ^ 52 ≤ num / 2 ^ gapExponent num := by
  have hne : num ≠ 0 := by
    rintro rfl
    exact absurd h (by decide)
  rw [Nat.le_div_iff_mul_le (Nat.two_pow_pos _), ← Nat.pow_add, ← Nat.le_log2 hne]
  unfold gapExponent at h ⊢
  omega

/-- Rounding keeps the order. Where the gap grows, the last doubles before are still below the first
ones behind. -/
theorem nearestRank_mono {a b : Nat} (h : a ≤ b) : nearestRank a 1 ≤ nearestRank b 1 := by
  rw [nearestRank_one, nearestRank_one]
  rcases Nat.lt_or_eq_of_le (gapExponent_mono h) with hlt | heq
  · have ha : roundDiv a (2 ^ gapExponent a) ≤ 2 ^ 53 :=
      Nat.le_trans (roundDiv_le_succ _ _) (div_gap_lt a)
    have hb : 2 ^ 52 ≤ roundDiv b (2 ^ gapExponent b) :=
      Nat.le_trans (le_div_gap (by omega)) (div_le_roundDiv _ _)
    have hexp : (gapExponent a + 1) * 2 ^ 52 ≤ gapExponent b * 2 ^ 52 :=
      Nat.mul_le_mul_right _ hlt
    omega
  · rw [heq]
    exact Nat.add_le_add_left (roundDiv_mono h) _

theorem rank_ofRank (negative : Bool) (rank : Nat) :
    (ofRank negative rank).rank = min rank ((2047 <<< 52) - 1) := by
  unfold ofRank
  split
  · next h => exact (Nat.min_eq_left (Nat.le_sub_one_of_lt h)).symm
  · next h => exact (Nat.min_eq_right (Nat.le_trans (Nat.sub_le _ 1) (Nat.le_of_not_lt h))).symm

theorem rank_ofRank_mono {negative : Bool} {r s : Nat} (h : r ≤ s) :
    (ofRank negative r).rank ≤ (ofRank negative s).rank := by
  rw [rank_ofRank, rank_ofRank]
  exact Nat.le_min.mpr ⟨Nat.le_trans (Nat.min_le_left _ _) h, Nat.min_le_right _ _⟩

theorem rank_ofNat_mono {a b : Nat} (h : a ≤ b) : (ofNat a).rank ≤ (ofNat b).rank := by
  unfold ofNat
  exact rank_ofRank_mono (nearestRank_mono (Nat.mul_le_mul_right _ h))

/-! ### The order of integers -/

theorem totalKey_withSign (x : Double) (negative : Bool) :
    ({ x with negative } : Double).totalKey =
      if negative then -(x.rank + 1 : Int) else x.rank := rfl

theorem ofInt_eq (n : Int) : ofInt n = { ofNat n.natAbs with negative := decide (n < 0) } := by
  -- `ofNat` must stay closed: opened, it computes with 2^1074.
  delta ofInt
  exact Eq.refl _

theorem totalKey_ofInt (n : Int) :
    (ofInt n).totalKey =
      if n < 0 then -((ofNat n.natAbs).rank + 1 : Int) else (ofNat n.natAbs).rank := by
  rw [ofInt_eq, totalKey_withSign]
  generalize ofNat n.natAbs = magnitude
  by_cases h : n < 0
  · rw [decide_eq_true h, if_pos h, if_pos rfl]
  · rw [decide_eq_false h, if_neg h, if_neg Bool.false_ne_true]

/-- **Rounding keeps the order of integers.** -/
theorem totalKey_ofInt_mono {a b : Int} (h : a ≤ b) : (ofInt a).totalKey ≤ (ofInt b).totalKey := by
  rw [totalKey_ofInt, totalKey_ofInt]
  split
  · split
    · have : (ofNat b.natAbs).rank ≤ (ofNat a.natAbs).rank := rank_ofNat_mono (by omega)
      omega
    · omega
  · have : (ofNat a.natAbs).rank ≤ (ofNat b.natAbs).rank := rank_ofNat_mono (by omega)
    rw [if_neg (by omega)]
    omega

theorem totalKey_inj {x y : Double} : x.totalKey = y.totalKey ↔ x = y := by
  refine ⟨fun h => ?_, fun h => h ▸ rfl⟩
  obtain ⟨nx, rx, hx⟩ := x
  obtain ⟨ny, ry, hy⟩ := y
  cases nx <;> cases ny <;> simp only [totalKey, Bool.false_eq_true, if_false, if_true] at h
  · simp only [mk.injEq, true_and]
    omega
  · omega
  · omega
  · simp only [mk.injEq, true_and]
    omega

/-! ### Magnitudes -/

/-- A rank is made of an exponent and a significand. -/
theorem rank_eq (x : Double) :
    x.rank = x.exponent * 2 ^ 52 + x.significand ∧ (0 < x.exponent → 2 ^ 52 ≤ x.significand) ∧
      x.significand < 2 ^ 53 := by
  unfold significand exponent
  generalize x.rank = rank
  rw [Nat.shiftRight_eq_div_pow, Nat.shiftLeft_eq]
  omega

/-- The magnitude of a rank that is made of an exponent and a significand. -/
theorem units_of_rank_eq {x : Double} {e q : Nat} (hrank : x.rank = e * 2 ^ 52 + q)
    (hlow : 0 < e → 2 ^ 52 ≤ q) (hhigh : q < 2 ^ 53) : x.units = q * 2 ^ e := by
  obtain ⟨hx, hxlow, hxhigh⟩ := x.rank_eq
  have hexponent : x.exponent = e := by omega
  have hsignificand : x.significand = q := by omega
  rw [units, hexponent, hsignificand, Nat.shiftLeft_eq]

/-- **Magnitudes ascend with their ranks.** -/
theorem units_lt_units {x y : Double} (h : x.rank < y.rank) : x.units < y.units := by
  obtain ⟨hx, hxlow, hxhigh⟩ := x.rank_eq
  obtain ⟨hy, hylow, hyhigh⟩ := y.rank_eq
  rw [units, units, Nat.shiftLeft_eq, Nat.shiftLeft_eq]
  rcases Nat.lt_or_ge x.exponent y.exponent with hlt | hge
  · calc x.significand * 2 ^ x.exponent
        < 2 ^ 53 * 2 ^ x.exponent := Nat.mul_lt_mul_of_pos_right hxhigh (Nat.two_pow_pos _)
      _ = 2 ^ 52 * 2 ^ (x.exponent + 1) := by rw [← Nat.pow_add, ← Nat.pow_add]; congr 1; omega
      _ ≤ y.significand * 2 ^ y.exponent :=
          Nat.mul_le_mul (hylow (by omega)) (Nat.pow_le_pow_right (by decide) hlt)
  · have hexponent : x.exponent = y.exponent := by omega
    rw [hexponent]
    exact Nat.mul_lt_mul_of_pos_right (by omega) (Nat.two_pow_pos _)

theorem units_inj {x y : Double} : x.units = y.units ↔ x.rank = y.rank := by
  constructor
  · intro h
    rcases Nat.lt_trichotomy x.rank y.rank with hlt | heq | hgt
    · exact absurd h (Nat.ne_of_lt (units_lt_units hlt))
    · exact heq
    · exact absurd h.symm (Nat.ne_of_lt (units_lt_units hgt))
  · intro h
    obtain ⟨hy, hylow, hyhigh⟩ := y.rank_eq
    rw [units_of_rank_eq (h.trans hy) hylow hyhigh, units, Nat.shiftLeft_eq]

theorem units_eq_zero_iff {x : Double} : x.units = 0 ↔ x.rank = 0 := by
  have hzero : zero.units = 0 := by decide
  rw [← hzero, units_inj]
  rfl

/-- The number, counted in least positive doubles. -/
def value (x : Double) : Int := if x.negative then -(x.units : Int) else x.units

/-- Two doubles have one place in the order by value exactly if they are one number. -/
theorem valueKey_eq_iff {x y : Double} : x.valueKey = y.valueKey ↔ x.value = y.value := by
  have hinj : x.units = y.units ↔ x.rank = y.rank := units_inj
  have hx : x.units = 0 ↔ x.rank = 0 := units_eq_zero_iff
  have hy : y.units = 0 ↔ y.rank = 0 := units_eq_zero_iff
  unfold valueKey value
  split <;> split <;> omega

/-! ### Integers to 53 binary digits -/

/-- The natural number to 53 binary digits: the multiple of its gap that is nearest, and on a tie
the even one. -/
def roundNat (n : Nat) : Nat := roundDiv n (2 ^ gapExponent n) * 2 ^ gapExponent n

/-- The integer to 53 binary digits. -/
def roundInt (n : Int) : Int := n.sign * roundNat n.natAbs

theorem gapExponent_le {num k : Nat} (h : num < 2 ^ (53 + k)) : gapExponent num ≤ k := by
  unfold gapExponent
  by_cases hzero : num = 0
  · subst hzero
    rw [Nat.log2_zero]
    omega
  · have := (Nat.log2_lt hzero).mpr h
    omega

/-- A multiple of its gap is not rounded. -/
theorem roundNat_of_dvd {n : Nat} (h : 2 ^ gapExponent n ∣ n) : roundNat n = n := by
  obtain ⟨q, hq⟩ := h
  have hround := roundDiv_mul q (Nat.two_pow_pos (gapExponent n))
  rw [Nat.mul_comm, ← hq] at hround
  rw [roundNat, hround, Nat.mul_comm, ← hq]

/-- Up to 2^53 no number is rounded. -/
theorem roundNat_of_le {n : Nat} (h : n ≤ 2 ^ 53) : roundNat n = n := by
  refine roundNat_of_dvd ?_
  rcases Nat.lt_or_eq_of_le h with hlt | rfl
  · have hgap : gapExponent n = 0 := Nat.le_zero.mp (gapExponent_le hlt)
    rw [hgap, Nat.pow_zero]
    exact Nat.one_dvd n
  · rw [gapExponent, Nat.log2_two_pow]
    exact Nat.pow_dvd_pow 2 (by decide)

/-- From 2^53 on a number is not rounded below. -/
theorem le_roundNat {n : Nat} (h : 2 ^ 53 ≤ n) : 2 ^ 53 ≤ roundNat n := by
  have hlog : 53 ≤ n.log2 := (Nat.le_log2 (by omega)).mpr h
  have hgap : 0 < gapExponent n := by
    unfold gapExponent
    omega
  calc 2 ^ 53 = 2 ^ 52 * 2 ^ 1 := by rw [← Nat.pow_add]
    _ ≤ roundDiv n (2 ^ gapExponent n) * 2 ^ gapExponent n :=
      Nat.mul_le_mul (Nat.le_trans (le_div_gap hgap) (div_le_roundDiv _ _))
        (Nat.pow_le_pow_right (by decide) hgap)

theorem roundDiv_mul_right (a b : Nat) {c : Nat} (hc : 0 < c) :
    roundDiv (a * c) (b * c) = roundDiv a b := by
  have hleft : 2 * (a % b * c) < b * c ↔ 2 * (a % b) < b := by
    rw [← Nat.mul_assoc, Nat.mul_lt_mul_right hc]
  have hright : b * c < 2 * (a % b * c) ↔ b < 2 * (a % b) := by
    rw [← Nat.mul_assoc, Nat.mul_lt_mul_right hc]
  rw [roundDiv_eq, roundDiv_eq, Nat.mul_div_mul_right _ _ hc, Nat.mul_mod_mul_right]
  simp only [hleft, hright]

theorem log2_mul_two_pow {n : Nat} (hn : n ≠ 0) (k : Nat) : (n * 2 ^ k).log2 = n.log2 + k := by
  have hpos : 0 < 2 ^ k := Nat.two_pow_pos k
  refine (Nat.log2_eq_iff (Nat.mul_ne_zero hn hpos.ne')).mpr ⟨?_, ?_⟩
  · rw [Nat.pow_add]
    exact Nat.mul_le_mul_right _ (Nat.log2_self_le hn)
  · rw [Nat.add_right_comm, Nat.pow_add]
    exact Nat.mul_lt_mul_of_pos_right Nat.lt_log2_self hpos

/-- Rounding does not depend on the unit that is counted in. -/
theorem roundNat_mul_two_pow (n k : Nat) : roundNat (n * 2 ^ k) = roundNat n * 2 ^ k := by
  by_cases hn : n = 0
  · rw [hn, Nat.zero_mul, roundNat_of_le (Nat.zero_le _), Nat.zero_mul]
  · have hlog := log2_mul_two_pow hn k
    rcases Nat.le_total n.log2 52 with hsmall | hlarge
    · have hexact : roundNat n = n := by
        refine roundNat_of_le (Nat.le_of_lt ((Nat.log2_lt hn).mp ?_))
        omega
      have hgap : gapExponent (n * 2 ^ k) ≤ k := by
        rw [gapExponent, hlog]
        omega
      rw [hexact, roundNat_of_dvd (Nat.dvd_trans (Nat.pow_dvd_pow 2 hgap) (Nat.dvd_mul_left _ _))]
    · have hgap : gapExponent (n * 2 ^ k) = gapExponent n + k := by
        rw [gapExponent, gapExponent, hlog]
        omega
      rw [roundNat, hgap, Nat.pow_add, roundDiv_mul_right _ _ (Nat.two_pow_pos k), ← Nat.mul_assoc,
        roundNat]

/-! ### The doubles of integers -/

/-- The magnitude of the nearest double is the rounded magnitude. -/
theorem units_ofRank_nearestRank {num : Nat} (hfinite : gapExponent num ≤ 2000) :
    (ofRank false (nearestRank num 1)).units = roundNat num := by
  have hlow : 0 < gapExponent num → 2 ^ 52 ≤ roundDiv num (2 ^ gapExponent num) :=
    fun hpos => Nat.le_trans (le_div_gap hpos) (div_le_roundDiv _ _)
  have hhigh : roundDiv num (2 ^ gapExponent num) ≤ 2 ^ 53 :=
    Nat.le_trans (roundDiv_le_succ _ _) (div_gap_lt num)
  have hrank := rank_ofRank false (nearestRank num 1)
  rw [nearestRank_one] at hrank ⊢
  rw [roundNat]
  generalize roundDiv num (2 ^ gapExponent num) = q at hlow hhigh hrank ⊢
  rw [Nat.min_eq_left (by omega)] at hrank
  rcases Nat.lt_or_eq_of_le hhigh with hlt | rfl
  · exact units_of_rank_eq hrank hlow hlt
  · -- rounded up to the first magnitude with the next exponent
    have hcarry : gapExponent num * 2 ^ 52 + 2 ^ 53 = (gapExponent num + 1) * 2 ^ 52 + 2 ^ 52 := by
      omega
    rw [units_of_rank_eq (hrank.trans hcarry) (fun _ => Nat.le_refl _) (by decide), Nat.pow_succ]
    omega

theorem units_mul_shiftLeft {n k : Nat} (h : n ≤ 2 ^ 64) (hk : k < 1900) :
    (ofRank false (nearestRank (n * 1 <<< k) 1)).units = roundNat n * 1 <<< k := by
  have hlt : n * 2 ^ k < 2 ^ (53 + (k + 12)) := by
    rw [show 53 + (k + 12) = 65 + k by omega, Nat.pow_add]
    exact Nat.mul_lt_mul_of_pos_right (by omega) (Nat.two_pow_pos k)
  have hexp := gapExponent_le hlt
  rw [Nat.one_shiftLeft, units_ofRank_nearestRank (by omega), roundNat_mul_two_pow]

/-- **The double nearest to a natural number** is the number to 53 binary digits. -/
theorem units_ofNat {n : Nat} (h : n ≤ 2 ^ 64) : (ofNat n).units = roundNat n * unitsOfOne :=
  units_mul_shiftLeft h (by decide)

theorem one_shiftLeft_pos (k : Nat) : 0 < 1 <<< k := by
  rw [Nat.one_shiftLeft]
  exact Nat.two_pow_pos k

theorem unitsOfOne_pos : 0 < unitsOfOne := one_shiftLeft_pos 1074

theorem value_withSign (x : Double) (negative : Bool) :
    ({ x with negative } : Double).value = if negative then -(x.units : Int) else x.units := rfl

/-- **The double nearest to an integer** is the integer to 53 binary digits. -/
theorem value_ofInt {n : Int} (h : n.natAbs ≤ 2 ^ 64) :
    (ofInt n).value = roundInt n * unitsOfOne := by
  rw [ofInt_eq, value_withSign, units_ofNat h, roundInt]
  rcases Int.lt_trichotomy n 0 with hneg | rfl | hpos
  · rw [decide_eq_true hneg, if_pos rfl, Int.sign_eq_neg_one_of_neg hneg]
    push_cast
    ring
  · rw [Int.natAbs_zero, roundNat_of_le (Nat.zero_le _)]
    simp
  · rw [decide_eq_false (by omega), if_neg Bool.false_ne_true, Int.sign_eq_one_of_pos hpos]
    push_cast
    ring

/-- Integers are one number as doubles exactly if they have the same 53 binary digits. -/
theorem valueKey_ofInt_eq_iff {m n : Int} (hm : m.natAbs ≤ 2 ^ 64) (hn : n.natAbs ≤ 2 ^ 64) :
    (ofInt m).valueKey = (ofInt n).valueKey ↔ roundInt m = roundInt n := by
  have hne : (unitsOfOne : Int) ≠ 0 := Int.natCast_ne_zero.mpr unitsOfOne_pos.ne'
  rw [valueKey_eq_iff, value_ofInt hm, value_ofInt hn, Int.mul_eq_mul_right_iff hne]

theorem roundInt_of_le {n : Int} (h : n.natAbs ≤ 2 ^ 53) : roundInt n = n := by
  rw [roundInt, roundNat_of_le h, Int.sign_mul_natAbs]

/-- **Below 2^53 in magnitude an integer shares its 53 binary digits with no other.** -/
theorem roundInt_eq_iff {m n : Int} (h : m.natAbs < 2 ^ 53) : roundInt m = roundInt n ↔ m = n := by
  refine ⟨fun heq => ?_, fun heq => heq ▸ rfl⟩
  rw [roundInt_of_le (Nat.le_of_lt h)] at heq
  rcases Nat.lt_or_ge (2 ^ 53) n.natAbs with hlarge | hsmall
  · have hround := le_roundNat (Nat.le_of_lt hlarge)
    have habs : m.natAbs = roundNat n.natAbs := by
      rw [heq, roundInt, Int.natAbs_mul, Int.natAbs_sign_of_ne_zero (by omega), Nat.one_mul,
        Int.natAbs_natCast]
    omega
  · rw [heq, roundInt_of_le hsmall]

/-- **Up to 2^53 in magnitude different integers are different doubles.** -/
theorem ofInt_inj {a b : Int} (ha : a.natAbs ≤ 2 ^ 53) (hb : b.natAbs ≤ 2 ^ 53) :
    ofInt a = ofInt b ↔ a = b := by
  refine ⟨fun h => ?_, fun h => h ▸ rfl⟩
  have hkey := (valueKey_ofInt_eq_iff (by omega) (by omega)).mp (congrArg valueKey h)
  rwa [roundInt_of_le ha, roundInt_of_le hb] at hkey

end LogSieve.Double
