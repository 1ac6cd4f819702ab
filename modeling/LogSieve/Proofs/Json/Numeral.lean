import LogSieve.Proofs.Number.Digits

/-!
# Integers are read back

The text of an integer within the range of integers is read as that integer, if what follows does
not go on with the numeral (`readNumber_nonneg`, `readNumber_neg`).
-/

namespace LogSieve.Json

/-! ### Writing -/

/-- A number is written by its digits, behind a minus sign if it is negative. -/
theorem toList_render_int (n : Int) :
    (Number.int n).render.toList =
      if 0 ≤ n then Nat.toDigits 10 n.natAbs else '-' :: Nat.toDigits 10 n.natAbs := by
  rw [Number.render, Int.toString_eq_repr, Int.repr_eq_if]
  split
  · rw [Nat.toList_repr]
    congr 1
    omega
  · rw [String.toList_append, Nat.toList_repr]
    have hdigits : (-n).toNat = n.natAbs := by omega
    rw [hdigits]
    rfl

/-! ### Reading -/

/-- The text does not go on with a numeral: it starts neither with a digit nor with the sign of a
fraction or an exponent. -/
def EndsNumeral (text : List Char) : Prop :=
  ∀ c ∈ text.head?, c.isDigit = false ∧ c ≠ '.' ∧ c ≠ 'e' ∧ c ≠ 'E'

variable {n : Nat} {rest : List Char}

theorem endsNumeral_cons {c : Char}
    (hc : c.isDigit = false ∧ c ≠ '.' ∧ c ≠ 'e' ∧ c ≠ 'E') : EndsNumeral (c :: rest) := by
  intro d hd
  cases hd
  exact hc

theorem EndsNumeral.undigital (h : EndsNumeral rest) : Undigital rest := fun c hc => (h c hc).1

/-- The digits of a number are read as a whole. -/
theorem readNumber_toDigits (negative : Bool) (hrest : EndsNumeral rest) :
    readNumber negative (Nat.toDigits 10 n ++ rest) =
      readFraction negative (Nat.toDigits 10 n) rest := by
  rw [readNumber, takeWhile_isDigit_append isDigit_of_mem_toDigits hrest.undigital,
    dropWhile_isDigit_append isDigit_of_mem_toDigits hrest.undigital]
  split
  · next h => exact absurd h Nat.toDigits_ne_nil
  · next h => cases toDigits_eq_zero_cons h
  · rfl

/-- Without fraction and exponent, the digits are an integer if it is in range. -/
theorem readFraction_toDigits (negative : Bool) (hrest : EndsNumeral rest)
    (hrange : if negative then n ≠ 0 ∧ leastInt ≤ -(n : Int) else n ≤ greatestInt) :
    readFraction negative (Nat.toDigits 10 n) rest =
      .ok (.int (if negative then -(n : Int) else n), rest) := by
  rw [readFraction]
  generalize significant 0 (Nat.toDigits 10 n) = scaled
  obtain ⟨significand, dropped⟩ := scaled
  dsimp only
  split
  · exact absurd rfl (hrest _ rfl).2.1
  · exact absurd rfl (hrest _ rfl).2.2.1
  · exact absurd rfl (hrest _ rfl).2.2.2
  · rw [digitsValue_toDigits]
    cases negative with
    | false =>
      have hn : n ≤ greatestInt := by simpa using hrange
      simp [hn]
    | true =>
      have hn : n ≠ 0 ∧ leastInt ≤ -(n : Int) := by simpa using hrange
      simp [hn]

theorem readNumber_nonneg (hn : n ≤ greatestInt) (hrest : EndsNumeral rest) :
    readNumber false (Nat.toDigits 10 n ++ rest) = .ok (.int n, rest) := by
  rw [readNumber_toDigits false hrest, readFraction_toDigits false hrest (by simpa using hn)]
  rfl

theorem readNumber_neg (hzero : n ≠ 0) (hn : leastInt ≤ -(n : Int)) (hrest : EndsNumeral rest) :
    readNumber true (Nat.toDigits 10 n ++ rest) = .ok (.int (-(n : Int)), rest) := by
  rw [readNumber_toDigits true hrest, readFraction_toDigits true hrest (by simpa using ⟨hzero, hn⟩)]
  rfl

end LogSieve.Json
