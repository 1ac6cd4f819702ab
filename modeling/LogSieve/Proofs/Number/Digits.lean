import LogSieve.Json.Numeral
import LogSieve.Record.Timestamp

/-!
# Decimal digits

The digits of a number are digits, without a zero before them, and their value is the number. A
reader that takes as many digits as there are takes exactly those that were written, if what follows
does not go on with one (`Undigital`).
-/

namespace LogSieve

/-- The text does not start with a digit. -/
def Undigital (text : List Char) : Prop := ∀ c ∈ text.head?, c.isDigit = false

theorem undigital_nil : Undigital [] := by simp [Undigital]

theorem undigital_cons {c : Char} {rest : List Char} (h : c.isDigit = false) :
    Undigital (c :: rest) := by
  simp [Undigital, h]

/-! ### Taking digits -/

theorem takeWhile_isDigit_append {digits rest : List Char} (hdigits : ∀ c ∈ digits, c.isDigit)
    (hrest : Undigital rest) : (digits ++ rest).takeWhile Char.isDigit = digits := by
  rw [List.takeWhile_append_of_pos hdigits]
  cases rest with
  | nil => simp
  | cons c rest => rw [List.takeWhile_cons_of_neg (by simp [hrest c rfl]), List.append_nil]

theorem dropWhile_isDigit_append {digits rest : List Char} (hdigits : ∀ c ∈ digits, c.isDigit)
    (hrest : Undigital rest) : (digits ++ rest).dropWhile Char.isDigit = rest := by
  rw [List.dropWhile_append_of_pos hdigits]
  cases rest with
  | nil => rfl
  | cons c rest => rw [List.dropWhile_cons_of_neg (by simp [hrest c rfl])]

/-! ### The digits of a number -/

theorem isDigit_of_mem_toDigits {n : Nat} : ∀ c ∈ Nat.toDigits 10 n, c.isDigit :=
  fun _ => Nat.isDigit_of_mem_toDigits (by decide) (by decide)

/-- Only zero is written with a zero first. -/
theorem toDigits_eq_zero_cons {n : Nat} {rest : List Char} (h : Nat.toDigits 10 n = '0' :: rest) :
    rest = [] := by
  -- the first digit is that of the number without its last digit
  suffices hzero : n = 0 by
    rw [hzero, Nat.toDigits_zero] at h
    exact (List.cons.inj h).2.symm
  induction n using Nat.strongRecOn generalizing rest with
  | ind n ih =>
    by_cases hn : n < 10
    · rw [Nat.toDigits_of_lt_base hn] at h
      exact Nat.digitChar_eq_zero.mp (List.cons.inj h).1
    · rw [Nat.toDigits_of_base_le (by decide) (Nat.not_lt.mp hn)] at h
      cases hdigits : Nat.toDigits 10 (n / 10) with
      | nil => exact absurd hdigits Nat.toDigits_ne_nil
      | cons c digits =>
        rw [hdigits] at h
        have hc : c = '0' := (List.cons.inj h).1
        have := ih (n / 10) (by omega) (hc ▸ hdigits)
        omega

theorem Json.digitsValue_eq_ofDigitChars (digits : List Char) :
    Json.digitsValue digits = Nat.ofDigitChars 10 digits 0 := by
  rw [Json.digitsValue, Nat.ofDigitChars]
  simp only [Json.digitValue, Nat.mul_comm]
  rfl

theorem Timestamp.digitsValue_eq_ofDigitChars (digits : List Char) :
    Timestamp.digitsValue digits = Nat.ofDigitChars 10 digits 0 := by
  rw [Timestamp.digitsValue, Nat.ofDigitChars]
  simp only [Nat.mul_comm]
  rfl

theorem Json.digitsValue_toDigits (n : Nat) : Json.digitsValue (Nat.toDigits 10 n) = n := by
  rw [Json.digitsValue_eq_ofDigitChars, Nat.ofDigitChars_ten_toDigits]

/-! ### Padded numbers -/

namespace Timestamp

variable {width n : Nat}

theorem isDigit_of_mem_padded : ∀ c ∈ padded width n, c.isDigit := by
  intro c hc
  rcases List.mem_append.mp hc with hzero | hdigit
  · rw [List.eq_of_mem_replicate hzero]
    rfl
  · exact isDigit_of_mem_toDigits c hdigit

theorem digitsValue_padded : digitsValue (padded width n) = n := by
  rw [digitsValue_eq_ofDigitChars, padded, Nat.ofDigitChars_append, Nat.ofDigitChars_replicate_zero,
    Nat.mul_zero, Nat.ofDigitChars_ten_toDigits]

theorem le_length_padded : width ≤ (padded width n).length := by
  simp only [padded, List.length_append, List.length_replicate]
  omega

theorem length_padded (hwidth : 0 < width) (hn : n < Nat.pow 10 width) :
    (padded width n).length = width := by
  have hdigits := (Nat.length_toDigits_le_iff (b := 10) (by decide) hwidth).mpr hn
  simp only [padded, List.length_append, List.length_replicate]
  omega

/-- A padded number is read back, if at most as many digits are read as were written. -/
theorem readDigits_padded {least most : Nat} {rest : List Char}
    (hleast : least ≤ (padded width n).length) (hmost : (padded width n).length ≤ most)
    (hrest : Undigital rest) :
    readDigits least most (padded width n ++ rest) = some (n, rest) := by
  have htaken : ((padded width n ++ rest).take most).takeWhile Char.isDigit = padded width n := by
    rw [List.take_append, List.take_of_length_le hmost]
    refine takeWhile_isDigit_append isDigit_of_mem_padded fun c hc => hrest c ?_
    rw [List.head?_take] at hc
    split at hc
    · cases hc
    · exact hc
  simp only [readDigits, htaken, if_neg (Nat.not_lt.mpr hleast), digitsValue_padded,
    List.drop_left]

end Timestamp

end LogSieve
