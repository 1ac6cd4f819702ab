import LogSieve.Json.Reader
import LogSieve.Proofs.Json.Numeral

/-!
# Blanks and separators

Between two tokens of JSON text any blanks may stand. The reader passes over them, before a token
(`Blanks.skipSpace_append`) and around the commas between entries and items (`nextEntry_entry`,
`nextItem_item`).
-/

namespace LogSieve.Json

/-- A text of blanks. -/
structure Blanks where
  /-- The text. -/
  chars : List Char
  /-- It holds only blanks. -/
  isSpace_of_mem : ∀ c ∈ chars, isSpace c

theorem skipSpace_cons {c : Char} (hc : isSpace c = false) (rest : List Char) :
    skipSpace (c :: rest) = c :: rest :=
  List.dropWhile_cons_of_neg (by simp [hc])

theorem isSpace_of_isDigit {c : Char} (h : c.isDigit) : isSpace c = false := by
  refine Bool.eq_false_iff.mpr fun hspace => ?_
  simp only [isSpace, Bool.or_eq_true, decide_eq_true_eq] at hspace
  rcases hspace with ((rfl | rfl) | rfl) | rfl <;> cases h

namespace Blanks

variable (blanks : Blanks)

/-- Blanks before a token are passed over. -/
theorem skipSpace_append {c : Char} (hc : isSpace c = false) (rest : List Char) :
    skipSpace (blanks.chars ++ c :: rest) = c :: rest := by
  rw [skipSpace, List.dropWhile_append_of_pos blanks.isSpace_of_mem]
  exact skipSpace_cons hc rest

/-- No numeral goes on behind blanks. -/
theorem endsNumeral_append {c : Char}
    (hc : c.isDigit = false ∧ c ≠ '.' ∧ c ≠ 'e' ∧ c ≠ 'E') (rest : List Char) :
    EndsNumeral (blanks.chars ++ c :: rest) := by
  cases hchars : blanks.chars with
  | nil => exact endsNumeral_cons hc
  | cons d tail =>
    have hd := blanks.isSpace_of_mem d (hchars ▸ List.mem_cons_self)
    simp only [isSpace, Bool.or_eq_true, decide_eq_true_eq] at hd
    refine endsNumeral_cons ?_
    rcases hd with ((rfl | rfl) | rfl) | rfl <;> decide

end Blanks

/-! ### Between entries and items -/

/-- The comma before all but the first. -/
def comma (first : Bool) : List Char := if first then [] else [',']

variable (first : Bool) (blanks : Blanks) (rest : List Char)

theorem nextEntry_entry :
    nextEntry first (comma first ++ (blanks.chars ++ '"' :: rest)) = .ok (.item ('"' :: rest)) := by
  have hquote : skipSpace (blanks.chars ++ '"' :: rest) = '"' :: rest :=
    blanks.skipSpace_append rfl rest
  cases first with
  | true =>
    rw [comma, if_pos rfl, List.nil_append, nextEntry, hquote]
    rfl
  | false =>
    rw [comma, if_neg (by decide), List.singleton_append, nextEntry, skipSpace_cons rfl]
    simp [hquote]

theorem nextEntry_brace :
    nextEntry first (blanks.chars ++ '}' :: rest) = .ok (.finish ('}' :: rest)) := by
  rw [nextEntry, blanks.skipSpace_append rfl]
  rfl

theorem nextItem_item :
    nextItem first (comma first ++ (blanks.chars ++ '{' :: rest)) = .ok (.item ('{' :: rest)) := by
  have hbrace : skipSpace (blanks.chars ++ '{' :: rest) = '{' :: rest :=
    blanks.skipSpace_append rfl rest
  cases first with
  | true =>
    rw [comma, if_pos rfl, List.nil_append, nextItem, hbrace]
    rfl
  | false =>
    rw [comma, if_neg (by decide), List.singleton_append, nextItem, skipSpace_cons rfl]
    simp [hbrace]

theorem nextItem_bracket :
    nextItem first (blanks.chars ++ ']' :: rest) = .ok (.finish (']' :: rest)) := by
  rw [nextItem, blanks.skipSpace_append rfl]
  rfl

end LogSieve.Json
