import LogSieve.Json.Quoted
import LogSieve.Proofs.Outcome

/-!
# Quoted text is read back

Whatever a character is written as between quotes, one step of the reader takes it and gives the
character (`readQuotedAfter_escapeChar`). By induction on the text, the reader gives the text that
was written, and leaves what stands behind the closing quote (`readQuoted_quoted`).
-/

namespace LogSieve.Json

theorem hexValue?_hexDigit {n : Nat} (hn : n < 16) : hexValue? (hexDigit n) = some n := by
  have hall : ∀ n : Fin 16, hexValue? (hexDigit n) = some n.val := by decide
  exact hall ⟨n, hn⟩

/-- A control character is read back from its number. -/
theorem readUnicode_control {c : Char} (h : c.toNat < 0x20) (rest : List Char) :
    readUnicode ('0' :: '0' :: hexDigit (c.toNat / 16) :: hexDigit (c.toNat % 16) :: rest) =
      .ok (c, rest) := by
  have hvalue : hexValue4? '0' '0' (hexDigit (c.toNat / 16)) (hexDigit (c.toNat % 16)) =
      some c.toNat := by
    have hzero : hexValue? '0' = some 0 := rfl
    simp only [hexValue4?, hzero, hexValue?_hexDigit (by omega : c.toNat / 16 < 16),
      hexValue?_hexDigit (by omega : c.toNat % 16 < 16), Option.bind_eq_bind, Option.bind_some,
      Option.pure_def]
    exact congrArg some (by omega)
  have hread : readHex4 ('0' :: '0' :: hexDigit (c.toNat / 16) :: hexDigit (c.toNat % 16) :: rest) =
      .ok (c.toNat, rest) := by
    simp only [readHex4, hvalue, Option.map_some]
  have htrailing : isTrailing c.toNat = false := by simp [isTrailing]; omega
  have hleading : isLeading c.toNat = false := by simp [isLeading]; omega
  simp only [readUnicode, hread, ok_bind, htrailing, hleading, Bool.false_eq_true, if_false,
    Char.ofNat_toNat, pure_eq_ok]

theorem eq_ofNat_of_toNat_eq {c : Char} {n : Nat} (h : c.toNat = n) : c = Char.ofNat n := by
  rw [← h, Char.ofNat_toNat]

/-- **A character is read in one step**, whatever it is written as. -/
theorem readQuotedAfter_escapeChar (c step : Char) (fuel taken rest : List Char) :
    readQuotedAfter (step :: fuel) taken (escapeChar c ++ rest) =
      readQuotedAfter fuel (c :: taken) rest := by
  have hescaped (escape : List Char) (h : readEscape (escape ++ rest) = .ok (c, rest)) :
      readQuotedAfter (step :: fuel) taken ('\\' :: (escape ++ rest)) =
        readQuotedAfter fuel (c :: taken) rest := by
    simp only [readQuotedAfter, h, ok_bind]
    rfl
  rw [escapeChar]
  split
  · next hc => exact hescaped ['"'] (by subst hc; rfl)
  split
  · next hc => exact hescaped ['\\'] (by subst hc; rfl)
  split
  · next hcontrol =>
    split
    · next hc => exact hescaped ['n'] (by subst hc; rfl)
    split
    · next hc => exact hescaped ['r'] (by subst hc; rfl)
    split
    · next hc => exact hescaped ['t'] (by subst hc; rfl)
    split
    · next hc => exact hescaped ['b'] (by rw [eq_ofNat_of_toNat_eq hc]; rfl)
    split
    · next hc => exact hescaped ['f'] (by rw [eq_ofNat_of_toNat_eq hc]; rfl)
    · exact hescaped ['u', '0', '0', _, _] (readUnicode_control hcontrol rest)
  · next hquote hbackslash hcontrol =>
    simp only [List.cons_append, List.nil_append, readQuotedAfter, if_neg hquote, if_neg hbackslash,
      if_neg hcontrol]

/-- The characters of a text are read one after the other. -/
theorem readQuotedAfter_text {text fuel : List Char} (hfuel : text.length < fuel.length)
    (taken rest : List Char) :
    readQuotedAfter fuel taken (text.flatMap escapeChar ++ '"' :: rest) =
      .ok (String.ofList (taken.reverse ++ text), rest) := by
  induction text generalizing fuel taken with
  | nil =>
    cases fuel with
    | nil => cases hfuel
    | cons step fuel => simp [readQuotedAfter]
  | cons c text ih =>
    cases fuel with
    | nil => cases hfuel
    | cons step fuel =>
      rw [List.flatMap_cons, List.append_assoc, readQuotedAfter_escapeChar,
        ih (Nat.lt_of_succ_lt_succ hfuel), List.reverse_cons, List.append_assoc,
        List.singleton_append]

theorem length_escapeChar_pos (c : Char) : 0 < (escapeChar c).length := by
  rw [escapeChar]
  repeat' split
  all_goals exact Nat.succ_pos _

theorem length_le_length_flatMap_escapeChar (text : List Char) :
    text.length ≤ (text.flatMap escapeChar).length := by
  induction text with
  | nil => exact Nat.le_refl 0
  | cons c text ih =>
    have := length_escapeChar_pos c
    simp only [List.flatMap_cons, List.length_append, List.length_cons]
    omega

/-- **Quoted text is read back**, behind its opening quote. -/
theorem readQuoted_quoted (text : String) (rest : List Char) :
    readQuoted (text.toList.flatMap escapeChar ++ '"' :: rest) = .ok (text, rest) := by
  have hlength := length_le_length_flatMap_escapeChar text.toList
  rw [readQuoted, readQuotedAfter_text (by simp only [List.length_append, List.length_cons]; omega),
    List.reverse_nil, List.nil_append, String.ofList_toList]

end LogSieve.Json
