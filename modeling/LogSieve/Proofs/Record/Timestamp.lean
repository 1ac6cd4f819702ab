import LogSieve.Proofs.Number.Digits

/-!
# Written timestamps are read back

A timestamp is written to the second in one layout. Of the layouts that are tried in turn, the
internet layout does not read that text, as it asks for an offset and knows no signed years. The
plain layout does, and gives the timestamp without its fraction of a second (`parse?_render`).
-/

namespace LogSieve

namespace Timestamp

/-! ### White space -/

/-- The text does not start with white space. -/
def Unblank (text : List Char) : Prop := ∀ c ∈ text.head?, Text.isBlank c = false

theorem unblank_cons {c : Char} {rest : List Char} (h : Text.isBlank c = false) :
    Unblank (c :: rest) := by
  simp [Unblank, h]

theorem trimStart_of_unblank {text : List Char} (h : Unblank text) :
    Text.trimStart text = text := by
  cases text with
  | nil => rfl
  | cons c rest => rw [Text.trimStart, List.dropWhile_cons_of_neg (by simp [h c rfl])]

theorem trim_of_unblank {text : List Char} (hstart : Unblank text) (hend : Unblank text.reverse) :
    Text.trim text = text := by
  rw [Text.trim, trimStart_of_unblank hstart, trimStart_of_unblank hend, List.reverse_reverse]

theorem isBlank_of_isDigit {c : Char} (h : c.isDigit) : Text.isBlank c = false := by
  have hrange : 48 ≤ c.toNat ∧ c.toNat ≤ 57 := by
    simpa [Char.isDigit, UInt32.le_iff_toNat_le] using h
  simp [Text.isBlank, Text.Ranges.has, Text.blanks]
  omega

/-! ### Parts -/

variable {width n : Nat} {rest : List Char}

theorem padded_ne_nil (width n : Nat) : padded width n ≠ [] :=
  List.append_ne_nil_of_right_ne_nil _ Nat.toDigits_ne_nil

theorem unblank_digits {digits : List Char} (hne : digits ≠ []) (h : ∀ c ∈ digits, c.isDigit) :
    Unblank (digits ++ rest) := by
  obtain ⟨c, tail, rfl⟩ := List.exists_cons_of_ne_nil hne
  exact unblank_cons (isBlank_of_isDigit (h c List.mem_cons_self))

theorem unblank_padded : Unblank (padded width n ++ rest) :=
  unblank_digits (padded_ne_nil width n) isDigit_of_mem_padded

theorem readPart_padded (hn : n < 100) (hrest : Undigital rest) :
    readPart (padded 2 n ++ rest) = some (n, rest) := by
  have hlength : (padded 2 n).length = 2 := length_padded (by decide) hn
  rw [readPart, trimStart_of_unblank unblank_padded]
  exact readDigits_padded (by omega) (by omega) hrest

theorem some_bind {α β : Type} (a : α) (next : α → Option β) : (some a >>= next) = next a := rfl

theorem readChar_cons (c : Char) (rest : List Char) : readChar c (c :: rest) = some rest :=
  if_pos rfl

/-- A year is written with four digits, or with a sign before them. -/
theorem yearChars_cases (year : Int) :
    (0 ≤ year ∧ year ≤ 9999 ∧ yearChars year = padded 4 year.natAbs) ∨
      (9999 < year ∧ yearChars year = '+' :: padded 4 year.natAbs) ∨
      (year < 0 ∧ yearChars year = '-' :: padded 4 year.natAbs) := by
  by_cases hplain : 0 ≤ year ∧ year ≤ 9999
  · exact .inl ⟨hplain.1, hplain.2, if_pos (by simpa using hplain)⟩
  · have hyear : yearChars year = (if year < 0 then '-' else '+') :: padded 4 year.natAbs :=
      if_neg (by simpa using hplain)
    by_cases hneg : year < 0
    · exact .inr (.inr ⟨hneg, by rw [hyear, if_pos hneg]⟩)
    · exact .inr (.inl ⟨by omega, by rw [hyear, if_neg hneg]⟩)

theorem unblank_yearChars (year : Int) (rest : List Char) : Unblank (yearChars year ++ rest) := by
  rcases yearChars_cases year with ⟨-, -, h⟩ | ⟨-, h⟩ | ⟨-, h⟩ <;> rw [h]
  · exact unblank_padded
  · exact unblank_cons (by decide)
  · exact unblank_cons (by decide)

theorem readYear_yearChars (year : Int) (hrest : Undigital rest) :
    readYear (yearChars year ++ rest) = some (year, rest) := by
  rw [readYear, trimStart_of_unblank (unblank_yearChars year rest)]
  have hleast : 4 ≤ (padded 4 year.natAbs).length := le_length_padded
  -- behind a sign, the whole text may be digits
  have hsigned : readDigits 1 (padded 4 year.natAbs ++ rest).length (padded 4 year.natAbs ++ rest) =
      some (year.natAbs, rest) := readDigits_padded (by omega) (by simp) hrest
  rcases yearChars_cases year with ⟨hnonneg, hle, h⟩ | ⟨hlt, h⟩ | ⟨hneg, h⟩ <;> rw [h]
  · have hplain : readDigits 1 4 (padded 4 year.natAbs ++ rest) = some (year.natAbs, rest) := by
      have hlength : (padded 4 year.natAbs).length = 4 :=
        length_padded (by decide) (by omega : _ < 10000)
      exact readDigits_padded (by omega) (by omega) hrest
    obtain ⟨c, tail, htext⟩ := List.exists_cons_of_ne_nil (padded_ne_nil 4 year.natAbs)
    have hc : c.isDigit = true := isDigit_of_mem_padded c (htext ▸ List.mem_cons_self)
    rw [htext, List.cons_append] at hplain ⊢
    split
    · next heq => cases heq; cases hc
    · next heq => cases heq; cases hc
    · rw [hplain, Option.map_some]
      dsimp only
      rw [Int.natAbs_of_nonneg hnonneg]
  · simp only [List.cons_append, hsigned, Option.map_some]
    rw [Int.natAbs_of_nonneg (by omega)]
  · simp only [List.cons_append, hsigned, Option.map_some]
    rw [Int.ofNat_natAbs_of_nonpos (by omega), Int.neg_neg]

/-! ### The layouts -/

theorem ofParts?_parts (t : Timestamp) :
    ofParts? t.date.year t.date.month t.date.day t.clock.hour t.clock.minute t.clock.second 0 =
      some t.toSeconds := by
  have hdate : Date.ofCivil? t.date.year t.date.month t.date.day = some t.date :=
    dif_pos ⟨t.date.year_bounded, t.date.month_bounded, t.date.day_bounded⟩
  have hclock : Clock.ofParts? t.clock.hour t.clock.minute t.clock.second 0 =
      some t.toSeconds.clock :=
    dif_pos ⟨t.clock.hour_lt, t.clock.minute_lt, t.clock.second_le, by decide⟩
  rw [ofParts?, hdate, hclock]
  rfl

/-- All parts but the year have two digits. -/
theorem parts_lt (t : Timestamp) :
    t.date.month < 100 ∧ t.date.day < 100 ∧ t.clock.hour < 100 ∧ t.clock.minute < 100 ∧
      t.clock.second < 100 := by
  have hmonth := t.date.month_bounded
  have hday : t.date.day < 100 :=
    Nat.lt_of_le_of_lt t.date.day_bounded.2 (by simp only [daysInMonth]; split <;> split <;> omega)
  have hhour := t.clock.hour_lt
  have hminute := t.clock.minute_lt
  have hsecond := t.clock.second_le
  omega

theorem undigital_hyphen (rest : List Char) : Undigital ('-' :: rest) := undigital_cons rfl

theorem undigital_space (rest : List Char) : Undigital (' ' :: rest) := undigital_cons rfl

theorem undigital_colon (rest : List Char) : Undigital (':' :: rest) := undigital_cons rfl

theorem parsePlain?_renderChars (t : Timestamp) :
    parsePlain? false t.renderChars = some t.toSeconds := by
  obtain ⟨hmonth, hday, hhour, hminute, hsecond⟩ := t.parts_lt
  have hlast : readPart (padded 2 t.clock.second) = some (t.clock.second, []) := by
    simpa using readPart_padded hsecond undigital_nil
  have hseparator (rest : List Char) :
      readSeparator false (' ' :: (padded 2 t.clock.hour ++ rest)) =
        some (padded 2 t.clock.hour ++ rest) :=
    congrArg some (trimStart_of_unblank unblank_padded)
  simp only [parsePlain?, renderChars, Option.bind_eq_bind, Option.bind_some, readChar_cons,
    readYear_yearChars _ (undigital_hyphen _), readPart_padded hmonth (undigital_hyphen _),
    readPart_padded hday (undigital_space _), hseparator,
    readPart_padded hhour (undigital_colon _), readPart_padded hminute (undigital_colon _), hlast]
  exact ofParts?_parts t

/-- No year with a sign starts a text in the internet layout, and no text in it ends without an
offset. -/
theorem parseInternet?_renderChars (t : Timestamp) : parseInternet? t.renderChars = none := by
  have hsigned (c : Char) (rest : List Char) (hc : c.isDigit = false) :
      readDigits 4 4 (c :: rest) = none := by
    rw [readDigits, List.take_succ_cons, List.takeWhile_cons_of_neg (by simp [hc])]
    rfl
  rcases yearChars_cases t.date.year with ⟨hnonneg, hle, h⟩ | ⟨-, h⟩ | ⟨-, h⟩
  · obtain ⟨hmonth, hday, hhour, hminute, hsecond⟩ := t.parts_lt
    have hlength : (padded 4 t.date.year.natAbs).length = 4 :=
      length_padded (by decide) (by omega : _ < 10000)
    have hpart {n : Nat} (hn : n < 100) {rest : List Char} (hrest : Undigital rest) :
        readDigits 2 2 (padded 2 n ++ rest) = some (n, rest) := by
      have hlength : (padded 2 n).length = 2 := length_padded (by decide) hn
      exact readDigits_padded (by omega) (by omega) hrest
    have hlast : readDigits 2 2 (padded 2 t.clock.second) = some (t.clock.second, []) := by
      simpa using hpart hsecond undigital_nil
    have hseparator (rest : List Char) : readInternetSeparator (' ' :: rest) = some rest := rfl
    rw [parseInternet?, renderChars, h, readDigits_padded (Nat.le_of_eq hlength.symm)
      (Nat.le_of_eq hlength) (undigital_hyphen _), some_bind]
    dsimp only
    rw [readChar_cons, some_bind, hpart hmonth (undigital_hyphen _), some_bind]
    dsimp only
    rw [readChar_cons, some_bind, hpart hday (undigital_space _), some_bind]
    dsimp only
    rw [hseparator, some_bind, hpart hhour (undigital_colon _), some_bind]
    dsimp only
    rw [readChar_cons, some_bind, hpart hminute (undigital_colon _), some_bind]
    dsimp only
    rw [readChar_cons, some_bind, hlast]
    rfl
  · rw [parseInternet?, renderChars, h, List.cons_append, hsigned _ _ rfl]
    rfl
  · rw [parseInternet?, renderChars, h, List.cons_append, hsigned _ _ rfl]
    rfl

theorem unblank_reverse_renderChars (t : Timestamp) : Unblank t.renderChars.reverse := by
  have htext : t.renderChars = (yearChars t.date.year ++ '-' :: (padded 2 t.date.month ++
      '-' :: (padded 2 t.date.day ++ ' ' :: (padded 2 t.clock.hour ++ ':' ::
        (padded 2 t.clock.minute ++ [':']))))) ++ padded 2 t.clock.second := by
    simp [renderChars]
  rw [htext, List.reverse_append]
  refine unblank_digits (List.reverse_ne_nil_iff.mpr (padded_ne_nil 2 _)) fun c hc => ?_
  exact isDigit_of_mem_padded c (List.mem_reverse.mp hc)

/-- **A written timestamp is read back** without its fraction of a second. -/
theorem parse?_render (t : Timestamp) : parse? t.render = some t.toSeconds := by
  have htrim : Text.trim t.renderChars = t.renderChars :=
    trim_of_unblank (unblank_yearChars _ _) t.unblank_reverse_renderChars
  simp only [parse?, render, String.toList_ofList, htrim, parseInternet?_renderChars,
    parsePlain?_renderChars, Option.some_or, Option.none_or]

end Timestamp

end LogSieve
