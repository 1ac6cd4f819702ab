import LogSieve.Filter.TextTest
import Mathlib.Data.List.Forall2

/-!
# What LIKE patterns fit

A pattern is read as tokens (`Spells`), and its tokens fit a text that can be cut into consecutive
pieces, one for each token (`Splits`). The library decides this with a table that holds, for every
end of the text, whether the tokens fit it. Taking a character off the front of the text takes the
first entry off the table (`fitting_cons`), which gives one equation for each token, and from these
that the table is right (`fits_iff_splits`).
-/

namespace LogSieve.LikeToken

/-! ### Reading -/

/-- `Spells pattern tokens`: the pattern spells the tokens. -/
inductive Spells : List Char → List LikeToken → Prop where
  /-- The empty pattern spells nothing. -/
  | nil : Spells [] []
  /-- A `%` is any run of characters. -/
  | anyRun {rest : List Char} {tokens : List LikeToken} :
      Spells rest tokens → Spells ('%' :: rest) (anyRun :: tokens)
  /-- A `_` is any single character. -/
  | anyOne {rest : List Char} {tokens : List LikeToken} :
      Spells rest tokens → Spells ('_' :: rest) (anyOne :: tokens)
  /-- A backslash with a character behind it is that character. -/
  | escaped {c : Char} {rest : List Char} {tokens : List LikeToken} :
      Spells rest tokens → Spells ('\\' :: c :: rest) (literal c :: tokens)
  /-- A backslash at the end is a backslash. -/
  | escape : Spells ['\\'] [literal '\\']
  /-- Any other character is itself. -/
  | plain {c : Char} {rest : List Char} {tokens : List LikeToken} :
      c ≠ '%' → c ≠ '_' → c ≠ '\\' → Spells rest tokens → Spells (c :: rest) (literal c :: tokens)

theorem spells_ofPattern (pattern : List Char) : Spells pattern (ofPattern pattern) := by
  fun_induction ofPattern pattern with
  | case1 => exact .nil
  | case2 => exact .escape
  | case3 c rest ih => exact .escaped ih
  | case4 c rest hlast hescape ih =>
    split
    · next h => exact h ▸ .anyRun ih
    · split
      · next h => exact h ▸ .anyOne ih
      · next hrun hone =>
        refine .plain hrun hone ?_ ih
        rintro rfl
        cases rest with
        | nil => exact hlast rfl rfl
        | cons d rest => exact hescape d rest rfl rfl

theorem ofPattern_escape (c : Char) (rest : List Char) :
    ofPattern ('\\' :: c :: rest) = literal c :: ofPattern rest := by
  rw [ofPattern]

theorem ofPattern_cons {c : Char} (h : c ≠ '\\') (rest : List Char) :
    ofPattern (c :: rest) =
      (if c = '%' then anyRun else if c = '_' then anyOne else literal c) :: ofPattern rest := by
  rw [ofPattern]
  · exact fun hc => absurd hc h
  · exact fun _ _ hc => absurd hc h

/-- A pattern spells one sequence of tokens only. -/
theorem Spells.eq_ofPattern {pattern : List Char} {tokens : List LikeToken}
    (h : Spells pattern tokens) : tokens = ofPattern pattern := by
  induction h with
  | nil => rfl
  | anyRun _ ih => rw [ofPattern_cons (by decide), if_pos rfl, ih]
  | anyOne _ ih => rw [ofPattern_cons (by decide), if_neg (by decide), if_pos rfl, ih]
  | escaped _ ih => rw [ofPattern_escape, ih]
  | escape => rfl
  | plain hrun hone hescape _ ih => rw [ofPattern_cons hescape, if_neg hrun, if_neg hone, ih]

theorem spells_iff {pattern : List Char} {tokens : List LikeToken} :
    Spells pattern tokens ↔ tokens = ofPattern pattern :=
  ⟨Spells.eq_ofPattern, fun h => h ▸ spells_ofPattern pattern⟩

/-- A `%` that nothing escapes is an `anyRun` among the tokens. -/
theorem hasAnyRun_iff (pattern : List Char) :
    TextTest.hasAnyRun pattern = true ↔ anyRun ∈ ofPattern pattern := by
  fun_induction ofPattern pattern with
  | case1 => simp [TextTest.hasAnyRun]
  | case2 => simp [TextTest.hasAnyRun]
  | case3 c rest ih => simp [TextTest.hasAnyRun, ih]
  | case4 c rest hlast hescape ih =>
    have hc : c ≠ '\\' := by
      rintro rfl
      cases rest with
      | nil => exact hlast rfl rfl
      | cons d rest => exact hescape d rest rfl rfl
    rw [TextTest.hasAnyRun.eq_def]
    simp only [if_neg hc, List.mem_cons, ← ih]
    by_cases hrun : c = '%'
    · simp [hrun]
    · by_cases hone : c = '_' <;> simp [hrun, hone]

/-- Characters that are not special stand for themselves. -/
theorem ofPattern_append_of_plain {pattern : List Char}
    (h : pattern.any TextTest.isSpecial = false) (rest : List Char) :
    ofPattern (pattern ++ rest) = pattern.map literal ++ ofPattern rest := by
  induction pattern with
  | nil => rfl
  | cons c pattern ih =>
    rw [List.any_cons, Bool.or_eq_false_iff] at h
    obtain ⟨⟨hrun, hone⟩, hescape⟩ : (c ≠ '%' ∧ c ≠ '_') ∧ c ≠ '\\' := by
      simpa [TextTest.isSpecial] using h.1
    rw [List.cons_append, ofPattern_cons hescape, if_neg hrun, if_neg hone, ih h.2]
    rfl

theorem ofPattern_of_plain {pattern : List Char} (h : pattern.any TextTest.isSpecial = false) :
    ofPattern pattern = pattern.map literal := by
  have happend := ofPattern_append_of_plain h []
  rw [List.append_nil] at happend
  rw [happend]
  exact List.append_nil _

/-! ### Fitting -/

/-- The pieces of a text that a token fits, where `alike` says which characters count as the
same. -/
def FitsPiece (alike : Char → Char → Prop) : LikeToken → List Char → Prop
  | anyRun, _ => True
  | anyOne, piece => ∃ d, piece = [d]
  | literal c, piece => ∃ d, piece = [d] ∧ alike c d

/-- The text can be cut into consecutive pieces that the tokens fit, one by one. -/
def Splits (alike : Char → Char → Prop) (tokens : List LikeToken) (text : List Char) : Prop :=
  ∃ pieces : List (List Char), pieces.flatten = text ∧ List.Forall₂ (FitsPiece alike) tokens pieces

variable {alike : Char → Char → Prop} {token : LikeToken} {tokens : List LikeToken}
  {text : List Char}

theorem splits_nil_iff : Splits alike [] text ↔ text = [] := by
  simp [Splits, eq_comm]

/-- The first token fits a piece at the front, and the others fit the rest. -/
theorem splits_cons_iff : Splits alike (token :: tokens) text ↔
    ∃ piece rest, text = piece ++ rest ∧ FitsPiece alike token piece ∧
      Splits alike tokens rest := by
  constructor
  · rintro ⟨pieces, rfl, h⟩
    cases h with
    | @cons _ piece _ others hpiece hothers =>
      exact ⟨piece, others.flatten, rfl, hpiece, others, rfl, hothers⟩
  · rintro ⟨piece, _, rfl, hpiece, others, rfl, hothers⟩
    exact ⟨piece :: others, rfl, .cons hpiece hothers⟩

theorem splits_anyRun_iff : Splits alike (anyRun :: tokens) text ↔
    Splits alike tokens text ∨
      ∃ c rest, text = c :: rest ∧ Splits alike (anyRun :: tokens) rest := by
  rw [splits_cons_iff]
  constructor
  · rintro ⟨piece, rest, rfl, -, h⟩
    cases piece with
    | nil => exact .inl h
    | cons c piece => exact .inr ⟨c, _, rfl, splits_cons_iff.mpr ⟨piece, rest, rfl, trivial, h⟩⟩
  · rintro (h | ⟨c, rest, rfl, h⟩)
    · exact ⟨[], text, rfl, trivial, h⟩
    · obtain ⟨piece, rest, rfl, -, h⟩ := splits_cons_iff.mp h
      exact ⟨c :: piece, rest, rfl, trivial, h⟩

theorem splits_anyOne_iff : Splits alike (anyOne :: tokens) text ↔
    ∃ c rest, text = c :: rest ∧ Splits alike tokens rest := by
  rw [splits_cons_iff]
  constructor
  · rintro ⟨_, rest, rfl, ⟨c, rfl⟩, h⟩
    exact ⟨c, rest, rfl, h⟩
  · rintro ⟨c, rest, rfl, h⟩
    exact ⟨[c], rest, rfl, ⟨c, rfl⟩, h⟩

theorem splits_literal_iff {l : Char} : Splits alike (literal l :: tokens) text ↔
    ∃ c rest, text = c :: rest ∧ alike l c ∧ Splits alike tokens rest := by
  rw [splits_cons_iff]
  constructor
  · rintro ⟨_, rest, rfl, ⟨c, rfl, hc⟩, h⟩
    exact ⟨c, rest, rfl, hc, h⟩
  · rintro ⟨c, rest, rfl, hc, h⟩
    exact ⟨[c], rest, rfl, ⟨c, rfl, hc⟩, h⟩

/-! ### The table -/

theorem length_laterTrue (entries : List Bool) : (laterTrue entries).length = entries.length := by
  induction entries with
  | nil => rfl
  | cons b rest ih => rw [laterTrue, List.length_cons, List.length_cons, ih]

/-- One more character in front puts one more entry in front. -/
theorem tail_fitBefore_cons (token : LikeToken) (c : Char) (text : List Char) (b : Bool)
    {after : List Bool} (h : after.length = text.length + 1) :
    (fitBefore token (c :: text) (b :: after)).tail = fitBefore token text after := by
  obtain ⟨first, later, rfl⟩ := List.exists_cons_of_length_eq_add_one h
  cases token <;> rfl

theorem length_fitBefore (token : LikeToken) {text : List Char} {after : List Bool}
    (h : after.length = text.length + 1) :
    (fitBefore token text after).length = text.length + 1 := by
  cases token <;> simp [fitBefore, length_laterTrue, h]

theorem length_fitting (tokens : List LikeToken) (text : List Char) :
    (fitting tokens text).length = text.length + 1 := by
  induction tokens with
  | nil => simp [fitting]
  | cons token tokens ih => exact length_fitBefore token ih

/-- **The table of a longer text has the table of its rest behind its first entry.** -/
theorem fitting_cons (tokens : List LikeToken) (c : Char) (text : List Char) :
    fitting tokens (c :: text) = fits tokens (c :: text) :: fitting tokens text := by
  have htail : (fitting tokens (c :: text)).tail = fitting tokens text := by
    -- the table of the tokens is made from that of the tokens behind the first
    induction tokens with
    | nil => rfl
    | cons token tokens ih =>
      obtain ⟨b, after, heq⟩ :=
        List.exists_cons_of_length_eq_add_one (length_fitting tokens (c :: text))
      rw [heq, List.tail_cons] at ih
      have hlength := length_fitting tokens text
      rw [← ih] at hlength
      calc (fitting (token :: tokens) (c :: text)).tail
          = (fitBefore token (c :: text) (fitting tokens (c :: text))).tail := rfl
        _ = fitBefore token text after := by rw [heq, tail_fitBefore_cons token c text b hlength]
        _ = fitting (token :: tokens) text := by rw [ih]; rfl
  obtain ⟨b, after, heq⟩ :=
    List.exists_cons_of_length_eq_add_one (length_fitting tokens (c :: text))
  rw [heq, List.tail_cons] at htail
  rw [fits, heq, htail, List.headD_cons]

theorem fitting_nil (tokens : List LikeToken) : fitting tokens [] = [fits tokens []] := by
  obtain ⟨b, hb⟩ := List.length_eq_one_iff.mp (length_fitting tokens [])
  rw [fits, hb, List.headD_cons]

theorem fits_cons_eq (token : LikeToken) (tokens : List LikeToken) (text : List Char) :
    fits (token :: tokens) text = (fitBefore token text (fitting tokens text)).headD false := rfl

theorem fits_nil (text : List Char) : fits [] text = text.isEmpty := by
  cases text <;> rfl

theorem fits_anyRun_nil (tokens : List LikeToken) :
    fits (anyRun :: tokens) [] = fits tokens [] := by
  rw [fits_cons_eq, fitting_nil]
  exact Bool.or_false _

theorem fits_anyRun_cons (tokens : List LikeToken) (c : Char) (text : List Char) :
    fits (anyRun :: tokens) (c :: text) =
      (fits tokens (c :: text) || fits (anyRun :: tokens) text) := by
  rw [fits_cons_eq, fitting_cons]
  rfl

theorem fits_anyOne_nil (tokens : List LikeToken) : fits (anyOne :: tokens) [] = false := by
  rw [fits_cons_eq, fitting_nil]
  rfl

theorem fits_anyOne_cons (tokens : List LikeToken) (c : Char) (text : List Char) :
    fits (anyOne :: tokens) (c :: text) = fits tokens text := by
  obtain ⟨b, after, heq⟩ := List.exists_cons_of_length_eq_add_one (length_fitting tokens text)
  rw [fits_cons_eq, fitting_cons, fits.eq_def tokens text, heq]
  rfl

theorem fits_literal_nil (l : Char) (tokens : List LikeToken) :
    fits (literal l :: tokens) [] = false := by
  rw [fits_cons_eq, fitting_nil]
  rfl

theorem fits_literal_cons (l : Char) (tokens : List LikeToken) (c : Char) (text : List Char) :
    fits (literal l :: tokens) (c :: text) = (c == l && fits tokens text) := by
  obtain ⟨b, after, heq⟩ := List.exists_cons_of_length_eq_add_one (length_fitting tokens text)
  rw [fits_cons_eq, fitting_cons, fits.eq_def tokens text, heq]
  rfl

/-- **Tokens fit a text exactly when it can be cut into pieces that they fit.** -/
theorem fits_iff_splits {tokens : List LikeToken} :
    ∀ {text : List Char}, fits tokens text = true ↔ Splits (· = ·) tokens text := by
  induction tokens with
  | nil =>
    intro text
    rw [fits_nil, splits_nil_iff, List.isEmpty_iff]
  | cons token tokens ih =>
    intro text
    cases token with
    | anyRun =>
      -- a run may take one more character, with the same tokens in front of a shorter text
      induction text with
      | nil =>
        rw [fits_anyRun_nil, ih, splits_anyRun_iff]
        simp
      | cons c text iht =>
        rw [fits_anyRun_cons, Bool.or_eq_true, ih, iht]
        exact (or_congr_right (by simp)).trans splits_anyRun_iff.symm
    | anyOne =>
      rw [splits_anyOne_iff]
      cases text with
      | nil => simp [fits_anyOne_nil]
      | cons c text => simp [fits_anyOne_cons, ih]
    | literal l =>
      rw [splits_literal_iff]
      cases text with
      | nil => simp [fits_literal_nil]
      | cons c text =>
        rw [fits_literal_cons, Bool.and_eq_true, beq_iff_eq, ih]
        constructor
        · rintro ⟨rfl, h⟩
          exact ⟨_, _, rfl, rfl, h⟩
        · rintro ⟨_, _, ⟨⟩, rfl, h⟩
          exact ⟨rfl, h⟩

theorem fitsPiece_map_iff {f : Char → Char} {piece : List Char} :
    FitsPiece (· = ·) (mapLiteral f token) (piece.map f) ↔
      FitsPiece (fun c d => f c = f d) token piece := by
  cases token with
  | anyRun => rfl
  | anyOne => simp [mapLiteral, FitsPiece]
  | literal l => simp [mapLiteral, FitsPiece, eq_comm]

/-- Replacing the literals and the characters of the text compares them by what they are replaced
with. -/
theorem splits_map_iff {f : Char → Char} {tokens : List LikeToken} : ∀ {text : List Char},
    Splits (· = ·) (tokens.map (mapLiteral f)) (text.map f) ↔
      Splits (fun c d => f c = f d) tokens text := by
  induction tokens with
  | nil =>
    intro text
    rw [List.map_nil, splits_nil_iff, splits_nil_iff, List.map_eq_nil_iff]
  | cons token tokens ih =>
    intro text
    rw [List.map_cons, splits_cons_iff, splits_cons_iff]
    constructor
    · rintro ⟨_, _, heq, hpiece, hrest⟩
      obtain ⟨piece, rest, rfl, rfl, rfl⟩ := List.map_eq_append_iff.mp heq
      exact ⟨piece, rest, rfl, fitsPiece_map_iff.mp hpiece, ih.mp hrest⟩
    · rintro ⟨piece, rest, rfl, hpiece, hrest⟩
      exact ⟨_, _, List.map_append, fitsPiece_map_iff.mpr hpiece, ih.mpr hrest⟩

end LogSieve.LikeToken

namespace LogSieve.TextTest

/-! ### Tests of tokens -/

variable [RegexEngine] {ignoreCase : Bool} {tokens : List LikeToken}

/-- The only test for tokens is whether they fit. -/
theorem ofTokens?_eq_some {test : TextTest} (h : ofTokens? ignoreCase tokens = some test) :
    test = fits ignoreCase tokens := by
  unfold ofTokens? at h
  split at h
  · cases h
  · exact (Option.some.inj h).symm

/-- There is a test if the engine takes the expression. -/
theorem ofTokens?_of_size
    (hsize : RegexEngine.tooLarge (LikeToken.expression ignoreCase tokens) = false) :
    ofTokens? ignoreCase tokens = some (fits ignoreCase tokens) := by
  rw [ofTokens?, hsize]
  rfl

end LogSieve.TextTest
