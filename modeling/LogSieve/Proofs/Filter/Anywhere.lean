import LogSieve.Proofs.Filter.Substring

/-!
# Terms that are found anywhere

A term whose case does not count is looked for in one of three ways (`Finds`). One without special
characters is looked up in the lower case of the text. One with a `%` must fit the whole text. Any
other is put between two `%`, and the second `%` is kept from a backslash at the end of the term, so
that the enclosed term has the tokens of the term between two arbitrary runs (`ofPattern_anywhere`)
and fits any text that has a part which the term fits (`splits_between_iff`). So the test for a term
accepts exactly the texts in which the term is found (`accepts_iff_finds`), and of the third way no
number of backslashes at the end makes an exception (`term_without_run_fits_part`).
-/

namespace LogSieve

open LikeToken

/-! ### Backslashes at the end -/

namespace TextTest

theorem endsInEscape_cons {c : Char} (h : c ≠ '\\') (rest : List Char) :
    endsInEscape (c :: rest) = endsInEscape rest := by
  unfold endsInEscape
  rw [List.reverse_cons, List.takeWhile_append]
  split
  · next hall =>
    rw [List.takeWhile_cons_of_neg (by simpa using h), List.append_nil,
      (List.takeWhile_prefix _).eq_of_length hall]
  · rfl

/-- A backslash and the character that it escapes do not change how the backslashes end. -/
theorem endsInEscape_escape (c : Char) (rest : List Char) :
    endsInEscape ('\\' :: c :: rest) = endsInEscape rest := by
  unfold endsInEscape
  rw [List.reverse_cons, List.reverse_cons, List.append_assoc, List.takeWhile_append]
  split
  · next hall =>
    rw [(List.takeWhile_prefix _).eq_of_length hall]
    by_cases hc : c = '\\'
    · simp [hc]
    · simp [hc]
  · rfl

theorem endsInEscape_of_getLast?_ne {pattern : List Char} (h : pattern.getLast? ≠ some '\\') :
    endsInEscape pattern = false := by
  unfold endsInEscape
  rw [← List.head?_reverse] at h
  cases hreverse : pattern.reverse with
  | nil => rfl
  | cons c rest =>
    have hc : c ≠ '\\' := by simpa [hreverse] using h
    rw [List.takeWhile_cons_of_neg (by simpa using hc)]
    rfl

end TextTest

/-! ### The tokens of an enclosed term -/

namespace LikeToken

/-- Behind a pattern, and behind the backslash that a backslash at its end escapes, a pattern is
read anew. -/
theorem ofPattern_append_closed (pattern rest : List Char) :
    ofPattern (pattern ++ if TextTest.endsInEscape pattern then '\\' :: rest else rest) =
      ofPattern pattern ++ ofPattern rest := by
  fun_induction ofPattern pattern with
  | case1 => rfl
  | case2 => exact ofPattern_escape '\\' rest
  | case3 c pattern ih =>
    rw [TextTest.endsInEscape_escape, List.cons_append, List.cons_append, ofPattern_escape, ih,
      List.cons_append]
  | case4 c pattern hlast hescape ih =>
    have hc : c ≠ '\\' := by
      rintro rfl
      cases pattern with
      | nil => exact hlast rfl rfl
      | cons d pattern => exact hescape d pattern rfl rfl
    rw [TextTest.endsInEscape_cons hc, List.cons_append, ofPattern_cons hc, ih, List.cons_append]

theorem ofPattern_anywhere (pattern : List Char) :
    ofPattern (TextTest.anywhere pattern) = anyRun :: (ofPattern pattern ++ [anyRun]) := by
  have hclosed := ofPattern_append_closed pattern ['%']
  rw [TextTest.anywhere, ofPattern_cons (by decide), if_pos rfl, hclosed]
  rfl

/-- Of several backslashes each second one is escaped by the one before it, and the last one may be
left over. -/
theorem ofPattern_replicate : ∀ n : Nat,
    ofPattern (List.replicate n '\\') = List.replicate ((n + 1) / 2) (literal '\\')
  | 0 => rfl
  | 1 => rfl
  | n + 2 => by
    have hhalf : (n + 2 + 1) / 2 = (n + 1) / 2 + 1 := by omega
    rw [List.replicate_succ, List.replicate_succ, ofPattern_escape, ofPattern_replicate n, hhalf,
      List.replicate_succ]

/-- Backslashes behind a pattern that ends in none are read on their own. -/
theorem ofPattern_append_replicate {stem : List Char} (h : stem.getLast? ≠ some '\\') (n : Nat) :
    ofPattern (stem ++ List.replicate n '\\') =
      ofPattern stem ++ List.replicate ((n + 1) / 2) (literal '\\') := by
  have hclosed := ofPattern_append_closed stem (List.replicate n '\\')
  rw [TextTest.endsInEscape_of_getLast?_ne h, if_neg (by decide)] at hclosed
  rw [hclosed, ofPattern_replicate]

/-! ### Parts of a text -/

variable {alike : Char → Char → Prop} {text : List Char}

theorem splits_append_iff {first second : List LikeToken} : ∀ {text : List Char},
    Splits alike (first ++ second) text ↔
      ∃ front rest, text = front ++ rest ∧ Splits alike first front ∧ Splits alike second rest := by
  induction first with
  | nil =>
    intro text
    simp [splits_nil_iff]
  | cons token first ih =>
    intro text
    rw [List.cons_append, splits_cons_iff]
    constructor
    · rintro ⟨piece, _, rfl, hpiece, h⟩
      obtain ⟨front, rest, rfl, hfirst, hsecond⟩ := ih.mp h
      exact ⟨piece ++ front, rest, (List.append_assoc ..).symm,
        splits_cons_iff.mpr ⟨piece, front, rfl, hpiece, hfirst⟩, hsecond⟩
    · rintro ⟨_, rest, rfl, hfirst, hsecond⟩
      obtain ⟨piece, front, rfl, hpiece, hfront⟩ := splits_cons_iff.mp hfirst
      exact ⟨piece, front ++ rest, List.append_assoc .., hpiece,
        ih.mpr ⟨front, rest, rfl, hfront, hsecond⟩⟩

/-- Between two arbitrary runs the tokens fit a part of the text. -/
theorem splits_between_iff {tokens : List LikeToken} :
    Splits alike (anyRun :: (tokens ++ [anyRun])) text ↔
      ∃ part, part <:+: text ∧ Splits alike tokens part := by
  rw [splits_cons_iff]
  constructor
  · rintro ⟨before, _, rfl, -, h⟩
    obtain ⟨part, after, rfl, hpart, -⟩ := splits_append_iff.mp h
    exact ⟨part, ⟨before, after, List.append_assoc ..⟩, hpart⟩
  · rintro ⟨part, ⟨before, after, rfl⟩, hpart⟩
    exact ⟨before, part ++ after, List.append_assoc .., trivial,
      splits_append_iff.mpr ⟨part, after, rfl, hpart, splits_anyRun_last _ _⟩⟩

end LikeToken

/-! ### Terms -/

namespace TextTest

/-- A term whose case does not count is found in a text. Without special characters it is a part of
the text, both in lower case. With an arbitrary run it fits the text, and otherwise a part of it,
with characters compared by simple case folding. -/
def Finds (term text : String) : Prop :=
  if term.toList.any isSpecial = false then
    Text.toLower term.toList <:+: Text.toLower text.toList
  else if anyRun ∈ ofPattern term.toList then
    Splits (fun c d => Text.fold c = Text.fold d) (ofPattern term.toList) text.toList
  else
    ∃ part, part <:+: text.toList ∧
      Splits (fun c d => Text.fold c = Text.fold d) (ofPattern term.toList) part

theorem finds_of_plain {term : String} (hplain : term.toList.any isSpecial = false)
    (text : String) :
    Finds term text ↔ Text.toLower term.toList <:+: Text.toLower text.toList := by
  rw [Finds, if_pos hplain]

section

variable [RegexEngine]

/-- A term with special characters but without an arbitrary run is put between two of these. -/
theorem ilike?_of_special {term : String} (hspecial : term.toList.any isSpecial = true)
    (hrun : anyRun ∉ ofPattern term.toList) :
    ilike? term = ofTokens? true (anyRun :: (ofPattern term.toList ++ [anyRun])) := by
  have hnone : hasAnyRun term.toList = false := by
    rw [← Bool.not_eq_true, hasAnyRun_iff]
    exact hrun
  simp [ilike?, hspecial, hnone, ofPattern_anywhere]

/-- **The test for a term accepts the texts in which the term is found.** -/
theorem accepts_iff_finds {term : String} {test : TextTest} (h : ilike? term = some test)
    (text : String) : test.accepts text = true ↔ Finds term text := by
  rw [Finds]
  split
  · next hplain =>
    rw [ilike?_of_plain hplain, Option.some.injEq] at h
    rw [← h, accepts_contains_iff]
  · next hspecial =>
    rw [Bool.not_eq_false] at hspecial
    split
    · next hrun =>
      rw [ilike?_of_anyRun hrun] at h
      rw [ofTokens?_eq_some h]
      exact accepts_fits_iff
    · next hrun =>
      rw [ilike?_of_special hspecial hrun] at h
      rw [ofTokens?_eq_some h, ← splits_between_iff]
      exact accepts_fits_iff

omit [RegexEngine] in
theorem any_isSpecial_of_mem {pattern : List Char} (h : '_' ∈ pattern ∨ '\\' ∈ pattern) :
    pattern.any isSpecial = true := by
  rcases h with h | h
  · exact List.any_eq_true.mpr ⟨_, h, by decide⟩
  · exact List.any_eq_true.mpr ⟨_, h, by decide⟩

/-- **A term with a `_` or a backslash, but without an arbitrary run, fits a part of the text.** The
pattern that encloses it spells its tokens between two arbitrary runs, and nothing else, with any
number of backslashes at the end of the term: of these, each second one is escaped by the one before
it, and one that is left over stands for itself. Unless the expression of the pattern is too large
for the engine, `ilike` has a test for the term, which accepts the texts that have a contiguous part
which the tokens split, with literal characters compared by simple case folding; and so does its
regular expression. -/
theorem term_without_run_fits_part (term : String) (tokens : List LikeToken)
    (hspecial : '_' ∈ term.toList ∨ '\\' ∈ term.toList) (hspells : Spells term.toList tokens)
    (hrun : anyRun ∉ tokens) :
    (∀ enclosed, Spells (anywhere term.toList) enclosed ↔
      enclosed = anyRun :: (tokens ++ [anyRun])) ∧
    (∀ (stem : List Char) (front : List LikeToken) (n : Nat),
      term.toList = stem ++ List.replicate n '\\' → stem.getLast? ≠ some '\\' →
      Spells stem front → tokens = front ++ List.replicate ((n + 1) / 2) (literal '\\')) ∧
    (RegexEngine.tooLarge (expression true (anyRun :: (tokens ++ [anyRun]))) = false →
      ∃ test expression, ilike? term = some test ∧ test.regex? = some expression ∧
        ∀ text : String,
          (test.accepts text = true ↔ ∃ part, part <:+: text.toList ∧
            Splits (fun c d => Text.fold c = Text.fold d) tokens part) ∧
          (Regex.Matches expression text ↔ test.accepts text = true)) := by
  obtain rfl := hspells.eq_ofPattern
  refine ⟨fun enclosed => ?_, fun stem front n hstem hlast hfront => ?_, fun hsize => ?_⟩
  · rw [spells_iff, ofPattern_anywhere]
  · rw [hstem, ofPattern_append_replicate hlast, hfront.eq_ofPattern]
  · have htest : ilike? term =
        some (fits true (anyRun :: (ofPattern term.toList ++ [anyRun]))) :=
      (ilike?_of_special (any_isSpecial_of_mem hspecial) hrun).trans (ofTokens?_of_size hsize)
    refine ⟨_, _, htest, rfl, fun text => ⟨?_, ?_⟩⟩
    · exact accepts_fits_iff.trans splits_between_iff
    · rw [matches_expression_iff, accepts_fits_iff]

end

/-- A directory with three backslashes behind it, found in a path with two. -/
theorem term_without_run_fits_directory :
    ∃ test, ilike? "dir_\\\\\\" = some test ∧ test.accepts "C:\\DIR1\\\\FILE" = true := by
  have hspells : Spells "dir_\\\\\\".toList
      [literal 'd', literal 'i', literal 'r', anyOne, literal '\\', literal '\\'] :=
    spells_ofPattern _
  obtain ⟨-, -, h⟩ := term_without_run_fits_part "dir_\\\\\\" _ (by decide) hspells (by decide)
  obtain ⟨test, expression, htest, -, hmatch⟩ := h (by decide +kernel)
  refine ⟨test, htest, (hmatch _).1.mpr ⟨"DIR1\\\\".toList, by decide,
    [['D'], ['I'], ['R'], ['1'], ['\\'], ['\\']], rfl, ?_⟩⟩
  exact .cons ⟨_, rfl, by decide⟩ (.cons ⟨_, rfl, by decide⟩ (.cons ⟨_, rfl, by decide⟩
    (.cons ⟨_, rfl⟩ (.cons ⟨_, rfl, by decide⟩ (.cons ⟨_, rfl, by decide⟩ .nil)))))

end TextTest

end LogSieve
