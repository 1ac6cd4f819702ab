import LogSieve.Proofs.Filter.Like

/-!
# Patterns as regular expressions

Beside its test, a pattern has a form as a regular expression. Here the part of the language of
regular expressions that such forms use is given a meaning of its own: an expression is cut into
symbols, where a backslash takes the special meaning from a sign (`symbols?`), the symbols are put
together to parts (`parts?`), and an expression is searched for anywhere in a text (`Matches`).

The form of a pattern is read back as one part for each token between the two anchors
(`read?_expression`), so that it matches the texts that the tokens split
(`matches_expression_iff`), as the test does (`pattern_fits_split_texts`).
-/

namespace LogSieve

/-! ### Regular expressions -/

/-- What one character of a text is asked to be. -/
inductive Regex.Atom where
  /-- Any character. -/
  | any
  /-- A given character. -/
  | char (c : Char)

/-- A part of a regular expression. -/
inductive Regex.Part where
  /-- The start of the text. -/
  | start
  /-- The end of the text. -/
  | finish
  /-- One character. -/
  | one (atom : Regex.Atom)
  /-- Any number of characters. -/
  | many (atom : Regex.Atom)

/-- A regular expression: parts one after the other, and the modes in which they are meant. -/
structure Regex where
  /-- Does case not count? -/
  ignoreCase : Bool
  /-- May any character be a line feed? -/
  dotAll : Bool
  /-- The parts. -/
  parts : List Regex.Part

namespace Regex

/-! ### Written expressions -/

/-- A symbol of a written expression. -/
inductive Symbol where
  /-- The sign `^`. -/
  | caret
  /-- The sign `$`. -/
  | dollar
  /-- The sign `.`. -/
  | dot
  /-- The sign `*`. -/
  | star
  /-- A character that stands for itself. -/
  | char (c : Char)

/-- The characters that have a special meaning. -/
def specialCharacters : List Char :=
  ['\\', '.', '+', '*', '?', '(', ')', '|', '[', ']', '{', '}', '^', '$']

/-- May a backslash stand before the character to make it stand for itself? Letters and digits would
get a meaning from it, as would `<` and `>`. -/
def isEscapable (c : Char) : Bool :=
  c.toNat < 128 && !c.isAlphanum && c != '<' && c != '>'

/-- The symbol of a single character; none for signs that patterns have no use for. -/
def symbol? (c : Char) : Option Symbol :=
  if c = '^' then some .caret
  else if c = '$' then some .dollar
  else if c = '.' then some .dot
  else if c = '*' then some .star
  else if specialCharacters.contains c then none
  else some (.char c)

/-- The symbols of a written expression. -/
def symbols? : List Char → Option (List Symbol)
  | [] => some []
  | '\\' :: c :: rest =>
    if isEscapable c then (symbols? rest).map (.char c :: ·) else none
  | c :: rest => (symbol? c).bind fun symbol => (symbols? rest).map (symbol :: ·)

/-- The parts that symbols make: a star belongs to the character before it. -/
def parts? : List Symbol → Option (List Part)
  | [] => some []
  | .caret :: rest => (parts? rest).map (.start :: ·)
  | .dollar :: rest => (parts? rest).map (.finish :: ·)
  | .dot :: .star :: rest => (parts? rest).map (.many .any :: ·)
  | .dot :: rest => (parts? rest).map (.one .any :: ·)
  | .char c :: .star :: rest => (parts? rest).map (.many (.char c) :: ·)
  | .char c :: rest => (parts? rest).map (.one (.char c) :: ·)
  | .star :: _ => none

/-- The expression that is written: the modes `i` and `s` may stand in front as in `(?is)`. -/
def read? : List Char → Option Regex
  | '(' :: '?' :: rest =>
    let modes := rest.takeWhile (· != ')')
    if modes.all fun mode => mode == 'i' || mode == 's' then
      ((symbols? ((rest.dropWhile (· != ')')).drop 1)).bind parts?).map
        (⟨modes.contains 'i', modes.contains 's', ·⟩)
    else none
  | text => ((symbols? text).bind parts?).map (⟨false, false, ·⟩)

/-! ### Matching -/

/-- Is the character what the atom asks for? Case is disregarded by simple case folding. -/
def Admits (regex : Regex) : Atom → Char → Prop
  | .any, d => regex.dotAll = true ∨ d ≠ '\n'
  | .char c, d => if regex.ignoreCase then Text.fold c = Text.fold d else c = d

/-- The parts match at a place of a text, behind `before` and in front of `rest`. -/
def MatchesAt (regex : Regex) : List Part → List Char → List Char → Prop
  | [], _, _ => True
  | .start :: parts, before, rest => before = [] ∧ regex.MatchesAt parts before rest
  | .finish :: parts, before, rest => rest = [] ∧ regex.MatchesAt parts before rest
  | .one atom :: parts, before, rest =>
    ∃ d rest', rest = d :: rest' ∧ regex.Admits atom d ∧ regex.MatchesAt parts (before ++ [d]) rest'
  | .many atom :: parts, before, rest =>
    ∃ run rest', rest = run ++ rest' ∧ (∀ d ∈ run, regex.Admits atom d) ∧
      regex.MatchesAt parts (before ++ run) rest'

/-- The written expression matches somewhere in a text. -/
def Matches (expression text : String) : Prop :=
  ∃ regex before rest, read? expression.toList = some regex ∧ text.toList = before ++ rest ∧
    regex.MatchesAt regex.parts before rest

end Regex

namespace LikeToken

open Regex

/-! ### Patterns are read back -/

/-- The symbols that a token is written with. -/
def symbols : LikeToken → List Symbol
  | anyRun => [.dot, .star]
  | anyOne => [.dot]
  | literal c => [.char c]

/-- The part that a token makes. -/
def part : LikeToken → Part
  | anyRun => .many .any
  | anyOne => .one .any
  | literal c => .one (.char c)

/-- Metacharacters may be escaped. -/
theorem isEscapable_of_mem : ∀ c ∈ metacharacters, isEscapable c = true :=
  List.all_eq_true.mp (by decide)

/-- Whatever is special is a metacharacter. -/
theorem mem_metacharacters_of_special {c : Char} (h : c ∈ specialCharacters) :
    c ∈ metacharacters := by
  have hall : specialCharacters.all metacharacters.contains = true := by decide
  exact List.contains_iff_mem.mp (List.all_eq_true.mp hall c h)

theorem symbol?_of_not_mem {c : Char} (h : c ∉ metacharacters) : symbol? c = some (.char c) := by
  have hspecial : ∀ d ∈ specialCharacters, c ≠ d := by
    rintro d hd rfl
    exact h (mem_metacharacters_of_special hd)
  have hnone : ¬ specialCharacters.contains c = true := by
    rw [List.contains_iff_mem]
    exact fun hc => hspecial c hc rfl
  rw [symbol?, if_neg (hspecial _ (by decide)), if_neg (hspecial _ (by decide)),
    if_neg (hspecial _ (by decide)), if_neg (hspecial _ (by decide)), if_neg hnone]

theorem symbols?_escape (c : Char) (rest : List Char) : symbols? ('\\' :: c :: rest) =
    if isEscapable c then (symbols? rest).map (.char c :: ·) else none := by
  rw [symbols?]

theorem symbols?_cons {c : Char} (h : c ≠ '\\') (rest : List Char) : symbols? (c :: rest) =
    (symbol? c).bind fun symbol => (symbols? rest).map (symbol :: ·) := by
  rw [symbols?]
  exact fun _ _ hc => absurd hc h

theorem symbols?_regexChars_append (token : LikeToken) (rest : List Char) :
    symbols? (token.regexChars ++ rest) = (symbols? rest).map (token.symbols ++ ·) := by
  cases token with
  | anyRun =>
    rw [regexChars, List.cons_append, List.cons_append, List.nil_append,
      symbols?_cons (by decide), symbols?_cons (by decide)]
    cases symbols? rest <;> rfl
  | anyOne =>
    rw [regexChars, List.cons_append, List.nil_append, symbols?_cons (by decide)]
    cases symbols? rest <;> rfl
  | literal c =>
    rw [regexChars]
    split
    · next hc =>
      rw [List.cons_append, List.cons_append, List.nil_append, symbols?_escape,
        if_pos (isEscapable_of_mem c (List.contains_iff_mem.mp hc))]
      rfl
    · next hc =>
      -- the backslash is a metacharacter, so it is always written behind another one
      rw [List.contains_iff_mem] at hc
      have hescape : c ≠ '\\' := by
        rintro rfl
        exact hc (by decide)
      rw [List.cons_append, List.nil_append, symbols?_cons hescape, symbol?_of_not_mem hc]
      rfl

theorem symbols?_flatMap_append (tokens : List LikeToken) (rest : List Char) :
    symbols? (tokens.flatMap regexChars ++ rest) =
      (symbols? rest).map (tokens.flatMap symbols ++ ·) := by
  induction tokens with
  | nil => simp
  | cons token tokens ih =>
    rw [List.flatMap_cons, List.append_assoc, symbols?_regexChars_append, ih, Option.map_map]
    congr 1
    funext later
    simp

/-- A star is never the first symbol that a token is written with. -/
theorem parts?_symbols_append (token : LikeToken) {rest : List Symbol}
    (h : rest.head? ≠ some .star) :
    parts? (token.symbols ++ rest) = (parts? rest).map (token.part :: ·) := by
  cases token with
  | anyRun => rfl
  | anyOne =>
    rw [symbols, List.cons_append, List.nil_append, parts?]
    · rfl
    · rintro rest rfl
      exact h rfl
  | literal c =>
    rw [symbols, List.cons_append, List.nil_append, parts?]
    · rfl
    · rintro rest rfl
      exact h rfl

theorem head?_symbols (tokens : List LikeToken) :
    (tokens.flatMap symbols ++ [Symbol.dollar]).head? ≠ some .star := by
  cases tokens with
  | nil => simp
  | cons token tokens => cases token <;> simp [symbols]

theorem parts?_flatMap_symbols (tokens : List LikeToken) :
    parts? (tokens.flatMap symbols ++ [.dollar]) = some (tokens.map part ++ [.finish]) := by
  induction tokens with
  | nil => rfl
  | cons token tokens ih =>
    rw [List.flatMap_cons, List.append_assoc, parts?_symbols_append token (head?_symbols tokens),
      ih, Option.map_some, List.map_cons, List.cons_append]

/-- The parts of the regular expression of a pattern. -/
theorem parts?_regex (tokens : List LikeToken) :
    (symbols? (regex tokens).toList).bind parts? =
      some (.start :: (tokens.map part ++ [.finish])) := by
  have hsymbols : symbols? (regex tokens).toList =
      some (.caret :: (tokens.flatMap symbols ++ [.dollar])) := by
    rw [regex, String.toList_ofList, symbols?_cons (by decide), symbols?_flatMap_append]
    rfl
  rw [hsymbols, Option.bind_some, parts?, parts?_flatMap_symbols]
  rfl

/-- **The expression of a pattern is read back** as one part for each token between the anchors, in
the modes that are written in front. -/
theorem read?_expression (ignoreCase : Bool) (tokens : List LikeToken) :
    read? (expression ignoreCase tokens).toList =
      some ⟨ignoreCase, true, .start :: (tokens.map part ++ [.finish])⟩ := by
  rw [expression, String.toList_append]
  cases ignoreCase with
  | false =>
    change ((symbols? (regex tokens).toList).bind parts?).map (Regex.mk false true) = _
    rw [parts?_regex]
    rfl
  | true =>
    change ((symbols? (regex tokens).toList).bind parts?).map (Regex.mk true true) = _
    rw [parts?_regex]
    rfl

/-! ### Patterns match what their tokens split -/

/-- How characters are compared: as they are, or by simple case folding. -/
def alike (ignoreCase : Bool) (c d : Char) : Prop :=
  if ignoreCase then Text.fold c = Text.fold d else c = d

theorem matchesAt_iff_splits {ignoreCase : Bool} {all : List Part} {tokens : List LikeToken} :
    ∀ {before rest : List Char},
      MatchesAt ⟨ignoreCase, true, all⟩ (tokens.map part ++ [.finish]) before rest ↔
        Splits (alike ignoreCase) tokens rest := by
  induction tokens with
  | nil =>
    intro before rest
    rw [splits_nil_iff]
    exact and_iff_left trivial
  | cons token tokens ih =>
    intro before rest
    rw [List.map_cons, List.cons_append, splits_cons_iff]
    cases token with
    | anyRun =>
      constructor
      · rintro ⟨run, rest, rfl, -, h⟩
        exact ⟨run, rest, rfl, trivial, ih.mp h⟩
      · rintro ⟨run, rest, rfl, -, h⟩
        exact ⟨run, rest, rfl, fun _ _ => .inl rfl, ih.mpr h⟩
    | anyOne =>
      constructor
      · rintro ⟨d, rest, rfl, -, h⟩
        exact ⟨[d], rest, rfl, ⟨d, rfl⟩, ih.mp h⟩
      · rintro ⟨_, rest, rfl, ⟨d, rfl⟩, h⟩
        exact ⟨d, rest, rfl, .inl rfl, ih.mpr h⟩
    | literal c =>
      constructor
      · rintro ⟨d, rest, rfl, hd, h⟩
        exact ⟨[d], rest, rfl, ⟨d, rfl, hd⟩, ih.mp h⟩
      · rintro ⟨_, rest, rfl, ⟨d, rfl, hd⟩, h⟩
        exact ⟨d, rest, rfl, hd, ih.mpr h⟩

theorem matches_expression_iff {ignoreCase : Bool} {tokens : List LikeToken} {text : String} :
    Matches (expression ignoreCase tokens) text ↔
      Splits (alike ignoreCase) tokens text.toList := by
  simp only [Matches, read?_expression, Option.some.injEq]
  constructor
  · rintro ⟨_, before, rest, rfl, htext, rfl, h⟩
    rw [htext]
    exact matchesAt_iff_splits.mp h
  · intro h
    exact ⟨_, [], _, rfl, rfl, rfl, matchesAt_iff_splits.mpr h⟩

end LikeToken

namespace TextTest

open LikeToken

/-- **A test of tokens accepts the texts that they split**, and so does its regular expression. -/
theorem accepts_fits_iff {ignoreCase : Bool} {tokens : List LikeToken} {text : String} :
    (fits ignoreCase tokens).accepts text = true ↔
      Splits (alike ignoreCase) tokens text.toList := by
  cases ignoreCase with
  | false => exact fits_iff_splits
  | true => exact fits_iff_splits.trans splits_map_iff

section

variable [RegexEngine]

/-- A pattern with a `%` is not put between two more of them. -/
theorem ilike?_of_anyRun {pattern : String} (h : anyRun ∈ ofPattern pattern.toList) :
    ilike? pattern = ofTokens? true (ofPattern pattern.toList) := by
  have hrun : hasAnyRun pattern.toList = true := (hasAnyRun_iff _).mpr h
  have hspecial : pattern.toList.any isSpecial = true := by
    rw [← Bool.not_eq_false]
    intro hplain
    rw [ofPattern_of_plain hplain] at h
    simp at h
  simp [ilike?, hrun, hspecial]

/-- **What a LIKE pattern matches.** Every pattern spells one sequence of tokens. Unless their
expression is too large for the engine, `like` has a test for the pattern, which accepts the texts
that can be cut into pieces which the tokens fit, with literal characters compared as they are; and
if there is an `anyRun` among the tokens then `ilike` has one that does so with characters compared
by simple case folding. The regular expressions of the tests match the same texts. -/
theorem pattern_fits_split_texts (pattern : String) :
    ∃ tokens, (∀ other, Spells pattern.toList other ↔ other = tokens) ∧
      (RegexEngine.tooLarge (LikeToken.expression false tokens) = false →
        ∃ test expression, like? pattern = some test ∧ test.regex? = some expression ∧
          ∀ text : String,
            (test.accepts text = true ↔ Splits (fun c d => c = d) tokens text.toList) ∧
            (Regex.Matches expression text ↔ Splits (fun c d => c = d) tokens text.toList)) ∧
      (RegexEngine.tooLarge (LikeToken.expression true tokens) = false → anyRun ∈ tokens →
        ∃ test expression, ilike? pattern = some test ∧ test.regex? = some expression ∧
          ∀ text : String,
            (test.accepts text = true ↔
              Splits (fun c d => Text.fold c = Text.fold d) tokens text.toList) ∧
            (Regex.Matches expression text ↔
              Splits (fun c d => Text.fold c = Text.fold d) tokens text.toList)) := by
  refine ⟨_, fun other => spells_iff, fun hsize => ?_, fun hsize hrun => ?_⟩
  · exact ⟨fits false _, _, ofTokens?_of_size hsize, rfl,
      fun text => ⟨accepts_fits_iff, matches_expression_iff⟩⟩
  · exact ⟨fits true _, _, (ilike?_of_anyRun hrun).trans (ofTokens?_of_size hsize), rfl,
      fun text => ⟨accepts_fits_iff, matches_expression_iff⟩⟩

end

/-- A pattern with signs that regular expressions take otherwise, an escaped `%`, and a backslash at
the end. -/
theorem pattern_fits_signs :
    ∃ test, like? "(1.%\\%_\\" = some test ∧ test.accepts "(1.a\nb%*\\" = true := by
  obtain ⟨tokens, hspells, h⟩ := pattern_fits_split_texts "(1.%\\%_\\"
  obtain rfl := (hspells _).mp (spells_ofPattern _)
  obtain ⟨test, expression, htest, -, hmatch⟩ := h.1 (by decide +kernel)
  refine ⟨test, htest, (hmatch _).1.mpr ⟨[['('], ['1'], ['.'], ['a', '\n', 'b'], ['%'], ['*'],
    ['\\']], rfl, ?_⟩⟩
  exact .cons ⟨_, rfl, rfl⟩ (.cons ⟨_, rfl, rfl⟩ (.cons ⟨_, rfl, rfl⟩ (.cons trivial
    (.cons ⟨_, rfl, rfl⟩ (.cons ⟨_, rfl⟩ (.cons ⟨_, rfl, rfl⟩ .nil))))))

end TextTest

end LogSieve
