import LogSieve.Proofs.Filter.Regex

/-!
# The expression of a pattern is unambiguous

The regular expression of a pattern puts what its tokens are written with (`Writes`) between two
anchors (`WrittenAs`). Nothing that stands in a pattern becomes a sign of the expression: a
character that would be one is written behind a backslash. So the expression is read back as the
tokens and as nothing else (`regex_inj`), and two patterns have one expression exactly if they are
read alike (`expression_tells_readings_apart`).
-/

namespace LogSieve.LikeToken

/-! ### Written tokens -/

/-- `Writes token chars`: in a regular expression the token is written with the characters. -/
inductive Writes : LikeToken → List Char → Prop where
  /-- Any run of characters is `.*`. -/
  | anyRun : Writes anyRun ['.', '*']
  /-- Any single character is `.`. -/
  | anyOne : Writes anyOne ['.']
  /-- A character that means nothing else is itself. -/
  | plain {c : Char} : c ∉ metacharacters → Writes (literal c) [c]
  /-- A metacharacter stands behind a backslash. -/
  | escaped {c : Char} : c ∈ metacharacters → Writes (literal c) ['\\', c]

/-- `WrittenAs tokens expression`: between `^` and `$` the expression holds what the tokens are
written with, one after the other. -/
def WrittenAs (tokens : List LikeToken) (expression : String) : Prop :=
  ∃ parts : List (List Char), expression.toList = '^' :: (parts.flatten ++ ['$']) ∧
    List.Forall₂ Writes tokens parts

theorem writes_regexChars (token : LikeToken) : Writes token token.regexChars := by
  cases token with
  | anyRun => exact .anyRun
  | anyOne => exact .anyOne
  | literal c =>
    rw [regexChars]
    split
    · next h => exact .escaped (List.contains_iff_mem.mp h)
    · next h => exact .plain fun hc => h (List.contains_iff_mem.mpr hc)

/-- A token is written in one way only. -/
theorem writes_iff {token : LikeToken} {chars : List Char} :
    Writes token chars ↔ chars = token.regexChars := by
  refine ⟨fun h => ?_, fun h => h ▸ writes_regexChars token⟩
  cases h with
  | anyRun => rfl
  | anyOne => rfl
  | plain hc => rw [regexChars, if_neg fun h => hc (List.contains_iff_mem.mp h)]
  | escaped hc => rw [regexChars, if_pos (List.contains_iff_mem.mpr hc)]

theorem forall₂_writes_iff {tokens : List LikeToken} {parts : List (List Char)} :
    List.Forall₂ Writes tokens parts ↔ parts = tokens.map regexChars := by
  constructor
  · intro h
    induction h with
    | nil => rfl
    | cons hpart _ ih => rw [List.map_cons, writes_iff.mp hpart, ih]
  · rintro rfl
    exact List.forall₂_map_right_iff.mpr
      (List.forall₂_same.mpr fun token _ => writes_regexChars token)

/-- A sequence of tokens is written as its regular expression, and in no other way. -/
theorem writtenAs_iff {tokens : List LikeToken} {expression : String} :
    WrittenAs tokens expression ↔ expression = regex tokens := by
  simp only [WrittenAs, forall₂_writes_iff, exists_eq_right]
  rw [regex, ← String.toList_inj, String.toList_ofList, List.flatMap_def]

/-! ### Reading back -/

theorem part_injective : Function.Injective part := by
  intro token token' h
  cases token <;> cases token' <;> cases h <;> rfl

/-- **Different sequences of tokens have different regular expressions.** -/
theorem regex_inj {tokens tokens' : List LikeToken} :
    regex tokens = regex tokens' ↔ tokens = tokens' := by
  refine ⟨fun h => ?_, fun h => h ▸ rfl⟩
  have hparts := parts?_regex tokens
  rw [h, parts?_regex tokens', Option.some.injEq, List.cons.injEq] at hparts
  exact (part_injective.list_map (List.append_cancel_right hparts.2)).symm

/-- As a regular expression without modes, the expression has one part for each token. -/
theorem read?_regex_plain (tokens : List LikeToken) :
    Regex.read? (regex tokens).toList =
      some ⟨false, false, .start :: (tokens.map part ++ [.finish])⟩ := by
  have hread : Regex.read? (regex tokens).toList =
      ((Regex.symbols? (regex tokens).toList).bind Regex.parts?).map (Regex.mk false false) := by
    rw [regex, String.toList_ofList]
    rfl
  rw [hread, parts?_regex]
  rfl

/-- **The expression of a pattern tells how the pattern is read, and nothing else.** Two patterns
have one expression exactly if they spell the same tokens. The expression of a pattern is written as
the tokens that the pattern spells, and as no other tokens; and read as a regular expression it has
one part for each of them between its two anchors. -/
theorem expression_tells_readings_apart :
    (∀ p q : String, regex (ofPattern p.toList) = regex (ofPattern q.toList) ↔
      ∃ tokens, Spells p.toList tokens ∧ Spells q.toList tokens) ∧
    ∀ p : String, ∃ tokens, (∀ other, Spells p.toList other ↔ other = tokens) ∧
      (∀ other, WrittenAs other (regex (ofPattern p.toList)) ↔ other = tokens) ∧
      Regex.read? (regex (ofPattern p.toList)).toList =
        some ⟨false, false, .start :: (tokens.map part ++ [.finish])⟩ := by
  refine ⟨fun p q => ?_,
    fun p => ⟨_, fun other => spells_iff, fun other => ?_, read?_regex_plain _⟩⟩
  · simp only [regex_inj, spells_iff, exists_eq_left]
  · rw [writtenAs_iff, regex_inj, eq_comm]

end LogSieve.LikeToken
