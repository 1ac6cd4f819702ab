import LogSieve.Proofs.Filter.Anywhere
import LogSieve.Proofs.Filter.Faults
import LogSieve.Proofs.Filter.Null

/-!
# Disregarding case finds more

A text that fits a pattern fits it all the more if case does not count, and then the pattern is
found in it as a term, in whichever of the three ways the term is looked for (`finds_of_splits`). So
what `like` finds, `ilike` finds as well, and a filter by the one implies that by the other
(`like_implies_ilike`).
-/

namespace LogSieve

/-! ### Characters that count as the same -/

namespace LikeToken

variable {alike alike' : Char → Char → Prop} {tokens : List LikeToken} {text : List Char}

theorem FitsPiece.mono (h : ∀ c d, alike c d → alike' c d) {token : LikeToken} {piece : List Char}
    (hpiece : FitsPiece alike token piece) : FitsPiece alike' token piece := by
  cases token with
  | anyRun => trivial
  | anyOne => exact hpiece
  | literal c =>
    obtain ⟨d, rfl, hd⟩ := hpiece
    exact ⟨d, rfl, h c d hd⟩

/-- Where more characters count as the same, tokens split more texts. -/
theorem Splits.mono (h : ∀ c d, alike c d → alike' c d) (hsplits : Splits alike tokens text) :
    Splits alike' tokens text := by
  obtain ⟨pieces, hflatten, hpieces⟩ := hsplits
  exact ⟨pieces, hflatten, hpieces.imp fun _ _ => FitsPiece.mono h⟩

/-- Literals split no text but the one that they write. -/
theorem splits_literals_iff {needle : List Char} :
    Splits (· = ·) (needle.map literal) text ↔ text = needle := by
  rw [← List.append_nil (needle.map literal), splits_literals_append_iff]
  simp [splits_nil_iff]

end LikeToken

/-! ### Patterns as terms -/

namespace TextTest

open LikeToken

/-- The test for a pattern accepts the texts that its tokens split. -/
theorem like_accepts_iff [RegexEngine] {pattern : String} {test : TextTest}
    (h : like? pattern = some test) {text : String} :
    test.accepts text = true ↔ Splits (· = ·) (ofPattern pattern.toList) text.toList := by
  rw [ofTokens?_eq_some h]
  exact accepts_fits_iff

/-- **A pattern is found, as a term, in every text that it fits.** -/
theorem finds_of_splits {pattern text : String}
    (h : Splits (· = ·) (ofPattern pattern.toList) text.toList) : Finds pattern text := by
  have hfolded : Splits (fun c d => Text.fold c = Text.fold d) (ofPattern pattern.toList)
      text.toList := h.mono fun _ _ => congrArg Text.fold
  rw [Finds]
  split
  · next hplain =>
    -- the text is the pattern itself, so that a final sigma is one in both
    rw [ofPattern_of_plain hplain, splits_literals_iff] at h
    exact h ▸ List.infix_rfl
  · split
    · exact hfolded
    · exact ⟨text.toList, List.infix_rfl, hfolded⟩

end TextTest

/-! ### Filters with a pattern -/

namespace Operator

theorem lookup_of_mem_containmentNames [RegexEngine] {name : String} (h : name ∈ containmentNames) :
    Registry.builtin.lookup name = .ok ⟨"contains", .binary, .binary ilike⟩ := by
  simp only [containmentNames, List.mem_cons, List.not_mem_nil, or_false] at h
  rcases h with rfl | rfl | rfl <;> rfl

end Operator

namespace Compiler

open LogSieve.Operator TextTest

section

variable [RegexEngine] {schema : Schema} {limit : Nat} {key name own family pattern : String}
  {test? : String → Option TextTest}

/-- A filter with a pattern, in JSON, compiles if the pattern has a test, and then it tests the text
of the field. -/
theorem compileJson_pattern (hkey : Text.asciiLower key ∈ Filter.operatorKeys)
    (hlookup : Registry.builtin.lookup (Text.asciiLower key) =
      .ok ⟨own, .binary, .binary (textual family test?)⟩)
    (hlimit : 1 ≤ limit) (hfield : schema.hasField name = true) {test : TextTest}
    (htest : test? pattern = some test) :
    compileJson { schema, limit } (.obj [(key, .obj [(name, .str pattern)])]) =
      .ok fun fields => (fieldText fields name).any test.accepts := by
  obtain ⟨field, hdeclared, rfl⟩ := Schema.exists_field? hfield
  have hnull : Json.str pattern ≠ .null := by rintro ⟨⟩
  rw [compileJson_operator_value hlimit hkey hdeclared hlookup hnull]
  simp only [textual, Json.asText, Option.getD_some, htest]

/-- **What a pattern fits, it fits with case disregarded**: if `like` and `ilike` have tests for a
pattern, the second accepts all texts that the first accepts. So where a filter by the pattern
compiles under `like`, it does under each name of `ilike`, and it holds then of every record of
which it holds under `like`. -/
theorem like_implies_ilike (pattern : String) (exact loose : TextTest)
    (hexact : like? pattern = some exact) (hloose : ilike? pattern = some loose) :
    (∀ text : String, exact.accepts text = true → loose.accepts text = true) ∧
    ∀ (schema : Schema) (limit : Nat) (likeKey ilikeKey name : String) (narrow : Condition),
      Text.asciiLower likeKey = "like" → Text.asciiLower ilikeKey ∈ containmentNames →
      compileJson { schema, limit } (.obj [(likeKey, .obj [(name, .str pattern)])]) = .ok narrow →
      ∃ wide,
        compileJson { schema, limit } (.obj [(ilikeKey, .obj [(name, .str pattern)])]) = .ok wide ∧
        ∀ fields : Fields, narrow fields = true → wide fields = true := by
  have hweaker : ∀ text : String, exact.accepts text = true → loose.accepts text = true :=
    fun text hfits => (accepts_iff_finds hloose text).mpr
      (finds_of_splits ((like_accepts_iff hexact).mp hfits))
  refine ⟨hweaker, fun schema limit likeKey ilikeKey name narrow hlike hilike hnarrow => ?_⟩
  have hlikeKey : Text.asciiLower likeKey ∈ Filter.operatorKeys := hlike ▸ by decide
  have hilikeKey : Text.asciiLower ilikeKey ∈ Filter.operatorKeys := by
    have hnames : ∀ name ∈ containmentNames, name ∈ Filter.operatorKeys := by decide
    exact hnames _ hilike
  obtain ⟨hlimit, hfield⟩ :=
    accepts_of_compileJson_operator hlikeKey (.value (by rintro ⟨⟩)) hnarrow
  have hlikeLookup : Registry.builtin.lookup (Text.asciiLower likeKey) =
      .ok ⟨"like", .binary, .binary (textual "like" like?)⟩ := by
    rw [hlike]
    exact Registry.lookup_builtin "like"
  have hilikeLookup : Registry.builtin.lookup (Text.asciiLower ilikeKey) =
      .ok ⟨"contains", .binary, .binary (textual "ilike" ilike?)⟩ :=
    lookup_of_mem_containmentNames hilike
  refine ⟨_, compileJson_pattern hilikeKey hilikeLookup hlimit hfield hloose,
    fun fields hholds => ?_⟩
  rw [compileJson_pattern hlikeKey hlikeLookup hlimit hfield hexact, Except.ok.injEq] at hnarrow
  subst hnarrow
  obtain ⟨text, htext, hfits⟩ := (Option.any_eq_true _ _).mp hholds
  exact (Option.any_eq_true _ _).mpr ⟨text, htext, hweaker text hfits⟩

end

/-- A pattern without special characters, which ends in a capital sigma. -/
theorem like_implies_ilike_sigma :
    ∃ narrow wide,
      compileJson { schema := pairSchema } (.obj [("Like", .obj [("a", .str "ΟΔΟΣ")])]) =
        .ok narrow ∧
      compileJson { schema := pairSchema } (.obj [("CONTAINS", .obj [("a", .str "ΟΔΟΣ")])]) =
        .ok wide ∧
      narrow (fun _ => some (.str "ΟΔΟΣ")) = true ∧ wide (fun _ => some (.str "ΟΔΟΣ")) = true := by
  have hlike : like? "ΟΔΟΣ" = some (.fits false (LikeToken.ofPattern "ΟΔΟΣ".toList)) := by decide
  have hilike : ilike? "ΟΔΟΣ" = some (.contains (Text.toLower "ΟΔΟΣ".toList)) := rfl
  obtain ⟨narrow, hnarrow, hholds⟩ : ∃ narrow,
      compileJson { schema := pairSchema } (.obj [("Like", .obj [("a", .str "ΟΔΟΣ")])]) =
        .ok narrow ∧ narrow (fun _ => some (.str "ΟΔΟΣ")) = true := ⟨_, rfl, by decide⟩
  obtain ⟨-, hfilters⟩ := like_implies_ilike "ΟΔΟΣ" _ _ hlike hilike
  obtain ⟨wide, hwide, himplies⟩ :=
    hfilters pairSchema _ "Like" "CONTAINS" "a" narrow (by decide) (by decide) hnarrow
  exact ⟨narrow, wide, hnarrow, hwide, hholds, himplies _ hholds⟩

end Compiler

end LogSieve
