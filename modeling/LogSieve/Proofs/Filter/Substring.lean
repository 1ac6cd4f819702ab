import LogSieve.Proofs.Filter.Regex
import LogSieve.Proofs.Text.Case

/-!
# Operands that are looked up as they stand

`ilike` looks an operand without special characters up in the lower case of the text, where the
operand between two `%` would be a pattern, which is compared by simple case folding. The first test
accepts a text when the lower case of the operand is a part of that of the text
(`accepts_contains_iff`), the second when the folded operand is a part of the folded text
(`accepts_enclosed_iff`). The two agree on texts whose characters have their folding for their lower
case, but not on all texts: the lower case of a capital sigma depends on its place
(`final_sigma_hides_operand`).
-/

namespace LogSieve

namespace LikeToken

/-! ### A run of literals between two arbitrary runs -/

theorem splits_anyRun_last (alike : Char → Char → Prop) (text : List Char) :
    Splits alike [anyRun] text :=
  splits_cons_iff.mpr ⟨text, [], (List.append_nil _).symm, trivial, splits_nil_iff.mpr rfl⟩

theorem splits_literals_append_iff {needle : List Char} {tokens : List LikeToken} :
    ∀ {text : List Char}, Splits (· = ·) (needle.map literal ++ tokens) text ↔
      ∃ rest, text = needle ++ rest ∧ Splits (· = ·) tokens rest := by
  induction needle with
  | nil =>
    intro text
    simp
  | cons c needle ih =>
    intro text
    rw [List.map_cons, List.cons_append, splits_literal_iff]
    constructor
    · rintro ⟨c, _, rfl, rfl, h⟩
      obtain ⟨rest, rfl, hrest⟩ := ih.mp h
      exact ⟨rest, rfl, hrest⟩
    · rintro ⟨rest, rfl, h⟩
      exact ⟨c, needle ++ rest, rfl, rfl, ih.mpr ⟨rest, rfl, h⟩⟩

/-- The literals stand somewhere in the text. -/
theorem splits_enclosed_iff {needle text : List Char} :
    Splits (· = ·) (anyRun :: (needle.map literal ++ [anyRun])) text ↔ needle <:+: text := by
  rw [splits_cons_iff]
  constructor
  · rintro ⟨before, _, rfl, -, h⟩
    obtain ⟨after, rfl, -⟩ := splits_literals_append_iff.mp h
    exact ⟨before, after, List.append_assoc ..⟩
  · rintro ⟨before, after, rfl⟩
    exact ⟨before, needle ++ after, List.append_assoc .., trivial,
      splits_literals_append_iff.mpr ⟨after, rfl, splits_anyRun_last _ _⟩⟩

theorem map_mapLiteral_enclosed (f : Char → Char) (needle : List Char) :
    (anyRun :: (needle.map literal ++ [anyRun])).map (mapLiteral f) =
      anyRun :: ((needle.map f).map literal ++ [anyRun]) := by
  simp [mapLiteral]

end LikeToken

namespace TextTest

open LikeToken

/-! ### The two tests -/

theorem occursIn_iff {needle text : List Char} :
    occursIn needle text = true ↔ needle <:+: text := by
  induction text with
  | nil => rw [occursIn, List.isEmpty_iff, List.infix_nil]
  | cons c text ih =>
    rw [occursIn, Bool.or_eq_true, List.isPrefixOf_iff_prefix, ih, List.infix_cons_iff]

theorem accepts_contains_iff {needle : List Char} {text : String} :
    (contains needle).accepts text = true ↔ needle <:+: Text.toLower text.toList :=
  occursIn_iff

theorem accepts_enclosed_iff {needle : List Char} {text : String} :
    (fits true (anyRun :: (needle.map literal ++ [anyRun]))).accepts text = true ↔
      needle.map Text.fold <:+: text.toList.map Text.fold := by
  rw [accepts, fits_iff_splits, map_mapLiteral_enclosed, splits_enclosed_iff]

section

variable [RegexEngine]

theorem ilike?_of_plain {operand : String} (hplain : operand.toList.any isSpecial = false) :
    ilike? operand = some (contains (Text.toLower operand.toList)) := by
  rw [ilike?, hplain]
  rfl

omit [RegexEngine] in
theorem ofPattern_enclosed {operand : String} (hplain : operand.toList.any isSpecial = false) :
    ofPattern ("%" ++ operand ++ "%").toList =
      anyRun :: (operand.toList.map literal ++ [anyRun]) := by
  rw [String.toList_append, String.toList_append]
  change ofPattern ('%' :: (operand.toList ++ ['%'])) = _
  rw [ofPattern_cons (by decide), ofPattern_append_of_plain hplain]
  rfl

theorem ilike?_enclosed {operand : String} (hplain : operand.toList.any isSpecial = false)
    (hsize : RegexEngine.tooLarge
      (expression true (ofPattern ("%" ++ operand ++ "%").toList)) = false) :
    ilike? ("%" ++ operand ++ "%") =
      some (fits true (anyRun :: (operand.toList.map literal ++ [anyRun]))) := by
  have htokens := ofPattern_enclosed hplain
  have hrun : anyRun ∈ ofPattern ("%" ++ operand ++ "%").toList := by
    rw [htokens]
    exact List.mem_cons_self
  rw [ilike?_of_anyRun hrun, ofTokens?_of_size hsize, htokens]

/-! ### Where they agree -/

/-- **An operand without special characters against the pattern that encloses it.** The operand is
found in lower case, and the pattern, unless its expression is too large for the engine, fits by
case folding. The two accept the same texts where all characters are ordinary, and where the operand
is in ASCII and the text has no dotted capital I and no long s. The pattern fits all texts that
contain the operand; and the operand is found in all of them unless it has a capital sigma. -/
theorem plain_operand_against_enclosing_pattern (operand : String)
    (hplain : operand.toList.any isSpecial = false)
    (hsize : RegexEngine.tooLarge
      (expression true (ofPattern ("%" ++ operand ++ "%").toList)) = false) :
    ∃ direct enclosed, ilike? operand = some direct ∧
      ilike? ("%" ++ operand ++ "%") = some enclosed ∧
      ∀ text : String,
        (direct.accepts text = true ↔
          Text.toLower operand.toList <:+: Text.toLower text.toList) ∧
        (enclosed.accepts text = true ↔
          operand.toList.map Text.fold <:+: text.toList.map Text.fold) ∧
        ((∀ c ∈ operand.toList, Text.Ordinary c) → (∀ c ∈ text.toList, Text.Ordinary c) →
          direct.accepts text = enclosed.accepts text) ∧
        ((∀ c ∈ operand.toList, c.toNat < 128) → 'İ' ∉ text.toList → 'ſ' ∉ text.toList →
          direct.accepts text = enclosed.accepts text) ∧
        (operand.toList <:+: text.toList →
          enclosed.accepts text = true ∧ ('Σ' ∉ operand.toList → direct.accepts text = true)) := by
  refine ⟨_, _, ilike?_of_plain hplain, ilike?_enclosed hplain hsize, fun text =>
    ⟨accepts_contains_iff, accepts_enclosed_iff, ?_, ?_, fun hpart => ⟨?_, fun hsigma => ?_⟩⟩⟩
  · intro hoperand htext
    rw [Bool.eq_iff_iff, accepts_contains_iff, accepts_enclosed_iff]
    exact Text.toLower_infix_iff_of_ordinary hoperand htext
  · intro hoperand hdotted hlong
    rw [Bool.eq_iff_iff, accepts_contains_iff, accepts_enclosed_iff]
    exact Text.toLower_infix_iff_of_ascii hoperand hdotted hlong
  · exact accepts_enclosed_iff.mpr (hpart.map Text.fold)
  · exact accepts_contains_iff.mpr (Text.toLower_infix_of_not_mem hsigma hpart)

end

/-- A street in capitals, but for its sharp s, found by its name. -/
theorem plain_operand_sharp_s :
    ∃ direct enclosed, ilike? "Straße" = some direct ∧ ilike? "%Straße%" = some enclosed ∧
      direct.accepts "DIE STRAßEN" = true ∧ enclosed.accepts "DIE STRAßEN" = true := by
  obtain ⟨direct, enclosed, hdirect, henclosed, h⟩ :=
    plain_operand_against_enclosing_pattern "Straße" (by decide) (by decide +kernel)
  obtain ⟨-, henclosed', hordinary, -⟩ := h "DIE STRAßEN"
  have hfits : enclosed.accepts "DIE STRAßEN" = true := henclosed'.mpr (by decide +kernel)
  have hall (text : List Char) (h : (text.all fun c => decide (Text.Ordinary c)) = true) :
      ∀ c ∈ text, Text.Ordinary c :=
    fun c hc => of_decide_eq_true (List.all_eq_true.mp h c hc)
  refine ⟨direct, enclosed, hdirect, henclosed, ?_, hfits⟩
  rw [hordinary (hall _ (by decide +kernel)) (hall _ (by decide +kernel)), hfits]

/-- **A capital sigma is not found at the end of a word**, where its lower case is the final sigma,
though the text contains it and the pattern fits. -/
theorem final_sigma_hides_operand :
    ∃ direct enclosed, ilike? "Σ" = some direct ∧ ilike? "%Σ%" = some enclosed ∧
      "Σ".toList <:+: "ΑΣ".toList ∧
      direct.accepts "ΑΣ" = false ∧ enclosed.accepts "ΑΣ" = true := by
  refine ⟨contains ['σ'], fits true [anyRun, literal 'Σ', anyRun], ?_⟩
  decide +kernel

end TextTest

end LogSieve
