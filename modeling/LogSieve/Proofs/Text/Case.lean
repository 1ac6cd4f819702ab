import LogSieve.Text.Case
import Mathlib.Data.List.Forall2
import Mathlib.Data.List.Infix

/-!
# Lower case and case folding compared

Lower case is taken of a text and folding of its characters, so the two tell texts apart
differently. What they have in common is said character by character: without a dotted capital I,
the lower case of a text has one character for each of its own (`forall₂_lowerAfter`), which is the
folding of an `Ordinary` character. Texts are parts of one another in lower case as they are folded
if their characters are the same in lower case as they are folded (`toLower_infix_iff`).

The lower case of a part is a part of the lower case, unless there is a capital sigma in the part,
whose lower case the neighbours of the part may change (`toLower_infix_of_not_mem`).
-/

namespace LogSieve.Text

/-! ### Parts of texts -/

/-- The lower case of what stands behind `front` follows some lower case of `front`. -/
theorem exists_lowerAfter_append (front rest : List Char) : ∀ before : List Char,
    ∃ lowered, lowerAfter before (front ++ rest) =
      lowered ++ lowerAfter (front.reverse ++ before) rest := by
  induction front with
  | nil => exact fun before => ⟨[], rfl⟩
  | cons c front ih =>
    intro before
    obtain ⟨lowered, h⟩ := ih (c :: before)
    rw [List.cons_append, lowerAfter, h, List.reverse_cons, List.append_assoc, ← List.append_assoc]
    exact ⟨_, rfl⟩

/-- Without a capital sigma, lower case is taken of each character on its own. -/
theorem lowerAfter_append_of_not_mem {part : List Char} (h : 'Σ' ∉ part) (rest : List Char) :
    ∀ before : List Char, lowerAfter before (part ++ rest) =
      part.flatMap lowerChar ++ lowerAfter (part.reverse ++ before) rest := by
  induction part with
  | nil => exact fun before => rfl
  | cons c part ih =>
    intro before
    rw [List.mem_cons, not_or] at h
    rw [List.cons_append, lowerAfter, if_neg (Ne.symm h.1), ih h.2, List.flatMap_cons,
      List.reverse_cons, List.append_assoc, List.append_assoc, List.cons_append, List.nil_append]

theorem toLower_of_not_mem {part : List Char} (h : 'Σ' ∉ part) :
    toLower part = part.flatMap lowerChar := by
  have happend := lowerAfter_append_of_not_mem h [] []
  rwa [List.append_nil, lowerAfter, List.append_nil] at happend

/-- **The lower case of a part without a capital sigma is a part of the lower case.** -/
theorem toLower_infix_of_not_mem {part text : List Char} (hsigma : 'Σ' ∉ part)
    (h : part <:+: text) : toLower part <:+: toLower text := by
  obtain ⟨before, after, rfl⟩ := h
  rw [List.append_assoc, toLower_of_not_mem hsigma, toLower]
  obtain ⟨lowered, hbefore⟩ := exists_lowerAfter_append before (part ++ after) []
  rw [hbefore, lowerAfter_append_of_not_mem hsigma, ← List.append_assoc]
  exact ⟨_, _, rfl⟩

/-! ### Characters -/

/-- `Lowers c d`: in some texts the lower case of `c` is `d`. -/
def Lowers (c d : Char) : Prop := if c = 'Σ' then d = 'ς' ∨ d = 'σ' else lowerChar c = [d]

/-- A character whose lower case is its folding, whatever stands around it. -/
def Ordinary (c : Char) : Prop := c ≠ 'Σ' ∧ lowerChar c = [fold c]

instance : DecidablePred Ordinary := fun _ => inferInstanceAs (Decidable (_ ∧ _))

theorem Ordinary.eq_of_lowers {c d : Char} (hc : Ordinary c) (h : Lowers c d) : d = fold c := by
  rw [Lowers, if_neg hc.1, hc.2] at h
  exact (List.singleton_inj.mp h).symm

theorem exists_lowerChar_eq {c : Char} (h : c ≠ 'İ') : ∃ d, lowerChar c = [d] := by
  rw [lowerChar, if_neg h]
  split <;> exact ⟨_, rfl⟩

/-- **Without a dotted capital I, characters go to lower case one by one.** -/
theorem forall₂_lowerAfter {text : List Char} (h : 'İ' ∉ text) :
    ∀ before : List Char, List.Forall₂ Lowers text (lowerAfter before text) := by
  induction text with
  | nil => exact fun before => .nil
  | cons c text ih =>
    intro before
    rw [List.mem_cons, not_or] at h
    rw [lowerAfter]
    by_cases hsigma : c = 'Σ'
    · rw [if_pos hsigma]
      refine .cons ?_ (ih h.2 _)
      rw [Lowers, if_pos hsigma]
      split
      · exact .inl rfl
      · exact .inr rfl
    · obtain ⟨d, hd⟩ := exists_lowerChar_eq (Ne.symm h.1)
      rw [if_neg hsigma, hd]
      refine .cons ?_ (ih h.2 _)
      rw [Lowers, if_neg hsigma, hd]

/-! ### The tables -/

theorem exists_mem_of_mapRuns_eq_some {runs : List CaseRun} {n m : Nat}
    (h : mapRuns runs n = some m) :
    ∃ r ∈ runs, r.first ≤ n ∧ n ≤ r.last ∧ m = n - r.first + r.target := by
  obtain ⟨r, hfind, rfl⟩ := Option.map_eq_some_iff.mp h
  have hr := List.find?_some hfind
  simp only [Bool.and_eq_true, decide_eq_true_eq] at hr
  exact ⟨r, List.mem_of_find?_eq_some hfind, hr.1.1, hr.1.2, rfl⟩

/-- The characters of the run go to characters beyond ASCII. -/
def CaseRun.LeavesAscii (r : CaseRun) : Prop :=
  128 ≤ r.target ∧ (r.target + r.last < 0xD800 + r.first ∨
    0xDFFF < r.target ∧ r.target + r.last < 0x110000 + r.first)

instance : DecidablePred CaseRun.LeavesAscii := fun _ => inferInstanceAs (Decidable (_ ∧ _))

theorem le_toNat_of_mapRuns_eq_some {runs : List CaseRun} {n m : Nat}
    (hruns : ∀ r ∈ runs, r.first ≤ n → n ≤ r.last → r.LeavesAscii)
    (h : mapRuns runs n = some m) : 128 ≤ (Char.ofNat m).toNat := by
  obtain ⟨r, hr, hfirst, hlast, rfl⟩ := exists_mem_of_mapRuns_eq_some h
  obtain ⟨htarget, hrange⟩ := hruns r hr hfirst hlast
  have hvalid : (n - r.first + r.target).isValidChar := by
    rcases hrange with h | ⟨h, h'⟩
    · exact .inl (by omega)
    · exact .inr ⟨by omega, by omega⟩
  rw [Char.ofNat, dif_pos hvalid]
  change 128 ≤ n - r.first + r.target
  omega

/-- Beyond ASCII, the Kelvin sign alone has an ASCII letter for its lower case. -/
theorem le_toNat_of_mapRuns_lowerRuns {c : Char} {m : Nat} (hc : 128 ≤ c.toNat)
    (hkelvin : c ≠ '\u212A') (h : mapRuns lowerRuns c.toNat = some m) :
    128 ≤ (Char.ofNat m).toNat := by
  have htable : ∀ r ∈ lowerRuns, r.last < 128 ∨
      r.first = '\u212A'.toNat ∧ r.last = '\u212A'.toNat ∨ r.LeavesAscii := by
    decide +kernel
  refine le_toNat_of_mapRuns_eq_some (fun r hr hfirst hlast => ?_) h
  rcases htable r hr with hascii | ⟨heq, heq'⟩ | hr
  · omega
  · exact absurd (Char.toNat_inj.mp (by omega)) hkelvin
  · exact hr

/-- The long s alone is folded to an ASCII letter that is not its lower case. -/
theorem le_toNat_of_mapRuns_foldRuns {c : Char} {m : Nat} (hlong : c ≠ 'ſ')
    (h : mapRuns foldRuns c.toNat = some m) : 128 ≤ (Char.ofNat m).toNat := by
  have htable : ∀ r ∈ foldRuns, r.first = 'ſ'.toNat ∧ r.last = 'ſ'.toNat ∨ r.LeavesAscii := by
    decide +kernel
  refine le_toNat_of_mapRuns_eq_some (fun r hr hfirst hlast => ?_) h
  rcases htable r hr with ⟨heq, heq'⟩ | hr
  · exact absurd (Char.toNat_inj.mp (by omega)) hlong
  · exact hr

theorem ordinary_of_ascii {c : Char} (h : c.toNat < 128) : Ordinary c := by
  refine ⟨?_, ?_⟩
  · rintro rfl
    exact absurd h (by decide)
  · rw [lowerChar, fold, if_pos h, if_pos h]

theorem fold_lt_of_ascii {c : Char} (h : c.toNat < 128) : (fold c).toNat < 128 := by
  have hlower : ∀ n < 128, (Char.ofNat n).toLower.toNat < 128 := by decide
  rw [fold, if_pos h]
  simpa only [Char.ofNat_toNat] using hlower c.toNat h

theorem fold_ge_of_beyond_ascii {c : Char} (hc : 128 ≤ c.toNat) (hlong : c ≠ 'ſ')
    (hkelvin : c ≠ '\u212A') : 128 ≤ (fold c).toNat := by
  rw [fold, if_neg (by omega)]
  cases hfold : mapRuns foldRuns c.toNat with
  | some m => exact le_toNat_of_mapRuns_foldRuns hlong hfold
  | none =>
    cases hlower : mapRuns lowerRuns c.toNat with
    | some m => exact le_toNat_of_mapRuns_lowerRuns hc hkelvin hlower
    | none => exact hc

theorem Lowers.ge_of_beyond_ascii {c d : Char} (h : Lowers c d) (hc : 128 ≤ c.toNat)
    (hkelvin : c ≠ '\u212A') : 128 ≤ d.toNat := by
  by_cases hsigma : c = 'Σ'
  · rw [Lowers, if_pos hsigma] at h
    rcases h with rfl | rfl <;> decide
  by_cases hdotted : c = 'İ'
  · subst hdotted
    exact absurd h (by simp [Lowers, lowerChar])
  rw [Lowers, if_neg hsigma, lowerChar, if_neg (by omega), if_neg hdotted, List.singleton_inj] at h
  subst h
  cases hlower : mapRuns lowerRuns c.toNat with
  | some m => exact le_toNat_of_mapRuns_lowerRuns hc hkelvin hlower
  | none => exact hc

/-- A character that is no long s has its folding for its lower case, unless it has neither in
ASCII. -/
theorem Lowers.eq_fold_or_beyond_ascii {c d : Char} (h : Lowers c d) (hlong : c ≠ 'ſ') :
    d = fold c ∨ 128 ≤ d.toNat ∧ 128 ≤ (fold c).toNat := by
  by_cases hkelvin : c = '\u212A'
  · have hordinary : Ordinary c := hkelvin ▸ by decide +kernel
    exact .inl (hordinary.eq_of_lowers h)
  by_cases hc : c.toNat < 128
  · exact .inl ((ordinary_of_ascii hc).eq_of_lowers h)
  · rw [not_lt] at hc
    exact .inr ⟨h.ge_of_beyond_ascii hc hkelvin, fold_ge_of_beyond_ascii hc hlong hkelvin⟩

/-! ### Parts in lower case and folded -/

/-- The characters of `part` are the same as those of `text` in lower case exactly if they are as
they are folded. -/
def SameCases (part text : List Char) : Prop :=
  ∀ c ∈ part, ∀ d ∈ text, ∀ c' d', Lowers c c' → Lowers d d' → (c' = d' ↔ fold c = fold d)

variable {part partLower text textLower : List Char} {c : Char}

theorem SameCases.tail_part (h : SameCases (c :: part) text) : SameCases part text :=
  fun _ hc => h _ (List.mem_cons_of_mem _ hc)

theorem SameCases.tail_text (h : SameCases part (c :: text)) : SameCases part text :=
  fun _ hc _ hd => h _ hc _ (List.mem_cons_of_mem _ hd)

theorem SameCases.prefix_iff (hpart : List.Forall₂ Lowers part partLower)
    (htext : List.Forall₂ Lowers text textLower) (hsame : SameCases part text) :
    partLower <+: textLower ↔ part.map fold <+: text.map fold := by
  induction hpart generalizing text textLower with
  | nil => simp
  | @cons c c' part partLower hc hpart ih =>
    cases htext with
    | nil => simp
    | @cons d d' text textLower hd htext =>
      have hfirst : c' = d' ↔ fold c = fold d :=
        hsame c List.mem_cons_self d List.mem_cons_self c' d' hc hd
      rw [List.map_cons, List.map_cons, List.cons_prefix_cons, List.cons_prefix_cons, hfirst,
        ih htext hsame.tail_part.tail_text]

theorem SameCases.infix_iff (hpart : List.Forall₂ Lowers part partLower)
    (htext : List.Forall₂ Lowers text textLower) (hsame : SameCases part text) :
    partLower <:+: textLower ↔ part.map fold <:+: text.map fold := by
  -- a part of the text is at its front, or a part of what stands behind its first character
  induction htext with
  | nil => cases hpart <;> simp
  | @cons d d' text textLower hd htext ih =>
    have hprefix := hsame.prefix_iff hpart (.cons hd htext)
    rw [List.map_cons] at hprefix
    rw [List.map_cons, List.infix_cons_iff, List.infix_cons_iff, hprefix, ih hsame.tail_text]

/-- **Where characters are the same in lower case as they are folded, so are parts of texts.** -/
theorem toLower_infix_iff (hpart : 'İ' ∉ part) (htext : 'İ' ∉ text) (hsame : SameCases part text) :
    toLower part <:+: toLower text ↔ part.map fold <:+: text.map fold :=
  hsame.infix_iff (forall₂_lowerAfter hpart []) (forall₂_lowerAfter htext [])

theorem not_mem_of_ordinary (h : ∀ c ∈ text, Ordinary c) : 'İ' ∉ text :=
  fun hmem => absurd (h _ hmem) (by decide +kernel)

theorem toLower_infix_iff_of_ordinary (hpart : ∀ c ∈ part, Ordinary c)
    (htext : ∀ d ∈ text, Ordinary d) :
    toLower part <:+: toLower text ↔ part.map fold <:+: text.map fold := by
  refine toLower_infix_iff (not_mem_of_ordinary hpart) (not_mem_of_ordinary htext) ?_
  intro c hc d hd c' d' hc' hd'
  rw [(hpart c hc).eq_of_lowers hc', (htext d hd).eq_of_lowers hd']

theorem toLower_infix_iff_of_ascii (hpart : ∀ c ∈ part, c.toNat < 128) (hdotted : 'İ' ∉ text)
    (hlong : 'ſ' ∉ text) :
    toLower part <:+: toLower text ↔ part.map fold <:+: text.map fold := by
  have hordinary : ∀ c ∈ part, Ordinary c := fun c hc => ordinary_of_ascii (hpart c hc)
  refine toLower_infix_iff (not_mem_of_ordinary hordinary) hdotted ?_
  intro c hc d hd c' d' hc' hd'
  have hascii := fold_lt_of_ascii (hpart c hc)
  rw [(hordinary c hc).eq_of_lowers hc']
  rcases hd'.eq_fold_or_beyond_ascii (ne_of_mem_of_not_mem hd hlong) with rfl | ⟨hlower, hfold⟩
  · rfl
  · -- neither the lower case nor the folding of `d` is in ASCII, as that of `c` is
    constructor
    · rintro rfl
      omega
    · intro heq
      rw [heq] at hascii
      omega

end LogSieve.Text
