import LogSieve.Proofs.Record.Serialized
import LogSieve.Proofs.Search.Sorting

/-!
# Log records in order of time

Records are sorted by their times as these are written. All parts behind the year have two digits,
and numbers with one number of digits are in order if their digits are (`compare_padded`). Years
have a sign beyond 9999 and before 0, and any number of digits from four on. So written timestamps
are in order of the sign, then of the digits of the year as a text, and then of time
(`compare_render`). That is the order of time only among years with one sign and one number of
digits (`compareWritten_of_yearsAlike`), as the years 0 to 9999 are. `sorted_by_created` says what
this makes of a list of records.
-/

namespace LogSieve

/-! ### Texts, character by character -/

theorem compareOfLessAndEq_chars (as bs : List Char) :
    compareOfLessAndEq as bs = compare as bs := by
  induction as generalizing bs with
  | nil => cases bs <;> rfl
  | cons a as ih =>
    cases bs with
    | nil => rfl
    | cons b bs =>
      have hchar : compare a b = compareOfLessAndEq a b := rfl
      rw [List.compare_cons_cons, ← ih, hchar]
      unfold compareOfLessAndEq
      by_cases hlt : a < b
      · simp [List.cons_lt_cons_iff, hlt]
      · by_cases heq : a = b
        · subst heq
          simp
        · simp [List.cons_lt_cons_iff, hlt, heq]

/-- Texts compare as the lists of their characters. -/
theorem compare_ofList (as bs : List Char) :
    compare (String.ofList as) (String.ofList bs) = compare as bs := by
  have htext : compare (String.ofList as) (String.ofList bs) =
      compareOfLessAndEq (String.ofList as) (String.ofList bs) := rfl
  rw [htext, ← compareOfLessAndEq_chars]
  simp only [compareOfLessAndEq, String.lt_iff, String.ofList_inj, String.toList_ofList]

/-- What follows two texts of one length counts only if these are the same. -/
theorem compare_append {as bs : List Char} (h : as.length = bs.length) (cs ds : List Char) :
    compare (as ++ cs) (bs ++ ds) = (compare as bs).then (compare cs ds) := by
  induction as generalizing bs with
  | nil =>
    cases bs with
    | nil => rfl
    | cons b bs => cases h
  | cons a as ih =>
    cases bs with
    | nil => cases h
    | cons b bs =>
      rw [List.cons_append, List.cons_append, List.compare_cons_cons, List.compare_cons_cons,
        ih (Nat.succ.inj h), Ordering.then_assoc]

theorem compare_cons_self (c : Char) (as bs : List Char) :
    compare (c :: as) (c :: bs) = compare as bs := by
  rw [List.compare_cons_cons, Std.ReflOrd.compare_self]
  rfl

/-! ### Numbers, digit by digit -/

theorem range_of_isDigit {c : Char} (h : c.isDigit) : 48 ≤ c.toNat ∧ c.toNat ≤ 57 := by
  simpa [Char.isDigit, UInt32.le_iff_toNat_le] using h

theorem compare_char (c d : Char) : compare c d = compare c.toNat d.toNat := by
  have hchar : compare c d = compareOfLessAndEq c d := rfl
  have hnat : compare c.toNat d.toNat = compareOfLessAndEq c.toNat d.toNat := rfl
  rw [hchar, hnat]
  simp only [compareOfLessAndEq, Char.lt_def, UInt32.lt_iff_toNat_lt, Char.ext_iff,
    ← UInt32.toNat_inj]
  rfl

/-- The last digits count only if the numbers before them are the same. -/
theorem compare_isDigit {c d : Char} (hc : c.isDigit) (hd : d.isDigit) (m n : Nat) :
    compare (10 * m + (c.toNat - '0'.toNat)) (10 * n + (d.toNat - '0'.toNat)) =
      (compare m n).then (compare c d) := by
  have hc := range_of_isDigit hc
  have hd := range_of_isDigit hd
  have hzero : '0'.toNat = 48 := rfl
  rw [compare_char, hzero]
  rcases Nat.lt_trichotomy m n with hlt | rfl | hgt
  · rw [Nat.compare_eq_lt.mpr hlt, Nat.compare_eq_lt.mpr (by omega)]
    rfl
  · rw [Nat.compare_eq_eq.mpr rfl, Ordering.eq_then]
    rcases Nat.lt_trichotomy c.toNat d.toNat with hlt | heq | hgt
    · rw [Nat.compare_eq_lt.mpr hlt, Nat.compare_eq_lt.mpr (by omega)]
    · rw [heq, Nat.compare_eq_eq.mpr rfl, Nat.compare_eq_eq.mpr rfl]
    · rw [Nat.compare_eq_gt.mpr hgt, Nat.compare_eq_gt.mpr (by omega)]
  · rw [Nat.compare_eq_gt.mpr hgt, Nat.compare_eq_gt.mpr (by omega)]
    rfl

/-- With one number of digits, numbers compare as their digits. -/
theorem compare_ofDigitChars {as bs : List Char} (h : as.length = bs.length)
    (has : ∀ c ∈ as, c.isDigit) (hbs : ∀ c ∈ bs, c.isDigit) (m n : Nat) :
    compare (Nat.ofDigitChars 10 as m) (Nat.ofDigitChars 10 bs n) =
      (compare m n).then (compare as bs) := by
  -- the digits before come first
  induction as generalizing bs m n with
  | nil =>
    cases bs with
    | nil => exact (Ordering.then_eq).symm
    | cons b bs => cases h
  | cons a as ih =>
    cases bs with
    | nil => cases h
    | cons b bs =>
      rw [List.forall_mem_cons] at has hbs
      rw [Nat.ofDigitChars_cons, Nat.ofDigitChars_cons, ih (Nat.succ.inj h) has.2 hbs.2,
        compare_isDigit has.1 hbs.1, List.compare_cons_cons, Ordering.then_assoc]

/-- A character before the digits ends the shorter of two numbers first: it leaves them compared as
texts of their own. -/
theorem compare_digits_append {c : Char} (hc : c.toNat < 48) {as bs : List Char}
    (has : ∀ c ∈ as, c.isDigit) (hbs : ∀ c ∈ bs, c.isDigit) (cs ds : List Char) :
    compare (as ++ c :: cs) (bs ++ c :: ds) = (compare as bs).then (compare cs ds) := by
  induction as generalizing bs with
  | nil =>
    cases bs with
    | nil => exact compare_cons_self c cs ds
    | cons b bs =>
      have hb := range_of_isDigit (hbs b List.mem_cons_self)
      rw [List.nil_append, List.cons_append, List.compare_cons_cons, compare_char,
        Nat.compare_eq_lt.mpr (by omega)]
      rfl
  | cons a as ih =>
    cases bs with
    | nil =>
      have ha := range_of_isDigit (has a List.mem_cons_self)
      rw [List.nil_append, List.cons_append, List.compare_cons_cons, compare_char,
        Nat.compare_eq_gt.mpr (by omega)]
      rfl
    | cons b bs =>
      rw [List.forall_mem_cons] at has hbs
      rw [List.cons_append, List.cons_append, List.compare_cons_cons, List.compare_cons_cons,
        ih has.2 hbs.2, Ordering.then_assoc]

namespace Timestamp

/-- Padded to one number of digits, numbers compare as their digits. -/
theorem compare_padded {width m n : Nat} (h : (padded width m).length = (padded width n).length) :
    compare (padded width m) (padded width n) = compare m n := by
  have hvalue := compare_ofDigitChars h isDigit_of_mem_padded isDigit_of_mem_padded 0 0
  rw [← digitsValue_eq_ofDigitChars, ← digitsValue_eq_ofDigitChars, digitsValue_padded,
    digitsValue_padded] at hvalue
  rw [hvalue, Nat.compare_eq_eq.mpr rfl, Ordering.eq_then]

/-- Parts with two digits compare as numbers, before what follows them. -/
theorem compare_part {m n : Nat} (hm : m < 100) (hn : n < 100) (cs ds : List Char) :
    compare (padded 2 m ++ cs) (padded 2 n ++ ds) = (compare m n).then (compare cs ds) := by
  have hlength : (padded 2 m).length = (padded 2 n).length :=
    (length_padded (by decide) hm).trans (length_padded (by decide) hn).symm
  rw [compare_append hlength, compare_padded hlength]

/-! ### Time -/

/-- The order in time within a year, to the second. -/
def compareInYear (t u : Timestamp) : Ordering :=
  (compare t.date.month u.date.month).then <| (compare t.date.day u.date.day).then <|
    (compare t.clock.hour u.clock.hour).then <| (compare t.clock.minute u.clock.minute).then <|
      compare t.clock.second u.clock.second

/-- The order in time, to the second. -/
def compareSeconds (t u : Timestamp) : Ordering :=
  (compare t.date.year u.date.year).then (t.compareInYear u)

/-- The first timestamp is no later than the second, to the second. -/
def NotAfter (t u : Timestamp) : Prop := (t.compareSeconds u).isLE

instance (t u : Timestamp) : Decidable (t.NotAfter u) := inferInstanceAs (Decidable (_ = true))

/-! ### Years and their signs -/

/-- What is written before the digits of a year, in the order of the characters. -/
inductive YearSign where
  /-- The `+` of the years beyond 9999. -/
  | plus
  /-- The `-` of the years before 0. -/
  | minus
  /-- The years 0 to 9999 have no sign. -/
  | none
deriving DecidableEq

namespace YearSign

/-- The sign of a year. -/
def ofYear (year : Int) : YearSign :=
  if 9999 < year then .plus else if year < 0 then .minus else .none

/-- The sign as it is written. -/
def chars : YearSign → List Char
  | .plus => ['+']
  | .minus => ['-']
  | .none => []

/-- The place of the sign in the order of characters. -/
def place : YearSign → Nat
  | .plus => 0
  | .minus => 1
  | .none => 2

theorem ofYear_eq_minus_iff {year : Int} : ofYear year = .minus ↔ year < 0 := by
  unfold ofYear
  split
  · simp
    omega
  · split <;> simp_all

theorem ofYear_eq_none_iff {year : Int} : ofYear year = .none ↔ 0 ≤ year ∧ year ≤ 9999 := by
  unfold ofYear
  split
  · simp
    omega
  · split
    · simp
      omega
    · simp
      omega

end YearSign

/-- The digits of a year. -/
def yearDigits (year : Int) : List Char := padded 4 year.natAbs

theorem isDigit_of_mem_yearDigits (year : Int) : ∀ c ∈ yearDigits year, c.isDigit :=
  isDigit_of_mem_padded

theorem yearChars_eq (year : Int) :
    yearChars year = (YearSign.ofYear year).chars ++ yearDigits year := by
  unfold YearSign.ofYear
  rcases yearChars_cases year with ⟨hnonneg, hle, h⟩ | ⟨hlt, h⟩ | ⟨hneg, h⟩
  · rw [if_neg (by omega), if_neg (by omega)]
    exact h
  · rw [if_pos hlt]
    exact h
  · rw [if_neg (by omega), if_pos hneg]
    exact h

/-- A sign comes before digits. -/
theorem compare_sign_digits {c : Char} (hc : c.toNat < 48) (year : Int) (cs ds : List Char) :
    compare (c :: cs) (yearDigits year ++ ds) = .lt := by
  obtain ⟨d, digits, hdigits⟩ := List.exists_cons_of_ne_nil (padded_ne_nil 4 year.natAbs)
  have hd : d.isDigit := isDigit_of_mem_padded d (hdigits ▸ List.mem_cons_self)
  have hrange := range_of_isDigit hd
  rw [yearDigits, hdigits, List.cons_append, List.compare_cons_cons, compare_char,
    Nat.compare_eq_lt.mpr (by omega)]
  rfl

theorem compare_digits_sign {c : Char} (hc : c.toNat < 48) (year : Int) (cs ds : List Char) :
    compare (yearDigits year ++ ds) (c :: cs) = .gt := by
  rw [Std.OrientedOrd.eq_swap, compare_sign_digits hc]
  rfl

/-- **Years are compared by sign, and then as texts.** -/
theorem compare_yearChars (y z : Int) (cs ds : List Char) :
    compare (yearChars y ++ '-' :: cs) (yearChars z ++ '-' :: ds) =
      (compare (YearSign.ofYear y).place (YearSign.ofYear z).place).then
        ((compare (yearDigits y) (yearDigits z)).then (compare cs ds)) := by
  have hdigits : compare (yearDigits y ++ '-' :: cs) (yearDigits z ++ '-' :: ds) =
      (compare (yearDigits y) (yearDigits z)).then (compare cs ds) :=
    compare_digits_append (by decide) (isDigit_of_mem_yearDigits y) (isDigit_of_mem_yearDigits z)
      cs ds
  rw [yearChars_eq, yearChars_eq]
  cases YearSign.ofYear y <;> cases YearSign.ofYear z
  case none.none => exact hdigits
  case plus.plus | minus.minus => exact (compare_cons_self _ _ _).trans hdigits
  case plus.minus | minus.plus => rfl
  case plus.none | minus.none => exact compare_sign_digits (by decide) z _ _
  case none.plus | none.minus => exact compare_digits_sign (by decide) y _ _

/-! ### Written timestamps -/

/-- The sign of the year. -/
def yearSign (t : Timestamp) : YearSign := .ofYear t.date.year

/-- The order of written timestamps: by the sign of the year, by its digits as a text, and in time
within a year. -/
def compareWritten (t u : Timestamp) : Ordering :=
  (compare t.yearSign.place u.yearSign.place).then <|
    (compare (yearDigits t.date.year) (yearDigits u.date.year)).then (t.compareInYear u)

theorem compare_render (t u : Timestamp) : compare t.render u.render = t.compareWritten u := by
  obtain ⟨hmonth, hday, hhour, hminute, hsecond⟩ := t.parts_lt
  obtain ⟨hmonth', hday', hhour', hminute', hsecond'⟩ := u.parts_lt
  have hlast : compare (padded 2 t.clock.second) (padded 2 u.clock.second) =
      compare t.clock.second u.clock.second := by
    simpa using compare_part hsecond hsecond' [] []
  rw [render, render, compare_ofList, renderChars, renderChars, compare_yearChars,
    compare_part hmonth hmonth', compare_cons_self, compare_part hday hday', compare_cons_self,
    compare_part hhour hhour', compare_cons_self, compare_part hminute hminute',
    compare_cons_self, hlast]
  rfl

/-- The years have one sign, or none, and one number of digits. -/
def YearsAlike (t u : Timestamp) : Prop :=
  t.yearSign = u.yearSign ∧ (yearDigits t.date.year).length = (yearDigits u.date.year).length

/-- Years without a sign have four digits. -/
theorem yearsAlike_of_unsigned {t u : Timestamp} (ht : t.yearSign = .none)
    (hu : u.yearSign = .none) : t.YearsAlike u := by
  have hlength {year : Int} (h : YearSign.ofYear year = .none) : (yearDigits year).length = 4 := by
    have hyear := YearSign.ofYear_eq_none_iff.mp h
    exact length_padded (by decide) (by omega : _ < 10000)
  exact ⟨ht.trans hu.symm, (hlength ht).trans (hlength hu).symm⟩

/-- Numbers without their signs compare as any numbers that are in the same order. -/
theorem compare_natAbs {y z a b : Int} (hlt : y.natAbs < z.natAbs ↔ a < b)
    (heq : y.natAbs = z.natAbs ↔ a = b) : compare y.natAbs z.natAbs = compare a b := by
  rcases Int.lt_trichotomy a b with hab | rfl | hab
  · rw [Nat.compare_eq_lt.mpr (hlt.mpr hab), Int.compare_eq_lt.mpr hab]
  · rw [Nat.compare_eq_eq.mpr (heq.mpr rfl), Int.compare_eq_eq.mpr rfl]
  · rw [Nat.compare_eq_gt.mpr (by omega), Int.compare_eq_gt.mpr hab]

/-- Years written alike are in order from 0 on, and turned around before 0. -/
theorem compareWritten_of_yearsAlike {t u : Timestamp} (h : t.YearsAlike u) :
    t.compareWritten u =
      (if t.date.year < 0 then compare u.date.year t.date.year
        else compare t.date.year u.date.year).then (t.compareInYear u) := by
  obtain ⟨hsign, hlength⟩ := h
  have hsame : YearSign.ofYear t.date.year = YearSign.ofYear u.date.year := hsign
  have hplace : t.yearSign.place = u.yearSign.place := congrArg YearSign.place hsign
  have hdigits : compare (yearDigits t.date.year) (yearDigits u.date.year) =
      compare t.date.year.natAbs u.date.year.natAbs := compare_padded hlength
  have hneg : t.date.year < 0 ↔ u.date.year < 0 := by
    rw [← YearSign.ofYear_eq_minus_iff, ← YearSign.ofYear_eq_minus_iff, hsame]
  rw [compareWritten, Nat.compare_eq_eq.mpr hplace, Ordering.eq_then, hdigits]
  split
  · next hlt =>
    have hlater : compare t.date.year.natAbs u.date.year.natAbs =
        compare u.date.year t.date.year := compare_natAbs (by omega) (by omega)
    rw [hlater]
  · next hge =>
    have hearlier : compare t.date.year.natAbs u.date.year.natAbs =
        compare t.date.year u.date.year := compare_natAbs (by omega) (by omega)
    rw [hearlier]

theorem notAfter_of_compareWritten {t u : Timestamp} (h : t.YearsAlike u)
    (hyear : t.yearSign ≠ .minus) (hle : (t.compareWritten u).isLE) : t.NotAfter u := by
  have hnonneg : ¬ t.date.year < 0 := fun hneg => hyear (YearSign.ofYear_eq_minus_iff.mpr hneg)
  rw [compareWritten_of_yearsAlike h, if_neg hnonneg] at hle
  exact hle

theorem turned_of_compareWritten {t u : Timestamp} (h : t.YearsAlike u)
    (hyear : t.yearSign = .minus) (hle : (t.compareWritten u).isLE) :
    u.date.year ≤ t.date.year ∧ (t.date.year = u.date.year → (t.compareInYear u).isLE) := by
  rw [compareWritten_of_yearsAlike h, if_pos (YearSign.ofYear_eq_minus_iff.mp hyear)] at hle
  refine ⟨Int.isLE_compare.mp (Ordering.isLE_left_of_isLE_then hle), fun heq => ?_⟩
  rwa [heq, Int.compare_eq_eq.mpr rfl, Ordering.eq_then] at hle

theorem place_le_of_compareWritten {t u : Timestamp} (hle : (t.compareWritten u).isLE) :
    t.yearSign.place ≤ u.yearSign.place :=
  Nat.isLE_compare.mp (Ordering.isLE_left_of_isLE_then hle)

end Timestamp

namespace LogRecord

open Timestamp

variable {name : String} {fields : List Field}

theorem sortValues_created (record : LogRecord) :
    sortValues { name, fields, sortKeys := ["created"] } record =
      [some (.str record.created.render)] := rfl

theorem recordOrder_created (a b : LogRecord) :
    recordOrder { name, fields, sortKeys := ["created"] } a b =
      a.created.compareWritten b.created := by
  rw [recordOrder, sortValues_created, sortValues_created, ← compare_render]
  simp only [compareKeys, Ordering.then_eq]
  rfl

/-- **Where log records sorted by the field `created` are in order of time.** They are in the order
of the texts in which their times are written, to the second. So those of the years 0 to 9999 are in
order of time, and if there are no other years, all are. Years beyond 9999, which are written with
a `+`, come first, and years before 0 next. Of the years beyond 9999 with one number of digits the
records are in order of time, too; of the years before 0 with one number of digits the later year
comes first, and the records of one year are in order of time. -/
theorem sorted_by_created (name : String) (fields : List Field) (records : List LogRecord) :
    let sorted := sortRecords { name, fields, sortKeys := ["created"] } records
    let InOrder (before : Timestamp → Timestamp → Prop) :=
      sorted.Pairwise fun a b => before a.created b.created
    sorted.Perm records ∧
    InOrder (fun t u => (compare t.render u.render).isLE) ∧
    ((∀ record ∈ records, 0 ≤ record.created.date.year ∧ record.created.date.year ≤ 9999) →
      InOrder NotAfter) ∧
    InOrder (fun t u => t.yearSign.place ≤ u.yearSign.place) ∧
    InOrder (fun t u => t.yearSign = .none → u.yearSign = .none → t.NotAfter u) ∧
    InOrder (fun t u => t.YearsAlike u → t.yearSign = .plus → t.NotAfter u) ∧
    InOrder (fun t u => t.YearsAlike u → t.yearSign = .minus → u.date.year ≤ t.date.year ∧
      (t.date.year = u.date.year → (t.compareInYear u).isLE)) := by
  intro sorted InOrder
  have hperm : sorted.Perm records := sortRecords_perm records
  have hwritten : InOrder fun t u => (t.compareWritten u).isLE :=
    (sortRecords_pairwise records).imp fun {a b} hle => by
      rwa [ordered, recordOrder_created] at hle
  have hunsigned {t u : Timestamp} (ht : t.yearSign = .none) (hu : u.yearSign = .none)
      (hle : (t.compareWritten u).isLE) : t.NotAfter u :=
    notAfter_of_compareWritten (yearsAlike_of_unsigned ht hu) (by simp [ht]) hle
  refine ⟨hperm, ?_, fun hall => ?_, ?_, ?_, ?_, ?_⟩
  · simp only [compare_render]
    exact hwritten
  · have hsign : ∀ record ∈ sorted, record.created.yearSign = .none := fun record hrecord =>
      YearSign.ofYear_eq_none_iff.mpr (hall record (hperm.mem_iff.mp hrecord))
    exact hwritten.imp_of_mem fun ha hb hle => hunsigned (hsign _ ha) (hsign _ hb) hle
  · exact hwritten.imp place_le_of_compareWritten
  · exact hwritten.imp fun hle ht hu => hunsigned ht hu hle
  · exact hwritten.imp fun hle halike hplus =>
      notAfter_of_compareWritten halike (by simp [hplus]) hle
  · exact hwritten.imp fun hle halike hminus => turned_of_compareWritten halike hminus hle

/-- A record of the given year, half an hour after midnight on New Year. -/
def ofYear (year : Int) (h : -262143 ≤ year ∧ year ≤ 262142) : LogRecord where
  id := 1
  browser := ""
  pageUrl := ""
  country := ""
  message := ""
  created := {
    date := ⟨year, 1, 1, h, by decide, by simp [daysInMonth]⟩
    clock := ⟨0, 30, 0, 0, by decide, by decide, by decide, Nat.zero_lt_succ _⟩ }

/-- A record of the year 10000 comes before one of the year 2018, as `+` comes before digits. -/
theorem year_10000_before_2018 :
    let records := [ofYear 10000 (by decide), ofYear 2018 (by decide)]
    parseRecords (serialize records) = .ok records ∧
    sortRecords { schema with sortKeys := ["created"] } records = records ∧
    ¬ records.Pairwise fun a b => a.created.NotAfter b.created := by
  intro records
  refine ⟨parseRecords_serialize records, sortRecords_of_pairwise ?_, ?_⟩
  · refine List.pairwise_pair.mpr ?_
    rw [ordered, recordOrder_created]
    decide +kernel
  · rw [List.pairwise_pair]
    decide +kernel

end LogRecord

end LogSieve
