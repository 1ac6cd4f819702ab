import LogSieve.Proofs.Json.Blanks
import LogSieve.Proofs.Json.Quoted
import LogSieve.Proofs.Record.Timestamp
import LogSieve.Record.Reader

/-!
# Written records are read back

The writers of records differ in the order of the entries and in the blanks between the tokens. A
layout fixes both (`Layout`), and the reader takes the text of any layout. One step of it takes one
entry (`readRecordEntries_entry`), and by induction it takes all entries of a record
(`readRecord_recordText`) and all records of a list (`readRecords_itemsText`). It gives the records
that were written, their times to the second.
-/

namespace LogSieve

open Json

/-! ### Values -/

namespace LogRecord

/-- The record with its time to the second. -/
def seconds (record : LogRecord) : LogRecord := { record with created := record.created.toSeconds }

/-- The value that is written for a field. -/
def value (record : LogRecord) : RecordKey → Json
  | .id => .int record.id.toInt
  | .browser => .str record.browser
  | .pageUrl => .str record.pageUrl
  | .country => .str record.country
  | .message => .str record.message
  | .created => .str record.created.render

end LogRecord

/-- The draft with a field of a record read. -/
def Draft.fill (record : LogRecord) (draft : Draft) : RecordKey → Draft
  | .id => { draft with id := some record.id }
  | .browser => { draft with browser := some record.browser }
  | .pageUrl => { draft with pageUrl := some record.pageUrl }
  | .country => { draft with country := some record.country }
  | .message => { draft with message := some record.message }
  | .created => { draft with created := some record.created }

theorem Draft.has_fill (record : LogRecord) (draft : Draft) (key other : RecordKey) :
    (draft.fill record key).has other = (decide (other = key) || draft.has other) := by
  cases key <;> cases other <;> simp [fill, has]

theorem RecordKey.ofName?_name (key : RecordKey) : ofName? key.name = some key := by
  cases key <;> rfl

theorem readId_render (blanks : Blanks) (id : Int64) {rest : List Char} (hrest : EndsNumeral rest) :
    readId (blanks.chars ++ ((Number.int id.toInt).render.toList ++ rest)) = .ok (id, rest) := by
  have hlow : -2 ^ 63 ≤ id.toInt := id.le_toInt
  have hhigh : id.toInt < 2 ^ 63 := id.toInt_lt
  have haccept : acceptId (.int id.toInt) rest = .ok (id, rest) := by
    rw [acceptId, if_pos (by omega), Int64.ofInt_toInt]
  rw [toList_render_int]
  split
  · next hnonneg =>
    obtain ⟨c, digits, hdigits⟩ :=
      List.exists_cons_of_ne_nil (Nat.toDigits_ne_nil (b := 10) (n := id.toInt.natAbs))
    have hc : c.isDigit = true := isDigit_of_mem_toDigits c (hdigits ▸ List.mem_cons_self)
    have hread := readNumber_nonneg (n := id.toInt.natAbs) (by rw [greatestInt]; omega) hrest
    rw [hdigits, List.cons_append] at hread ⊢
    rw [readId, blanks.skipSpace_append (isSpace_of_isDigit hc)]
    dsimp only
    rw [if_neg (by rintro rfl; cases hc), if_pos hc, hread, liftSyntax, ok_bind]
    dsimp only
    rw [Int.natAbs_of_nonneg hnonneg, haccept]
  · next hneg =>
    have hread := readNumber_neg (n := id.toInt.natAbs) (by omega) (by rw [leastInt]; omega) hrest
    rw [List.cons_append, readId, blanks.skipSpace_append rfl]
    dsimp only
    rw [if_pos rfl, hread, liftSyntax, ok_bind]
    dsimp only
    rw [Int.ofNat_natAbs_of_nonpos (by omega), Int.neg_neg, haccept]

theorem readText_quote (blanks : Blanks) (text : String) (rest : List Char) :
    readText (blanks.chars ++ (quote text ++ rest)) = .ok (text, rest) := by
  rw [quote, List.cons_append, List.append_assoc, readText, blanks.skipSpace_append rfl]
  dsimp only
  rw [if_pos rfl, List.singleton_append, readQuoted_quoted, liftSyntax]

theorem readField_value (close : List Char → List Char) (key : RecordKey) (draft : Draft)
    (blanks : Blanks) (record : LogRecord) {rest : List Char} (hrest : EndsNumeral rest) :
    readField close key draft (blanks.chars ++ (compactChars (record.value key) ++ rest)) =
      .ok (draft.fill record.seconds key, rest) := by
  cases key with
  | id =>
    simp only [readField, LogRecord.value, Json.int, compactChars, readId_render blanks _ hrest]
    rfl
  | created =>
    simp only [readField, LogRecord.value, compactChars, readText_quote, ok_bind,
      Timestamp.parse?_render]
    rfl
  | browser | pageUrl | country | message =>
    simp only [readField, LogRecord.value, compactChars, readText_quote]
    rfl

/-! ### Layouts -/

/-- How records are written: the order of the entries and the blanks between the tokens. -/
structure Layout where
  /-- The fields in order. -/
  keys : List RecordKey
  /-- No field is written twice. -/
  nodup : keys.Nodup
  /-- The fields make a record. -/
  finish_fill : ∀ record, (keys.foldl (Draft.fill record) {}).finish = .ok record
  /-- Blanks before a record. -/
  item : Blanks
  /-- Blanks before an entry. -/
  entry : Blanks
  /-- Blanks behind a colon. -/
  colon : Blanks
  /-- Blanks before a closing brace. -/
  brace : Blanks
  /-- Blanks before the closing bracket. -/
  bracket : Blanks

namespace Layout

section Text

variable (layout : Layout)

/-- The entries of a record with its closing brace, and the text behind it. -/
def entriesText (record : LogRecord) (rest : List Char) : Bool → List RecordKey → List Char
  | _, [] => layout.brace.chars ++ '}' :: rest
  | first, key :: keys =>
    comma first ++ (layout.entry.chars ++ (quote key.name ++ ':' :: (layout.colon.chars ++
      (compactChars (record.value key) ++ entriesText record rest false keys))))

/-- A record, and the text behind it. -/
def recordText (record : LogRecord) (rest : List Char) : List Char :=
  '{' :: layout.entriesText record rest true layout.keys

/-- The records of a list with its closing bracket, and the text behind it. -/
def itemsText (rest : List Char) : Bool → List LogRecord → List Char
  | _, [] => layout.bracket.chars ++ ']' :: rest
  | first, record :: records =>
    comma first ++ (layout.item.chars ++ layout.recordText record (itemsText rest false records))

end Text

variable (layout : Layout) (record : LogRecord)

/-! ### Entries -/

theorem endsNumeral_entriesText (rest : List Char) (keys : List RecordKey) :
    EndsNumeral (layout.entriesText record rest false keys) := by
  cases keys with
  | nil => exact layout.brace.endsNumeral_append (by decide) rest
  | cons key keys => exact endsNumeral_cons (by decide)

/-- An entry takes more than the entries behind it. -/
theorem length_entriesText_lt (rest : List Char) (first : Bool) (key : RecordKey)
    (keys : List RecordKey) :
    (layout.entriesText record rest false keys).length <
      (layout.entriesText record rest first (key :: keys)).length := by
  simp only [entriesText, List.length_append, List.length_cons]
  omega

/-- All entries take more than the text behind them. -/
theorem length_lt_entriesText (rest : List Char) (first : Bool) (keys : List RecordKey) :
    rest.length < (layout.entriesText record rest first keys).length := by
  induction keys generalizing first with
  | nil =>
    simp only [entriesText, List.length_append, List.length_cons]
    omega
  | cons key keys ih =>
    exact Nat.lt_trans (ih false) (length_entriesText_lt layout record rest first key keys)

/-- One step of the reader takes one entry. -/
theorem readRecordEntries_entry {draft : Draft} {key : RecordKey} (h : draft.has key = false)
    (fuel : Nat) (first : Bool) (rest : List Char) (keys : List RecordKey) :
    readRecordEntries (fuel + 1) first draft (layout.entriesText record rest first (key :: keys)) =
      readRecordEntries fuel false (draft.fill record.seconds key)
        (layout.entriesText record rest false keys) := by
  have hcolon (text : List Char) : readColon (':' :: text) = .ok text := rfl
  rw [entriesText, quote, List.cons_append, readRecordEntries, nextEntry_entry, liftSyntax, ok_bind]
  dsimp only
  rw [List.drop_one, List.tail_cons, List.append_assoc, List.singleton_append, readQuoted_quoted,
    liftSyntax, ok_bind]
  dsimp only
  rw [RecordKey.ofName?_name]
  dsimp only
  rw [h, if_neg (by decide), hcolon, liftSyntax, ok_bind,
    readField_value _ _ _ _ _ (endsNumeral_entriesText layout record rest keys), ok_bind]

/-- The entries of a record are read one after the other. -/
theorem readRecordEntries_entries {rest : List Char} {keys : List RecordKey} {draft : Draft}
    {fuel : Nat} {first : Bool} (hnodup : keys.Nodup) (hnew : ∀ key ∈ keys, draft.has key = false)
    (hfinish : (keys.foldl (Draft.fill record.seconds) draft).finish = .ok record.seconds)
    (hfuel : (layout.entriesText record rest first keys).length < fuel) :
    readRecordEntries fuel first draft (layout.entriesText record rest first keys) =
      .ok (record.seconds, rest) := by
  induction keys generalizing fuel first draft with
  | nil =>
    obtain ⟨fuel, rfl⟩ := Nat.exists_eq_add_one.mpr (Nat.zero_lt_of_lt hfuel)
    rw [entriesText, readRecordEntries, nextEntry_brace, liftSyntax, ok_bind]
    dsimp only
    rw [List.foldl_nil] at hfinish
    rw [hfinish]
    rfl
  | cons key keys ih =>
    obtain ⟨fuel, rfl⟩ := Nat.exists_eq_add_one.mpr (Nat.zero_lt_of_lt hfuel)
    have hlength := length_entriesText_lt layout record rest first key keys
    rw [readRecordEntries_entry layout record (hnew key List.mem_cons_self)]
    refine ih (List.nodup_cons.mp hnodup).2 (fun other hother => ?_) hfinish (by omega)
    have hne : other ≠ key := fun heq => (List.nodup_cons.mp hnodup).1 (heq ▸ hother)
    simp [Draft.has_fill, hne, hnew other (List.mem_cons_of_mem _ hother)]

/-- **A written record is read back**, its time to the second. -/
theorem readRecord_recordText (rest : List Char) {fuel : Nat}
    (hfuel : (layout.recordText record rest).length ≤ fuel) :
    readRecord fuel (layout.recordText record rest) = .ok (record.seconds, rest) := by
  rw [recordText, readRecord, skipSpace_cons rfl]
  dsimp only
  rw [if_pos rfl]
  exact readRecordEntries_entries layout record layout.nodup (fun key _ => by cases key <;> rfl)
    (layout.finish_fill record.seconds) hfuel

/-- A record takes more than the text behind it. -/
theorem length_recordText_lt (rest : List Char) :
    rest.length < (layout.recordText record rest).length :=
  Nat.lt_trans (layout.length_lt_entriesText record rest true layout.keys) (Nat.lt_succ_self _)

/-! ### Records of a list -/

/-- The records of a list are read one after the other. -/
theorem readRecordList_itemsText {rest : List Char} {records taken : List LogRecord} {fuel : Nat}
    (hfuel : (layout.itemsText rest taken.isEmpty records).length < fuel) :
    readRecordList fuel taken (layout.itemsText rest taken.isEmpty records) =
      .ok (taken.reverse ++ records.map LogRecord.seconds, rest) := by
  induction records generalizing fuel taken with
  | nil =>
    obtain ⟨fuel, rfl⟩ := Nat.exists_eq_add_one.mpr (Nat.zero_lt_of_lt hfuel)
    rw [itemsText, readRecordList, nextItem_bracket, liftSyntax, ok_bind]
    dsimp only
    rw [List.map_nil, List.append_nil]
    rfl
  | cons record records ih =>
    obtain ⟨fuel, rfl⟩ := Nat.exists_eq_add_one.mpr (Nat.zero_lt_of_lt hfuel)
    rw [itemsText, List.length_append, List.length_append] at hfuel
    have hlength := length_recordText_lt layout record (layout.itemsText rest false records)
    have hrecord :
        readRecord fuel (layout.recordText record (layout.itemsText rest false records)) =
          .ok (record.seconds, layout.itemsText rest false records) :=
      readRecord_recordText layout record _ (by omega)
    have hlater :
        readRecordList fuel (record.seconds :: taken) (layout.itemsText rest false records) =
          .ok ((record.seconds :: taken).reverse ++ records.map LogRecord.seconds, rest) :=
      ih (by rw [List.isEmpty_cons]; omega)
    rw [recordText] at hrecord
    rw [itemsText, recordText, readRecordList, nextItem_item, liftSyntax, ok_bind]
    dsimp only
    rw [hrecord, ok_bind]
    dsimp only
    rw [hlater, List.reverse_cons, List.append_assoc, List.singleton_append, List.map_cons]

/-- **Written records are read back**, their times to the second. -/
theorem readRecords_itemsText (records : List LogRecord) :
    readRecords ('[' :: layout.itemsText [] true records) =
      .ok (records.map LogRecord.seconds) := by
  have hlist : readRecordList (2 * (layout.itemsText [] true records).length + 1) []
      (layout.itemsText [] true records) = .ok (records.map LogRecord.seconds, []) :=
    readRecordList_itemsText layout (by rw [List.isEmpty_nil]; omega)
  rw [readRecords, skipSpace_cons rfl]
  dsimp only
  rw [if_pos rfl, hlist, ok_bind]
  rfl

end Layout

end LogSieve
