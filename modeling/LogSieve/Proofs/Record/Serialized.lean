import LogSieve.Proofs.Report.Json

/-!
# Serialized records are a record file

Records are serialized without blanks, the entries in order of declaration (`Layout.compact`), so
that they are read back like a report is: the same records, their times to the second
(`parseRecords_serialize`). So records survive both ways of writing them, and what has been written
and read once does not change any more (`written_records_survive`).
-/

namespace LogSieve

open Json

/-- No blanks. -/
def Json.Blanks.none : Blanks := ⟨[], nofun⟩

/-- All in one line, the entries in order of declaration. -/
def Layout.compact : Layout where
  keys := [.id, .browser, .pageUrl, .country, .message, .created]
  nodup := by decide
  finish_fill _ := rfl
  item := .none
  entry := .none
  colon := .none
  brace := .none
  bracket := .none

/-- A fraction of a second is dropped, and a leap second stays one. -/
theorem Timestamp.nanosecond_toSeconds (t : Timestamp) :
    t.toSeconds.nanosecond = t.nanosecond / 1000000000 * 1000000000 := by
  have hlt := t.clock.nano_lt
  unfold nanosecond toSeconds
  dsimp only
  split <;> omega

namespace LogRecord

/-- The entries of a record stand one behind the other. -/
theorem compactEntries_append (record : LogRecord) (rest : List Char) (key : RecordKey)
    (keys : List RecordKey) :
    compactEntries ((key :: keys).map record.entry) ++ '}' :: rest =
      Layout.compact.entriesText record rest true (key :: keys) := by
  induction keys generalizing key with
  | nil =>
    simp [compactEntries, entry, Layout.entriesText, comma, Layout.compact, Json.Blanks.none]
  | cons next keys ih =>
    have hcomma : Layout.compact.entriesText record rest false (next :: keys) =
        ',' :: Layout.compact.entriesText record rest true (next :: keys) := rfl
    rw [Layout.entriesText, hcomma, ← ih]
    simp [compactEntries, entry, comma, Layout.compact, Json.Blanks.none]

/-- A record stands in one line. -/
theorem compactChars_append (record : LogRecord) (rest : List Char) :
    compactChars (.obj record.entries) ++ rest = Layout.compact.recordText record rest := by
  have hkeys : record.entries = Layout.compact.keys.map record.entry := rfl
  have hentries : _ = Layout.compact.entriesText record rest true Layout.compact.keys :=
    record.compactEntries_append rest _ _
  rw [hkeys, Layout.recordText, ← hentries]
  simp [Layout.compact, compactChars]

/-- The records of a list stand one behind the other. -/
theorem compactItems_append (rest : List Char) (record : LogRecord) (records : List LogRecord) :
    compactItems ((record :: records).map fun record => .obj record.entries) ++ ']' :: rest =
      Layout.compact.itemsText rest true (record :: records) := by
  induction records generalizing record with
  | nil =>
    rw [List.map_cons, List.map_nil, compactItems, compactChars_append]
    rfl
  | cons next records ih =>
    have hcomma : Layout.compact.itemsText rest false (next :: records) =
        ',' :: Layout.compact.itemsText rest true (next :: records) := rfl
    have hnext := ih next
    rw [List.map_cons] at hnext
    rw [List.map_cons, List.map_cons, compactItems, List.append_assoc, List.cons_append, hnext,
      ← hcomma, compactChars_append]
    rfl

/-- **Serialized records are a record file**: the records of it are those that were serialized,
their times to the second. -/
theorem parseRecords_serialize (records : List LogRecord) :
    parseRecords (serialize records) = .ok (records.map seconds) := by
  rw [parseRecords, serialize, Json.compact, String.toList_ofList, compactChars]
  cases records with
  | nil => rfl
  | cons record records => rw [compactItems_append, Layout.readRecords_itemsText]

/-- **Records survive both ways of writing them.** Serialized or reported in JSON, any records are
read back as they are, but for the fractions of their seconds, which are dropped; the nanoseconds of
a leap second keep its whole second. As JSON objects the records do not change, and what has been
written and read once is read back as it is from then on. -/
theorem written_records_survive (records : List LogRecord) :
    let read := records.map fun record => { record with created := record.created.toSeconds }
    (parseRecords (serialize records) = .ok read ∧
      parseRecords (Report.resultJson records) = .ok read) ∧
    (parseRecords (serialize read) = .ok read ∧
      parseRecords (Report.resultJson read) = .ok read) ∧
    read.map toJson = records.map toJson ∧
    ∀ t : Timestamp, t.toSeconds.nanosecond = t.nanosecond / 1000000000 * 1000000000 := by
  intro read
  have hread : read = records.map seconds := rfl
  have hagain : read.map seconds = read := by
    rw [hread, List.map_map]
    rfl
  have hjson : read.map toJson = records.map toJson := by
    rw [hread, List.map_map]
    rfl
  refine ⟨⟨parseRecords_serialize records, parseRecords_resultJson records⟩, ⟨?_, ?_⟩, hjson,
    Timestamp.nanosecond_toSeconds⟩
  · rw [parseRecords_serialize, hagain]
  · rw [parseRecords_resultJson, hagain]

end LogRecord

end LogSieve
