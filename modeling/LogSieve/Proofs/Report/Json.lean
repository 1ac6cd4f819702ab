import LogSieve.Proofs.Record.Layout
import LogSieve.Report

/-!
# Results in JSON are a record file

The results that a search reports in JSON are laid out as one token sequence with line feeds and
indentation (`Layout.pretty`), so that they are read back as a record file: the same records, their
times to the second (`parseRecords_resultJson`).
-/

namespace LogSieve

open Json

/-- The start of a line. -/
def Json.Blanks.newline (level : Nat) : Blanks where
  chars := Json.newline level
  isSpace_of_mem := by
    intro c hc
    rcases List.mem_cons.mp hc with rfl | hspace
    · rfl
    · rw [List.eq_of_mem_replicate hspace]
      rfl

/-- One record below the other, one entry a line, the entries ascending by key. -/
def Layout.pretty : Layout where
  keys := [.browser, .country, .created, .id, .message, .pageUrl]
  nodup := by decide
  finish_fill _ := rfl
  item := .newline 1
  entry := .newline 2
  colon := ⟨[' '], List.forall_mem_singleton.mpr rfl⟩
  brace := .newline 1
  bracket := .newline 0

namespace LogRecord

/-- A field of a record as an entry. -/
def entry (record : LogRecord) (key : RecordKey) : String × Json := (key.name, record.value key)

theorem toJson_eq (record : LogRecord) :
    record.toJson = .obj (Layout.pretty.keys.map record.entry) := by
  simp only [toJson, ofEntries, Entries.ofList, List.foldl_cons, List.foldl_nil,
    Entries.put, String.reduceLT, String.reduceEq, if_true, if_false]
  rfl

theorem prettyChars_value (record : LogRecord) (key : RecordKey) (level : Nat) :
    prettyChars level (record.value key) = compactChars (record.value key) := by
  cases key <;> simp [value, Json.int, prettyChars, compactChars]

/-- The entries of a record stand in lines. -/
theorem prettyEntries_append (record : LogRecord) (rest : List Char) (key : RecordKey)
    (keys : List RecordKey) :
    prettyEntries 2 ((key :: keys).map record.entry) ++ (Json.newline 1 ++ '}' :: rest) =
      Layout.pretty.entriesText record rest true (key :: keys) := by
  induction keys generalizing key with
  | nil =>
    simp [prettyEntries, entry, Layout.entriesText, comma, Layout.pretty, Json.Blanks.newline,
      prettyChars_value]
  | cons next keys ih =>
    have hcomma : Layout.pretty.entriesText record rest false (next :: keys) =
        ',' :: Layout.pretty.entriesText record rest true (next :: keys) := rfl
    rw [Layout.entriesText, hcomma, ← ih]
    simp [prettyEntries, entry, comma, Layout.pretty, Json.Blanks.newline, prettyChars_value]

/-- A record stands in lines. -/
theorem prettyChars_append (record : LogRecord) (rest : List Char) :
    prettyChars 1 record.toJson ++ rest = Layout.pretty.recordText record rest := by
  have hentries : _ = Layout.pretty.entriesText record rest true Layout.pretty.keys :=
    record.prettyEntries_append rest _ _
  rw [toJson_eq, Layout.recordText, ← hentries]
  simp [Layout.pretty, prettyChars]

/-- The records of a list stand one below the other. -/
theorem prettyItems_append (rest : List Char) (record : LogRecord) (records : List LogRecord) :
    prettyItems 1 ((record :: records).map toJson) ++ (Json.newline 0 ++ ']' :: rest) =
      Layout.pretty.itemsText rest true (record :: records) := by
  induction records generalizing record with
  | nil =>
    rw [List.map_cons, List.map_nil, prettyItems, List.append_assoc, prettyChars_append]
    rfl
  | cons next records ih =>
    have hcomma : Layout.pretty.itemsText rest false (next :: records) =
        ',' :: Layout.pretty.itemsText rest true (next :: records) := rfl
    rw [List.map_cons, List.map_cons, prettyItems, ← List.map_cons, List.append_assoc,
      List.append_assoc, List.cons_append, ih, ← hcomma, prettyChars_append]
    rfl

end LogRecord

/-- **Reported results are a record file**: the records of it are the results, their times to the
second. -/
theorem parseRecords_resultJson (records : List LogRecord) :
    parseRecords (Report.resultJson records) = .ok (records.map LogRecord.seconds) := by
  rw [parseRecords, Report.resultJson, pretty, String.toList_ofList]
  cases records with
  | nil => rfl
  | cons record records =>
    have htext := LogRecord.prettyItems_append [] record records
    rw [List.map_cons] at htext
    rw [List.map_cons, prettyChars, htext, Layout.readRecords_itemsText]

end LogSieve
