import LogSieve.Proofs.Json.Numeral
import LogSieve.Proofs.Record.Timestamp
import LogSieve.Proofs.Report.Table
import LogSieve.Proofs.Search.IdOrder
import LogSieve.Report
import Mathlib.Algebra.BigOperators.Group.List.Basic

/-!
# Lines of a text report

The text report on log records is a summary and a table, and every one of its lines ends with a
line feed and holds no other (`hasLines_resultText`). How many lines there are depends on the line
feeds in the cells: an id and a time have none, a message is written without them (`flat_oneLine`),
but the names of browser and country and the page are written as they are. So the row of a record is
as high as `LogRecord.height` says, and the report has two lines for each record, beside the four
around them, exactly if none of these three texts holds a line feed (`text_report_lines`).
-/

namespace LogSieve

/-! ### Cells without line feeds -/

theorem flat_toString_nat (n : Nat) : Flat (toString n).toList := by
  have hdigits : (toString n).toList = Nat.toDigits 10 n := Nat.toList_repr
  rw [hdigits]
  exact flat_of_isDigit isDigit_of_mem_toDigits

theorem flat_toString_int (n : Int) : Flat (toString n).toList := by
  have hdigits : Flat (Nat.toDigits 10 n.natAbs) := flat_of_isDigit isDigit_of_mem_toDigits
  have hnumber : (toString n).toList = (Number.int n).render.toList := rfl
  rw [hnumber, Json.toList_render_int]
  split
  · exact hdigits
  · exact hdigits.cons (by decide)

theorem Timestamp.flat_render (t : Timestamp) : Flat t.render.toList := by
  have hpadded (width n : Nat) : Flat (padded width n) := flat_of_isDigit isDigit_of_mem_padded
  have hyear : Flat (yearChars t.date.year) := by
    rcases yearChars_cases t.date.year with ⟨-, -, h⟩ | ⟨-, h⟩ | ⟨-, h⟩ <;> rw [h]
    · exact hpadded 4 _
    · exact (hpadded 4 _).cons (by decide)
    · exact (hpadded 4 _).cons (by decide)
  rw [render, String.toList_ofList, renderChars]
  exact hyear.append <| Flat.cons (by decide) <| (hpadded 2 _).append <| Flat.cons (by decide) <|
    (hpadded 2 _).append <| Flat.cons (by decide) <| (hpadded 2 _).append <|
    Flat.cons (by decide) <| (hpadded 2 _).append <| Flat.cons (by decide) (hpadded 2 _)

namespace Report

theorem flat_oneLine (text : String) : Flat (oneLine text).toList := by
  rw [oneLine, String.toList_ofList]
  intro hmem
  obtain ⟨c, -, hmem⟩ := List.mem_flatMap.mp hmem
  split at hmem
  · exact absurd hmem (by decide)
  · next hc => exact hc (List.mem_singleton.mp hmem).symm

theorem flat_style {code : List Char} (hcode : Flat code) : Flat (style code) :=
  ((hcode.append (flat_nil.cons (by decide))).cons (by decide)).cons (by decide)

theorem flat_restyle {code : List Char} (hcode : Flat code) {text : List Char} (h : Flat text) :
    Flat (restyle code text) := by
  fun_induction restyle code text with
  | case1 rest ih =>
    simp only [flat_cons_iff] at h
    obtain ⟨-, -, -, -, hrest⟩ := h
    have hplain : Flat plain := by decide
    exact (hplain.append (flat_style hcode)).append (ih hrest)
  | case2 c rest _ ih =>
    obtain ⟨hc, hrest⟩ := flat_cons_iff.mp h
    exact (ih hrest).cons hc
  | case3 => exact flat_nil

/-- The title of the results is one line. -/
theorem flat_title_summary (colored : Bool) (count : Nat) :
    Flat (title colored (summary count)) := by
  have hsummary : Flat (summary count).toList := by
    have hnoun : Flat (if count = 1 then " entry" else " entries").toList := by split <;> decide
    have hverb : Flat "SEARCH matched ".toList := by decide
    rw [summary, String.toList_append, String.toList_append]
    exact (hverb.append (flat_toString_nat count)).append hnoun
  rw [title, styled]
  split
  · have hplain : Flat plain := by decide
    have hbold : Flat "1".toList := by decide
    exact ((flat_style hbold).append (flat_restyle hbold hsummary)).append hplain
  · exact hsummary

end Report

/-! ### Rows of records -/

namespace LogRecord

/-- The cells of a record in the table of results. -/
def cells (record : LogRecord) : List String :=
  [toString record.id.toInt, record.browser, record.country, record.pageUrl,
    record.created.render, Report.oneLine record.message]

/-- No text of the record but the message holds a line feed. -/
def IsFlat (record : LogRecord) : Prop :=
  Flat record.browser.toList ∧ Flat record.country.toList ∧ Flat record.pageUrl.toList

/-- The number of lines that a record takes in the table of results: one, and one more for each line
feed in the text among browser, country and page that holds the most. -/
def height (record : LogRecord) : Nat :=
  max (record.browser.toList.count '\n')
    (max (record.country.toList.count '\n') (record.pageUrl.toList.count '\n')) + 1

theorem rowHeight_cells (record : LogRecord) : Table.rowHeight record.cells = record.height := by
  have hid : (toString record.id.toInt).toList.count '\n' = 0 :=
    List.count_eq_zero.mpr (flat_toString_int _)
  have hcreated : record.created.render.toList.count '\n' = 0 :=
    List.count_eq_zero.mpr (Timestamp.flat_render _)
  have hmessage : (Report.oneLine record.message).toList.count '\n' = 0 :=
    List.count_eq_zero.mpr (Report.flat_oneLine _)
  simp only [Table.rowHeight, cells, List.foldl_cons, List.foldl_nil, hid, hcreated, hmessage,
    height]
  omega

theorem flatRow_cells {record : LogRecord} (h : record.IsFlat) : Table.FlatRow record.cells := by
  obtain ⟨hbrowser, hcountry, hpage⟩ := h
  refine ⟨List.cons_ne_nil _ _, ?_⟩
  simp only [cells, List.forall_mem_cons]
  exact ⟨flat_toString_int _, hbrowser, hcountry, hpage, Timestamp.flat_render _,
    Report.flat_oneLine _, List.forall_mem_nil _⟩

theorem height_eq_one_iff {record : LogRecord} : record.height = 1 ↔ record.IsFlat := by
  have hcount (text : List Char) : text.count '\n' = 0 ↔ Flat text := List.count_eq_zero
  rw [IsFlat, ← hcount, ← hcount, ← hcount, height]
  omega

/-- Records take one line each exactly if all of them are flat. -/
theorem sum_height_eq_length_iff (records : List LogRecord) :
    (records.map height).sum = records.length ↔ ∀ record ∈ records, record.IsFlat := by
  induction records with
  | nil => simp
  | cons record records ih =>
    have hone : 1 ≤ record.height := Nat.le_add_left 1 _
    have hrest : records.length ≤ (records.map height).sum := by
      have hle := (records.map height).length_le_sum_of_one_le fun n hn => by
        obtain ⟨other, -, rfl⟩ := List.mem_map.mp hn
        exact Nat.le_add_left 1 _
      rwa [List.length_map] at hle
    rw [List.map_cons, List.sum_cons, List.length_cons, List.forall_mem_cons, ← height_eq_one_iff,
      ← ih]
    omega

end LogRecord

namespace Report

/-! ### The report -/

/-- The text consists of the lines: each of them ends with a line feed, and holds no other. -/
structure HasLines (text : String) (lines : List (List Char)) : Prop where
  /-- The text is made of the lines. -/
  eq_ofLines : text = ofLines lines
  /-- No line holds a line feed. -/
  flat : ∀ line ∈ lines, Flat line

/-- A text has as many lines as line feeds. -/
theorem HasLines.length_eq {text : String} {lines : List (List Char)} (h : HasLines text lines) :
    lines.length = text.toList.count '\n' := by
  obtain ⟨rfl, hflat⟩ := h
  rw [ofLines, String.toList_ofList]
  induction lines with
  | nil => rfl
  | cons line lines ih =>
    rw [List.forall_mem_cons] at hflat
    have hline : line.count '\n' = 0 := List.count_eq_zero.mpr hflat.1
    rw [List.flatMap_cons, List.count_append, List.count_append, hline, ← ih hflat.2]
    simp [Nat.add_comm]

variable (colored : Bool) {records : List LogRecord}

/-- The lines of the text report on at least one record: the summary, and the table. -/
def textLines (records : List LogRecord) : List (List Char) :=
  title colored (summary records.length) :: (resultTable records).lines

theorem hasLines_resultText (hne : records ≠ []) :
    HasLines (resultText colored records) (textLines colored records) where
  eq_ofLines := by
    rw [resultText, List.isEmpty_eq_false_iff.mpr hne]
    rfl
  flat := List.forall_mem_cons.mpr
    ⟨flat_title_summary colored _, Table.flat_of_mem_lines (resultTable records)⟩

theorem rows_resultTable (records : List LogRecord) :
    (resultTable records).rows = records.map LogRecord.cells := rfl

theorem flatRow_header (records : List LogRecord) :
    Table.FlatRow (resultTable records).header := by
  have hheader : (resultTable records).header =
      ["id", "browser", "country", "page_url", "created", "message"] := rfl
  rw [hheader]
  exact ⟨List.cons_ne_nil _ _, by decide⟩

theorem length_textLines (hne : records ≠ []) :
    (textLines colored records).length =
      records.length + 4 + (records.map LogRecord.height).sum := by
  have hheader : Table.rowHeight (resultTable records).header = 1 :=
    Table.rowHeight_of_flat (flatRow_header records)
  have hheights : (records.map LogRecord.cells).map Table.rowHeight =
      records.map LogRecord.height := by
    simp only [List.map_map, Function.comp_def, LogRecord.rowHeight_cells]
  have hrows : (resultTable records).rows ≠ [] := by
    rw [rows_resultTable]
    exact List.map_eq_nil_iff.not.mpr hne
  have hlines := (resultTable records).length_lines hrows
  rw [hheader, rows_resultTable, hheights, List.length_map] at hlines
  rw [textLines, List.length_cons, hlines]
  omega

/-- The lines of a report in which each record takes one: the summary, the upper border, the titles
of the columns, the rule below them, the records with a rule between one and the next, and the lower
border. -/
def singleLines (records : List LogRecord) : List (List Char) :=
  let widths := (resultTable records).columnWidths
  title colored (summary records.length) ::
    Table.rule '┌' '─' '┬' '┐' widths ::
    Table.rowLine widths ((resultTable records).header.map String.toList) ::
    Table.rule '╞' '═' '╪' '╡' widths ::
    ((records.map fun record => Table.rowLine widths (record.cells.map String.toList)).intersperse
      (Table.rule '├' '╌' '┼' '┤' widths) ++
    [Table.rule '└' '─' '┴' '┘' widths])

theorem textLines_of_flat (hflat : ∀ record ∈ records, record.IsFlat) :
    textLines colored records = singleLines colored records := by
  have hrows : ∀ row ∈ (resultTable records).rows, Table.FlatRow row := by
    rw [rows_resultTable]
    exact List.forall_mem_map.mpr fun record hrecord =>
      LogRecord.flatRow_cells (hflat record hrecord)
  rw [textLines, (resultTable records).lines_of_flat (flatRow_header records) hrows,
    rows_resultTable, List.map_map]
  rfl

/-- **The lines of a text report.** The report on at least one record has four lines around the
records, and for each record the lines of its row and one more, which is the rule behind it or the
lower border. So there are two lines for each record exactly if no text of a record but its message
holds a line feed, and then each record takes one line. -/
theorem text_report_lines (hne : records ≠ []) :
    ∃ lines, HasLines (resultText colored records) lines ∧
      lines.length = records.length + 4 + (records.map LogRecord.height).sum ∧
      (lines.length = 2 * records.length + 4 ↔ ∀ record ∈ records, record.IsFlat) ∧
      ((∀ record ∈ records, record.IsFlat) → lines = singleLines colored records) := by
  refine ⟨_, hasLines_resultText colored hne, length_textLines colored hne, ?_,
    textLines_of_flat colored⟩
  rw [length_textLines colored hne, ← LogRecord.sum_height_eq_length_iff]
  omega

/-- A record with line feeds in its message, and none elsewhere. -/
def traced : LogRecord :=
  { LogRecord.numbered 4 with browser := "Chrome", message := "line one\nline two\n" }

/-- Line feeds in a message leave its record in one line. -/
theorem text_report_lines_traced :
    ∃ lines, HasLines (resultText false [traced, traced]) lines ∧ lines.length = 2 * 2 + 4 := by
  obtain ⟨lines, hlines, -, hcount, -⟩ := text_report_lines false (List.cons_ne_nil traced [traced])
  have hflat : ∀ record ∈ [traced, traced], record.IsFlat := by
    have htraced : traced.IsFlat := by
      unfold LogRecord.IsFlat
      decide
    simp [htraced]
  exact ⟨lines, hlines, hcount.mpr hflat⟩

/-- A record with a line feed in the name of its browser. -/
def broken : LogRecord := { LogRecord.numbered 1 with browser := "a\nb" }

/-- **A line feed in the name of a browser breaks the row** of its record. -/
theorem browser_feed_breaks_row :
    ¬ ∃ lines, HasLines (resultText false [broken]) lines ∧
      lines.length = 2 * [broken].length + 4 := by
  rintro ⟨lines, hlines, hlength⟩
  have hne : [broken] ≠ [] := List.cons_ne_nil broken []
  have hheight : ([broken].map LogRecord.height).sum = 2 := by decide
  have hexact := length_textLines false hne
  rw [(hasLines_resultText false hne).length_eq, ← hlines.length_eq, hlength, hheight] at hexact
  exact absurd hexact (by decide)

end Report

end LogSieve
