import LogSieve.Report.Table
import Mathlib.Algebra.GroupWithZero.Nat
import Mathlib.Data.List.GetD

/-!
# Lines of tables

A row of a table has as many lines as its cell with the most lines (`length_rowLines`), which is
one if all its cells are `Flat`, that is, hold no line feed (`rowLines_of_flat`). Between two rows
stands a rule, so that the lines of the header and of the rows and the rules around them make up the
lines of the table (`length_lines`). All of these are flat, whatever the cells hold
(`flat_of_mem_lines`).
-/

namespace LogSieve

/-! ### Texts without line feeds -/

/-- The text holds no line feed. -/
def Flat (text : List Char) : Prop := '\n' ∉ text

instance (text : List Char) : Decidable (Flat text) := inferInstanceAs (Decidable ('\n' ∉ text))

variable {text : List Char}

theorem flat_nil : Flat [] := List.not_mem_nil

theorem flat_cons_iff {c : Char} : Flat (c :: text) ↔ c ≠ '\n' ∧ Flat text := by
  simp [Flat, eq_comm]

theorem Flat.cons {c : Char} (hc : c ≠ '\n') (h : Flat text) : Flat (c :: text) :=
  flat_cons_iff.mpr ⟨hc, h⟩

theorem Flat.append {rest : List Char} (h : Flat text) (hrest : Flat rest) :
    Flat (text ++ rest) := by
  simpa [Flat] using ⟨h, hrest⟩

theorem flat_replicate {c : Char} (hc : c ≠ '\n') (n : Nat) : Flat (List.replicate n c) :=
  fun h => hc (List.eq_of_mem_replicate h).symm

theorem flat_of_isDigit (h : ∀ c ∈ text, c.isDigit) : Flat text :=
  fun hmem => absurd (h _ hmem) (by decide)

namespace Table

/-! ### Lines of cells -/

theorem splitLines_feed (text : List Char) : splitLines ('\n' :: text) = [] :: splitLines text := by
  rw [splitLines, List.foldr_cons, if_pos rfl, splitLines]

/-- A character joins the first of the lines behind it. -/
theorem splitLines_cons {c : Char} (hc : c ≠ '\n') {line : List Char} {rest : List (List Char)}
    (h : splitLines text = line :: rest) : splitLines (c :: text) = (c :: line) :: rest := by
  rw [splitLines] at h ⊢
  rw [List.foldr_cons, if_neg hc, h]

/-- A text has a line, and one more for each line feed in it. -/
theorem length_splitLines (text : List Char) : (splitLines text).length = text.count '\n' + 1 := by
  induction text with
  | nil => rfl
  | cons c text ih =>
    by_cases hc : c = '\n'
    · subst hc
      rw [splitLines_feed, List.length_cons, ih, List.count_cons_self]
    · obtain ⟨line, rest, hlines⟩ := List.exists_cons_of_length_eq_add_one ih
      rw [splitLines_cons hc hlines, List.count_cons_of_ne hc, ← ih, hlines, List.length_cons,
        List.length_cons]

theorem splitLines_of_flat (h : Flat text) : splitLines text = [text] := by
  induction text with
  | nil => rfl
  | cons c text ih =>
    obtain ⟨hc, htext⟩ := flat_cons_iff.mp h
    exact splitLines_cons hc (ih htext)

theorem flat_of_mem_splitLines (text : List Char) : ∀ line ∈ splitLines text, Flat line := by
  induction text with
  | nil => exact List.forall_mem_singleton.mpr flat_nil
  | cons c text ih =>
    by_cases hc : c = '\n'
    · subst hc
      rw [splitLines_feed]
      exact List.forall_mem_cons.mpr ⟨flat_nil, ih⟩
    · obtain ⟨line, rest, hlines⟩ :=
        List.exists_cons_of_length_eq_add_one (length_splitLines text)
      rw [hlines, List.forall_mem_cons] at ih
      rw [splitLines_cons hc hlines]
      exact List.forall_mem_cons.mpr ⟨ih.1.cons hc, ih.2⟩

/-! ### Single lines of a table -/

theorem flat_joinWith {separator : List Char} (hseparator : Flat separator) :
    ∀ {parts : List (List Char)}, (∀ part ∈ parts, Flat part) → Flat (joinWith separator parts)
  | [], _ => flat_nil
  | [part], h => h part List.mem_cons_self
  | part :: next :: rest, h => by
    rw [joinWith]
    exact ((h part List.mem_cons_self).append hseparator).append
      (flat_joinWith hseparator fun other hother => h other (List.mem_cons_of_mem _ hother))

theorem flat_rule {left stroke crossing right : Char} (widths : List Nat)
    (h : Flat [left, stroke, crossing, right]) : Flat (rule left stroke crossing right widths) := by
  simp only [flat_cons_iff] at h
  obtain ⟨hleft, hstroke, hcrossing, hright, -⟩ := h
  refine Flat.cons hleft (Flat.append (flat_joinWith (flat_nil.cons hcrossing) ?_)
    (flat_nil.cons hright))
  intro part hpart
  obtain ⟨width, -, rfl⟩ := List.mem_map.mp hpart
  exact flat_replicate hstroke _

theorem flat_pad {width : Nat} {line : List Char} (h : Flat line) : Flat (pad width line) :=
  Flat.cons (by decide) ((h.append (flat_replicate (by decide) _)).append
    (flat_nil.cons (by decide)))

theorem flat_rowLine (widths : List Nat) {lines : List (List Char)}
    (h : ∀ line ∈ lines, Flat line) : Flat (rowLine widths lines) := by
  refine Flat.cons (by decide) (Flat.append (flat_joinWith (flat_nil.cons (by decide)) ?_)
    (flat_nil.cons (by decide)))
  intro part hpart
  rw [← List.map_uncurry_zip_eq_zipWith, List.mem_map] at hpart
  obtain ⟨⟨width, line⟩, hmem, rfl⟩ := hpart
  exact flat_pad (h line (List.of_mem_zip hmem).2)

/-! ### Rows -/

/-- The number of lines of a row: those of its cell with the most lines. -/
def rowHeight (row : List String) : Nat :=
  row.foldl (fun height cell => max height (cell.toList.count '\n' + 1)) 0

theorem length_rowLines (widths : List Nat) (row : List String) :
    (rowLines widths row).length = rowHeight row := by
  simp only [rowLines, List.length_map, List.length_range, rowHeight, List.foldl_map, cellLines,
    length_splitLines]

theorem flat_of_mem_rowLines (widths : List Nat) (row : List String) :
    ∀ line ∈ rowLines widths row, Flat line := by
  intro line hline
  obtain ⟨i, -, rfl⟩ := List.mem_map.mp hline
  refine flat_rowLine widths fun line hline => ?_
  rw [List.map_map] at hline
  obtain ⟨cell, -, rfl⟩ := List.mem_map.mp hline
  -- a cell with fewer lines is filled up with empty ones
  by_cases hi : i < (cellLines cell).length
  · rw [Function.comp_apply, List.getD_eq_getElem _ _ hi]
    exact flat_of_mem_splitLines _ _ (List.getElem_mem hi)
  · rw [Function.comp_apply, List.getD_eq_default _ _ (Nat.le_of_not_lt hi)]
    exact flat_nil

theorem foldl_max_one {α : Type} (items : List α) :
    items.foldl (fun height _ => max height 1) 1 = 1 := by
  induction items with
  | nil => rfl
  | cons _ items ih => exact ih

/-- The row has cells, and all of them are flat. -/
def FlatRow (row : List String) : Prop := row ≠ [] ∧ ∀ cell ∈ row, Flat cell.toList

/-- A row of flat cells is one line. -/
theorem rowLines_of_flat (widths : List Nat) {row : List String} (h : FlatRow row) :
    rowLines widths row = [rowLine widths (row.map String.toList)] := by
  obtain ⟨hrow, hflat⟩ := h
  have hcells : row.map cellLines = row.map fun cell => [cell.toList] :=
    List.map_congr_left fun cell hcell => splitLines_of_flat (hflat cell hcell)
  have hheight : (row.map fun cell => [cell.toList]).foldl (fun height lines =>
      max height lines.length) 0 = 1 := by
    obtain ⟨cell, rest, rfl⟩ := List.exists_cons_of_ne_nil hrow
    rw [List.map_cons, List.foldl_cons, List.foldl_map]
    exact foldl_max_one rest
  simp only [rowLines, hcells, hheight, List.range_one, List.map_singleton, List.map_map]
  rfl

theorem rowHeight_of_flat {row : List String} (h : FlatRow row) : rowHeight row = 1 := by
  rw [← length_rowLines [], rowLines_of_flat [] h, List.length_singleton]

/-! ### Tables -/

theorem length_bodyLines (widths : List Nat) (row : List String) : ∀ rows : List (List String),
    (bodyLines widths (row :: rows)).length =
      ((row :: rows).map rowHeight).sum + rows.length
  | [] => by simp [bodyLines, length_rowLines]
  | next :: rest => by
    have hrest := length_bodyLines widths next rest
    simp only [bodyLines, List.length_append, List.length_cons, List.map_cons, List.sum_cons,
      length_rowLines] at hrest ⊢
    omega

/-- **The lines of a table** are those of its header and its rows, a rule on either side of the
header, and a rule behind each row. -/
theorem length_lines (table : Table) (h : table.rows ≠ []) :
    table.lines.length =
      rowHeight table.header + (table.rows.map rowHeight).sum + table.rows.length + 2 := by
  obtain ⟨row, rows, hrows⟩ := List.exists_cons_of_ne_nil h
  simp only [lines, hrows, List.length_cons, List.length_append, List.length_nil, length_rowLines,
    length_bodyLines]
  omega

theorem flat_of_mem_bodyLines (widths : List Nat) : ∀ rows : List (List String),
    ∀ line ∈ bodyLines widths rows, Flat line
  | [] => List.forall_mem_nil _
  | [row] => flat_of_mem_rowLines widths row
  | row :: next :: rest => by
    rw [bodyLines, List.forall_mem_append, List.forall_mem_cons]
    exact ⟨flat_of_mem_rowLines widths row,
      flat_rule widths (by decide),
      flat_of_mem_bodyLines widths (next :: rest)⟩

/-- No line feed remains in the lines of a table. -/
theorem flat_of_mem_lines (table : Table) : ∀ line ∈ table.lines, Flat line := by
  simp only [lines, List.cons_append, List.forall_mem_cons, List.forall_mem_append]
  exact ⟨flat_rule _ (by decide),
    ⟨flat_of_mem_rowLines _ _, flat_rule _ (by decide),
      flat_of_mem_bodyLines _ _⟩,
    flat_rule _ (by decide), List.forall_mem_nil _⟩

theorem bodyLines_of_flat (widths : List Nat) : ∀ {rows : List (List String)},
    (∀ row ∈ rows, FlatRow row) →
      bodyLines widths rows =
        (rows.map fun row => rowLine widths (row.map String.toList)).intersperse
          (rule '├' '╌' '┼' '┤' widths)
  | [], _ => rfl
  | [row], h => rowLines_of_flat widths (h row List.mem_cons_self)
  | row :: next :: rest, h => by
    have hrow : FlatRow row := h row List.mem_cons_self
    rw [bodyLines, rowLines_of_flat widths hrow,
      bodyLines_of_flat widths fun other hother => h other (List.mem_cons_of_mem _ hother)]
    rfl

/-- **A table of flat rows** has one line for its header and one for each row, with a rule between
one and the next. -/
theorem lines_of_flat (table : Table) (hheader : FlatRow table.header)
    (hrows : ∀ row ∈ table.rows, FlatRow row) :
    table.lines =
      rule '┌' '─' '┬' '┐' table.columnWidths ::
        rowLine table.columnWidths (table.header.map String.toList) ::
        rule '╞' '═' '╪' '╡' table.columnWidths ::
        ((table.rows.map fun row =>
            rowLine table.columnWidths (row.map String.toList)).intersperse
          (rule '├' '╌' '┼' '┤' table.columnWidths) ++
        [rule '└' '─' '┴' '┘' table.columnWidths]) := by
  rw [lines, rowLines_of_flat _ hheader, bodyLines_of_flat _ hrows]
  rfl

end Table

end LogSieve
