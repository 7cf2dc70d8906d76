import AgentConsole.Proofs.Editor.Exact
import AgentConsole.Proofs.Editor.Locate
import AgentConsole.Proofs.Styled.Reverse

/-!
# The cell of the cursor

While its field has the focus, an active editor draws the cell of the cursor in reverse: that of the
character at the cursor's column, or of a space behind the end of the row.  The view always holds the
row of the cursor, so the cell is put into one line of the view and into no other one
(`viewLines_cursor`).

One column is kept free of text for it.  That is enough for a row that keeps to its room
(`showsCursor_of_columns_le`), but spaces may hang over the edge, and the row is cut to the columns
of the editor after the cell was drawn.  Behind such a space there is no column left for the cell,
and it is cut away.  The condition is exact: there is a cell to see if and only if its character
takes a column and ends before the edge (`showsCursor_iff`).
-/

namespace AgentConsole.Editor

open Styled

/-! ### The cell -/

/-- The character of a row at a column, and a space behind its end. -/
def cellAt (column : Nat) : Text → Char
  | [] => ' '
  | c :: rest => if column = 0 then c else cellAt (column - Unicode.columns c) rest

/-- The cell of the cursor shows a character of the line, or a space behind it. -/
theorem cellAt_mem (column : Nat) (t : Text) : cellAt column t ∈ t ∨ cellAt column t = ' ' := by
  induction t generalizing column with
  | nil => exact .inr rfl
  | cons c t ih =>
    unfold cellAt
    split
    · exact .inl List.mem_cons_self
    · exact (ih _).imp_left (List.mem_cons_of_mem c)

/-- Behind the end of a row the cell takes one column more than the row. -/
theorem columns_cellAt_le {column n : Nat} {t : Text} (hcolumn : column = Text.columns (t.take n)) :
    column + Unicode.columns (cellAt column t) ≤ Text.columns t + 1 := by
  induction t generalizing column n with
  | nil =>
    obtain rfl : column = 0 := by simpa using hcolumn
    decide +kernel
  | cons c t ih =>
    rw [Text.columns_cons]
    unfold cellAt
    -- the cell is the first character, or lies further right
    split
    · omega
    · cases n with
      | zero => exact absurd hcolumn ‹_›
      | succ n =>
        rw [List.take_succ_cons, Text.columns_cons] at hcolumn
        have hrest := @ih (column - Unicode.columns c) n (by omega)
        omega

/-- One cell of the line is drawn in reverse: `cell`, behind that many columns. -/
def IsMarked (column : Nat) (cell : Char) (line : Text) : Prop :=
  ∃ before after, line = before ++ inverse [cell] ++ after ∧ esc ∉ before ∧ rowWidth before = column
    ∧ cell ≠ esc ∧ IsUpright after

/-- The cursor is drawn over the character at its column, where that is the column of a position. -/
theorem isMarked_withCursor {column n : Nat} {t : Text} (h : esc ∉ t)
    (hcolumn : column = Text.columns (t.take n)) :
    IsMarked column (cellAt column t) (withCursor column t) := by
  induction t generalizing column n with
  | nil =>
    obtain rfl : column = 0 := by simpa using hcolumn
    exact ⟨[], [], rfl, List.not_mem_nil, rfl, by decide, .of_notMem List.not_mem_nil⟩
  | cons c t ih =>
    obtain ⟨hc, hrest⟩ := not_or.mp (mt List.mem_cons.mpr h)
    have hc : c ≠ esc := Ne.symm hc
    unfold withCursor cellAt
    split
    · rename_i hzero
      exact ⟨[], t, rfl, List.not_mem_nil, hzero.symm, hc, .of_notMem hrest⟩
    · rename_i hpos
      -- column 0 is found at once, so a column further right has a character before it
      cases n with
      | zero => exact absurd hcolumn hpos
      | succ n =>
        rw [List.take_succ_cons, Text.columns_cons] at hcolumn
        obtain ⟨before, after, heq, hbefore, hwidth, hcell, hafter⟩ :=
          @ih (column - Unicode.columns c) n hrest (by omega)
        refine ⟨c :: before, after, ?_, ?_, ?_, hcell, hafter⟩
        · rw [heq]
          rfl
        · exact fun hmem => (List.mem_cons.mp hmem).elim (fun heq => hc heq.symm) hbefore
        · rw [rowWidth_cons hc, hwidth]
          omega

/-- Fitted to a room, the cell is there if it ends within it. -/
theorem IsMarked.reversed_fit {column : Nat} {cell : Char} {line : Text} (h : IsMarked column cell line)
    (room : Nat) : reversed (fit line room)
      = if column + Unicode.columns cell ≤ room then [cell] else [] := by
  obtain ⟨before, after, rfl, hbefore, rfl, hcell, hafter⟩ := h
  exact reversed_fit_inverse hbefore hcell hafter room

/-! ### The lines of the view -/

/-- The text of the row that holds the cursor. -/
def cursorText (e : Editor) : Text :=
  ((e.rows[e.cursorAt.1]?).map fun r => r.text e.buffer.text).getD []

/-- The character that the cursor is drawn over. -/
def cell (e : Editor) : Char := cellAt e.cursorAt.2 e.cursorText

section

variable {e : Editor} (h : e.IsSound)
include h

/-- The cursor's column is that of its position in its row. -/
theorem exists_cursorRow : ∃ r, e.rows[e.cursorAt.1]? = some r
    ∧ e.cursorText = r.text e.buffer.text
    ∧ e.cursorAt.2 = Text.columns (e.cursorText.take (e.buffer.cursor - r.start)) := by
  obtain ⟨r, hr, -⟩ := h.exists_row
  have htext : e.cursorText = r.text e.buffer.text := by
    unfold cursorText
    rw [hr]
    rfl
  refine ⟨r, hr, htext, ?_⟩
  rw [htext]
  exact Row.column_locate e.textWidth h.within hr

/-- In an empty text the cursor is at the start of the only row, and the view begins there. -/
theorem cursor_of_empty (htext : e.buffer.text = []) :
    e.cursorAt = (0, 0) ∧ e.cell = ' ' ∧ e.scrollTarget = 0 := by
  have hcursor : e.buffer.cursor = 0 := by
    have hwithin : e.buffer.cursor ≤ e.buffer.text.length := h.within
    rw [htext] at hwithin
    exact Nat.le_zero.mp hwithin
  -- an empty text has one row
  have hrows : e.rows = [⟨0, 0, 0⟩] := by
    unfold rows
    rw [htext]
    rfl
  have hat : e.cursorAt = (0, 0) := by
    unfold cursorAt
    rw [hrows, htext, hcursor]
    rfl
  refine ⟨hat, ?_, ?_⟩
  · unfold cell cursorText
    rw [hat, hrows, htext]
    rfl
  · have hview : e.scrollTarget ≤ e.cursorAt.1 := h.isInView_reveal.scroll_le
    rw [hat] at hview
    exact Nat.le_zero.mp hview

variable (hfocus : e.focus = .field)
include hfocus

/-- An empty field begins with the cell of the cursor. -/
theorem viewLines_of_empty (htext : e.buffer.text = []) (hplaceholder : Clean e.placeholder)
    (theme : Theme) {i : Nat} (hi : i < e.viewHeight) :
    ∃ l, (e.viewLines theme true)[i]? = some l ∧
      if e.scrollTarget + i = e.cursorAt.1 then IsMarked e.cursorAt.2 e.cell l else IsUpright l := by
  obtain ⟨hat, hcell, hscroll⟩ := cursor_of_empty h htext
  rw [hat, hscroll, hcell, Nat.zero_add]
  unfold viewLines
  rw [if_pos (List.isEmpty_iff.mpr htext)]
  -- the prompt is in the first row, and all others are blank
  cases i with
  | zero =>
    have hafter := (IsUpright.of_notMem hplaceholder.1).paint theme.dim
    refine ⟨_, rfl, ?_⟩
    rw [if_pos rfl]
    unfold prompt
    rw [if_pos (by simp [hfocus])]
    exact ⟨[], _, rfl, List.not_mem_nil, rfl, by decide, hafter⟩
  | succ i =>
    refine ⟨[], ?_, ?_⟩
    · rw [List.getElem?_cons_succ, List.getElem?_replicate, if_pos (by omega)]
    · rw [if_neg (Nat.succ_ne_zero i)]
      exact .of_notMem List.not_mem_nil

variable (hesc : esc ∉ e.buffer.text)
include hesc

/-- The line of the cursor's row has its cell. -/
theorem isMarked_line : IsMarked e.cursorAt.2 e.cell (e.line true e.cursorAt.1) := by
  obtain ⟨r, hr, htext, hcolumn⟩ := exists_cursorRow h
  have hline : e.line true e.cursorAt.1 = withCursor e.cursorAt.2 e.cursorText := by
    unfold line
    rw [hr, htext]
    simp [hfocus]
  rw [hline]
  exact isMarked_withCursor (htext ▸ esc_notMem_text hesc r) hcolumn

omit h hfocus in
/-- The line of any other row is the row. -/
theorem isUpright_line {i : Nat} (hi : i ≠ e.cursorAt.1) : IsUpright (e.line true i) := by
  unfold line
  split
  · exact .of_notMem List.not_mem_nil
  · rw [if_neg (by simp [hi])]
    exact .of_notMem (esc_notMem_text hesc _)

/-- Each line of the view has the cell of the cursor or none. -/
theorem viewLines_cursor (hplaceholder : Clean e.placeholder) (theme : Theme) {i : Nat}
    (hi : i < e.viewHeight) : ∃ l, (e.viewLines theme true)[i]? = some l ∧
      if e.scrollTarget + i = e.cursorAt.1 then IsMarked e.cursorAt.2 e.cell l else IsUpright l := by
  by_cases htext : e.buffer.text = []
  · exact viewLines_of_empty h hfocus htext hplaceholder theme hi
  · refine ⟨e.line true (e.scrollTarget + i), ?_, ?_⟩
    · unfold viewLines
      rw [if_neg (mt List.isEmpty_iff.mp htext), List.getElem?_map, List.getElem?_range' hi,
        Nat.one_mul]
      rfl
    · split
      · rename_i hrow
        rw [hrow]
        exact isMarked_line h hfocus hesc
      · exact isUpright_line hesc ‹_›

/-! ### The rows of the view -/

/-- Exactly one row of the view has a cell in reverse video, and that is the row of the cursor. -/
structure ShowsCursor (e : Editor) (theme : Theme) : Prop where
  /-- The row of the cursor has one cell, and it takes a column. -/
  cursor : ∃ i, i < e.viewHeight ∧ e.scrollTarget + i = e.cursorAt.1 ∧
    ∃ row, (e.render theme true).rows[i]? = some row ∧ reversed row = [e.cell]
      ∧ 1 ≤ Unicode.columns e.cell
  /-- No other row of the view has any. -/
  others : ∀ i, i < e.viewHeight → e.scrollTarget + i ≠ e.cursorAt.1 →
    ∃ row, (e.render theme true).rows[i]? = some row ∧ reversed row = []

variable (hplaceholder : Clean e.placeholder) (hprimary : Flat e.primaryLabel)
  (hsecondary : Flat e.secondaryLabel) (theme : Theme)
include hplaceholder hprimary hsecondary

/-- What is drawn in reverse in a row of the view. -/
theorem exists_row_reversed {i : Nat} (hi : i < e.viewHeight) :
    ∃ row, (e.render theme true).rows[i]? = some row ∧
      reversed row = if e.scrollTarget + i = e.cursorAt.1
          ∧ e.cursorAt.2 + Unicode.columns e.cell ≤ e.width then [e.cell] else [] := by
  obtain ⟨l, hl, hcursor⟩ := viewLines_cursor h hfocus hesc hplaceholder theme hi
  refine ⟨fit l e.width, ?_, ?_⟩
  · have hlength := length_viewLines theme true h.minHeight h.maxHeight
    rw [rows_render theme true hplaceholder.2 hprimary hsecondary, List.getElem?_map, lines,
      List.getElem?_append_left (hlength ▸ hi), hl]
    rfl
  · split at hcursor
    · rename_i hrow
      rw [hcursor.reversed_fit e.width]
      simp only [hrow, true_and]
    · rename_i hrow
      rw [(hcursor.fit e.width).reversed_eq_nil, if_neg fun hboth => hrow hboth.1]

/-- The cursor is seen exactly if there is room for its cell. -/
theorem showsCursor_iff_room : e.ShowsCursor theme ↔
    1 ≤ Unicode.columns e.cell ∧ e.cursorAt.2 + Unicode.columns e.cell ≤ e.width := by
  have hrows {i : Nat} (hi : i < e.viewHeight) :=
    exists_row_reversed h hfocus hesc hplaceholder hprimary hsecondary theme hi
  -- each row of the view is known; only that of the cursor can show a cell in reverse
  constructor
  · rintro ⟨⟨i, hi, hrow, row, hget, hreversed, hcell⟩, -⟩
    refine ⟨hcell, ?_⟩
    obtain ⟨row', hget', hreversed'⟩ := hrows hi
    obtain rfl : row = row' := Option.some.inj (hget.symm.trans hget')
    by_contra hroom
    rw [if_neg fun hboth => hroom hboth.2, hreversed] at hreversed'
    exact absurd hreversed' (List.cons_ne_nil _ _)
  · rintro ⟨hcell, hroom⟩
    have hview := h.isInView_reveal
    have hfirst : e.scrollTarget ≤ e.cursorAt.1 := hview.scroll_le
    have hlast : e.cursorAt.1 < e.scrollTarget + e.viewHeight := hview.lt_scroll
    refine ⟨⟨e.cursorAt.1 - e.scrollTarget, by omega, by omega, ?_⟩, fun i hi hother => ?_⟩
    · obtain ⟨row, hget, hreversed⟩ := hrows (i := e.cursorAt.1 - e.scrollTarget) (by omega)
      rw [if_pos ⟨by omega, hroom⟩] at hreversed
      exact ⟨row, hget, hreversed, hcell⟩
    · obtain ⟨row, hget, hreversed⟩ := hrows hi
      rw [if_neg fun hboth => hother hboth.1] at hreversed
      exact ⟨row, hget, hreversed⟩

/-- The column that is kept free is enough for a row that does not hang over the edge. -/
theorem showsCursor_of_columns_le (hwidth : 2 ≤ e.width)
    (hrow : Text.columns e.cursorText ≤ e.textWidth)
    (hwide : ∀ c ∈ e.cursorText, 1 ≤ Unicode.columns c) : e.ShowsCursor theme := by
  refine (showsCursor_iff_room h hfocus hesc hplaceholder hprimary hsecondary theme).mpr ⟨?_, ?_⟩
  · rcases cellAt_mem e.cursorAt.2 e.cursorText with hmem | hspace
    · exact hwide _ hmem
    · show 1 ≤ Unicode.columns (cellAt e.cursorAt.2 e.cursorText)
      rw [hspace]
      decide +kernel
  · obtain ⟨r, -, -, hcolumn⟩ := exists_cursorRow h
    have hcell : e.cursorAt.2 + Unicode.columns e.cell ≤ Text.columns e.cursorText + 1 :=
      columns_cellAt_le hcolumn
    have hroom : e.textWidth = max (e.width - 1) 1 := rfl
    omega

end

/-! ### Whatever was done to the editor -/

/-- **The cursor is seen in exactly one row, which is its own, if there is room for its cell.**  The
words of the editor are single rows; whatever is typed, pasted or moved, as long as no ESC is in the
text and the field has the focus, the cursor is seen if and only if the character under it takes a
column and ends before the edge. -/
theorem showsCursor_iff {placeholder primary secondary : Text} (hplaceholder : Clean placeholder)
    (hprimary : Flat primary) (hsecondary : Flat secondary) (least greatest : Nat)
    (os : List Operation) (theme : Theme) :
    let new : Editor := { placeholder, primaryLabel := primary, secondaryLabel := secondary }
    let e := os.foldl apply (new.withHeights least greatest)
    e.focus = .field → esc ∉ e.buffer.text →
      (e.ShowsCursor theme ↔
        1 ≤ Unicode.columns e.cell ∧ e.cursorAt.2 + Unicode.columns e.cell ≤ e.width) := by
  intro new e hfocus hesc
  obtain ⟨hsound, hp, hq, hr⟩ := isSound_foldl_apply placeholder primary secondary least greatest os
  have hplaceholder : Clean e.placeholder := hp ▸ hplaceholder
  have hprimary : Flat e.primaryLabel := hq ▸ hprimary
  have hsecondary : Flat e.secondaryLabel := hr ▸ hsecondary
  exact showsCursor_iff_room hsound hfocus hesc hplaceholder hprimary hsecondary theme

/-- The row fills its room, and the cursor stands behind it in the column that is kept free. -/
theorem showsCursor_iff_full_row :
    let new : Editor := { placeholder := "Describe".toList }
    let os := [Operation.setWidth 5, .edit (.insertText "ab\nabc ".toList)]
    let e := os.foldl apply (new.withHeights 1 3)
    Clean "Describe".toList ∧ Flat "Submit".toList ∧ Flat "Cancel".toList ∧ e.focus = .field
      ∧ esc ∉ e.buffer.text ∧ e.ShowsCursor Theme.fallback := by
  intro new os e
  have hwords : Clean "Describe".toList ∧ Flat "Submit".toList ∧ Flat "Cancel".toList := by
    decide +kernel
  have hesc : esc ∉ e.buffer.text := by decide +kernel
  have hroom : 1 ≤ Unicode.columns e.cell ∧ e.cursorAt.2 + Unicode.columns e.cell ≤ e.width := by
    decide +kernel
  refine ⟨hwords.1, hwords.2.1, hwords.2.2, rfl, hesc, ?_⟩
  exact (showsCursor_iff hwords.1 hwords.2.1 hwords.2.2 1 3 os Theme.fallback rfl hesc).mpr hroom

/-- A space hangs over the edge.  Of the cursor behind it nothing is left but the two sequences. -/
theorem cursor_lost_behind_space :
    let os := [Operation.setWidth 5, .edit (.insertText "abc  ".toList)]
    let e := os.foldl apply (({} : Editor).withHeights 1 3)
    e.focus = .field ∧ 3 ≤ e.width ∧ e.buffer.text = "abc  ".toList
      ∧ (e.render Theme.fallback true).rows.head? = some ("abc  ".toList ++ reverseOn ++ Styled.reset)
      ∧ ¬ e.ShowsCursor Theme.fallback := by
  intro os e
  have hnone : ∀ row ∈ (e.render Theme.fallback true).rows, reversed row = [] := by decide +kernel
  refine ⟨rfl, by decide +kernel, by decide +kernel, by decide +kernel, ?_⟩
  rintro ⟨⟨i, -, -, row, hget, hreversed, -⟩, -⟩
  rw [hnone row (List.mem_of_getElem? hget)] at hreversed
  exact absurd hreversed.symm (List.cons_ne_nil _ _)

end AgentConsole.Editor
