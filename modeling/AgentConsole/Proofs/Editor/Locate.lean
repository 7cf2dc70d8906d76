import AgentConsole.Proofs.Editor.Tiles
import AgentConsole.Proofs.Editor.View
import Mathlib.Order.Bounds.Basic

/-!
# Where the cursor is, and where it goes

A position at a soft wrap is the end of one row and the start of the next.  It is the later row that
has it: a row has the positions from its start up to the start of the row after it, and these ranges
split the text (`Row.locate_eq_iff`).  At a newline there is nothing to decide, as the row before it
ends one position earlier than the next begins.

The position that is looked up for a column can therefore be one that the row does not have, and only
at a soft wrap.  Then it is drawn back by one character, which is in the row since no row but that of
an empty line is empty (`Row.isGreatest_position`).
-/

namespace AgentConsole.Editor

open Styled

namespace Row

/-! ### Rows one after the other -/

/-- The row is followed by the other one: on its line, or behind the newline at its end. -/
def Precedes (r s : Row) : Prop :=
  r.start < s.start
    ∧ (s.line = r.line ∧ s.start = r.stop ∨ s.line = r.line + 1 ∧ s.start = r.stop + 1)

/-- Do the rows cover a text up to its end, one after the other? -/
structure Covers (t : Text) (rows : List Row) : Prop where
  precedes : rows.IsChain Precedes
  last : rows.getLast?.map Row.stop = some t.length
  start_le : ∀ r ∈ rows, r.start ≤ r.stop

namespace Tiles

variable {room n start : Nat} {t line : Text} {rs : List Row} (h : Tiles room t n start line rs)
include h

theorem head : ∃ r, rs.head? = some r ∧ r.line = n ∧ r.start = start := by
  obtain ⟨r, hr, hstart⟩ := Option.map_eq_some_iff.mp h.first
  exact ⟨r, hr, h.number r (List.mem_of_mem_head? hr), hstart⟩

/-- No row ends before it begins. -/
theorem start_le : ∀ r ∈ rs, r.start ≤ r.stop := by
  intro r hr
  by_cases hline : line = []
  · rw [h.of_nil hline] at hr
    rw [List.mem_singleton.mp hr]
  · exact Nat.le_of_lt (h.of_ne_nil hline r hr)

theorem isChain : rs.IsChain Precedes := by
  by_cases hline : line = []
  · rw [h.of_nil hline]
    exact .singleton _
  · refine h.contiguous.imp_of_mem_imp fun r s hr hs hrs => ⟨?_, .inl ⟨?_, hrs⟩⟩
    · rw [hrs]
      exact h.of_ne_nil hline r hr
    · rw [h.number r hr, h.number s hs]

end Tiles

namespace Tiled

variable {room n start : Nat} {t : Text} {lines : List Text} {rs : List Row}

/-- The first row of a text begins with it. -/
theorem head (h : Tiled room t n start lines rs) :
    ∃ r, rs.head? = some r ∧ r.line = n ∧ r.start = start := by
  cases h with
  | last htiles => exact htiles.head
  | next htiles =>
    obtain ⟨r, hr, hplace⟩ := htiles.head
    exact ⟨r, by rw [List.head?_append, hr]; rfl, hplace⟩

/-- Rows that tile a text have all its positions. -/
theorem covers (h : Tiled room t n start lines rs) : Covers t rs := by
  -- the rows of one line after another
  induction h with
  | last htiles stop => exact ⟨htiles.isChain, by rw [htiles.last, stop], htiles.start_le⟩
  | next htiles newline hbelow ih =>
    obtain ⟨s, hs, hline, hstart⟩ := hbelow.head
    refine ⟨List.isChain_append.mpr ⟨htiles.isChain, ih.precedes, ?_⟩, ?_, ?_⟩
    · -- the last row of the line ends at the newline, and the next one begins behind it
      intro r hr s' hs'
      obtain rfl := Option.some.inj (hs.symm.trans hs')
      have hmem := List.mem_of_mem_getLast? hr
      have hstop := htiles.last
      rw [Option.mem_def.mp hr] at hstop
      have hstop : r.stop = _ := Option.some.inj hstop
      have hrle := htiles.start_le r hmem
      exact ⟨by omega, .inr ⟨by rw [hline, htiles.number r hmem], by omega⟩⟩
    · rw [List.getLast?_append, Option.map_or, ih.last]
      rfl
    · intro r hr
      exact (List.mem_append.mp hr).elim (htiles.start_le r) (ih.start_le r)

end Tiled

theorem covers_ofText (room : Nat) (t : Text) : Covers t (ofText room t) :=
  (tiled_ofText room t).covers

namespace Covers

variable {t : Text} {rows : List Row} (h : Covers t rows) {i j : Nat} {r s : Row}
include h

/-- A row precedes the next one. -/
theorem precedes_of_getElem? (hr : rows[i]? = some r) (hs : rows[i + 1]? = some s) :
    r.Precedes s := by
  obtain ⟨hi, rfl⟩ := List.getElem?_eq_some_iff.mp hr
  obtain ⟨hi', rfl⟩ := List.getElem?_eq_some_iff.mp hs
  exact List.isChain_iff_getElem.mp h.precedes i hi'

/-- Rows further down begin later. -/
theorem start_lt (hr : rows[i]? = some r) (hs : rows[j]? = some s) (hij : i < j) :
    r.start < s.start := by
  have hstarts : (rows.map Row.start).Pairwise (· < ·) :=
    List.isChain_iff_pairwise.mp ((List.isChain_map _).mpr (h.precedes.imp fun _ _ hrs => hrs.1))
  obtain ⟨hi, rfl⟩ := List.getElem?_eq_some_iff.mp hr
  obtain ⟨hj, rfl⟩ := List.getElem?_eq_some_iff.mp hs
  have hlt := List.pairwise_iff_getElem.mp hstarts i j (by simpa using hi) (by simpa using hj) hij
  simpa using hlt

/-- The last row ends where the text does. -/
theorem stop_of_last (hr : rows[i]? = some r) (hnone : rows[i + 1]? = none) : r.stop = t.length := by
  have hi := (List.getElem?_eq_some_iff.mp hr).1
  have hlength := List.getElem?_eq_none_iff.mp hnone
  have hlast : rows.getLast? = some r := by
    rw [List.getLast?_eq_getElem?, show rows.length - 1 = i by omega, hr]
  have hstop := h.last
  rw [hlast] at hstop
  exact Option.some.inj hstop

end Covers

/-! ### The row of a position -/

/-- Does the row with that number have the position: is it in the row, and before the next one? -/
def Has (rows : List Row) (i position : Nat) : Prop :=
  ∃ r, rows[i]? = some r ∧ r.start ≤ position ∧ ∀ s, rows[i + 1]? = some s → position < s.start

namespace Covers

variable {t : Text} {rows : List Row} (h : Covers t rows) {i j position : Nat} {r : Row}
include h

/-- No two rows have the same position. -/
theorem eq_of_has (hi : Has rows i position) (hj : Has rows j position) : i = j := by
  have hnot {i j : Nat} (hi : Has rows i position) (hj : Has rows j position) : ¬i < j := by
    intro hij
    obtain ⟨-, -, -, hnext⟩ := hi
    obtain ⟨s, hs, hstart, -⟩ := hj
    have hlength := (List.getElem?_eq_some_iff.mp hs).1
    have hlt := hnext _ (List.getElem?_eq_getElem (by omega))
    -- the row after the first one does not begin behind the second one
    rcases Nat.lt_or_eq_of_le (show i + 1 ≤ j from hij) with hbefore | rfl
    · have := h.start_lt (List.getElem?_eq_getElem (by omega)) hs hbefore
      omega
    · rw [(List.getElem?_eq_some_iff.mp hs).2] at hlt
      omega
  exact Nat.le_antisymm (Nat.le_of_not_lt (hnot hj hi)) (Nat.le_of_not_lt (hnot hi hj))

/-- A position that a row has is one of the row, or its end. -/
theorem le_stop (hhas : Has rows i position) (hr : rows[i]? = some r)
    (hposition : position ≤ t.length) : position ≤ r.stop := by
  obtain ⟨-, -, -, hnext⟩ := hhas
  rcases hs : rows[i + 1]? with - | s
  · rwa [h.stop_of_last hr hs]
  · obtain ⟨-, ⟨-, hstart⟩ | ⟨-, hstart⟩⟩ := h.precedes_of_getElem? hr hs
    · have := hnext s hs
      omega
    · have := hnext s hs
      omega

end Covers

/-- A search from the end finds the last one. -/
theorem le_of_find?_reverse_range {p : Nat → Bool} {n i j : Nat}
    (h : (List.range n).reverse.find? p = some j) (hi : i < n) (hp : p i) : i ≤ j := by
  obtain ⟨-, before, after, hsplit, hnot⟩ := List.find?_eq_some_iff_append.mp h
  have hordered : (before ++ j :: after).Pairwise (· > ·) := by
    rw [← hsplit, List.pairwise_reverse]
    exact List.pairwise_lt_range
  have hmem : i ∈ before ++ j :: after := by
    rw [← hsplit]
    simpa using hi
  rcases List.mem_append.mp hmem with hbefore | hafter
  · exact absurd hp (by simpa using hnot i hbefore)
  · rcases List.mem_cons.mp hafter with rfl | hafter
    · exact Nat.le_refl _
    · have hrest := (List.pairwise_append.mp hordered).2.1
      exact Nat.le_of_lt ((List.pairwise_cons.mp hrest).1 i hafter)

/-- No row behind the one that is found holds the position. -/
theorem le_locate {rows : List Row} {position i : Nat} {r : Row} (hr : rows[i]? = some r)
    (hholds : r.Holds position) (t : Text) : i ≤ (locate rows t position).1 := by
  have hfound := find?_row ⟨r, List.mem_of_getElem? hr, hholds⟩ t
  refine le_of_find?_reverse_range hfound (List.getElem?_eq_some_iff.mp hr).1 ?_
  simp [hr, hholds.1, hholds.2]

section

variable (room : Nat) {t : Text} {position : Nat} (hposition : position ≤ t.length)
include hposition

/-- The row that is found has the position. -/
theorem has_locate : Has (ofText room t) (locate (ofText room t) t position).1 position := by
  obtain ⟨r, hr, hfirst, hlast⟩ := exists_row_locate (exists_holds_ofText room hposition) t
  refine ⟨r, hr, hfirst, fun s hs => Nat.lt_of_not_le fun hle => ?_⟩
  -- otherwise the next row would hold the position too
  have hcovers := covers_ofText room t
  obtain ⟨-, hprecedes⟩ := hcovers.precedes_of_getElem? hr hs
  have hstop := hcovers.start_le s (List.mem_of_getElem? hs)
  have hnext := le_locate hs ⟨hle, by omega⟩ t
  omega

/-- The row that is found is the one that has the position. -/
theorem locate_eq_iff {i : Nat} :
    (locate (ofText room t) t position).1 = i ↔ Has (ofText room t) i position := by
  constructor
  · rintro rfl
    exact has_locate room hposition
  · exact (covers_ofText room t).eq_of_has (has_locate room hposition)

/-- The column that is found is what stands before the position in its row. -/
theorem column_locate {r : Row} (hr : (ofText room t)[(locate (ofText room t) t position).1]? = some r) :
    (locate (ofText room t) t position).2
      = Text.columns ((r.text t).take (position - r.start)) := by
  have hstop := (covers_ofText room t).le_stop (has_locate room hposition) hr hposition
  let start := ((ofText room t)[(locate (ofText room t) t position).1]?.map Row.start).getD 0
  have hstart : start = r.start := by
    show Option.getD (Option.map Row.start _) 0 = r.start
    rw [hr]
    rfl
  show Text.columns ((t.drop start).take (position - start)) = _
  rw [hstart, text, List.take_take, Nat.min_eq_left (by omega)]

end

/-! ### The position of a column -/

/-- Of the starts of a text, those have room in some columns that are not longer than the one that is
found. -/
theorem le_within_iff (column : Nat) (t : Text) {n : Nat} (hn : n ≤ t.length) :
    n ≤ within column t ↔ Text.columns (t.take n) ≤ column := by
  induction t generalizing column n with
  | nil =>
    obtain rfl : n = 0 := Nat.le_zero.mp hn
    simp
  | cons c t ih =>
    cases n with
    | zero => simp
    | succ n =>
      have hn : n ≤ t.length := Nat.le_of_succ_le_succ hn
      rw [List.take_succ_cons, Text.columns_cons]
      unfold within
      -- the first character is too wide, or takes its columns from those that are left
      split
      · omega
      · rw [Nat.add_comm 1, Nat.add_le_add_iff_right, ih _ hn]
        omega

section

variable {room : Nat} {t : Text} {i : Nat} {r : Row} (hr : (ofText room t)[i]? = some r)
include hr

theorem length_text : (r.text t).length = r.stop - r.start := by
  obtain ⟨hle, hstop⟩ := bounds_of_mem_ofText (List.mem_of_getElem? hr)
  rw [text, List.length_take, List.length_drop]
  omega

/-- The next row begins where this one ends and takes that position away from it, or its line ends
and the next one begins behind a newline. -/
theorem next_cases : (∃ s, (ofText room t)[i + 1]? = some s ∧ s.line = r.line ∧ s.start = r.stop
      ∧ r.start < r.stop)
    ∨ ¬((ofText room t)[i + 1]?).any (·.line = r.line)
      ∧ ∀ s, (ofText room t)[i + 1]? = some s → s.start = r.stop + 1 := by
  rcases hs : (ofText room t)[i + 1]? with - | s
  · exact .inr ⟨by simp, fun _ hs => by cases hs⟩
  · obtain ⟨hlt, ⟨hline, hstart⟩ | ⟨hline, hstart⟩⟩ :=
      (covers_ofText room t).precedes_of_getElem? hr hs
    · exact .inl ⟨s, rfl, hline, hstart, hstart ▸ hlt⟩
    · refine .inr ⟨by simp [hline], fun s' hs' => ?_⟩
      obtain rfl := Option.some.inj hs'
      exact hstart

/-- The positions that a row has without standing behind a column. -/
theorem mem_positions_iff (column : Nat) {q : Nat} :
    (q ≤ t.length ∧ (locate (ofText room t) t q).1 = i ∧ (locate (ofText room t) t q).2 ≤ column)
      ↔ r.start ≤ q ∧ q ≤ r.start + within column (r.text t)
        ∧ ∀ s, (ofText room t)[i + 1]? = some s → q < s.start := by
  obtain ⟨hle, hstop⟩ := bounds_of_mem_ofText (List.mem_of_getElem? hr)
  have hlength := length_text hr
  have hwithin := within_le column (r.text t)
  -- columns in a row are counted from its start, so the bound on columns is one on positions
  constructor
  · rintro ⟨hq, rfl, hcolumn⟩
    have hhas := has_locate room hq
    have hend := (covers_ofText room t).le_stop hhas hr hq
    obtain ⟨r', hr', hfirst, hnext⟩ := hhas
    obtain rfl := Option.some.inj (hr.symm.trans hr')
    rw [column_locate room hq hr, ← le_within_iff column _ (by omega)] at hcolumn
    exact ⟨hfirst, by omega, hnext⟩
  · rintro ⟨hfirst, hfound, hnext⟩
    have hq : q ≤ t.length := by omega
    have hrow := (locate_eq_iff room hq).mpr ⟨r, hr, hfirst, hnext⟩
    refine ⟨hq, hrow, ?_⟩
    rw [column_locate room hq (hrow.symm ▸ hr), ← le_within_iff column _ (by omega)]
    omega

/-- The position of a column in a row is the last one that the row has without standing behind that
column. -/
theorem isGreatest_position (column : Nat) :
    IsGreatest {q | q ≤ t.length ∧ (locate (ofText room t) t q).1 = i
      ∧ (locate (ofText room t) t q).2 ≤ column} (position (ofText room t) t i column) := by
  have hset : {q | q ≤ t.length ∧ (locate (ofText room t) t q).1 = i
      ∧ (locate (ofText room t) t q).2 ≤ column} = _ := Set.ext fun q => mem_positions_iff hr column
  have hlength := length_text hr
  have hwithin := within_le column (r.text t)
  rw [hset]
  unfold position
  rw [hr]
  dsimp only
  obtain ⟨s, hs, hline, hstart, hlt⟩ | ⟨hline, hstart⟩ := next_cases hr
  · -- the end of the row is the start of the next one
    have hnext {q : Nat} : (∀ s, (ofText room t)[i + 1]? = some s → q < s.start) ↔ q < r.stop := by
      simp [hs, hstart]
    simp only [hnext]
    simp only [hs, Option.any_some, hline, decide_true, true_and]
    split
    · exact ⟨⟨by omega, by omega, by omega⟩, fun q hq => Nat.le_sub_one_of_lt hq.2.2⟩
    · exact ⟨⟨by omega, by omega, by omega⟩, fun q hq => hq.2.1⟩
  · obtain ⟨hle, -⟩ := bounds_of_mem_ofText (List.mem_of_getElem? hr)
    rw [if_neg fun hcontinues => hline hcontinues.1]
    refine ⟨⟨by omega, Nat.le_refl _, fun s hs => ?_⟩, fun q hq => hq.2.1⟩
    rw [hstart s hs]
    omega

end

/-- Where each character has a column, a longer start of a text has more columns. -/
theorem columns_take_lt {t : Text} (h : ∀ c ∈ t, 1 ≤ Unicode.columns c) {m n : Nat} (hmn : m < n)
    (hn : n ≤ t.length) : Text.columns (t.take m) < Text.columns (t.take n) := by
  obtain ⟨k, rfl⟩ := Nat.exists_eq_add_of_lt hmn
  have hm : m < t.length := by omega
  rw [Nat.add_assoc, List.take_add, List.drop_eq_getElem_cons hm, List.take_succ_cons,
    Text.columns_append, Text.columns_cons]
  have := h t[m] (List.getElem_mem hm)
  omega

/-- Where each character of a line has a column, a position is found again by its row and its
column. -/
theorem position_locate (room : Nat) {t : Text} {q : Nat} (hq : q ≤ t.length)
    (hcolumns : ∀ c ∈ t, c ≠ '\n' → 1 ≤ Unicode.columns c) :
    position (ofText room t) t (locate (ofText room t) t q).1 (locate (ofText room t) t q).2 = q := by
  obtain ⟨r, hr, hfirst, -⟩ := has_locate room hq
  obtain ⟨⟨hle, hrow, hcolumn⟩, hgreatest⟩ :=
    isGreatest_position hr (locate (ofText room t) t q).2
  generalize position (ofText room t) t _ _ = p at hle hrow hcolumn hgreatest
  have hbehind : q ≤ p := hgreatest ⟨hq, rfl, Nat.le_refl _⟩
  have hend : p ≤ r.stop :=
    (covers_ofText room t).le_stop ((locate_eq_iff room hle).mp hrow) hr hle
  have hlength := length_text hr
  have hflat : Flat (r.text t) := flat_text (List.mem_of_getElem? hr)
  have hwide : ∀ c ∈ r.text t, 1 ≤ Unicode.columns c := fun c hc =>
    hcolumns c (List.mem_of_mem_drop (List.mem_of_mem_take hc)) fun hnewline => hflat (hnewline ▸ hc)
  rw [column_locate room hle (hrow.symm ▸ hr), column_locate room hq hr] at hcolumn
  -- the position is not further right, since each character takes a column
  refine Nat.le_antisymm (Nat.le_of_not_lt fun hlt => ?_) hbehind
  have := columns_take_lt hwide (m := q - r.start) (n := p - r.start) (by omega) (by omega)
  omega

end Row

/-! ### The cursor -/

/-- Is that the last position of a row of the editor that does not stand behind a column? -/
def IsNearest (e : Editor) (row column position : Nat) : Prop :=
  IsGreatest {q | q ≤ e.buffer.text.length ∧ (Row.locate e.rows e.buffer.text q).1 = row
    ∧ (Row.locate e.rows e.buffer.text q).2 ≤ column} position

/-- What is true of the row and the column of the cursor, and of moving it from row to row. -/
structure MovesByRows (e : Editor) : Prop where
  /-- The row of the cursor holds it, and the column is that of what stands before it there. -/
  cursor : ∃ r, e.rows[e.cursorAt.1]? = some r ∧ r.Holds e.buffer.cursor
    ∧ e.cursorAt.2 = Text.columns ((r.text e.buffer.text).take (e.buffer.cursor - r.start))
  /-- Row and column lead back to the cursor. -/
  back : (∀ c ∈ e.buffer.text, c ≠ '\n' → 1 ≤ Unicode.columns c) →
    Row.position e.rows e.buffer.text e.cursorAt.1 e.cursorAt.2 = e.buffer.cursor
  up_text : e.up.buffer.text = e.buffer.text
  /-- Up from the first row is the start of the text, and up from any other the row above. -/
  up_first : e.cursorAt.1 = 0 → e.up.buffer.cursor = 0
  up_row : 0 < e.cursorAt.1 → e.up.cursorAt.1 = e.cursorAt.1 - 1
    ∧ e.IsNearest (e.cursorAt.1 - 1) e.cursorAt.2 e.up.buffer.cursor
  down_text : e.down.buffer.text = e.buffer.text
  /-- Down from the last row is the end of the text, and down from any other the row below. -/
  down_last : e.cursorAt.1 + 1 = e.rows.length → e.down.buffer.cursor = e.buffer.text.length
  down_row : e.cursorAt.1 + 1 < e.rows.length → e.down.cursorAt.1 = e.cursorAt.1 + 1
    ∧ e.IsNearest (e.cursorAt.1 + 1) e.cursorAt.2 e.down.buffer.cursor

section

variable (e : Editor)

theorem isNearest_position {row : Nat} (h : row < e.rows.length) (column : Nat) :
    e.IsNearest row column (Row.position e.rows e.buffer.text row column) :=
  Row.isGreatest_position (List.getElem?_eq_getElem h) column

theorem cursor_up : e.up.buffer.cursor = if e.cursorAt.1 = 0 then 0
    else Row.position e.rows e.buffer.text (e.cursorAt.1 - 1) e.cursorAt.2 := rfl

theorem cursor_down : e.down.buffer.cursor
    = if e.rows.length ≤ e.cursorAt.1 + 1 then e.buffer.text.length
      else Row.position e.rows e.buffer.text (e.cursorAt.1 + 1) e.cursorAt.2 := rfl

end

/-- **The cursor moves by rows**, whatever its text and its width are. -/
theorem movesByRows {e : Editor} (h : e.buffer.IsWithin) : e.MovesByRows := by
  obtain ⟨r, hr, hfirst, -⟩ := Row.has_locate e.textWidth h
  have hcovers := Row.covers_ofText e.textWidth e.buffer.text
  have hend := hcovers.le_stop (Row.has_locate e.textWidth h) hr h
  have hrow : e.cursorAt.1 < e.rows.length := (List.getElem?_eq_some_iff.mp hr).1
  exact {
    cursor := ⟨r, hr, ⟨hfirst, hend⟩, Row.column_locate e.textWidth h hr⟩
    back := Row.position_locate e.textWidth h
    up_text := rfl
    up_first := fun hzero => by rw [cursor_up, if_pos hzero]
    -- the row above has no further bound than that there is one
    up_row := fun hpos => by
      have hnearest : e.IsNearest (e.cursorAt.1 - 1) e.cursorAt.2 e.up.buffer.cursor := by
        rw [cursor_up, if_neg (Nat.ne_of_gt hpos)]
        exact e.isNearest_position (Nat.lt_of_le_of_lt (Nat.sub_le _ _) hrow) _
      exact ⟨hnearest.1.2.1, hnearest⟩
    down_text := rfl
    down_last := fun hlast => by rw [cursor_down, if_pos (by omega)]
    down_row := fun hnext => by
      have hnearest : e.IsNearest (e.cursorAt.1 + 1) e.cursorAt.2 e.down.buffer.cursor := by
        rw [cursor_down, if_neg (Nat.not_le_of_lt hnext)]
        exact e.isNearest_position hnext _
      exact ⟨hnearest.1.2.1, hnearest⟩ }

/-- Four columns for two words.  The third position of the first row is the start of the second one,
so that the cursor, coming from there, stops one column before it. -/
theorem movesByRows_two_words :
    let e : Editor := { buffer := ⟨"ab cdef".toList, 7⟩, width := 5 }
    e.buffer.IsWithin ∧ e.rows = [⟨0, 0, 3⟩, ⟨0, 3, 7⟩] ∧ e.cursorAt = (1, 4)
      ∧ e.up.buffer.cursor = 2 ∧ e.up.cursorAt = (0, 2) ∧ e.MovesByRows := by
  intro e
  have h : e.buffer.IsWithin := by
    show 7 ≤ "ab cdef".toList.length
    decide
  exact ⟨h, by decide +kernel, by decide +kernel, by decide +kernel, by decide +kernel, movesByRows h⟩

end AgentConsole.Editor
