import AgentConsole.Proofs.Frame.Box
import AgentConsole.Proofs.Styled.Column

/-!
# What a block covers on a frame

A block that is floated on a frame covers a rectangle and nothing else (`floatAt_covers`).  The rows
above and below are kept as they are.  In a row beside it, what is left of the block and what is
right of it are cut by two functions that do not know of each other: `splice` fills the row up to the
column where the block begins, and `skip` drops what ends before the column where it ends.  Both
columns split the row in the same way (`SplitAt`), and what the block puts between them is exactly as
wide as the block.  So the row does not move: it grows only if the block reaches beyond its end.
-/

namespace AgentConsole.Frame

open Styled

variable {base overlay row line drawn : Text} {x y : Nat}

/-! ### One row -/

/-- What is drawn of a row of which so many columns, from column `x` on, are covered by a line. -/
structure IsCovered (row line : Text) (x columns : Nat) (drawn : Text) : Prop where
  /-- The row grows if the line reaches beyond its end. -/
  width_eq : width drawn = max (width row) (x + columns)
  /-- The line stands between what the row shows before the one column and behind the other.  A wide
  character that one of them runs through leaves a blank. -/
  shows : ∃ front under start rest, SplitAt x (strip row) front under
    ∧ SplitAt (x + columns) (strip row) start rest
    ∧ (front = strip row ∨ x ≤ rowWidth front + 1)
    ∧ strip drawn = pad front x ++ pad (strip line) columns ++ rest

/-- One row under one line of the overlay. -/
theorem isCovered_splice (hrow : Flat row) (hfinished : EscapeComplete row)
    (hnarrow : ∀ c ∈ strip row, Unicode.columns c ≤ 2) (hline : Flat line)
    (hlineFinished : EscapeComplete line) {columns : Nat} (hfits : rowWidth line ≤ columns) (x : Nat) :
    IsCovered row line x columns
      (splice row (fit line columns) x ++ skip row (x + columns)) := by
  have hsolid := hfinished.solid hrow
  have hlineSolid := hlineFinished.solid hline
  have hfilled := hlineSolid.fit columns
  have hleft := hsolid.splice hfilled x
  have hbefore : Solid (before false x (tokens row)) := solid_before hsolid false x
  -- the width adds up from three parts; what is shown is the row, cut at two columns
  constructor
  · have hflat := (hrow.splice (kind_flat.fit hline columns) x).append (hrow.skip (x + columns))
    have hleftWidth : rowWidth (splice row (fit line columns) x) = x + columns := by
      show rowWidth (before false x (tokens row) ++ fit line columns) = _
      rw [rowWidth_append hbefore.settled, rowWidth_before hsolid, rowWidth_fit hlineSolid]
    rw [hflat.width, hrow.width, rowWidth_append hleft.settled, hleftWidth,
      rowWidth_skip hsolid hnarrow]
    omega
  · obtain ⟨front, under, hfront, hshown, -⟩ := exists_split hsolid x
    obtain ⟨start, rest, hstart, -, hrest⟩ := exists_split hsolid (x + columns)
    refine ⟨front, under, start, rest, hfront, hstart, hfront.blank_le_one hnarrow, ?_⟩
    have hleftShown : strip (splice row (fit line columns) x)
        = pad front x ++ pad (strip line) columns := by
      show strip (before false x (tokens row) ++ fit line columns) = _
      rw [strip_append hbefore.settled, hshown, fit_of_le hfits, strip_pad hlineSolid]
    rw [strip_append hleft.settled, hleftShown, hrest]

/-! ### All rows -/

/-- The frame with the rectangle of the block covered, and all else kept. -/
structure Covers (base overlay : Text) (x y : Nat) (drawn : Text) : Prop where
  length_eq : drawn.rows.length = base.rows.length
  outside : ∀ i, i < y ∨ y + overlay.rows.length ≤ i → drawn.rows[i]? = base.rows[i]?
  beside : ∀ i row line, base.rows[y + i]? = some row → overlay.rows[i]? = some line →
    ∃ r, drawn.rows[y + i]? = some r ∧ IsCovered row line x (width overlay) r

/-- A block that ends within the width of the frame does not make it wider. -/
theorem Covers.width_le (h : Covers base overlay x y drawn) {frameWidth : Nat}
    (hbase : width base ≤ frameWidth) (hover : x + width overlay ≤ frameWidth) :
    width drawn ≤ frameWidth := by
  rw [width_le_iff] at hbase ⊢
  intro r hr
  obtain ⟨i, hdrawn⟩ := List.mem_iff_getElem?.mp hr
  by_cases hside : i < y ∨ y + overlay.rows.length ≤ i
  · rw [h.outside i hside] at hdrawn
    exact hbase r (List.mem_of_getElem? hdrawn)
  · -- the row of the frame and the one of the block beside it
    obtain ⟨j, rfl⟩ := Nat.exists_eq_add_of_le (show y ≤ i by omega)
    have hi : y + j < base.rows.length := h.length_eq ▸ (List.getElem?_eq_some_iff.mp hdrawn).1
    have hj : j < overlay.rows.length := by omega
    obtain ⟨s, hs, hcovered⟩ :=
      h.beside j _ _ (List.getElem?_eq_getElem hi) (List.getElem?_eq_getElem hj)
    obtain rfl : s = r := Option.some_inj.mp (hs.symm.trans hdrawn)
    have hmem : base.rows[y + j] ∈ base.rows := List.getElem_mem hi
    rw [← (flat_of_mem_rows hr).width, hcovered.width_eq, (flat_of_mem_rows hmem).width]
    exact Nat.max_le.mpr ⟨hbase _ hmem, hover⟩

/-- **A block changes its rectangle and nothing else.**  The frame keeps its rows.  Those that lie
beside the block show it between their own first columns and those behind it.  In the middle of a
frame that it is not too large for, a block stays inside and does not make the frame wider. -/
theorem floatAt_covers (hfinished : ∀ row ∈ base.rows, EscapeComplete row)
    (hnarrow : ∀ row ∈ base.rows, ∀ c ∈ strip row, Unicode.columns c ≤ 2)
    (hover : ∀ line ∈ overlay.rows, EscapeComplete line) (x y : Nat) :
    Covers base overlay x y (floatAt base overlay x y)
      ∧ ∀ frameWidth frameHeight, width overlay ≤ frameWidth → overlay.rows.length ≤ frameHeight →
        let corner := centered frameWidth frameHeight (width overlay) overlay.rows.length
        corner.1 + width overlay ≤ frameWidth ∧ corner.2 + overlay.rows.length ≤ frameHeight
          ∧ (width base ≤ frameWidth →
              width (floatCentered base overlay frameWidth frameHeight) ≤ frameWidth) := by
  have hcovers (x y : Nat) : Covers base overlay x y (floatAt base overlay x y) := by
    refine ⟨length_rows_floatAt base x y overlay, fun i => getElem?_floatAt_outside base x y, ?_⟩
    intro i row line hrow hline
    have hmem := List.mem_of_getElem? hrow
    have hlineMem := List.mem_of_getElem? hline
    refine ⟨_, by rw [getElem?_floatAt_beside base x y hline, hrow, Option.map_some], ?_⟩
    exact isCovered_splice (flat_of_mem_rows hmem) (hfinished row hmem) (hnarrow row hmem)
      (flat_of_mem_rows hlineMem) (hover line hlineMem) (rowWidth_le_width hlineMem) x
  -- it remains to place the overlay in the middle of a frame
  refine ⟨hcovers x y, ?_⟩
  intro frameWidth frameHeight hwidth hheight corner
  have hright : (frameWidth - width overlay) / 2 + width overlay ≤ frameWidth := by omega
  have hbottom : (frameHeight - overlay.rows.length) / 2 + overlay.rows.length ≤ frameHeight := by
    omega
  exact ⟨hright, hbottom, fun hbase => (hcovers _ _).width_le hbase hright⟩

/-- Both edges of the block run through a wide character of the second row, the third row is too short,
and for the last row of the block there is none. -/
theorem floatAt_covers_wide :
    let base : Text := "top\n\x1b[31m日本語\x1b[0m\n".toList
    let overlay : Text := "\x1b[1mok\x1b[0m\n世\nno".toList
    let row : Text := "\x1b[31m日本語\x1b[0m".toList
    let line : Text := "\x1b[1mok\x1b[0m".toList
    (∀ row ∈ base.rows, IsComplete row) ∧ (∀ line ∈ overlay.rows, IsComplete line)
      ∧ (∀ row ∈ base.rows, ∀ c ∈ strip row, Unicode.columns c ≤ 2)
      ∧ strip (floatAt base overlay 1 1) = "top\n ok 語\n 世".toList
      ∧ ∃ drawn, (floatAt base overlay 1 1).rows[1]? = some drawn ∧ IsCovered row line 1 2 drawn := by
  intro base overlay row line
  have hbase : ∀ row ∈ base.rows, IsComplete row := by decide +kernel
  have hover : ∀ line ∈ overlay.rows, IsComplete line := by decide +kernel
  have hall : base.rows.all (fun row => (strip row).all fun c => Unicode.columns c ≤ 2) := by
    decide +kernel
  have hnarrow : ∀ row ∈ base.rows, ∀ c ∈ strip row, Unicode.columns c ≤ 2 := by
    intro row hrow c hc
    exact of_decide_eq_true (List.all_eq_true.mp (List.all_eq_true.mp hall row hrow) c hc)
  have hwidth : width overlay = 2 := by decide +kernel
  obtain ⟨hcovers, -⟩ := floatAt_covers (fun row hrow => (hbase row hrow).solid.escapeComplete)
    hnarrow (fun line hline => (hover line hline).solid.escapeComplete) 1 1
  have hbeside := hcovers.beside 0 row line (by decide +kernel) (by decide +kernel)
  rw [hwidth] at hbeside
  exact ⟨hbase, hover, hnarrow, by decide +kernel, hbeside⟩

end AgentConsole.Frame
