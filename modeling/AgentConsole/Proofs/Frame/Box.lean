import AgentConsole.Proofs.Styled.Flat

/-!
# Boxes and what is left of them in a frame

A box has two rows more than its content, and every row of it is exactly two columns wider than
its inside (`width_boxed`).  A block that is placed on a frame changes the rows beside it and
adds none: its rows stand in the frame one below the other, from the row on at which it is
placed, and those beyond the last row of the frame are dropped
(`infix_floatCentered_iff`).
-/

namespace AgentConsole.Frame

open Styled

/-! ### Boxes -/

/-- The signs that a border is drawn with. -/
def signs : Text := ['╭', '╮', '╰', '╯', '│', '─']

theorem ne_of_mem_signs {c : Char} (hc : c ∈ signs) : c ≠ esc ∧ c ≠ '\n' := by
  have hclean : Clean signs := by decide
  exact ⟨fun h => hclean.1 (h ▸ hc), fun h => hclean.2 (h ▸ hc)⟩

theorem rowWidth_of_mem_signs {c : Char} (hc : c ∈ signs) : rowWidth [c] = 1 := by
  have hall : signs.all fun c => rowWidth [c] = 1 := by decide +kernel
  exact of_decide_eq_true (List.all_eq_true.mp hall c hc)

section

variable (theme : Theme) (border : Color) {title content : Text} (inner : Nat)

theorem flat_line (c : Char) (hc : c ∈ signs) (n : Nat) :
    Flat (border.paint (Text.times n [c])) :=
  kind_flat.paint (kind_flat.times (Flat.one (ne_of_mem_signs hc).2) n) border

theorem solid_line (c : Char) (hc : c ∈ signs) (n : Nat) :
    Solid (border.paint (Text.times n [c])) :=
  (solid_times (Solid.one (ne_of_mem_signs hc).1) n).paint border

/-- A line of a border has as many columns as signs. -/
theorem rowWidth_line (c : Char) (hc : c ∈ signs) (n : Nat) :
    rowWidth (border.paint (Text.times n [c])) = n := by
  have hone : Solid [c] := Solid.one (ne_of_mem_signs hc).1
  rw [(solid_times hone n).rowWidth_paint, rowWidth_times hone, rowWidth_of_mem_signs hc,
    Nat.mul_one]

/-- The rows of a box: two edges, and between them the rows of the content with sides. -/
theorem exists_rows_boxed (ht : Flat title) (content : Text) : ∃ top bottom,
    (boxed theme border title content inner).rows
      = top :: content.rows.map (fun row =>
          border.paint ['│'] ++ Styled.fit row inner ++ border.paint ['│']) ++ [bottom] ∧
    (Solid title → rowWidth top = inner + 2) ∧ rowWidth bottom = inner + 2 := by
  have hedge (c : Char) (hc : c ∈ signs) : Flat (border.paint [c]) := flat_line border c hc 1
  have hedgeWidth (c : Char) (hc : c ∈ signs) : rowWidth (border.paint [c]) = 1 :=
    rowWidth_line border c hc 1
  have hdash := flat_line border '─' (by decide)
  -- from here on the title is what fits of it between two blanks
  unfold boxed
  dsimp only
  generalize hdrawn : (if title.isEmpty = true then ([] : Text)
    else truncate (' ' :: title ++ [' ']) inner) = drawn
  have hflat : Flat drawn := by
    rw [← hdrawn]
    split
    · exact Flat.nil
    · exact kind_flat.truncate ((ht.cons (by decide)).append (Flat.one (by decide))) inner
  refine ⟨_, _, Text.rows_ofRows (by simp) ?_, fun hs => ?_, ?_⟩
  · intro row hrow
    simp only [List.cons_append, List.mem_cons, List.mem_append, List.mem_map, List.not_mem_nil,
      or_false] at hrow
    rcases hrow with rfl | ⟨r, hr, rfl⟩ | rfl
    · exact (((hedge '╭' (by decide)).append (kind_flat.strong hflat _)).append (hdash _)).append
        (hedge '╮' (by decide))
    · exact ((hedge '│' (by decide)).append (kind_flat.fit (flat_of_mem_rows hr) inner)).append
        (hedge '│' (by decide))
    · exact ((hedge '╰' (by decide)).append (hdash _)).append (hedge '╯' (by decide))
  · -- what the title leaves of the upper edge is a line
    have hsolid : Solid drawn := by
      rw [← hdrawn]
      split
      · exact Solid.nil
      · exact ((hs.cons (by decide)).append (Solid.one (by decide))).truncate inner
    have hfits : rowWidth drawn ≤ inner := by
      rw [← hflat.width, ← hdrawn]
      split
      · exact Nat.zero_le inner
      · exact width_truncate_le _ inner
    have hcorner : Solid (border.paint ['╭']) := solid_line border '╭' (by decide) 1
    have hfirst := hcorner.append (hsolid.strong theme.accent)
    rw [rowWidth_append (hfirst.append (solid_line border '─' (by decide) _)).settled,
      rowWidth_append hfirst.settled, rowWidth_append hcorner.settled, hedgeWidth '╭' (by decide),
      hedgeWidth '╮' (by decide), hsolid.rowWidth_strong, rowWidth_line border '─' (by decide),
      hflat.width]
    omega
  · have hcorner : Solid (border.paint ['╰']) := solid_line border '╰' (by decide) 1
    have hfirst := hcorner.append (solid_line border '─' (by decide) inner)
    rw [rowWidth_append hfirst.settled, rowWidth_append hcorner.settled, hedgeWidth '╰' (by decide),
      hedgeWidth '╯' (by decide), rowWidth_line border '─' (by decide)]
    omega

/-- A box is two rows higher than what is in it. -/
theorem length_rows_boxed (ht : Flat title) :
    (boxed theme border title content inner).rows.length = content.rows.length + 2 := by
  obtain ⟨top, bottom, hrows, -, -⟩ := exists_rows_boxed theme border inner ht content
  rw [hrows]
  simp

/-- Every row of a box is two columns wider than its inside. -/
theorem rowWidth_boxed (ht : Flat title) (hs : Solid title) (hc : Solid content) :
    ∀ row ∈ (boxed theme border title content inner).rows, rowWidth row = inner + 2 := by
  obtain ⟨top, bottom, hrows, htop, hbottom⟩ :=
    exists_rows_boxed theme border inner ht content
  have hside : Solid (border.paint ['│']) := solid_line border '│' (by decide) 1
  have hone : rowWidth (border.paint ['│']) = 1 := rowWidth_line border '│' (by decide) 1
  rw [hrows]
  intro row hrow
  simp only [List.cons_append, List.mem_cons, List.mem_append, List.mem_map, List.not_mem_nil,
    or_false] at hrow
  -- the upper edge, a row of the content between two sides, the lower edge
  rcases hrow with rfl | ⟨r, hr, rfl⟩ | rfl
  · exact htop hs
  · have hr := hc.rows r hr
    rw [rowWidth_append (hside.append (hr.fit inner)).settled, rowWidth_append hside.settled, hone,
      rowWidth_fit hr]
    omega
  · exact hbottom

theorem width_boxed (ht : Flat title) (hs : Solid title) (hc : Solid content) :
    Styled.width (boxed theme border title content inner) = inner + 2 :=
  width_of_forall (rowWidth_boxed theme border inner ht hs hc)

end

/-! ### Blocks on a frame -/

/-- Rows are changed one by one; those above and below the overlay stay. -/
theorem rows_onRows (base overlay : Text) (y : Nat) {change : Text → Text → Text}
    (hchange : ∀ row line, Flat row → Flat line → Flat (change row line)) :
    (onRows base overlay y change).rows = base.rows.mapIdx fun i row =>
      if i < y then row
      else
        match overlay.rows[i - y]? with
        | some line => change row line
        | none => row := by
  refine Text.rows_ofRows (by simpa using Text.rows_ne_nil base) fun row hrow => ?_
  obtain ⟨i, hi, rfl⟩ := List.mem_mapIdx.mp hrow
  have hbase : Flat base.rows[i] := flat_of_mem_rows (List.getElem_mem hi)
  -- whatever happens to a row, it stays one row
  split
  · exact hbase
  · split
    · rename_i line hline
      exact hchange _ _ hbase (flat_of_mem_rows (List.mem_of_getElem? hline))
    · exact hbase

variable (base : Text) {overlay line : Text} (x y : Nat) {i : Nat}

/-- A row under the overlay is cut around it. -/
theorem rows_floatAt (overlay : Text) : (floatAt base overlay x y).rows
    = base.rows.mapIdx fun i row =>
      if i < y then row
      else
        match overlay.rows[i - y]? with
        | some line =>
          Styled.splice row (Styled.fit line (Styled.width overlay)) x
            ++ Styled.skip row (x + Styled.width overlay)
        | none => row :=
  rows_onRows base overlay y fun _ _ hrow hline =>
    (hrow.splice (kind_flat.fit hline _) x).append (hrow.skip _)

theorem length_rows_floatAt (overlay : Text) :
    (floatAt base overlay x y).rows.length = base.rows.length := by
  rw [rows_floatAt, List.length_mapIdx]

/-- A row of the frame that no row of the block lies beside is kept. -/
theorem getElem?_floatAt_outside (h : i < y ∨ y + overlay.rows.length ≤ i) :
    (floatAt base overlay x y).rows[i]? = base.rows[i]? := by
  rw [rows_floatAt, List.getElem?_mapIdx]
  cases base.rows[i]? with
  | none => rfl
  | some row =>
    rw [Option.map_some]
    rcases h with h | h
    · rw [if_pos h]
    · have hbeyond : overlay.rows[i - y]? = none := List.getElem?_eq_none (by omega)
      rw [if_neg (by omega), hbeyond]

/-- A row of the frame beside a row of the block is split, and the row of the block is put between. -/
theorem getElem?_floatAt_beside (hline : overlay.rows[i]? = some line) :
    (floatAt base overlay x y).rows[y + i]? = base.rows[y + i]?.map fun row =>
      Styled.splice row (Styled.fit line (Styled.width overlay)) x
        ++ Styled.skip row (x + Styled.width overlay) := by
  have hsub : y + i - y = i := Nat.add_sub_cancel_left y i
  have hlow : ¬y + i < y := Nat.not_lt_of_le (Nat.le_add_right y i)
  rw [rows_floatAt, List.getElem?_mapIdx, hsub, hline]
  simp only [if_neg hlow]

/-- A row of a block that is as wide as the block stands in the frame, or lies beyond its end. -/
theorem infix_floatAt_iff (hline : overlay.rows[i]? = some line)
    (hwidth : rowWidth line = Styled.width overlay) :
    (∃ row, (floatAt base overlay x y).rows[y + i]? = some row ∧ line <:+: row) ↔
      y + i < base.rows.length := by
  constructor
  · rintro ⟨row, hrow, -⟩
    rw [← length_rows_floatAt base x y overlay]
    exact (List.getElem?_eq_some_iff.mp hrow).1
  · intro hi
    refine ⟨Styled.splice base.rows[y + i] (Styled.fit line (Styled.width overlay)) x
      ++ Styled.skip base.rows[y + i] (x + Styled.width overlay), ?_, ?_⟩
    · rw [getElem?_floatAt_beside base x y hline, List.getElem?_eq_getElem hi, Option.map_some]
    · rw [fit_of_rowWidth hwidth]
      exact ⟨_, _, rfl⟩

/-- A row of a centred block stands in the frame unless the block is too high for it. -/
theorem infix_floatCentered_iff (width : Nat) (hline : overlay.rows[i]? = some line)
    (hwidth : rowWidth line = Styled.width overlay) :
    (∃ row, (floatCentered base overlay width base.rows.length).rows[(base.rows.length
        - overlay.rows.length) / 2 + i]? = some row ∧ line <:+: row) ↔
      (base.rows.length - overlay.rows.length) / 2 + i < base.rows.length :=
  infix_floatAt_iff base _ _ hline hwidth

end AgentConsole.Frame
