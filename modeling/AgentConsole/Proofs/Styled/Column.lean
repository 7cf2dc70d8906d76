import AgentConsole.Proofs.Styled.Flat
import AgentConsole.Proofs.Styled.Strip
import AgentConsole.Proofs.Styled.Style

/-!
# Splitting a row at a column

`splice` keeps what stands before a column and `skip` what stands behind it.  They read the row in
different ways, but they agree where it is split: `SplitAt` is one relation for both of them
(`exists_split`).  Either the row ends before the column, or the column lies between two characters,
or it runs through a wide one, of which nothing but blank columns is left on either side.

What is put in place of the second half therefore begins exactly at the column (`splice_lands`), and
it does not take over any style of the first half: if one is in force there, it is closed.
-/

namespace AgentConsole.Styled

variable {row front rest overlay : Text} {column : Nat}

/-! ### Plain rows -/

/-- How a column splits a plain row: into the characters that end before it, and what is shown behind
it.  Characters without a width that stand at the column belong to what is behind. -/
inductive SplitAt (column : Nat) : Text → Text → Text → Prop
  /-- The row ends before the column. -/
  | short {row : Text} (h : rowWidth row < column) : SplitAt column row row []
  /-- The column lies between two characters. -/
  | between {front rest : Text} (h : rowWidth front = column)
    (hfirst : ∀ p, p <+: front → rowWidth p = column → p = front) :
    SplitAt column (front ++ rest) front rest
  /-- The column runs through a wide character, whose second half is left blank. -/
  | across {front rest : Text} {c : Char} (h : rowWidth front < column)
    (hc : column < rowWidth front + Unicode.columns c) :
    SplitAt column (front ++ c :: rest) front (' ' :: rest)

namespace SplitAt

/-- What stands before the column begins the row. -/
theorem isPrefix (h : SplitAt column row front rest) : front <+: row := by
  cases h with
  | short => exact List.prefix_refl _
  | between => exact List.prefix_append _ _
  | across => exact List.prefix_append _ _

theorem rowWidth_le (h : SplitAt column row front rest) : rowWidth front ≤ column := by
  cases h with
  | short h => exact Nat.le_of_lt h
  | between h => exact Nat.le_of_eq h
  | across h => exact Nat.le_of_lt h

/-- Nothing stands before the first column. -/
theorem zero (row : Text) : SplitAt 0 row [] row := by
  show SplitAt 0 ([] ++ row) [] row
  apply between
  · rfl
  · intro p hp _
    exact List.prefix_nil.mp hp

/-- A character that does not go beyond the column is kept. -/
theorem cons {c : Char} (hc : c ≠ esc) (hcolumn : column ≠ 0) (hroom : Unicode.columns c ≤ column)
    (h : SplitAt (column - Unicode.columns c) row front rest) :
    SplitAt column (c :: row) (c :: front) rest := by
  have hcons (t : Text) : rowWidth (c :: t) = Unicode.columns c + rowWidth t := rowWidth_cons hc t
  -- the place of the column is the same; only the beginning of the row is one character longer
  cases h with
  | short h =>
    apply short
    rw [hcons]
    omega
  | between h hfirst =>
    rw [← List.cons_append]
    apply between
    · rw [hcons]
      omega
    · intro p hp hwidth
      -- no beginning is as wide before: the empty one ends at column 0, the others are longer by
      -- `c`
      rcases List.prefix_cons_iff.mp hp with rfl | ⟨q, rfl, hq⟩
      · exact absurd hwidth.symm hcolumn
      · rw [hcons] at hwidth
        rw [hfirst q hq (by omega)]
  | across h hnext =>
    rw [← List.cons_append]
    apply across
    · rw [hcons]
      omega
    · rw [hcons]
      omega

/-- With characters of two columns at the most, there is no more than one blank before the column,
unless the row is too short. -/
theorem blank_le_one (h : SplitAt column row front rest)
    (hnarrow : ∀ c ∈ row, Unicode.columns c ≤ 2) : front = row ∨ column ≤ rowWidth front + 1 := by
  cases h with
  | short => exact .inl rfl
  | between h => exact .inr (by omega)
  | @across _ _ c h hc =>
    have hwide := hnarrow c (by simp)
    exact .inr (by omega)

/-- With characters of two columns at the most, nothing of the row behind the column gets lost. -/
theorem rowWidth_rest (h : SplitAt column row front rest) (hplain : esc ∉ row)
    (hnarrow : ∀ c ∈ row, Unicode.columns c ≤ 2) : rowWidth rest = rowWidth row - column := by
  have hfront : Settled front :=
    (solid_of_notMem fun hmem => hplain (h.isPrefix.subset hmem)).settled
  -- a wide character across the column leaves its second half, as a blank
  cases h with
  | short h => exact (Nat.sub_eq_zero_of_le (Nat.le_of_lt h)).symm
  | between h =>
    rw [rowWidth_append hfront]
    omega
  | @across _ _ c h hc =>
    have hwide := hnarrow c (by simp)
    have hesc : c ≠ esc := by
      rintro rfl
      exact hplain (by simp)
    rw [rowWidth_append hfront, rowWidth_cons hesc, rowWidth_cons (by decide), Unicode.columns_space]
    omega

end SplitAt

@[simp] theorem before_nil (styled : Bool) (room : Nat) :
    before styled room [] = closing styled ++ Text.spaces room := rfl

theorem before_escape (styled : Bool) {room : Nat} (hroom : room ≠ 0) (e : Text) (ts : List Token) :
    before styled room (.escape e :: ts) = e ++ before (styledAfter styled e) room ts := if_neg hroom

theorem before_glyph (styled : Bool) {room : Nat} (hroom : room ≠ 0) (c : Char) (ts : List Token) :
    before styled room (.glyph c :: ts)
      = if room < Unicode.columns c then ' ' :: closing styled ++ Text.spaces (room - 1)
        else c :: before styled (room - Unicode.columns c) ts := if_neg hroom

/-- A plain row gives its characters up one by one, until one goes beyond the column. -/
theorem skip_cons {c : Char} (hplain : esc ∉ c :: row) (hcolumn : column ≠ 0) :
    skip (c :: row) column
      = if Unicode.columns c ≤ column then skip row (column - Unicode.columns c) else ' ' :: row := by
  have hrow : esc ∉ row := fun hmem => hplain (List.mem_cons_of_mem c hmem)
  have hskip : skip (c :: row) column = after [] column ((c :: row).map .glyph) := by
    rw [← tokens_of_notMem hplain]
    exact if_neg hcolumn
  rw [hskip, List.map_cons]
  unfold after
  -- the character ends before the column, at it, or behind it
  rcases Nat.lt_trichotomy (Unicode.columns c) column with hlt | heq | hgt
  · rw [if_pos hlt, if_pos (Nat.le_of_lt hlt)]
    unfold skip
    rw [if_neg (Nat.sub_ne_zero_of_lt hlt), tokens_of_notMem hrow]
  · rw [if_neg (Nat.not_lt_of_le (Nat.le_of_eq heq.symm)), if_pos heq, if_pos (Nat.le_of_eq heq),
      heq, Nat.sub_self, sources_map_glyph]
    rfl
  · rw [if_neg (Nat.not_lt_of_gt hgt), if_neg (Nat.ne_of_gt hgt), if_neg (Nat.not_le_of_gt hgt),
      sources_map_glyph]
    rfl

/-- Both halves of a plain row: what is before the column is filled up to it. -/
theorem exists_splitAt (hplain : esc ∉ row) (column : Nat) : ∃ front rest,
    SplitAt column row front rest ∧ before false column (row.map .glyph) = pad front column
      ∧ skip row column = rest := by
  -- the row is eaten up character by character, and the column moves to the left by their widths
  induction row generalizing column with
  | nil =>
    by_cases hcolumn : column = 0
    · subst hcolumn
      exact ⟨[], [], .zero [], rfl, rfl⟩
    · exact ⟨[], [], .short (Nat.pos_of_ne_zero hcolumn), rfl, if_neg hcolumn⟩
  | cons c row ih =>
    by_cases hcolumn : column = 0
    · subst hcolumn
      exact ⟨[], c :: row, .zero _, before_zero _ _, rfl⟩
    · have hskip := skip_cons hplain hcolumn
      simp only [List.mem_cons, not_or] at hplain
      obtain ⟨hc, hplain⟩ := hplain
      rw [List.map_cons, before_glyph false hcolumn]
      by_cases hroom : Unicode.columns c ≤ column
      · -- the character is kept, and the column is looked for in what follows
        obtain ⟨front, rest, hsplit, hfront, hrest⟩ := ih hplain (column - Unicode.columns c)
        refine ⟨c :: front, rest, hsplit.cons (Ne.symm hc) hcolumn hroom, ?_, ?_⟩
        · unfold pad
          rw [if_neg (Nat.not_lt_of_le hroom), hfront, rowWidth_cons (Ne.symm hc), ← Nat.sub_sub]
          rfl
        · rw [hskip, if_pos hroom, hrest]
      · -- the character lies across the column
        have hacross : column < rowWidth [] + Unicode.columns c := by
          show column < 0 + Unicode.columns c
          omega
        refine ⟨[], ' ' :: row, .across (Nat.pos_of_ne_zero hcolumn) hacross, ?_, ?_⟩
        · obtain ⟨n, rfl⟩ := Nat.exists_eq_succ_of_ne_zero hcolumn
          rw [if_pos (Nat.lt_of_not_le hroom)]
          rfl
        · rw [hskip, if_neg hroom]

/-! ### Styled rows -/

/-- Both halves of a row, stripped, are the halves of the stripped row. -/
theorem exists_split (h : Solid row) (column : Nat) : ∃ front rest,
    SplitAt column (strip row) front rest
      ∧ strip (before false column (tokens row)) = pad front column
      ∧ strip (skip row column) = rest := by
  obtain ⟨front, rest, hsplit, hbefore, hskip⟩ := exists_splitAt (esc_notMem_strip row) column
  refine ⟨front, rest, hsplit, ?_, ?_⟩
  · rw [strip_before h]
    exact hbefore
  · rw [strip_skip h]
    exact hskip

/-- The first half reaches exactly up to the column. -/
theorem rowWidth_before (h : Solid row) (column : Nat) :
    rowWidth (before false column (tokens row)) = column := by
  obtain ⟨front, rest, hsplit, hbefore, -⟩ := exists_split h column
  have hfront : Solid front :=
    solid_of_notMem fun hmem => esc_notMem_strip row (hsplit.isPrefix.subset hmem)
  rw [← rowWidth_strip, hbefore, rowWidth_pad hfront]
  exact Nat.max_eq_right hsplit.rowWidth_le

/-- The second half has the columns that are left. -/
theorem rowWidth_skip (h : Solid row) (hnarrow : ∀ c ∈ strip row, Unicode.columns c ≤ 2)
    (column : Nat) : rowWidth (skip row column) = rowWidth row - column := by
  obtain ⟨front, rest, hsplit, -, hskip⟩ := exists_split h column
  rw [← rowWidth_strip (skip row column), hskip,
    hsplit.rowWidth_rest (esc_notMem_strip row) hnarrow, rowWidth_strip]

/-! ### Styles -/

theorem inForce_spaces (styles : List Text) (n : Nat) :
    inForce styles (tokens (Text.spaces n)) = styles := by
  rw [tokens_of_notMem (esc_notMem_spaces n)]
  induction n with
  | zero => rfl
  | succ n ih => exact ih

theorem inForce_source {styles : List Text} {k : Token} (hk : k.IsSolid) (t : Text) :
    inForce styles (tokens (k.source ++ t)) = inForce (inForceAfter styles k) (tokens t) := by
  rw [tokens_append hk.2.1, hk.1, inForce_append]
  rfl

/-- Where the first half ends, all renditions that came from its tokens are given up. -/
theorem inForce_before {ts : List Token} (h : ∀ k ∈ ts, k.IsSolid) {styles : List Text}
    (hstyles : ∀ e ∈ styles, IsLasting e) (room : Nat) :
    inForce styles (tokens (before (!styles.flatten.isEmpty) room ts)) = [] := by
  -- the invariant is that the flag says whether any style is in force
  induction ts generalizing styles room with
  | nil =>
    rw [before_nil, tokens_append (solid_closing _).settled, inForce_append, inForce_closing hstyles,
      inForce_spaces]
  | cons k ts ih =>
    have hk := h k List.mem_cons_self
    have hts := fun l hl => h l (List.mem_cons_of_mem k hl)
    by_cases hroom : room = 0
    · subst hroom
      rw [before_zero]
      exact inForce_closing hstyles
    · cases k with
      | escape e =>
        have hafter : ∀ d ∈ inForceAfter styles (.escape e), IsLasting d :=
          @forall_isLasting_inForce styles [.escape e] hstyles (by simpa using hk)
        rw [before_escape _ hroom, styledAfter_isEmpty]
        exact (inForce_source hk _).trans (ih hts hafter room)
      | glyph c =>
        rw [before_glyph _ hroom]
        split
        · -- a blank stands for the wide character, and then the row is closed
          have hspace : Solid [' '] := Solid.one (by decide)
          show inForce styles (tokens ([' '] ++ closing _ ++ Text.spaces (room - 1))) = []
          rw [tokens_append (hspace.append (solid_closing _)).settled, tokens_append hspace.settled,
            inForce_append, inForce_append, inForce_spaces]
          exact inForce_closing hstyles
        · exact (inForce_source hk _).trans (ih hts hstyles _)

theorem stylesAtEnd_before (h : Solid row) (column : Nat) :
    stylesAtEnd (before false column (tokens row)) = [] :=
  inForce_before h (fun _ he => absurd he List.not_mem_nil) column

/-! ### Splicing -/

/-- **A splice lands on its column.**  What stands in front of the overlay reaches exactly up to the
column and leaves no style in force there.  It shows the characters of the row that end before the
column, and blanks up to it: for a wide character that the column runs through, or for a row that is
too short. -/
theorem splice_lands (hrow : Flat row) (hfinished : EscapeComplete row) (hover : Flat overlay)
    (hoverFinished : EscapeComplete overlay) (column : Nat) :
    width (splice row overlay column) = column + width overlay
      ∧ EscapeComplete (splice row overlay column)
      ∧ (∃ left, splice row overlay column = left ++ overlay ∧ EscapeComplete left
        ∧ width left = column ∧ stylesAtEnd left = [])
      ∧ ∃ front rest, SplitAt column (strip row) front rest
        ∧ strip (splice row overlay column) = pad front column ++ strip overlay := by
  have hsolid := hfinished.solid hrow
  have hoverSolid := hoverFinished.solid hover
  have hleft : Solid (before false column (tokens row)) := solid_before hsolid false column
  have hleftFlat : Flat (before false column (tokens row)) :=
    flat_before ((sources_tokens row).symm ▸ hrow) false column
  have hwidth := rowWidth_before hsolid column
  -- the two parts are told apart by width because the first is complete
  refine ⟨?_, (hsolid.splice hoverSolid column).escapeComplete, ?_, ?_⟩
  · rw [(hrow.splice hover column).width, hover.width]
    show rowWidth (before false column (tokens row) ++ overlay) = _
    rw [rowWidth_append hleft.settled, hwidth]
  · exact ⟨_, rfl, hleft.escapeComplete, hleftFlat.width.trans hwidth, stylesAtEnd_before hsolid column⟩
  · obtain ⟨front, rest, hsplit, hbefore, -⟩ := exists_split hsolid column
    refine ⟨front, rest, hsplit, ?_⟩
    show strip (before false column (tokens row) ++ overlay) = _
    rw [strip_append hleft.settled, hbefore]

/-- The column runs through the second wide character of a red row. -/
theorem splice_lands_red :
    let row : Text := "\x1b[31m日本語".toList
    let overlay : Text := "\x1b[1mok".toList
    Flat row ∧ Flat overlay ∧ IsComplete row ∧ IsComplete overlay
      ∧ splice row overlay 3 = "\x1b[31m日 \x1b[0m\x1b[1mok".toList
      ∧ width (splice row overlay 3) = 3 + width overlay
      ∧ EscapeComplete (splice row overlay 3)
      ∧ ∃ left, splice row overlay 3 = left ++ overlay ∧ stylesAtEnd left = [] := by
  intro row overlay
  have hrow : Flat row := by decide +kernel
  have hover : Flat overlay := by decide +kernel
  have hrowComplete : IsComplete row := by decide +kernel
  have hoverComplete : IsComplete overlay := by decide +kernel
  obtain ⟨hwidth, hfinished, ⟨left, hleft, -, -, hstyles⟩, -⟩ := splice_lands hrow
    hrowComplete.solid.escapeComplete hover hoverComplete.solid.escapeComplete 3
  exact ⟨hrow, hover, hrowComplete, hoverComplete, by decide +kernel, hwidth, hfinished, left, hleft,
    hstyles⟩

end AgentConsole.Styled
