import AgentConsole.Proofs.Styled.Cut

/-!
# Two ends of a row

`spread` sets two texts at the ends of a row and gives the right one priority: the left one is
truncated to what the right one and a gap of one column leave.  With a column to spare for that gap
both go side by side as they are, and the row is exactly full (`spread_of_lt`).

The gap is drawn in any case, though.  If the right text alone fills the row, the gap pushes it over
the edge and the row is cut behind it, so that the end of the right text gets lost.  And a text that
takes no columns is dropped altogether.  `spread_keeps_right_iff` is the exact condition: nothing of
the right text is lost, whatever stands left of it, if there is a column to spare, or if all that is
shown of it are blanks, of which the gap is one.
-/

namespace AgentConsole.Styled

variable {left right row : Text} {room : Nat}

/-! ### Plain rows -/

/-- A text that repeats its first character one place further on is made of that character. -/
theorem eq_replicate_of_prefix_cons {α : Type} {a : α} {l : List α} (h : l <+: a :: l) :
    l = List.replicate l.length a := by
  induction l with
  | nil => rfl
  | cons b l ih =>
    obtain ⟨rfl, hrest⟩ := List.cons_prefix_cons.mp h
    rw [List.length_cons, List.replicate_succ, ← ih hrest]

/-- There is only one longest start. -/
theorem IsLongestStart.unique {t p q : Text} (hp : IsLongestStart p t room)
    (hq : IsLongestStart q t room) : p = q :=
  (hq.longest p hp.isPrefix hp.fits).eq_of_length_le (hp.longest q hq.isPrefix hq.fits).length_le

theorem esc_notMem_blank_cons {t : Text} (h : esc ∉ t) : esc ∉ ' ' :: t :=
  List.not_mem_cons_of_ne_of_not_mem (by decide) h

/-- Plain texts that stand side by side take their columns side by side. -/
theorem rowWidth_append_of_plain {a b : Text} (h : esc ∉ a ++ b) :
    rowWidth (a ++ b) = rowWidth a + rowWidth b := by
  have hsolid : Solid a := solid_of_notMem fun hmem => h (List.mem_append_left b hmem)
  exact rowWidth_append hsolid.settled b

/-- Of a plain row a cut keeps the longest start as it is. -/
theorem isLongestStart_cut_of_plain (hplain : esc ∉ row) (hrow : Flat row) (room : Nat) :
    IsLongestStart (cut row room).1 row room := by
  have hcut := cut_strip (solid_of_notMem hplain) room
  have hlongest := isLongestStart_cut hrow room
  rw [strip_of_notMem hplain] at hcut hlongest
  have hself : (cut row room).1 = strip (cut row room).1 := congrArg Prod.fst hcut
  rwa [← hself] at hlongest

/-! ### With and without a column to spare -/

/-- With a column to spare for the gap, the two texts stand side by side and fill the row. -/
theorem spread_of_lt (hl : Solid left) (hr : Flat right) (hpos : 0 < width right)
    (hroom : width right < room) : spread left right room
      = fit (truncate left (room - (width right + 1))) (room - (width right + 1)) ++ ' ' :: right := by
  have hfitted := hl.truncate (room - (width right + 1))
  have hfull : rowWidth (fit (truncate left (room - (width right + 1))) (room - (width right + 1))
      ++ ' ' :: right) = room := by
    rw [rowWidth_append (hfitted.fit _).settled, rowWidth_fit hfitted, rowWidth_cons (by decide),
      Unicode.columns_space, ← hr.width]
    omega
  unfold spread
  rw [if_neg (Nat.ne_of_gt hpos)]
  exact fit_of_rowWidth hfull

/-- Without one, nothing but what takes no columns is left of the left text. -/
theorem exists_spread_of_ge (hl : Flat left) (hls : Solid left) (hpos : 0 < width right)
    (hroom : room ≤ width right) : ∃ lead, Flat lead ∧ Solid lead ∧ rowWidth lead = 0
      ∧ (left = [] → lead = []) ∧ spread left right room = fit (lead ++ ' ' :: right) room := by
  have hnone : room - (width right + 1) = 0 := Nat.sub_eq_zero_of_le (by omega)
  refine ⟨fit (truncate left 0) 0, ?_, ?_, ?_, ?_, ?_⟩
  · exact kind_flat.fit (kind_flat.truncate hl 0) 0
  · exact (hls.truncate 0).fit 0
  · exact rowWidth_fit (hls.truncate 0) 0
  · rintro rfl
    rfl
  · unfold spread
    rw [if_neg (Nat.ne_of_gt hpos), hnone]

/-- In any case the row is exactly as wide as it is meant to be. -/
theorem rowWidth_spread (hl : Solid left) (hr : Solid right) (room : Nat) :
    rowWidth (spread left right room) = room := by
  unfold spread
  split
  · exact rowWidth_fit hl room
  · exact rowWidth_fit (((hl.truncate _).fit _).append (hr.cons (by decide))) room

theorem width_spread (hl : Flat left) (hls : Solid left) (hr : Flat right) (hrs : Solid right)
    (room : Nat) : width (spread left right room) = room := by
  rw [(kind_flat.spread hl hr room).width, rowWidth_spread hls hrs]

/-! ### What gets lost -/

/-- A blank text is pushed over the edge by a blank, and is the same as before. -/
theorem fit_blank {lead : Text} (hplain : esc ∉ lead) (hflat : Flat lead) (hzero : rowWidth lead = 0)
    (room : Nat) : fit (lead ++ ' ' :: Text.spaces room) room = lead ++ Text.spaces room := by
  have hwidth : rowWidth (lead ++ Text.spaces room) = room := by
    rw [rowWidth_append (solid_of_notMem hplain).settled, hzero, rowWidth_spaces, Nat.zero_add]
  have hrow : lead ++ ' ' :: Text.spaces room = (lead ++ Text.spaces room) ++ ' ' :: [] := by
    rw [List.append_assoc, Text.spaces, ← List.replicate_succ, List.replicate_succ']
  have hplainRow : esc ∉ (lead ++ Text.spaces room) ++ ' ' :: [] :=
    List.not_mem_append (List.not_mem_append hplain (esc_notMem_spaces room))
      (esc_notMem_blank_cons List.not_mem_nil)
  have hflatRow : Flat ((lead ++ Text.spaces room) ++ ' ' :: []) :=
    (hflat.append (kind_flat.spaces room)).append (Flat.one (by decide))
  -- the cut is before the last blank, since all others fit
  have hcut : (cut ((lead ++ Text.spaces room) ++ ' ' :: []) room).1 = lead ++ Text.spaces room := by
    apply (isLongestStart_cut_of_plain hplainRow hflatRow room).unique
    apply isLongestStart_append hplainRow hflatRow
    · exact Nat.le_of_eq hwidth
    · rw [hwidth, Unicode.columns_space]
      exact Nat.lt_succ_self room
  unfold fit
  rw [hrow, hcut, pad, hwidth, Nat.sub_self]
  exact List.append_nil _

/-- A cut behind a blank: the blank is kept, and the start of what follows it. -/
theorem exists_fit_blank_cons (hplain : esc ∉ right) (hr : Flat right) (hpos : 0 < room) :
    ∃ kept n, kept <+: right ∧ fit (' ' :: right) room = ' ' :: (kept ++ Text.spaces n) := by
  have hlongest := isLongestStart_cut_of_plain (esc_notMem_blank_cons hplain) (hr.cons (by decide)) room
  -- there is room for the blank, so the longest beginning has it
  have hfirst : [' '] <+: (cut (' ' :: right) room).1 := by
    apply hlongest.longest
    · exact ⟨right, rfl⟩
    · show 1 ≤ room
      exact hpos
  obtain ⟨kept, hkept⟩ := hfirst
  refine ⟨kept, room - rowWidth (cut (' ' :: right) room).1, ?_, ?_⟩
  · have hstart := hlongest.isPrefix
    rw [← hkept] at hstart
    exact (List.cons_prefix_cons.mp hstart).2
  · exact congrArg (· ++ Text.spaces _) hkept.symm

/-- A plain text that is pushed over the edge by a blank, and still ends the row, is blank. -/
theorem eq_spaces_of_suffix_fit (hplain : esc ∉ right) (hr : Flat right) (hpos : 0 < room)
    (hwidth : rowWidth right = room) (h : right <:+ fit (' ' :: right) room) :
    right = Text.spaces room := by
  have hfull := rowWidth_fit (solid_of_notMem (esc_notMem_blank_cons hplain)) room
  obtain ⟨kept, n, hkept, hfit⟩ := exists_fit_blank_cons hplain hr hpos
  obtain ⟨front, hfront⟩ := h
  rw [hfit] at hfront hfull
  have hplainRow : esc ∉ ' ' :: (kept ++ Text.spaces n) := by
    refine esc_notMem_blank_cons (List.not_mem_append ?_ (esc_notMem_spaces n))
    exact fun hmem => hplain (hkept.subset hmem)
  rw [← hfront] at hfull hplainRow
  rw [rowWidth_append_of_plain hplainRow, hwidth] at hfull
  rcases front with - | ⟨c, front⟩
  · -- the text is its own start, behind a blank
    have hself : right = (' ' :: kept) ++ Text.spaces n := hfront
    have hrepeats : kept <+: ' ' :: kept := by
      apply List.prefix_of_prefix_length_le (hself ▸ hkept) (List.prefix_append _ _)
      exact Nat.le_succ _
    have hblank : right = Text.spaces (kept.length + 1 + n) := by
      rw [hself, eq_replicate_of_prefix_cons hrepeats]
      simp [Text.spaces, ← List.replicate_succ]
    rw [hblank, rowWidth_spaces] at hwidth
    rw [hblank, hwidth]
  · -- the blank would take a column that the text does not leave
    obtain ⟨rfl, -⟩ := List.cons.inj hfront
    rw [rowWidth_cons (by decide), Unicode.columns_space] at hfull
    omega

/-! ### The right text behind any left one -/

theorem Flat.rowWidth_strip (hr : Flat right) : rowWidth (Styled.strip right) = Styled.width right :=
  (Styled.rowWidth_strip right).trans hr.width.symm

/-- A text without columns is not drawn.  There are only blanks, which take columns. -/
theorem eq_nil_of_suffix_spread (hr : Flat right) (hzero : width right = 0)
    (h : strip right <:+ strip (spread [] right room)) : strip right = [] := by
  have hblank : strip (spread [] right room) = Text.spaces room := by
    unfold spread
    rw [if_pos hzero, fit_of_le (Nat.zero_le room)]
    exact strip_spaces room
  rw [hblank] at h
  have hspaces : strip right = Text.spaces (strip right).length :=
    List.eq_replicate_of_mem fun c hc => Text.mem_spaces (h.subset hc)
  have hcolumns := hr.rowWidth_strip
  rw [hspaces, rowWidth_spaces, hzero] at hcolumns
  exact List.length_eq_zero_iff.mp hcolumns

/-- What stands at the end of the row takes no more columns than the row. -/
theorem width_le_of_suffix_spread (hl : Flat left) (hls : Solid left) (hr : Flat right)
    (hrs : Solid right) (h : strip right <:+ strip (spread left right room)) :
    width right ≤ room := by
  obtain ⟨front, hfront⟩ := h
  have hfull := (kind_flat.spread hl hr room).rowWidth_strip
  have hplain := esc_notMem_strip (spread left right room)
  rw [width_spread hl hls hr hrs room] at hfull
  rw [← hfront] at hfull hplain
  rw [rowWidth_append_of_plain hplain, hr.rowWidth_strip] at hfull
  omega

/-- A text that fills the row by itself and still ends it is blank. -/
theorem eq_spaces_of_suffix_spread (hr : Flat right) (hrs : Solid right) (hpos : 0 < room)
    (hexact : width right = room) (h : strip right <:+ strip (spread [] right room)) :
    strip right = Text.spaces room := by
  obtain ⟨lead, -, -, -, hlead, hspread⟩ :=
    exists_spread_of_ge Flat.nil Solid.nil (hexact.symm ▸ hpos) (Nat.le_of_eq hexact.symm)
  have hrow : Solid (' ' :: right) := hrs.cons (by decide)
  rw [hlead rfl, List.nil_append] at hspread
  rw [hspread, strip_fit hrow, strip_cons (by decide)] at h
  exact eq_spaces_of_suffix_fit (esc_notMem_strip right) hr.strip hpos
    (hr.rowWidth_strip.trans hexact) h

/-- With a column to spare the row ends in all that the right text shows. -/
theorem suffix_spread_of_lt (hl : Solid left) (hr : Flat right) (hpos : 0 < width right)
    (hroom : width right < room) : strip right <:+ strip (spread left right room) := by
  have hlead := (hl.truncate (room - (width right + 1))).fit (room - (width right + 1))
  rw [spread_of_lt hl hr hpos hroom, strip_append hlead.settled, strip_cons (by decide)]
  exact (List.suffix_cons _ _).trans (List.suffix_append _ _)

/-- A row of blanks ends in blanks. -/
theorem suffix_spread_of_eq_spaces (hl : Flat left) (hls : Solid left) (hr : Flat right)
    (hrs : Solid right) (hpos : 0 < width right) (hblank : strip right = Text.spaces room) :
    strip right <:+ strip (spread left right room) := by
  have hexact : width right = room := by rw [← hr.rowWidth_strip, hblank, rowWidth_spaces]
  obtain ⟨lead, hlead, hsolid, hzero, -, hspread⟩ :=
    exists_spread_of_ge hl hls hpos (Nat.le_of_eq hexact.symm)
  have hrow : Solid (' ' :: right) := hrs.cons (by decide)
  rw [hspread, strip_fit (hsolid.append hrow), strip_append hsolid.settled, strip_cons (by decide),
    hblank, fit_blank (esc_notMem_strip lead) hlead.strip ((rowWidth_strip lead).trans hzero)]
  exact List.suffix_append _ _

/-- **When all of the right text is kept.**  The row is as wide as it is meant to be.  It ends in all
that the right text shows, whatever the left text is, if and only if that is nothing, or takes columns
of which the row has one more, or is blank. -/
theorem spread_keeps_right_iff (hr : Flat right) (hfinished : EscapeComplete right) (room : Nat) :
    (∀ left, Flat left → EscapeComplete left → width (spread left right room) = room)
      ∧ ((∀ left, Flat left → EscapeComplete left → strip right <:+ strip (spread left right room)) ↔
        strip right = [] ∨ 0 < width right
          ∧ (width right < room ∨ strip right = Text.spaces room)) := by
  have hrs := hfinished.solid hr
  refine ⟨fun left hl hlf => width_spread hl (hlf.solid hl) hr hrs room, ?_, ?_⟩
  · -- a row without anything on the left tells
    -- the text has no width, or it has some and room is looked at
    intro hall
    have hsuffix := hall [] Flat.nil Solid.nil.escapeComplete
    rcases Nat.eq_zero_or_pos (width right) with hzero | hpos
    · exact .inl (eq_nil_of_suffix_spread hr hzero hsuffix)
    · refine .inr ⟨hpos, ?_⟩
      have hle := width_le_of_suffix_spread Flat.nil Solid.nil hr hrs hsuffix
      rcases Nat.lt_or_eq_of_le hle with hroom | hexact
      · exact .inl hroom
      · exact .inr (eq_spaces_of_suffix_spread hr hrs (hexact ▸ hpos) hexact hsuffix)
  · rintro (hnone | ⟨hpos, hroom | hblank⟩) left hl hlf
    · rw [hnone]
      exact List.nil_suffix
    · exact suffix_spread_of_lt (hlf.solid hl) hr hpos hroom
    · exact suffix_spread_of_eq_spaces hl (hlf.solid hl) hr hrs hpos hblank

/-- A bold text with a wide character keeps its columns beside a red one that is truncated. -/
theorem spread_keeps_right_iff_wide :
    let left : Text := "\x1b[31magentdeck".toList
    let right : Text := "\x1b[1m世2\x1b[0m".toList
    Flat right ∧ EscapeComplete right ∧ Flat left ∧ EscapeComplete left
      ∧ spread left right 12 = "\x1b[31magent\x1b[0m... \x1b[1m世2\x1b[0m".toList
      ∧ width (spread left right 12) = 12 ∧ strip right <:+ strip (spread left right 12) := by
  intro left right
  have hright : Flat right := by decide +kernel
  have hrightComplete : IsComplete right := by decide +kernel
  have hleft : Flat left := by decide +kernel
  have hleftComplete : IsComplete left := by decide +kernel
  have hrf := hrightComplete.solid.escapeComplete
  have hlf := hleftComplete.solid.escapeComplete
  obtain ⟨hwidth, hkeeps⟩ := spread_keeps_right_iff hright hrf 12
  have hroom : 0 < width right ∧ width right < 12 := by decide +kernel
  have hsuffix := hkeeps.mpr (.inr ⟨hroom.1, .inl hroom.2⟩) left hleft hlf
  exact ⟨hright, hrf, hleft, hlf, by decide +kernel, hwidth left hleft hlf, hsuffix⟩

/-- A text that fills the row by itself loses its last column to the gap. -/
theorem spread_cuts_right :
    let left : Text := ['a']
    let right : Text := ['b', 'c']
    Flat left ∧ IsComplete left ∧ Flat right ∧ IsComplete right ∧ width right ≤ 2
      ∧ spread left right 2 = [' ', 'b'] ∧ ¬ strip right <:+ strip (spread left right 2) := by
  decide +kernel

end AgentConsole.Styled
