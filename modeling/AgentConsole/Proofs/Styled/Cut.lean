import AgentConsole.Proofs.Styled.Flat
import AgentConsole.Proofs.Styled.Strip
import AgentConsole.Proofs.Styled.Style

/-!
# Longest starts

A cut keeps of a row the longest start that fits: the glyph at which it stops would be too much
(`cut_longest`).  Nothing is asked of the row.  If it ends inside an escape sequence, then that
sequence is its last token, and whatever is cut off takes it along; so what is left is solid,
and with a reset behind it no style is in force at its end.

An ellipsis is written behind such a start and is not looked at again.  That the text still fits
(`truncate_fits`) does not need the sequences to be finished: one that is left open swallows the
ellipsis, or a part of it, and takes no room either.
-/

namespace AgentConsole.Styled

/-! ### Starts of a plain row -/

/-- A start of a plain row is not wider than the row. -/
theorem rowWidth_le_of_prefix {start row : Text} (hrow : esc ∉ row) (h : start <+: row) :
    rowWidth start ≤ rowWidth row := by
  obtain ⟨rest, rfl⟩ := h
  have hstart : esc ∉ start := fun hmem => hrow (List.mem_append_left _ hmem)
  rw [rowWidth_append (solid_of_notMem hstart).settled]
  exact Nat.le_add_right _ _

/-- Is it the longest start of the text that fits into the room? -/
structure IsLongestStart (start t : Text) (room : Nat) : Prop where
  isPrefix : start <+: t
  fits : width start ≤ room
  longest : ∀ p, p <+: t → width p ≤ room → p <+: start

theorem isLongestStart_self {t : Text} {room : Nat} (h : width t ≤ room) : IsLongestStart t t room :=
  ⟨List.prefix_refl t, h, fun _ hp _ => hp⟩

/-- A start that fits is the longest one if the next character is too wide for what is left. -/
theorem isLongestStart_append {start rest : Text} {c : Char} {room : Nat}
    (hplain : esc ∉ start ++ c :: rest) (hflat : Flat (start ++ c :: rest))
    (hfits : rowWidth start ≤ room) (hnext : room < rowWidth start + Unicode.columns c) :
    IsLongestStart start (start ++ c :: rest) room := by
  have hstart : esc ∉ start := fun hmem => hplain (List.mem_append_left _ hmem)
  have hc : c ≠ esc := by
    rintro rfl
    exact hplain (by simp)
  have hmore : rowWidth (start ++ [c]) = rowWidth start + Unicode.columns c := by
    rw [rowWidth_append (solid_of_notMem hstart).settled, rowWidth_cons hc]
    rfl
  refine ⟨List.prefix_append _ _, ?_, ?_⟩
  · rw [(hflat.of_subset fun _ hmem => List.mem_append_left _ hmem).width]
    exact hfits
  · intro p hp hroom
    have hflatp : Flat p := hflat.of_subset fun _ hmem => hp.subset hmem
    have hplainp : esc ∉ p := fun hmem => hplain (hp.subset hmem)
    rw [hflatp.width] at hroom
    -- whatever goes beyond the start holds the next character as well
    have hshort : ¬start ++ [c] <+: p := by
      intro hlong
      have hwide := rowWidth_le_of_prefix hplainp hlong
      omega
    have hmid : start ++ [c] <+: start ++ c :: rest := ⟨rest, by simp⟩
    rcases List.prefix_or_prefix_of_prefix hp hmid with hin | hout
    · rcases List.prefix_concat_iff.mp hin with rfl | hin
      · exact absurd (List.prefix_refl _) hshort
      · exact hin
    · exact absurd hout hshort

/-! ### Cutting -/

theorem strip_closed {us : List Token} (h : ∀ k ∈ us, k.IsSolid) (styled : Bool) :
    strip (sources us ++ closing styled) = shown us := by
  rw [strip_append (settled_sources h), strip_sources h, strip_closing, List.append_nil]

theorem strip_of_split {row : Text} {us vs : List Token} {c : Char}
    (h : tokens row = us ++ .glyph c :: vs) : strip row = shown us ++ c :: shown vs := by
  rw [strip_eq_shown, h, shown_append, shown_glyph]

theorem isLongestStart_cut {row : Text} (hrow : Flat row) (room : Nat) :
    IsLongestStart (strip (cut row room).1) (strip row) room := by
  -- either the whole row fits, or there is a first character that does not
  obtain ⟨hfits, hcut⟩ | ⟨us, c, vs, hts, hroom, hnext, hcut⟩ := cut_cases row room
  · rw [hcut]
    apply isLongestStart_self
    rw [hrow.strip.width, rowWidth_strip]
    exact hfits
  · have hsolid := forall_isSolid_of_split hrow hts (.inl (List.cons_ne_nil _ vs))
    have hstrip := strip_of_split hts
    have hwidth : rowWidth (shown us) = columnsOf us := by
      rw [← strip_closed hsolid false, rowWidth_strip, rowWidth_closed hsolid]
    rw [hcut, strip_closed hsolid, hstrip]
    apply isLongestStart_append
    · exact hstrip ▸ esc_notMem_strip row
    · exact hstrip ▸ hrow.strip
    · rw [hwidth]
      exact hroom
    · rw [hwidth]
      exact hnext

/-- **A cut keeps the longest start that fits.**  The width it tells is the width of what it gives.
Either it leaves the row as it is, or it drops a character; then all sequences that are left are
finished, and no style is in force at the end. -/
theorem cut_longest {row : Text} (hrow : Flat row) (room : Nat) :
    width (cut row room).1 = (cut row room).2 ∧ (cut row room).2 ≤ room
      ∧ IsLongestStart (strip (cut row room).1) (strip row) room
      ∧ (strip (cut row room).1 = strip row → (cut row room).1 = row)
      ∧ (strip (cut row room).1 ≠ strip row →
          EscapeComplete (cut row room).1 ∧ stylesAtEnd (cut row room).1 = []) := by
  have hflat : Flat (cut row room).1 := newline_notMem_cut hrow room
  obtain ⟨htold, hroom⟩ := rowWidth_cut hrow room
  refine ⟨hflat.width.trans htold, hroom, isLongestStart_cut hrow room, ?_⟩
  -- the row is whole, or something visible is missing from it
  obtain ⟨-, hcut⟩ | ⟨us, c, vs, hts, -, -, hcut⟩ := cut_cases row room
  · rw [hcut]
    exact ⟨fun _ => rfl, fun hne => absurd rfl hne⟩
  · have hsolid := forall_isSolid_of_split hrow hts (.inl (List.cons_ne_nil _ vs))
    have hstrip := strip_of_split hts
    rw [hcut, strip_closed hsolid]
    refine ⟨fun heq => ?_, fun _ => ⟨?_, stylesAtEnd_closed hsolid⟩⟩
    · -- the character is missing
      rw [hstrip] at heq
      simp at heq
    · exact ((solid_sources hsolid).append (solid_closing _)).escapeComplete

/-- A bold and red row that ends inside a link is cut before a wide character. -/
theorem cut_longest_bold :
    let row : Text := "\x1b[1mab\x1b[31m世c\x1b]8;;u".toList
    Flat row ∧ cut row 3 = ("\x1b[1mab\x1b[31m\x1b[0m".toList, 2)
      ∧ IsLongestStart (strip (cut row 3).1) (strip row) 3
      ∧ EscapeComplete (cut row 3).1 ∧ stylesAtEnd (cut row 3).1 = [] := by
  intro row
  have hrow : Flat row := by decide +kernel
  have hne : strip (cut row 3).1 ≠ strip row := by decide +kernel
  obtain ⟨-, -, hlongest, -, hdropped⟩ := cut_longest hrow 3
  exact ⟨hrow, by decide +kernel, hlongest, hdropped hne⟩

/-! ### Truncating -/

/-- **A truncated text fits, whatever the text is.**  It is the text itself exactly if that fits.
Else, with room for more than the ellipsis, it ends in one; before that stands what shows the longest
start of the first row that leaves the ellipsis its room. -/
theorem truncate_fits (t : Text) (room : Nat) :
    width (truncate t room) ≤ room
      ∧ (truncate t room = t ↔ width t ≤ room)
      ∧ (room < width t → 3 < room → ∃ kept, truncate t room = kept ++ ['.', '.', '.']
        ∧ IsLongestStart (strip kept) (strip t.firstRow) (room - 3)
        ∧ (EscapeComplete t.firstRow →
            strip (truncate t room) = strip kept ++ ['.', '.', '.'])) := by
  have hfits := width_truncate_le t room
  have hfirst := flat_firstRow t
  refine ⟨hfits, ⟨fun heq => heq ▸ hfits, fun h => if_pos h⟩, ?_⟩
  intro hwide hroom
  -- more than three columns: what is cut leaves room for the dots
  have htruncate : truncate t room = (cut t.firstRow (room - 3)).1 ++ ellipsis := by
    unfold truncate
    rw [if_neg (Nat.not_le_of_lt hwide)]
    exact if_neg (Nat.not_le_of_lt hroom)
  refine ⟨_, htruncate, isLongestStart_cut hfirst (room - 3), fun hcomplete => ?_⟩
  have hsolid := (hcomplete.solid hfirst).cut (room - 3)
  rw [htruncate, strip_append hsolid.1.settled]
  rfl

/-- Of two rows the first is red and wide, and the second ends inside an escape sequence. -/
theorem truncate_fits_two_rows :
    let t : Text := "\x1b[31m日本語 text\x1b[0m\nab\x1b[".toList
    truncate t 8 = "\x1b[31m日本\x1b[0m...".toList
      ∧ width (truncate t 8) ≤ 8 ∧ (truncate t 8 = t ↔ width t ≤ 8)
      ∧ ∃ kept, truncate t 8 = kept ++ ['.', '.', '.']
        ∧ IsLongestStart (strip kept) (strip t.firstRow) 5 := by
  intro t
  obtain ⟨hfits, hsame, hcut⟩ := truncate_fits t 8
  obtain ⟨kept, hkept, hlongest, -⟩ := hcut (by decide +kernel) (by decide)
  exact ⟨by decide +kernel, hfits, hsame, kept, hkept, hlongest⟩

end AgentConsole.Styled
