import AgentConsole.Proofs.Styled.Kind

/-!
# Single rows

A text is *flat* if it holds no newline, so that it is one row and stays one wherever it is
drawn.  Neither styles nor cuts bring a newline in: flat texts are a kind that painters keep
(`kind_flat`), and what is spliced of flat rows is flat again.

The columns of a flat text are those of its only row.  They do not count styles, a text that is
truncated keeps within the room it is given, and a row that has exactly the width it is to be
fitted to is not touched (`fit_of_rowWidth`).
-/

namespace AgentConsole.Styled

/-- Does the text hold no newline? -/
def Flat (t : Text) : Prop := '\n' ∉ t

instance (t : Text) : Decidable (Flat t) := inferInstanceAs (Decidable (¬ '\n' ∈ t))

namespace Flat

variable {a b t : Text} {c : Char}

theorem nil : Flat [] := List.not_mem_nil

theorem append (ha : Flat a) (hb : Flat b) : Flat (a ++ b) := fun h =>
  (List.mem_append.mp h).elim ha hb

theorem cons (hc : c ≠ '\n') (h : Flat t) : Flat (c :: t) := fun hmem =>
  (List.mem_cons.mp hmem).elim (fun heq => hc heq.symm) h

theorem one (hc : c ≠ '\n') : Flat [c] := nil.cons hc

/-- A text that is made of characters of a flat text is flat. -/
theorem of_subset (h : Flat t) (hs : ∀ c ∈ a, c ∈ t) : Flat a := fun hmem => h (hs _ hmem)

theorem strip (h : Flat t) : Flat (Styled.strip t) := h.of_subset fun _ => mem_of_mem_strip

theorem rows (h : Flat t) : t.rows = [t] := Text.rows_of_notMem h

theorem width (h : Flat t) : Styled.width t = rowWidth t := width_of_notMem h

end Flat

theorem flat_of_mem_rows {t row : Text} (h : row ∈ t.rows) : Flat row :=
  Text.newline_notMem_of_mem_rows h

theorem flat_firstRow (t : Text) : Flat t.firstRow := by
  obtain ⟨below, hrows⟩ := Text.rows_eq_firstRow t
  exact flat_of_mem_rows (hrows ▸ List.mem_cons_self)

/-- Being a single row is a kind of text that all painters keep. -/
theorem kind_flat : Kind '\n' Flat where
  foreign := .inr rfl
  of_notMem := id
  append := Flat.append
  style := by
    rintro e ⟨p, hp, rfl⟩
    exact (Color.isSolid_rendition hp).2.2 _ rfl
  cut h room := newline_notMem_cut h room
  firstRow {t} _ := flat_firstRow t

/-! ### Splicing -/

/-- Nothing before the column adds a newline. -/
theorem flat_before {ts : List Token} (h : Flat (sources ts)) (styled : Bool) (room : Nat) :
    Flat (before styled room ts) := by
  have hclosing (styled : Bool) : Flat (closing styled) := newline_notMem_closing styled
  induction ts generalizing styled room with
  | nil => exact (hclosing styled).append (kind_flat.spaces room)
  | cons k ts ih =>
    have hk : Flat k.source := h.of_subset fun _ hc => List.mem_append_left _ hc
    have hts : Flat (sources ts) := h.of_subset fun _ hc => List.mem_append_right _ hc
    unfold before
    split
    · exact hclosing styled
    -- a wide character may become a blank, and blanks are no newlines
    · cases k with
      | escape s => exact hk.append (ih hts _ _)
      | glyph c =>
        dsimp only
        split
        · exact Flat.cons (by decide) ((hclosing styled).append (kind_flat.spaces _))
        · exact hk.append (ih hts _ _)

theorem flat_after {ts : List Token} (h : Flat (sources ts)) {active : Text} (ha : Flat active)
    (room : Nat) : Flat (after active room ts) := by
  induction ts generalizing active room with
  | nil => exact Flat.nil
  | cons k ts ih =>
    have hk : Flat k.source := h.of_subset fun _ hc => List.mem_append_left _ hc
    have hts : Flat (sources ts) := h.of_subset fun _ hc => List.mem_append_right _ hc
    cases k with
    | escape s =>
      refine ih hts ?_ room
      -- the styles in force after the sequence
      split
      · exact Flat.nil
      · split
        · exact ha.append hk
        · exact ha
    | glyph c =>
      unfold after
      split
      · exact ih hts ha _
      · split
        · exact ha.append hts
        · exact ha.append (Flat.cons (by decide) hts)

theorem Flat.splice {row overlay : Text} (hr : Flat row) (ho : Flat overlay) (column : Nat) :
    Flat (Styled.splice row overlay column) :=
  (flat_before ((sources_tokens row).symm ▸ hr) false column).append ho

theorem Flat.skip {row : Text} (h : Flat row) (column : Nat) : Flat (Styled.skip row column) := by
  unfold Styled.skip
  split
  · exact h
  · exact flat_after ((sources_tokens row).symm ▸ h) Flat.nil column

/-! ### Columns -/

open Color

/-- A style takes no room. -/
theorem rowWidth_of_isStyle {e : Text} (h : IsStyle e) : rowWidth e = 0 := by
  obtain ⟨p, hp, rfl⟩ := h
  have htokens : tokens (rendition p) = [.escape (rendition p)] := (isSolid_rendition hp).1
  rw [rowWidth_eq, htokens]
  rfl

/-- What is written `n` times is `n` times as wide. -/
theorem rowWidth_times {t : Text} (h : Solid t) (n : Nat) :
    rowWidth (Text.times n t) = n * rowWidth t := by
  induction n with
  | zero => exact (Nat.zero_mul _).symm
  | succ n ih =>
    have htimes : Text.times (n + 1) t = t ++ Text.times n t := by
      simp [Text.times, List.replicate_succ]
    rw [htimes, rowWidth_append h.settled, ih, Nat.succ_mul, Nat.add_comm]

/-- Colours take no column. -/
theorem Solid.rowWidth_paint {t : Text} (h : Solid t) (c : Color) :
    rowWidth (c.paint t) = rowWidth t := by
  unfold Color.paint
  split
  · rename_i hempty
    rw [List.isEmpty_iff.mp hempty]
  · have hfirst := (isStyle_foreground c).solid
    rw [rowWidth_append (hfirst.append h).settled, rowWidth_append hfirst.settled,
      rowWidth_of_isStyle (isStyle_foreground c), rowWidth_of_isStyle isStyle_foregroundEnd,
      Nat.zero_add, Nat.add_zero]

theorem Solid.rowWidth_strong {t : Text} (h : Solid t) (c : Color) :
    rowWidth (c.strong t) = rowWidth t := by
  unfold Color.strong
  split
  · rename_i hempty
    rw [List.isEmpty_iff.mp hempty]
  · have hstyle : IsStyle (rendition ['1']) := isStyle_rendition (by simp [IsParameters])
    have hfirst := (isStyle_foreground c).solid
    have hbold := hfirst.append hstyle.solid
    rw [rowWidth_append (hbold.append h).settled, rowWidth_append hbold.settled,
      rowWidth_append hfirst.settled, rowWidth_of_isStyle (isStyle_foreground c),
      rowWidth_of_isStyle hstyle, rowWidth_of_isStyle isStyle_reset, Nat.zero_add, Nat.add_zero]

/-- A text that is truncated keeps within the room, whatever it is: a sequence that its first row
leaves open can only swallow the ellipsis. -/
theorem width_truncate_le (t : Text) (room : Nat) : Styled.width (truncate t room) ≤ room := by
  have hfirst := flat_firstRow t
  have hcut (n : Nat) : Flat (cut t.firstRow n).1 := newline_notMem_cut hfirst n
  have hwidth (n : Nat) : rowWidth (cut t.firstRow n).1 ≤ n := by
    obtain ⟨htold, hroom⟩ := rowWidth_cut hfirst n
    exact htold ▸ hroom
  unfold truncate
  -- the text fits, or there is no room for dots, or the dots are put behind a cut
  split
  · assumption
  · split
    · rw [(hcut room).width]
      exact hwidth room
    · rw [((hcut _).append (by decide)).width]
      have hmore := rowWidth_append_le (cut t.firstRow (room - ellipsis.length)).1 ellipsis
      have hellipsis : columnsOf (ellipsis.map .glyph) = ellipsis.length := by decide
      have hkept := hwidth (room - ellipsis.length)
      omega

/-- A row that fits is only filled. -/
theorem fit_of_le {row : Text} {room : Nat} (h : rowWidth row ≤ room) :
    Styled.fit row room = pad row room := by
  unfold Styled.fit
  rw [cut_of_le h]

/-- A row that has exactly the width is not touched. -/
theorem fit_of_rowWidth {row : Text} {room : Nat} (h : rowWidth row = room) :
    Styled.fit row room = row := by
  rw [fit_of_le (Nat.le_of_eq h), pad, h, Nat.sub_self]
  exact List.append_nil row

/-- Spaces fill up a row, unless they are read as part of a sequence that it leaves open: at least
one of them is. -/
theorem rowWidth_pad_iff (row : Text) (room : Nat) :
    rowWidth (pad row room) = max (rowWidth row) room ↔ Settled row ∨ room ≤ rowWidth row := by
  have hpad : rowWidth (pad row room)
      = rowWidth row + columnsOf (scan (Scan.ground.after row) (Text.spaces (room - rowWidth row))) := by
    rw [pad, rowWidth_eq, tokens, columnsOf_scan_append]
    rfl
  -- nothing is padded, or the spaces are read as spaces, or the open escape takes one
  by_cases hroom : room ≤ rowWidth row
  · refine iff_of_true ?_ (.inr hroom)
    rw [hpad, Nat.sub_eq_zero_of_le hroom]
    show rowWidth row + columnsOf (scan _ []) = _
    rw [columnsOf_scan_nil, Nat.add_zero, Nat.max_eq_left hroom]
  by_cases hsettled : Settled row
  · refine iff_of_true ?_ (.inl hsettled)
    rw [pad, rowWidth_append hsettled, rowWidth_spaces]
    omega
  · refine iff_of_false (fun heq => ?_) fun h => h.elim hsettled hroom
    obtain ⟨n, hn⟩ : ∃ n, room - rowWidth row = n + 1 := ⟨room - rowWidth row - 1, by omega⟩
    have hswallowed : columnsOf (scan (Scan.ground.after row) (Text.spaces (n + 1))) ≤ n :=
      Nat.le_trans (columnsOf_scan_cons_le hsettled ' ' (Text.spaces n)) (Nat.le_of_eq (columnsOf_spaces n))
    rw [hpad, hn] at heq
    omega

/-- A row that is fitted is exactly as wide as it is meant to be if its sequences are finished, or
if there is nothing to fill. -/
theorem rowWidth_fit_iff {row : Text} (h : Flat row) (room : Nat) :
    rowWidth (Styled.fit row room) = room ↔ EscapeComplete row ∨ room ≤ rowWidth row := by
  rw [← settled_iff]
  obtain ⟨hfits, hcut⟩ | ⟨us, c, vs, hts, hroom, hnext, hcut⟩ := cut_cases row room
  · rw [fit_of_le hfits, ← rowWidth_pad_iff, Nat.max_eq_right hfits]
  · -- what is kept ends before a glyph, so it is solid
    have hsolid := forall_isSolid_of_split h hts (.inl (List.cons_ne_nil _ _))
    have hwider : room ≤ rowWidth row := by
      rw [rowWidth_eq, hts, columnsOf_append, columnsOf_cons]
      exact Nat.le_trans (Nat.le_of_lt hnext) (Nat.add_le_add_left (Nat.le_add_right _ _) _)
    refine iff_of_true ?_ (.inr hwider)
    rw [Styled.fit, hcut, rowWidth_pad ((solid_sources hsolid).append (solid_closing _)),
      rowWidth_closed hsolid, Nat.max_eq_right hroom]

/-- A text fits if each of its rows does. -/
theorem width_le_iff {t : Text} {room : Nat} :
    Styled.width t ≤ room ↔ ∀ row ∈ t.rows, rowWidth row ≤ room := by
  have hmax : (0 :: t.rows.map rowWidth).max? = some (Styled.width t) := List.max?_cons'
  rw [List.max?_le_iff hmax]
  simp

theorem rowWidth_le_width {t row : Text} (h : row ∈ t.rows) : rowWidth row ≤ Styled.width t :=
  width_le_iff.mp (Nat.le_refl _) row h

/-- The greatest of numbers that are all the same. -/
theorem foldl_max_of_forall {w a : Nat} {ws : List Nat} (hne : ws ≠ []) (h : ∀ x ∈ ws, x = w)
    (ha : a ≤ w) : ws.foldl max a = w := by
  induction ws generalizing a with
  | nil => exact absurd rfl hne
  | cons x ws ih =>
    obtain rfl : x = w := h x List.mem_cons_self
    rw [List.foldl_cons, Nat.max_eq_right ha]
    rcases ws with - | ⟨y, ws⟩
    · rfl
    · exact ih (List.cons_ne_nil y ws) (fun z hz => h z (List.mem_cons_of_mem _ hz)) (Nat.le_refl x)

/-- A text whose rows all have one width has that width. -/
theorem width_of_forall {t : Text} {w : Nat} (h : ∀ row ∈ t.rows, rowWidth row = w) :
    Styled.width t = w := by
  refine foldl_max_of_forall (fun hnil => Text.rows_ne_nil t (List.map_eq_nil_iff.mp hnil)) ?_
    (Nat.zero_le w)
  intro x hx
  obtain ⟨row, hrow, rfl⟩ := List.mem_map.mp hx
  exact h row hrow

/-- Blocks of one height stand side by side in as many rows. -/
theorem length_rows_beside {blocks : List Text} {n : Nat} (hne : blocks ≠ []) (hn : 0 < n)
    (h : ∀ t ∈ blocks, t.rows.length = n) : (beside blocks).rows.length = n := by
  have hheight : ((blocks.map Text.rows).map List.length).foldl max 0 = n := by
    refine foldl_max_of_forall (by simpa using hne) ?_ (Nat.zero_le n)
    intro x hx
    obtain ⟨rows, hrows, rfl⟩ := List.mem_map.mp hx
    obtain ⟨t, ht, rfl⟩ := List.mem_map.mp hrows
    exact h t ht
  unfold beside
  dsimp only
  -- a row across all blocks has no newline, since no row of a block has one
  rw [hheight, Text.rows_ofRows, List.length_map, List.length_range]
  · exact List.ne_nil_of_length_pos (by simpa using hn)
  · intro row hrow hnewline
    obtain ⟨i, -, rfl⟩ := List.mem_map.mp hrow
    obtain ⟨rows, hrows, hmem⟩ := List.mem_flatMap.mp hnewline
    obtain ⟨t, -, rfl⟩ := List.mem_map.mp hrows
    rcases hi : t.rows[i]? with - | r
    · rw [hi] at hmem
      exact absurd hmem List.not_mem_nil
    · rw [hi] at hmem
      exact flat_of_mem_rows (List.mem_of_getElem? hi) hmem

end AgentConsole.Styled
