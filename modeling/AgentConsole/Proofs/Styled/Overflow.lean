import AgentConsole.Proofs.Styled.Wrap

/-!
# Rows that overflow

A row is broken before the character that no longer fits.  At the last space, though, the
word behind it moves to the next row *together* with that character, and nobody looks
whether the two fit there.  With something before the space they do, unless the character
is wider than what the break has freed: the space and what stood before it.  So a wide
character behind a full row that begins with a space makes the next row too long.

`Wrap.State.Overloads` is that very moment.  It is the only thing that can go wrong
(`Wrap.State.Fits.step`), and what has gone wrong once stays so (`Wrap.State.Spills.step`).
Together this tells exactly which texts are wrapped to rows that fit.
-/

namespace AgentConsole.Styled

/-- Styles take no column. -/
theorem rowWidth_flatten {es : List Text} (h : ∀ e ∈ es, IsLasting e) : rowWidth es.flatten = 0 := by
  rw [rowWidth_eq, tokens_flatten h]
  induction es with
  | nil => rfl
  | cons e es ih =>
    have hes := ih fun d hd => h d (List.mem_cons_of_mem _ hd)
    exact (Nat.zero_add _).trans hes

theorem rowWidth_concat {t : Text} (ht : Solid t) {k : Token} (hk : k.IsSolid) :
    rowWidth (t ++ k.source) = rowWidth t + k.width := by
  rw [rowWidth_append ht.settled, rowWidth_eq k.source, hk.1]
  rfl

namespace Wrap.State

/-- After some tokens the rows are as they should be, and the widths that are noted are right. -/
structure Measures (s : State) (ts : List Token) : Prop extends s.Follows ts where
  width : s.width = rowWidth s.row.reverse
  headWidth : ∀ h ∈ s.head, h.width = rowWidth h.text.reverse

/-- The row is broken at its last space, and what moves to the next row is too wide for it: the word
behind the space, and the character before which the row is broken. -/
def Overloads (room : Nat) (s : State) (c : Char) : Prop :=
  ¬IsGap c ∧ room < s.width + Unicode.columns c
    ∧ ∃ h ∈ s.head, room < s.width - (h.width + 1) + Unicode.columns c

/-- No row is too wide so far. -/
structure Fits (room : Nat) (s : State) : Prop where
  done : ∀ row ∈ s.done, rowWidth row ≤ room
  width : s.width ≤ room

/-- A finished row is too wide, or the open one is and cannot be broken any more. -/
def Spills (room : Nat) (s : State) : Prop :=
  (∃ row ∈ s.done, room < rowWidth row) ∨ s.head = none ∧ room < s.width

variable {s : State} {ts : List Token} {room : Nat} {k : Token} {c : Char}

theorem measures_start : ({} : State).Measures [] :=
  { follows_start with
    width := rfl
    headWidth := fun _ hh => absurd hh (by simp) }

/-! ### The noted widths -/

theorem width_put (s : State) (c : Char) : (s.put c).width = s.width + Unicode.columns c := by
  unfold State.put
  split <;> rfl

/-- The reset at the end of a row takes no column. -/
theorem rowWidth_finished {row active : Text} (h : Solid row.reverse) :
    rowWidth (finished row active) = rowWidth row.reverse := by
  unfold finished
  rw [rowWidth_append h.settled, rowWidth_closing]
  rfl

namespace Measures

variable (h : s.Measures ts)
include h

/-- With a last space, the width is made up of what stands on either side of it. -/
theorem width_eq {head : Head} (hs : s.head = some head) :
    s.width = head.width + (1 + rowWidth s.word.reverse) := by
  rw [h.width, row_of_head hs, rowWidth_append (h.head head hs).solid.settled,
    rowWidth_cons (by decide), Unicode.columns_space, h.headWidth head hs]

/-- A new row begins without any columns. -/
theorem rowWidth_newRow : rowWidth s.newRow.row.reverse = 0 := by
  have hrow : s.newRow.row.reverse = s.active := List.reverse_reverse _
  rw [hrow, h.row.active]
  exact rowWidth_flatten h.row.isLasting

/-- When the last word moves to a new row, both rows stay measured. -/
theorem breakRow : s.breakRow.Measures ts := by
  -- without a space in the row there is no word to move
  rcases hs : s.head with - | head
  · have hbreak : s.breakRow = s.newRow := by simp [State.breakRow, hs]
    refine { h.toFollows.breakRow with width := ?_, headWidth := ?_ }
    · rw [hbreak, h.rowWidth_newRow]
      rfl
    · rw [hbreak]
      exact fun _ hh => absurd hh (by simp [State.newRow])
  · have hnotes := h.head head hs
    have hrow : s.breakRow.row.reverse = head.active ++ s.word.reverse := by
      simp [State.breakRow, State.row, hs]
    have hwidth : s.breakRow.width = s.width - (head.width + 1) := by simp [State.breakRow, hs]
    refine { h.toFollows.breakRow with width := ?_, headWidth := ?_ }
    · rw [hrow, hnotes.active, rowWidth_append (solid_flatten hnotes.isLasting).settled,
        rowWidth_flatten hnotes.isLasting, hwidth, h.width_eq hs]
      omega
    · exact fun _ hh => absurd hh (by simp [State.breakRow, hs])

/-- A character that is put down is counted. -/
theorem put (hc : (Token.glyph c).IsSolid) (hline : c ≠ '\n') :
    (s.put c).Measures (ts ++ [.glyph c]) := by
  refine { h.toFollows.put hc hline with width := ?_, headWidth := ?_ }
  · rw [width_put, row_put, h.width]
    exact (rowWidth_concat h.row.solid hc).symm
  · intro head hhead
    by_cases hspace : c = ' '
    · subst hspace
      obtain rfl := Option.some.inj hhead
      exact h.width
    · have hput : (s.put c).head = s.head := by simp [State.put, hspace]
      exact h.headWidth head (hput ▸ hhead)

/-- One more token is read. -/
theorem step (room : Nat) (hk : k.IsSolid) : (s.step room k).Measures (ts ++ [k]) := by
  -- an escape goes into the row and takes no column
  cases k with
  | escape e =>
    refine { h.toFollows.step room hk with width := ?_, headWidth := h.headWidth }
    rw [row_escape]
    exact h.width.trans (rowWidth_concat h.row.solid hk).symm
  | glyph c =>
    have hfollows := h.toFollows.step room hk
    obtain ⟨-, hstep⟩ | ⟨hgap, -, -, hstep⟩ | ⟨hline, -, hstep⟩ := step_glyph_cases room s c
    · rw [hstep] at hfollows ⊢
      exact { hfollows with
        width := h.rowWidth_newRow.symm
        headWidth := fun _ hh => absurd hh (by simp [State.newRow]) }
    · rw [hstep]
      exact h.breakRow.put hk fun hc => hgap (.inl hc)
    · rw [hstep]
      exact h.put hk hline

theorem foldl (room : Nat) {us : List Token} (hus : ∀ k ∈ us, k.IsSolid) :
    (us.foldl (State.step room) s).Measures (ts ++ us) :=
  foldl_of_step (fun h hk => h.step room hk) h hus

end Measures

/-! ### Fitting and spilling -/

theorem done_put (s : State) (c : Char) : (s.put c).done = s.done := by
  unfold State.put
  split <;> rfl

/-- As long as no row is broken at the wrong place, all rows fit. -/
theorem Fits.step (hfits : s.Fits room) (h : s.Measures ts) (hroom : k.width ≤ room)
    (hsafe : ∀ c, k = .glyph c → ¬s.Overloads room c) : (s.step room k).Fits room := by
  have hnew : s.newRow.Fits room := by
    refine ⟨fun row hrow => ?_, Nat.zero_le room⟩
    rcases List.mem_cons.mp hrow with rfl | hrow
    · rw [rowWidth_finished h.row.solid, ← h.width]
      exact hfits.width
    · exact hfits.done row hrow
  cases k with
  | escape e => exact ⟨hfits.done, hfits.width⟩
  | glyph c =>
    have hroom : Unicode.columns c ≤ room := hroom
    -- the row ends, the last word moves on, or the character is put down
    obtain ⟨-, hstep⟩ | ⟨hgap, hfull, -, hstep⟩ | ⟨-, hfree, hstep⟩ := step_glyph_cases room s c
    · rw [hstep]
      exact hnew
    · rw [hstep]
      rcases hs : s.head with - | head
      · -- without a space the new row is empty
        have hbreak : s.breakRow = s.newRow := by simp [State.breakRow, hs]
        rw [hbreak]
        refine ⟨(done_put _ c).symm ▸ hnew.done, ?_⟩
        rw [width_put]
        rwa [show s.newRow.width + Unicode.columns c = Unicode.columns c from Nat.zero_add _]
      · -- what stands before the space fits, since all of the row does
        have hover := hsafe c rfl
        have hwidth := h.width_eq hs
        have hhead := h.headWidth head hs
        have hsolid := (h.head head hs).solid
        have hbreak : s.breakRow.done = finished head.text head.active :: s.done
            ∧ s.breakRow.width = s.width - (head.width + 1) := by
          simp [State.breakRow, hs]
        refine ⟨fun row hrow => ?_, ?_⟩
        · rw [done_put, hbreak.1] at hrow
          rcases List.mem_cons.mp hrow with rfl | hrow
          · rw [rowWidth_finished hsolid, ← hhead]
            have := hfits.width
            omega
          · exact hfits.done row hrow
        · rw [width_put, hbreak.2]
          exact Nat.le_of_not_lt fun hwide => hover ⟨hgap, hfull, head, hs, hwide⟩
    · rw [hstep]
      refine ⟨(done_put s c).symm ▸ hfits.done, ?_⟩
      rw [width_put]
      omega

/-- A row that is broken at the wrong place goes on too wide. -/
theorem Overloads.spills (hover : s.Overloads room c) (h : s.Measures ts) :
    (s.step room (.glyph c)).Spills room := by
  obtain ⟨hgap, hfull, head, hs, hwide⟩ := hover
  have hs : s.head = some head := hs
  have hwidth := h.width_eq hs
  obtain ⟨hc, -⟩ | ⟨-, -, -, hstep⟩ | ⟨-, hfree, -⟩ := step_glyph_cases room s c
  · exact absurd hc hgap
  · refine .inr ?_
    have hspace : c ≠ ' ' := fun hc => hgap (.inr hc)
    rw [hstep, width_put]
    exact ⟨by simp [State.put, State.breakRow, hs, hspace],
      by simpa [State.breakRow, hs] using hwide⟩
  · exact absurd ⟨hfull, by omega⟩ hfree

/-- Nothing that comes later brings a row back that is too wide. -/
theorem Spills.step (hspills : s.Spills room) (h : s.Measures ts) : (s.step room k).Spills room := by
  have hnew : ∃ row ∈ s.newRow.done, room < rowWidth row := by
    obtain ⟨row, hrow, hwide⟩ | ⟨-, hwide⟩ := hspills
    · exact ⟨row, List.mem_cons_of_mem _ hrow, hwide⟩
    · refine ⟨_, List.mem_cons_self, ?_⟩
      rwa [rowWidth_finished h.row.solid, ← h.width]
  cases k with
  | escape e => exact hspills
  | glyph c =>
    -- what is too wide and done stays done, and what is too wide and open is closed or left open
    obtain ⟨-, hstep⟩ | ⟨-, -, -, hstep⟩ | ⟨-, hfree, hstep⟩ := step_glyph_cases room s c
    · rw [hstep]
      exact .inl hnew
    · refine .inl ?_
      rw [hstep, done_put]
      obtain ⟨row, hrow, hwide⟩ | ⟨hs, -⟩ := hspills
      · refine ⟨row, ?_, hwide⟩
        rcases hs : s.head with - | head
        · simpa [State.breakRow, State.newRow, hs] using Or.inr hrow
        · simpa [State.breakRow, hs] using Or.inr hrow
      · have hbreak : s.breakRow = s.newRow := by simp [State.breakRow, hs]
        rw [hbreak]
        exact hnew
    · rw [hstep]
      obtain ⟨row, hrow, hwide⟩ | ⟨-, hwide⟩ := hspills
      · exact .inl ⟨row, (done_put s c).symm ▸ hrow, hwide⟩
      · -- an open row that is too wide takes no further character
        exact absurd ⟨by omega, by omega⟩ hfree

/-- Once a row is too wide, one is too wide at the end. -/
theorem Spills.foldl {us : List Token} (hspills : s.Spills room) (h : s.Measures ts)
    (hus : ∀ k ∈ us, k.IsSolid) : (us.foldl (State.step room) s).Spills room := by
  have hrun := foldl_of_step (P := fun s ts => s.Spills room ∧ s.Measures ts)
    (fun ⟨hspills, h⟩ hk => ⟨hspills.step h, h.step room hk⟩) ⟨hspills, h⟩ hus
  exact hrun.1

theorem Spills.not_fits (hspills : s.Spills room) : ¬s.Fits room := by
  rintro ⟨hdone, hwidth⟩
  obtain ⟨row, hrow, hwide⟩ | ⟨-, hwide⟩ := hspills
  · exact absurd (hdone row hrow) (Nat.not_le_of_lt hwide)
  · exact absurd hwidth (Nat.not_le_of_lt hwide)

/-- All rows fit at the end if and only if no row was broken at the wrong place on the way. -/
theorem Fits.foldl_iff {us : List Token} (hfits : s.Fits room) (h : s.Measures ts)
    (hus : ∀ k ∈ us, k.IsSolid ∧ k.width ≤ room) :
    (us.foldl (State.step room) s).Fits room
      ↔ ∀ vs c ws, us = vs ++ .glyph c :: ws → ¬(vs.foldl (State.step room) s).Overloads room c := by
  induction us generalizing s ts with
  | nil => exact iff_of_true hfits fun vs c ws hus => absurd hus (by simp)
  | cons k us ih =>
    obtain ⟨hk, hroom⟩ := hus k List.mem_cons_self
    have hrest : ∀ l ∈ us, l.IsSolid ∧ l.width ≤ room := fun l hl => hus l (List.mem_cons_of_mem _ hl)
    -- the first overload decides, since what it spills stays spilled
    by_cases hover : ∃ c, k = .glyph c ∧ s.Overloads room c
    · obtain ⟨c, rfl, hover⟩ := hover
      have hspills := (hover.spills h).foldl (h.step room hk) fun l hl => (hrest l hl).1
      exact iff_of_false hspills.not_fits fun hsafe => hsafe [] c us rfl hover
    · have hsafe : ∀ c, k = .glyph c → ¬s.Overloads room c := fun c hc ho => hover ⟨c, hc, ho⟩
      rw [List.foldl_cons, ih (hfits.step h hroom hsafe) (h.step room hk) hrest]
      constructor
      · intro hlater vs c ws hsplit
        rcases vs with - | ⟨l, vs⟩
        · exact hsafe c (List.cons.inj hsplit).1
        · obtain ⟨rfl, htail⟩ := List.cons.inj hsplit
          exact hlater vs c ws htail
      · intro hall vs c ws hsplit
        exact hall (k :: vs) c ws (congrArg (k :: ·) hsplit)

/-- Only a character that is wider than the space before its word can be carried over in vain. -/
theorem Overloads.two_le_columns (hover : s.Overloads room c) (hfits : s.Fits room)
    (h : s.Measures ts) : 2 ≤ Unicode.columns c := by
  obtain ⟨-, -, head, hs, hwide⟩ := hover
  have hwidth := h.width_eq hs
  have hroom := hfits.width
  omega

/-- Narrow characters find room wherever they go. -/
theorem Fits.foldl_of_narrow {us : List Token} (hfits : s.Fits room) (h : s.Measures ts)
    (hroom : 0 < room) (hus : ∀ k ∈ us, k.IsSolid ∧ k.width ≤ 1) :
    (us.foldl (State.step room) s).Fits room := by
  have hstep {s : State} {ts : List Token} {k : Token} (hs : s.Fits room ∧ s.Measures ts)
      (hk : k.IsSolid ∧ k.width ≤ 1) :
      (s.step room k).Fits room ∧ (s.step room k).Measures (ts ++ [k]) := by
    refine ⟨hs.1.step hs.2 (Nat.le_trans hk.2 hroom) ?_, hs.2.step room hk.1⟩
    rintro c rfl hover
    exact absurd (hover.two_le_columns hs.1 hs.2) (Nat.not_le_of_lt (Nat.lt_succ_of_le hk.2))
  exact (foldl_of_step (P := fun s ts => s.Fits room ∧ s.Measures ts) hstep ⟨hfits, h⟩ hus).1

end Wrap.State

/-- The rows of a wrapped text fit if and only if they do so at its end. -/
theorem forall_width_wrap_iff {t : Text} (ht : Solid t) {room : Nat} (hroom : 0 < room) :
    (∀ row ∈ wrap t room, width row ≤ room)
      ↔ ((tokens t).foldl (Wrap.State.step room) {}).Fits room := by
  have hmeasures := Wrap.State.measures_start.foldl room ht
  rw [wrap_eq t hroom]
  generalize (tokens t).foldl (Wrap.State.step room) {} = s at hmeasures
  have hsingle : '\n' ∉ Wrap.State.finished s.row s.active := hmeasures.row.isClosed.single
  have hlast : width (Wrap.State.finished s.row s.active) = s.width := by
    rw [width_of_notMem hsingle, Wrap.State.rowWidth_finished hmeasures.row.solid, hmeasures.width]
  have hdone : ∀ row ∈ s.done, width row = rowWidth row := fun row hrow =>
    width_of_notMem (hmeasures.done row hrow).single
  -- the rows are those that are done and the one that is open
  constructor
  · intro hall
    refine ⟨fun row hrow => ?_, ?_⟩
    · rw [← hdone row hrow]
      exact hall row (List.mem_append_left _ (List.mem_reverse.mpr hrow))
    · rw [← hlast]
      exact hall _ (List.mem_append_right _ (List.mem_singleton_self _))
  · rintro ⟨hfits, hwidth⟩ row hrow
    rcases List.mem_append.mp hrow with hrow | hrow
    · have hrow := List.mem_reverse.mp hrow
      rw [hdone row hrow]
      exact hfits row hrow
    · rw [List.mem_singleton.mp hrow, hlast]
      exact hwidth

theorem fits_start (room : Nat) : ({} : Wrap.State).Fits room :=
  ⟨fun _ hrow => absurd hrow List.not_mem_nil, Nat.zero_le room⟩

/-- A bound on the characters that are shown bounds the tokens. -/
theorem Solid.width_le {t : Text} (ht : Solid t) {bound : Nat}
    (h : ∀ c ∈ strip t, Unicode.columns c ≤ bound) : ∀ k ∈ tokens t, k.IsSolid ∧ k.width ≤ bound := by
  intro k hk
  refine ⟨ht k hk, ?_⟩
  cases k with
  | escape e => exact Nat.zero_le bound
  | glyph c => exact h c (mem_strip.mpr hk)

/-- A text of narrow characters is wrapped to rows that fit. -/
theorem width_le_of_mem_wrap {t : Text} (ht : Solid t) {room : Nat} (hroom : 0 < room)
    (hnarrow : ∀ c ∈ strip t, Unicode.columns c ≤ 1) : ∀ row ∈ wrap t room, width row ≤ room := by
  rw [forall_width_wrap_iff ht hroom]
  exact (fits_start room).foldl_of_narrow Wrap.State.measures_start hroom (ht.width_le hnarrow)

/-- **Which texts are wrapped to rows that fit.**  No character of the text may be wider than a row.
Then the rows fit if and only if, wherever a row is broken at a space, the next one has room for what
is taken there: the word behind the space with the character that came too late.  With narrow
characters this is always so. -/
theorem wrap_fits_iff {t : Text} (ht : IsComplete t) {room : Nat} (hroom : 0 < room)
    (hglyphs : ∀ c ∈ strip t, Unicode.columns c ≤ room) :
    ((∀ row ∈ wrap t room, width row ≤ room) ↔ ∀ us c vs, tokens t = us ++ .glyph c :: vs →
        ¬(us.foldl (Wrap.State.step room) {}).Overloads room c)
      ∧ ((∀ c ∈ strip t, Unicode.columns c ≤ 1) → ∀ row ∈ wrap t room, width row ≤ room) := by
  refine ⟨?_, width_le_of_mem_wrap ht.solid hroom⟩
  rw [forall_width_wrap_iff ht.solid hroom]
  exact (fits_start room).foldl_iff Wrap.State.measures_start (ht.solid.width_le hglyphs)

theorem forall_le_of_all {α : Type} {f : α → Nat} {bound : Nat} {items : List α}
    (h : (items.map f).all (· ≤ bound) = true) : ∀ a ∈ items, f a ≤ bound := by
  simpa using h

/-- A row of four columns is broken at its space, and the next one has just room for the two wide
characters. -/
theorem wrap_fits_iff_wide :
    let t : Text := "a 世界".toList
    IsComplete t ∧ 0 < 4 ∧ (∀ c ∈ strip t, Unicode.columns c ≤ 4)
      ∧ (wrap t 4).map width = [1, 4]
      ∧ ∀ us c vs, tokens t = us ++ .glyph c :: vs →
        ¬(us.foldl (Wrap.State.step 4) {}).Overloads 4 c := by
  intro t
  have ht : IsComplete t := by decide +kernel
  have hglyphs : ∀ c ∈ strip t, Unicode.columns c ≤ 4 := forall_le_of_all (by decide +kernel)
  have hwidths : (wrap t 4).map width = [1, 4] := by decide +kernel
  have hfits : ∀ row ∈ wrap t 4, width row ≤ 4 := forall_le_of_all (hwidths ▸ rfl)
  exact ⟨ht, by decide, hglyphs, hwidths, (wrap_fits_iff ht (by decide) hglyphs).1.mp hfits⟩

/-- The row is full and begins with a space.  The wide character that follows takes the two letters
behind the space along, and for all three the next row is too short. -/
theorem wrap_overflows :
    let t : Text := " ab世".toList
    IsComplete t ∧ (∀ c ∈ strip t, Unicode.columns c ≤ 3)
      ∧ wrap t 3 = ["", "ab世"].map String.toList ∧ ¬∀ row ∈ wrap t 3, width row ≤ 3 := by
  intro t
  have hwrap : wrap t 3 = ["", "ab世"].map String.toList := by decide +kernel
  refine ⟨by decide +kernel, forall_le_of_all (by decide +kernel), hwrap, fun hfits => ?_⟩
  have hmem : "ab世".toList ∈ wrap t 3 := hwrap ▸ List.mem_cons_of_mem _ List.mem_cons_self
  exact absurd (hfits _ hmem) (by decide +kernel)

end AgentConsole.Styled
