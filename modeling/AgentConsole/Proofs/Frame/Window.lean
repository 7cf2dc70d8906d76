import AgentConsole.Frame.Scrollback
import AgentConsole.Proofs.Styled.Flat

/-!
# What a view over a log shows

`Window.at` works in steps: it limits the offset, sets a row aside for each of the two edges, and
gives the row of the upper edge back if nothing is hidden above.  All of them together come to
three equations.  A view without rows shows nothing (`at_blank`).  A pinned view shows the newest
lines in all of its rows (`at_pinned`).  In a view that is scrolled back (`at_back`) the first line
moves with the offset up to the largest one, and the last line stops one step before that: there the
upper edge gives its row back, and the view grows downwards instead of moving.

All else is read off these equations, and `geometry_at` collects it.  In particular no line is out
of reach: one that the pinned view does not show is the first line of some other view.
-/

namespace AgentConsole.Frame.Window

open Styled

variable {total offset height : Nat}

/-- The rows that a view gives to lines when both its edges say that there is more. -/
def room (height : Nat) : Nat := if height < 3 then height else height - 2

/-- The rows that a scrolled-back view gives to lines when it shows the oldest one. -/
def topRoom (height : Nat) : Nat := if height < 3 then height else height - 1

theorem maxOffset_eq (total height : Nat) : maxOffset total height = total - room height := by
  unfold maxOffset room
  split <;> rfl

/-! ### Three equations -/

/-- Without rows nothing is shown. -/
theorem at_blank (total offset : Nat) : Window.at total offset 0 = ⟨0, 0, 0, false, false⟩ :=
  if_pos (.inr rfl)

/-- A pinned view shows the newest lines. -/
theorem at_pinned (hheight : 0 < height) :
    Window.at total 0 height = ⟨total - height, total, 0, false, false⟩ := by
  have hlines : total - min height total = total - height := by omega
  by_cases htotal : total = 0
  · subst htotal
    simp [Window.at]
  · unfold Window.at
    rw [if_neg (by omega), if_pos rfl, hlines]

/-- **What a scrolled-back view shows.**  Its first line moves with every step of the offset, and its
last line with all but the step that reaches the oldest line. -/
theorem at_back (hheight : 0 < height) (hoffset : 0 < offset) :
    Window.at total offset height
      = { start := maxOffset total height - offset
          stop := total - min offset (total - topRoom height)
          offset := min offset (total - topRoom height)
          above := decide (3 ≤ height ∧ offset < maxOffset total height)
          below := decide (3 ≤ height ∧ topRoom height < total) } := by
  have hheight' : height ≠ 0 := Nat.ne_of_gt hheight
  have hoffset' : offset ≠ 0 := Nat.ne_of_gt hoffset
  rw [maxOffset_eq]
  by_cases htotal : total = 0
  · subst htotal
    simp [Window.at]
  unfold Window.at
  rw [if_neg (by omega), if_neg hoffset']
  by_cases hsmall : height < 3
  · -- there is no room for edges, and the view moves as a whole
    rw [if_pos hsmall]
    simp only [room, topRoom, if_pos hsmall, Nat.not_le_of_lt hsmall, false_and, decide_false,
      Window.mk.injEq, and_true]
    omega
  rw [if_neg hsmall]
  have hroom : room height = height - 2 := if_neg hsmall
  have htopRoom : topRoom height = height - 1 := if_neg hsmall
  have hedges : 3 ≤ height := Nat.le_of_not_lt hsmall
  rw [hroom, htopRoom]
  by_cases htop : offset < total - (height - 2)
  · -- lines are hidden on both sides
    have hreach : min offset (total - (height - 2)) = offset := Nat.min_eq_left (Nat.le_of_lt htop)
    have hstop : min offset (total - (height - 1)) = offset := Nat.min_eq_left (by omega)
    have hstart : total - offset - (height - 2) = total - (height - 2) - offset := by omega
    have hhidden : total - (height - 2) - offset ≠ 0 := Nat.sub_ne_zero_of_lt htop
    rw [hreach, hstop]
    simp only [hstart, if_neg hhidden, hedges, htop, true_and, decide_true, Window.mk.injEq,
      decide_eq_decide]
    omega
  · -- the oldest line is shown, and the row of the upper edge goes to a line
    have hreach : min offset (total - (height - 2)) = total - (height - 2) :=
      Nat.min_eq_right (Nat.le_of_not_lt htop)
    have hstop : min (total - (height - 2)) (total - (height - 1)) = min offset (total - (height - 1)) := by
      omega
    have hstart : total - (total - (height - 2)) - (height - 2) = 0 := by omega
    have hhidden : total - (height - 2) - offset = 0 := Nat.sub_eq_zero_of_le (Nat.le_of_not_lt htop)
    rw [hreach]
    simp only [hstart, hstop, if_pos, hhidden, hedges, htop, and_false, decide_false, true_and,
      Window.mk.injEq, decide_eq_decide]
    omega

theorem start_back (hheight : 0 < height) (hoffset : 0 < offset) :
    (Window.at total offset height).start = maxOffset total height - offset := by
  rw [at_back hheight hoffset]

theorem stop_back (hheight : 0 < height) (hoffset : 0 < offset) :
    (Window.at total offset height).stop = total - min offset (total - topRoom height) := by
  rw [at_back hheight hoffset]

/-! ### What follows from them -/

/-- The rows at the edges are set aside at most once each. -/
theorem room_le_topRoom (height : Nat) : room height ≤ topRoom height ∧ topRoom height ≤ height := by
  unfold room topRoom
  split <;> omega

theorem room_pos (hheight : 0 < height) : 0 < room height := by
  unfold room
  split <;> omega

/-- A view that is scrolled back by more than it can be shows what the largest offset shows. -/
theorem at_of_maxOffset_le (h : maxOffset total height ≤ offset) :
    Window.at total offset height = Window.at total (maxOffset total height) height := by
  -- a view of no height, one that is not scrolled back, one that shows all, and any other
  rcases Nat.eq_zero_or_pos height with rfl | hheight
  · rw [at_blank, at_blank]
  rcases Nat.eq_zero_or_pos offset with rfl | hoffset
  · rw [Nat.le_zero.mp h]
  have hrooms := room_le_topRoom height
  rcases Nat.eq_zero_or_pos (maxOffset total height) with hmax | hmax
  · -- all lines are shown, with and without scrolling back
    rw [hmax, at_back hheight hoffset, at_pinned hheight]
    rw [maxOffset_eq] at hmax
    have htop : total - topRoom height = 0 := by omega
    have hedge : ¬ topRoom height < total := by omega
    simp only [maxOffset_eq, hmax, htop, hedge, and_false, Nat.not_lt_zero, decide_false, Nat.zero_sub,
      Nat.min_zero, Nat.sub_zero, Window.mk.injEq, and_true]
    omega
  · rw [at_back hheight hoffset, at_back hheight hmax]
    rw [maxOffset_eq] at h ⊢
    simp only [Nat.sub_eq_zero_of_le h, Nat.sub_self, Nat.not_lt_of_le h, Nat.lt_irrefl, and_false,
      Window.mk.injEq, and_true, true_and]
    omega

/-- The lines that are shown are lines of the log. -/
theorem start_le_stop (total offset height : Nat) :
    (Window.at total offset height).start ≤ (Window.at total offset height).stop
      ∧ (Window.at total offset height).stop ≤ total := by
  rcases Nat.eq_zero_or_pos height with rfl | hheight
  · rw [at_blank]
    exact ⟨Nat.le_refl 0, Nat.zero_le total⟩
  rcases Nat.eq_zero_or_pos offset with rfl | hoffset
  · rw [at_pinned hheight]
    exact ⟨Nat.sub_le _ _, Nat.le_refl total⟩
  · have hrooms := room_le_topRoom height
    rw [start_back hheight hoffset, stop_back hheight hoffset, maxOffset_eq]
    omega

/-- A view has as many rows as there are lines, as far as it has room for them. -/
theorem rows_at (total offset height : Nat) :
    (Window.at total offset height).rows = min total height := by
  rcases Nat.eq_zero_or_pos height with rfl | hheight
  · rw [at_blank]
    exact (Nat.min_zero total).symm
  rcases Nat.eq_zero_or_pos offset with rfl | hoffset
  · rw [at_pinned hheight]
    show total - (total - height) + 0 + 0 = _
    omega
  · rw [at_back hheight hoffset, maxOffset_eq]
    show total - min offset (total - topRoom height) - (total - room height - offset)
      + (bif decide _ then 1 else 0) + (bif decide _ then 1 else 0) = min total height
    -- one row for each edge behind which there are lines
    rw [Bool.cond_decide, Bool.cond_decide]
    unfold room topRoom
    split <;> split <;> split <;> omega

/-- The end never comes closer to the newest line when the view is scrolled back further. -/
theorem stop_le_of_le {offset' : Nat} (h : offset ≤ offset') :
    (Window.at total offset' height).stop ≤ (Window.at total offset height).stop := by
  rcases Nat.eq_zero_or_pos height with rfl | hheight
  · simp only [at_blank, Nat.le_refl]
  rcases Nat.eq_zero_or_pos offset with rfl | hoffset
  · rw [at_pinned hheight]
    exact (start_le_stop total offset' height).2
  · rw [stop_back hheight hoffset, stop_back hheight (Nat.lt_of_lt_of_le hoffset h)]
    omega

/-- Is the line shown? -/
def Shows (w : Window) (i : Nat) : Prop := w.start ≤ i ∧ i < w.stop

/-- A view with rows shows a line, if there is one. -/
theorem start_lt_stop (htotal : 0 < total) (hheight : 0 < height) (offset : Nat) :
    (Window.at total offset height).start < (Window.at total offset height).stop := by
  rcases Nat.eq_zero_or_pos offset with rfl | hoffset
  · rw [at_pinned hheight]
    exact Nat.sub_lt htotal hheight
  · have hroom := room_pos hheight
    have hrooms := room_le_topRoom height
    rw [start_back hheight hoffset, stop_back hheight hoffset, maxOffset_eq]
    omega

/-- The lines of a pinned view are the newest ones. -/
theorem shows_pinned_iff (total height i : Nat) :
    (Window.at total 0 height).Shows i ↔ total - min height total ≤ i ∧ i < total := by
  rcases Nat.eq_zero_or_pos height with rfl | hheight
  · rw [at_blank]
    show 0 ≤ i ∧ i < 0 ↔ _
    omega
  · rw [at_pinned hheight]
    show total - height ≤ i ∧ i < total ↔ _
    omega

/-- Every line is shown by the pinned view, or is the first line of another one. -/
theorem exists_shows (hheight : 0 < height) {i : Nat} (hi : i < total) :
    ∃ offset ≤ maxOffset total height, (Window.at total offset height).Shows i := by
  -- new lines are shown without scrolling, others at the offset that makes them the first
  by_cases hnew : total - height ≤ i
  · refine ⟨0, Nat.zero_le _, (shows_pinned_iff total height i).mpr ?_⟩
    omega
  · have hrooms := room_le_topRoom height
    have hback : i < maxOffset total height := by
      rw [maxOffset_eq]
      omega
    have hoffset : 0 < maxOffset total height - i := Nat.sub_pos_of_lt hback
    have hfirst : (Window.at total (maxOffset total height - i) height).start = i := by
      rw [start_back hheight hoffset]
      omega
    have hsome := start_lt_stop (Nat.zero_lt_of_lt hi) hheight (maxOffset total height - i)
    rw [hfirst] at hsome
    exact ⟨_, Nat.sub_le _ _, Nat.le_of_eq hfirst, hsome⟩

/-! ### What is drawn -/

/-- The rows that are drawn are those that the view was said to take. -/
theorem length_rows_render (theme : Theme) {lines : List Text} (hlines : ∀ line ∈ lines, Flat line)
    (hsome : lines ≠ []) (hheight : 0 < height) (offset : Nat) :
    (render theme lines offset height).rows.length = min lines.length height := by
  have htotal : 0 < lines.length := List.length_pos_iff.mpr hsome
  obtain ⟨-, hstop⟩ := start_le_stop lines.length offset height
  have hshown := start_lt_stop htotal hheight offset
  have hmore (arrow : Char) (harrow : arrow ≠ esc ∧ arrow ≠ '\n') (n : Nat) :
      Flat (theme.muted (arrow :: ' ' :: Text.ofNat n ++ " more".toList)) := by
    apply kind_flat.muted
    exact kind_flat.append (kind_flat.cons harrow (kind_flat.cons (by decide) (kind_flat.ofNat n)))
      (kind_flat.literal (by decide))
  rw [← rows_at lines.length offset height]
  unfold render rows
  dsimp only
  generalize Window.at lines.length offset height = w at hstop hshown ⊢
  rw [if_neg (Nat.ne_of_lt hshown), Text.rows_ofRows]
  · -- the lines are cut out of the log, and each edge is a row of its own
    cases w.above <;> cases w.below <;>
      simp only [Bool.false_eq_true, if_true, if_false, List.length_append, List.length_cons,
        List.length_nil, List.length_take, List.length_drop, Bool.toNat_true, Bool.toNat_false] <;>
      omega
  · apply List.ne_nil_of_length_pos
    simp only [List.length_append, List.length_take, List.length_drop]
    omega
  · intro row hrow
    rcases List.mem_append.mp hrow with hrow | hbelow
    · rcases List.mem_append.mp hrow with habove | hline
      · split at habove
        · obtain rfl := List.mem_singleton.mp habove
          exact hmore '▲' (by decide) _
        · exact absurd habove List.not_mem_nil
      · exact hlines row (List.mem_of_mem_drop (List.mem_of_mem_take hline))
    · split at hbelow
      · obtain rfl := List.mem_singleton.mp hbelow
        exact hmore '▼' (by decide) _
      · exact absurd hbelow List.not_mem_nil

/-! ### All of it -/

/-- How the views of so many rows lie over a log of so many lines, one for each offset. -/
structure Geometry (total height : Nat) : Prop where
  /-- What is shown are lines of the log. -/
  within : ∀ offset, (Window.at total offset height).start ≤ (Window.at total offset height).stop
    ∧ (Window.at total offset height).stop ≤ total
  /-- No row is left free, and none is too many. -/
  rows_eq : ∀ offset, (Window.at total offset height).rows = min total height
  /-- The pinned view shows the newest lines, and no edges. -/
  pinned : (Window.at total 0 height).above = false ∧ (Window.at total 0 height).below = false
    ∧ ∀ i, (Window.at total 0 height).Shows i ↔ total - min height total ≤ i ∧ i < total
  /-- Scrolled back, a view starts as far from the oldest line as the offset is from the largest one. -/
  start_eq : 0 < total → 0 < height → ∀ offset, 0 < offset → (Window.at total offset height).start
    = maxOffset total height - min offset (maxOffset total height)
  /-- So each step back brings up one older line, -/
  step : 0 < total → 0 < height → ∀ offset, 0 < offset → offset < maxOffset total height →
    (Window.at total (offset + 1) height).start + 1 = (Window.at total offset height).start
  /-- until there is none. -/
  limited : ∀ offset, maxOffset total height ≤ offset →
    Window.at total offset height = Window.at total (maxOffset total height) height
  /-- With room for edges, they are shown where something is hidden behind them. -/
  edges : 3 ≤ height → ∀ offset, 0 < offset →
    ((Window.at total offset height).above = true ↔ 0 < (Window.at total offset height).start)
    ∧ ((Window.at total offset height).below = true ↔ (Window.at total offset height).stop < total)
  /-- The end never moves towards the newest line. -/
  stop_le : ∀ offset offset', offset ≤ offset' →
    (Window.at total offset' height).stop ≤ (Window.at total offset height).stop
  /-- No line is out of reach. -/
  reaches : 0 < height → ∀ i < total,
    ∃ offset ≤ maxOffset total height, (Window.at total offset height).Shows i

/-- **The geometry of views.**  It is the same for all logs and all views, those of no lines and of
fewer than three rows included. -/
theorem geometry_at (total height : Nat) : Geometry total height where
  within offset := start_le_stop total offset height
  rows_eq offset := rows_at total offset height
  pinned := by
    refine ⟨?_, ?_, shows_pinned_iff total height⟩
    -- both ends of the view, with and without height
    all_goals
      rcases Nat.eq_zero_or_pos height with rfl | hheight
      · rw [at_blank]
      · rw [at_pinned hheight]
  start_eq _ hheight offset hoffset := by
    rw [start_back hheight hoffset]
    omega
  step _ hheight offset hoffset hmax := by
    rw [start_back hheight hoffset, start_back hheight (Nat.succ_pos offset)]
    omega
  limited offset h := at_of_maxOffset_le h
  edges hedges offset hoffset := by
    have hheight : 0 < height := Nat.lt_of_lt_of_le (by decide) hedges
    rw [at_back hheight hoffset, maxOffset_eq]
    simp only [hedges, true_and, decide_eq_true_iff]
    omega
  stop_le _ _ h := stop_le_of_le h
  reaches hheight _ hi := exists_shows hheight hi

end AgentConsole.Frame.Window
