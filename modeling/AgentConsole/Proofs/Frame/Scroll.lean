import AgentConsole.Frame.Scroll
import AgentConsole.Proofs.Frame.Window

/-!
# Scroll positions and what they show

Offsets are counted from the newest line, and a view that has rows never counts past
the oldest one (`ScrollView.IsBounded`): whatever moves a view or tells it a size keeps
it so.

What a scrolled-back view shows depends on its height and on how many lines do not lie
below it, `total - offset`, and on nothing else (`Window.span_at`).  So the view holds
still while the offset grows with the log.  A log that loses lines cannot take the
offset with it, since only gains are counted; then the view holds still at the oldest
line and nowhere else (`Window.at_append_iff`).

A source that is turned away from is remembered by its offset alone
(`ScrollMemory.get?_switch_self`).  That is enough: the size of the log and of the view
give back the rest of its position (`ScrollView.resize_at`).
-/

namespace AgentConsole

namespace Frame.Window

/-- The lines that a scrolled-back view shows, from and up to which, where `reached`
lines do not lie below it. -/
def span (reached height : Nat) : Nat × Nat :=
  if 3 ≤ height ∧ reached = room height then (0, height - 1)
  else (reached - room height, reached)

theorem fst_span (reached height : Nat) : (span reached height).1 = reached - room height := by
  unfold span
  split
  · omega
  · rfl

/-- What a scrolled-back view shows depends only on how many lines do not lie below it. -/
theorem span_at {total offset height : Nat} (hheight : 0 < height) (hoffset : 0 < offset)
    (hmax : offset ≤ maxOffset total height) :
    ((Window.at total offset height).start, (Window.at total offset height).stop)
      = span (total - offset) height := by
  rw [start_back hheight hoffset, stop_back hheight hoffset]
  rw [maxOffset_eq] at hmax ⊢
  unfold span room topRoom at *
  by_cases hsmall : height < 3
  · -- a view without room for the edges
    simp only [if_pos hsmall] at hmax ⊢
    rw [if_neg (by omega)]
    exact Prod.ext (Nat.sub_right_comm ..) (by dsimp only; omega)
  · simp only [if_neg hsmall] at hmax ⊢
    by_cases htop : total - offset = height - 2
    · -- the oldest line is shown, and the row of the upper edge goes to a line
      rw [if_pos ⟨Nat.le_of_not_lt hsmall, htop⟩]
      exact Prod.ext (by dsimp only; omega) (by dsimp only; omega)
    · rw [if_neg fun h => htop h.2]
      exact Prod.ext (Nat.sub_right_comm ..) (by dsimp only; omega)

/-- A view shows the same lines if and only if the same number of them is reached. -/
theorem span_eq_iff {reached reached' height : Nat} (h : room height ≤ reached)
    (h' : room height ≤ reached') :
    (reached' - room height = reached - room height ∧
        (span reached' height).2 = (span reached height).2) ↔ reached' = reached := by
  refine ⟨fun hsame => ?_, fun hsame => hsame ▸ ⟨rfl, rfl⟩⟩
  omega

/-- How many lines a view reaches is the same after the log has changed at its end, if and
only if the log lost no line or the view reached no more than it has room for. -/
theorem reached_append_iff {total total' offset room : Nat} (hoffset : 0 < offset)
    (hmax : offset ≤ total - room) (hroom : room ≤ total') :
    total' - min (offset + (total' - total)) (total' - room) = total - offset ↔
      total ≤ total' ∨ total - offset = room := by
  rcases Nat.lt_or_ge total' total with hloss | hgain
  · -- the view is moved by the loss, or stopped at the oldest line
    rw [Nat.sub_eq_zero_of_le (Nat.le_of_lt hloss)]
    rcases Nat.le_total offset (total' - room) with hle | hle
    · rw [Nat.add_zero, Nat.min_eq_left hle]
      omega
    · rw [Nat.add_zero, Nat.min_eq_right hle]
      omega
  · -- the offset grows with the gain
    refine iff_of_true ?_ (.inl hgain)
    rw [Nat.min_eq_left (by omega)]
    omega

/-- **Where a scrolled-back view stands after the log has changed at its end.**  Gains are
added to the offset and losses are not, and the offset stays below the oldest line.
If what was shown is still there, the view shows the same places if and only if the log
lost no line or the view stood at the oldest line. -/
theorem at_append_iff {total total' offset height : Nat} (hheight : 0 < height)
    (hoffset : 0 < offset) (hmax : offset ≤ maxOffset total height)
    (hstop : (Window.at total offset height).stop ≤ total') :
    let offset' := min (offset + (total' - total)) (maxOffset total' height)
    ((Window.at total' offset' height).start = (Window.at total offset height).start ∧
        (Window.at total' offset' height).stop = (Window.at total offset height).stop) ↔
      total ≤ total' ∨ (Window.at total offset height).start = 0 := by
  intro offset'
  obtain ⟨hstart, hend⟩ := Prod.ext_iff.mp (span_at hheight hoffset hmax)
  dsimp only at hstart hend
  rw [hend] at hstop ⊢
  rw [hstart, fst_span]
  have hoffset' : offset' = min (offset + (total' - total)) (total' - room height) := by
    rw [← maxOffset_eq]
  rw [maxOffset_eq] at hmax
  have hreach : room height ≤ total - offset := by omega
  have hpos : 0 < room height := room_pos hheight
  -- the view stays scrolled back, or the log gets too short for that
  by_cases hback : 0 < offset'
  · have hmax' : offset' ≤ maxOffset total' height := Nat.min_le_right _ _
    obtain ⟨hstart', hend'⟩ := Prod.ext_iff.mp (span_at hheight hback hmax')
    dsimp only at hstart' hend'
    have hroom : room height ≤ total' - offset' := by omega
    rw [hstart', hend', fst_span, span_eq_iff hreach hroom, hoffset',
      reached_append_iff hoffset hmax (Nat.le_trans hroom (Nat.sub_le _ _))]
    omega
  · -- the log has become so short that the view follows it again
    have hzero : offset' = 0 := Nat.eq_zero_of_not_pos hback
    have hshort : total' ≤ room height := by omega
    by_cases htop : 3 ≤ height ∧ total - offset = room height
    · -- two lines of room are missing, yet all that was shown is still there
      have hroom : room height = height - 2 := if_neg (Nat.not_lt.mpr htop.1)
      have hall : (span (total - offset) height).2 = height - 1 := by
        unfold span
        rw [if_pos htop]
      omega
    · have hspan : span (total - offset) height = (total - offset - room height, total - offset) :=
        if_neg htop
      rw [hspan] at hstop ⊢
      dsimp only at hstop ⊢
      have hsmall : room height = height := if_pos (by omega)
      rw [hzero, at_pinned hheight]
      dsimp only
      omega

end Frame.Window

namespace ScrollView

/-- A view that has rows is not scrolled back past the oldest line. -/
def IsBounded (v : ScrollView) : Prop := v.viewport ≠ 0 → v.offset ≤ v.maxOffset

/-- A view of no rows may stand anywhere. -/
theorem IsBounded.of_viewport {v : ScrollView} (h : v.viewport = 0) : v.IsBounded :=
  fun hne => absurd h hne

/-- Clamping bounds the offset. -/
theorem isBounded_clamp (v : ScrollView) : v.clamp.IsBounded := by
  unfold clamp
  split
  · exact .of_viewport ‹_›
  · exact fun _ => Nat.min_le_right _ _

@[simp] theorem total_clamp (v : ScrollView) : v.clamp.total = v.total := by
  unfold clamp
  split <;> rfl

@[simp] theorem viewport_clamp (v : ScrollView) : v.clamp.viewport = v.viewport := by
  unfold clamp
  split <;> rfl

theorem isBounded_resize (v : ScrollView) (total viewport : Nat) :
    (v.resize total viewport).IsBounded := isBounded_clamp _

theorem isBounded_top (v : ScrollView) : v.top.IsBounded := fun _ => Nat.le_refl _

theorem isBounded_pin (v : ScrollView) : v.pin.IsBounded := fun _ => Nat.zero_le _

/-- Toward newer lines nothing is in the way. -/
theorem IsBounded.down {v : ScrollView} (h : v.IsBounded) (lines : Nat) : (v.down lines).IsBounded :=
  fun hviewport => Nat.le_trans (Nat.sub_le _ _) (h hviewport)

/-- A position in range is given back by its offset and its size. -/
theorem resize_at {v : ScrollView} (h : v.IsBounded) :
    (ScrollView.at v.offset).resize v.total v.viewport = v := by
  unfold ScrollView.at resize clamp
  split
  · rfl
  · rename_i hviewport
    exact congrArg (ScrollView.mk · v.total v.viewport) (Nat.min_eq_left (h hviewport))

@[simp] theorem total_resize (v : ScrollView) (total viewport : Nat) :
    (v.resize total viewport).total = total := total_clamp _

@[simp] theorem viewport_resize (v : ScrollView) (total viewport : Nat) :
    (v.resize total viewport).viewport = viewport := viewport_clamp _

/-- An offset that is too large for the new size is cut. -/
theorem offset_resize (v : ScrollView) (total : Nat) {viewport : Nat} (h : viewport ≠ 0) :
    (v.resize total viewport).offset
      = min v.offset (Frame.Window.maxOffset total viewport) := by
  unfold resize clamp
  rw [if_neg h]
  rfl

/-- Told of the gains of its log and then of its size, a view that is scrolled back moves
with the gains, up to the oldest line. -/
theorem offset_resize_append {v : ScrollView} (hviewport : v.viewport ≠ 0) (hback : 0 < v.offset)
    {total : Nat} (hroom : total ≤ ceiling) :
    ((v.append (total - v.total)).resize total v.viewport).offset
      = min (v.offset + (total - v.total)) (Frame.Window.maxOffset total v.viewport) := by
  have happend : (v.append (total - v.total)).offset
      = min (min (v.offset + (total - v.total)) ceiling)
        (Frame.Window.maxOffset (min (v.total + (total - v.total)) ceiling) v.viewport) := by
    unfold append clamp
    rw [if_neg (Nat.ne_of_gt hback), if_neg hviewport]
    rfl
  rw [offset_resize _ _ hviewport, happend]
  simp only [Frame.Window.maxOffset_eq]
  -- the log is as long as its gains make it at least, and no longer than can be counted
  have hlength : total ≤ min (v.total + (total - v.total)) ceiling :=
    Nat.le_min.mpr ⟨by omega, hroom⟩
  have hceiling : total - Frame.Window.room v.viewport ≤ ceiling :=
    Nat.le_trans (Nat.sub_le _ _) hroom
  rw [Nat.min_assoc, Nat.min_eq_right (Nat.sub_le_sub_right hlength _), Nat.min_assoc,
    Nat.min_eq_right hceiling]

/-- A view that is scrolled back stays so while its log gains. -/
theorem offset_resize_append_pos {v : ScrollView} (hback : 0 < v.offset) (hbounded : v.IsBounded)
    {total : Nat} (hgain : v.total ≤ total) (hroom : total ≤ ceiling) :
    0 < ((v.append (total - v.total)).resize total v.viewport).offset := by
  by_cases hviewport : v.viewport = 0
  · have hceiling : 0 < ceiling := by decide
    unfold resize append clamp
    simp only [hviewport, if_true, if_neg (Nat.ne_of_gt hback)]
    omega
  · have hmax := hbounded hviewport
    rw [offset_resize_append hviewport hback hroom]
    unfold maxOffset at hmax
    rw [Frame.Window.maxOffset_eq] at hmax ⊢
    omega

/-! ### Moving a view -/

/-- The ways in which the user moves a view. -/
inductive Motion where
  | up
  | down
  | pageUp
  | pageDown
  | top
  | pin
  deriving DecidableEq

namespace Motion

/-- The view after a motion. -/
def apply : Motion → ScrollView → ScrollView
  | up, v => v.up 1
  | down, v => v.down 1
  | pageUp, v => v.pageUp
  | pageDown, v => v.pageDown
  | top, v => v.top
  | pin, v => v.pin

/-- Does the motion count further back from where the view stands? -/
def isBack : Motion → Bool
  | up | pageUp => true
  | down | pageDown | top | pin => false

@[simp] theorem total_apply (m : Motion) (v : ScrollView) : (m.apply v).total = v.total := by
  cases m with
  | up | pageUp => exact total_clamp _
  | down | pageDown | top | pin => rfl

@[simp] theorem viewport_apply (m : Motion) (v : ScrollView) :
    (m.apply v).viewport = v.viewport := by
  cases m with
  | up | pageUp => exact viewport_clamp _
  | down | pageDown | top | pin => rfl

end Motion

/-- Every motion keeps the offset in bounds. -/
theorem IsBounded.motion {v : ScrollView} (h : v.IsBounded) (m : Motion) :
    (m.apply v).IsBounded := by
  cases m with
  | up | pageUp => exact isBounded_clamp _
  | down | pageDown => exact h.down _
  | top => exact v.isBounded_top
  | pin => exact v.isBounded_pin

/-- A pinned view that knows no size is moved by counting back, and by nothing else. -/
theorem offset_motion_eq_zero_iff {v : ScrollView} (hviewport : v.viewport = 0)
    (htotal : v.total = 0) (hoffset : v.offset = 0) (m : Motion) :
    (m.apply v).offset = 0 ↔ ¬ m.isBack := by
  obtain ⟨offset, total, viewport⟩ := v
  dsimp only at hviewport htotal hoffset
  subst hviewport htotal hoffset
  cases m <;> decide

end ScrollView

/-! ### The memory of offsets -/

namespace ScrollMemory

variable {α : Type} [DecidableEq α]

/-- A filter by key keeps the first entry of every key it keeps. -/
theorem lookup_filter (entries : List (α × Nat)) (keep : α → Bool) (k : α) :
    (entries.filter fun entry => keep entry.1).lookup k
      = if keep k then entries.lookup k else none := by
  induction entries with
  | nil => simp
  | cons entry rest ih =>
    obtain ⟨l, offset⟩ := entry
    -- the first entry is the one that is looked for, or it does not matter
    by_cases hkl : k = l
    · subst hkl
      cases hkeep : keep k with
      | true => simp [hkeep]
      | false => rw [List.filter_cons_of_neg (by simp [hkeep]), ih]; simp [hkeep]
    · have hne : (k == l) = false := beq_false_of_ne hkl
      cases hkeep : keep l with
      | true => simp [hkeep, List.lookup_cons, hne, ih]
      | false => simp [hkeep, List.lookup_cons, hne, ih]

/-- What is remembered for one place does not change the others. -/
theorem get?_insert (m : ScrollMemory α) (source other : α) (offset : Nat) :
    (m.insert source offset).get? other
      = if source = other then some offset else m.get? other := by
  unfold insert get?
  rw [List.lookup_cons]
  by_cases h : source = other
  · subst h
    simp
  · have hne : (other == source) = false := beq_false_of_ne (Ne.symm h)
    have hkeep := lookup_filter m.offsets (fun l => decide (l ≠ source)) other
    rw [hne, if_neg h, hkeep, if_pos (decide_eq_true (Ne.symm h))]

theorem get?_retain (m : ScrollMemory α) (keep : α → Bool) (source : α) :
    (m.retain keep).get? source = if keep source then m.get? source else none :=
  lookup_filter m.offsets keep source

variable (m : ScrollMemory α) (view : ScrollView) (target : α)

/-- On leaving a source its offset is remembered. -/
theorem get?_switch_self (source : α) :
    (m.switch (some source) view target).2.get? source = some view.offset :=
  (m.get?_insert source source view.offset).trans (if_pos rfl)

/-- What is remembered of the others stays. -/
theorem get?_switch_of_ne {source : Option α} {other : α} (h : source ≠ some other) :
    (m.switch source view target).2.get? other = m.get? other := by
  cases source with
  | none => rfl
  | some s => exact (m.get?_insert s other view.offset).trans (if_neg fun heq => h (congrArg some heq))

end ScrollMemory

end AgentConsole
