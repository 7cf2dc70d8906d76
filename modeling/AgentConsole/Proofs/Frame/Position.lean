import AgentConsole.Proofs.Frame.Scroll

/-!
# Positions and the lines they stand for

A position keeps one number, and the lines that it stands for are computed elsewhere, by
`Frame.Window.at`.  The two agree.  New lines at the end of the log are added to the offset, which
leaves the first line alone because the largest offset grows by as much (`maxOffset_append`), and the
last line too, even where the upper edge has given its row back (`window_append`).

The rest is an invariant: whatever is done to a position, it does not count past the oldest line
(`IsBounded.apply`, `isBounded_run`).  And from the largest offset the oldest line is in sight
(`shows_top`).
-/

namespace AgentConsole.ScrollView

/-- What the view shows in this position. -/
def window (v : ScrollView) : Frame.Window := Frame.Window.at v.total v.offset v.viewport

/-! ### Lines at the end of the log -/

section

variable {v : ScrollView} {added : Nat}

@[simp] theorem viewport_append (v : ScrollView) (added : Nat) :
    (v.append added).viewport = v.viewport := viewport_clamp _

theorem total_append (hroom : v.total + added ≤ ceiling) :
    (v.append added).total = v.total + added := by
  show (clamp _).total = _
  rw [total_clamp]
  exact Nat.min_eq_left hroom

/-- What is pinned stays pinned. -/
theorem offset_append_pinned (h : v.offset = 0) (added : Nat) : (v.append added).offset = 0 := by
  simp [append, clamp, h]

/-- While there are older lines to scroll back to, each new line makes room for one step more. -/
theorem maxOffset_append {total height : Nat} (h : 0 < Frame.Window.maxOffset total height)
    (added : Nat) : Frame.Window.maxOffset (total + added) height
      = Frame.Window.maxOffset total height + added := by
  rw [Frame.Window.maxOffset_eq] at h ⊢
  rw [Frame.Window.maxOffset_eq]
  omega

/-- A view that is scrolled back counts the new lines. -/
theorem offset_append (hviewport : 0 < v.viewport) (hback : 0 < v.offset)
    (hmax : v.offset ≤ v.maxOffset) (hroom : v.total + added ≤ ceiling) :
    (v.append added).offset = v.offset + added := by
  have hlonger := maxOffset_append (Nat.lt_of_lt_of_le hback hmax) added
  have hlimit : v.offset + added ≤ ceiling := by
    have hwithin : v.maxOffset ≤ v.total := by
      show Frame.Window.maxOffset v.total v.viewport ≤ v.total
      rw [Frame.Window.maxOffset_eq]
      exact Nat.sub_le _ _
    omega
  unfold append clamp
  rw [if_neg (Nat.ne_of_gt hviewport), if_neg (Nat.ne_of_gt hback)]
  show min (min (v.offset + added) ceiling) (Frame.Window.maxOffset (min _ ceiling) v.viewport) = _
  rw [Nat.min_eq_left hlimit, Nat.min_eq_left hroom, hlonger]
  exact Nat.min_eq_left (Nat.add_le_add_right hmax added)

/-- A view that is scrolled back shows the same lines after lines were added at the end. -/
theorem window_append (hviewport : 0 < v.viewport) (hback : 0 < v.offset)
    (hmax : v.offset ≤ v.maxOffset) (hroom : v.total + added ≤ ceiling) :
    (v.append added).window.start = v.window.start ∧ (v.append added).window.stop = v.window.stop := by
  have hback' : 0 < v.offset + added := Nat.lt_of_lt_of_le hback (Nat.le_add_right _ _)
  have hlonger := maxOffset_append (Nat.lt_of_lt_of_le hback hmax) added
  have hrooms := Frame.Window.room_le_topRoom v.viewport
  have hedge : Frame.Window.topRoom v.viewport ≤ Frame.Window.room v.viewport + 1 := by
    unfold Frame.Window.topRoom Frame.Window.room
    split <;> omega
  unfold window
  rw [viewport_append, total_append hroom, offset_append hviewport hback hmax hroom,
    Frame.Window.start_back hviewport hback', Frame.Window.start_back hviewport hback,
    Frame.Window.stop_back hviewport hback', Frame.Window.stop_back hviewport hback, hlonger]
  constructor
  · exact Nat.add_sub_add_right _ _ _
  · -- there are more lines than a view that reaches the oldest one has room for
    unfold maxOffset at hmax
    rw [Frame.Window.maxOffset_eq] at hmax
    omega

end

/-! ### The oldest line -/

/-- From the largest offset the oldest line is in sight. -/
theorem shows_top {v : ScrollView} (hviewport : 0 < v.viewport) (htotal : 0 < v.total) :
    v.top.window.Shows 0 := by
  have hfirst : v.top.window.start = 0 := by
    show (Frame.Window.at v.total v.maxOffset v.viewport).start = 0
    rcases Nat.eq_zero_or_pos v.maxOffset with hzero | hback
    · -- all lines have room
      have hrooms := Frame.Window.room_le_topRoom v.viewport
      rw [hzero, Frame.Window.at_pinned hviewport]
      unfold maxOffset at hzero
      rw [Frame.Window.maxOffset_eq] at hzero
      show v.total - v.viewport = 0
      omega
    · rw [Frame.Window.start_back hviewport hback]
      exact Nat.sub_self _
  have hsome := Frame.Window.start_lt_stop htotal hviewport v.top.offset
  exact ⟨Nat.le_of_eq hfirst, Nat.lt_of_le_of_lt (Nat.zero_le _) hsome⟩

/-! ### Whatever is done to a position -/

/-- What can be done to a position. -/
inductive Action where
  | up (lines : Nat)
  | down (lines : Nat)
  | pageUp
  | pageDown
  | top
  | pin
  | append (added : Nat)
  | resize (total viewport : Nat)
  deriving DecidableEq

namespace Action

/-- The position after an action. -/
def apply : Action → ScrollView → ScrollView
  | up lines, v => v.up lines
  | down lines, v => v.down lines
  | pageUp, v => v.pageUp
  | pageDown, v => v.pageDown
  | top, v => v.top
  | pin, v => v.pin
  | append added, v => v.append added
  | resize total viewport, v => v.resize total viewport

/-- Does the action leave the view a row? -/
def LeavesRows : Action → Prop
  | resize _ viewport => 1 ≤ viewport
  | _ => True

/-- Only a new size changes how many rows the view has. -/
theorem viewport_apply_pos {v : ScrollView} (h : 0 < v.viewport) {a : Action} (ha : a.LeavesRows) :
    0 < (a.apply v).viewport := by
  cases a with
  | up lines => exact (viewport_clamp _).symm ▸ h
  | down lines => exact h
  | pageUp => exact (viewport_clamp _).symm ▸ h
  | pageDown => exact h
  | top => exact h
  | pin => exact h
  | append added => exact (viewport_append v added).symm ▸ h
  | resize total viewport => exact (viewport_resize v total viewport).symm ▸ ha

end Action

/-- No action leads past the oldest line. -/
theorem IsBounded.apply {v : ScrollView} (h : v.IsBounded) (a : Action) : (a.apply v).IsBounded := by
  cases a with
  | up lines => exact isBounded_clamp _
  | down lines => exact h.down lines
  | pageUp => exact isBounded_clamp _
  | pageDown => exact h.down _
  | top => exact v.isBounded_top
  | pin => exact v.isBounded_pin
  | append added => exact isBounded_clamp _
  | resize total viewport => exact v.isBounded_resize total viewport

/-- The position after some actions. -/
def run (actions : List Action) (v : ScrollView) : ScrollView :=
  actions.foldl (fun v a => a.apply v) v

/-- Nor do all of them together. -/
theorem isBounded_run {actions : List Action} (hrows : ∀ a ∈ actions, a.LeavesRows) {v : ScrollView}
    (hviewport : 0 < v.viewport) (h : v.IsBounded) :
    0 < (run actions v).viewport ∧ (run actions v).IsBounded := by
  induction actions generalizing v with
  | nil => exact ⟨hviewport, h⟩
  | cons a rest ih =>
    have ha := hrows a List.mem_cons_self
    have hrest : ∀ b ∈ rest, b.LeavesRows := fun b hb => hrows b (List.mem_cons_of_mem a hb)
    exact ih hrest (a.viewport_apply_pos hviewport ha) (h.apply a)

/-- **A view that is scrolled back holds its lines.**  Lines that are added to the log leave the lines
that it shows as they are, and a pinned view stays pinned.  A view with rows is never scrolled back
past the oldest line, whatever is done to it, and from the top that line is in sight. -/
theorem holds_lines :
    (∀ (v : ScrollView) (added : Nat), 1 ≤ v.viewport → v.total + added ≤ ceiling →
      1 ≤ v.offset → v.offset ≤ v.maxOffset →
        (v.append added).window.start = v.window.start
          ∧ (v.append added).window.stop = v.window.stop)
      ∧ (∀ (v : ScrollView) (added : Nat), v.pinned → (v.append added).pinned)
      ∧ ∀ (v : ScrollView) (total viewport : Nat) (actions : List Action), 1 ≤ viewport →
        (∀ a ∈ actions, a.LeavesRows) →
          let w := run actions (v.resize total viewport)
          w.offset ≤ w.maxOffset ∧ (1 ≤ w.total → w.top.window.Shows 0) := by
  refine ⟨?_, ?_, ?_⟩
  · intro v added hviewport hroom hback hmax
    exact window_append hviewport hback hmax hroom
  · intro v added hpinned
    exact decide_eq_true (offset_append_pinned (of_decide_eq_true hpinned) added)
  · intro v total viewport actions hviewport hrows w
    have hsized : 0 < (v.resize total viewport).viewport := by
      rw [viewport_resize]
      exact hviewport
    -- the actions leave rows, so bounds are kept from the first size on
    obtain ⟨hrow, hbounded⟩ := isBounded_run hrows hsized (v.isBounded_resize total viewport)
    exact ⟨hbounded (Nat.ne_of_gt hrow), fun htotal => shows_top hrow htotal⟩

/-- A view of five rows stands at the oldest of ten lines, where its upper edge has given its row back.
Two lines are added to the log; later it is told to be shorter and the view to have two rows. -/
theorem holds_lines_at_top :
    let v : ScrollView := ⟨7, 10, 5⟩
    let actions : List Action := [.append 2, .down 3, .pageUp, .resize 4 2, .up 9]
    v.offset ≤ v.maxOffset ∧ v.window = ⟨0, 4, 6, false, true⟩ ∧ v.append 2 = ⟨9, 12, 5⟩
      ∧ (v.append 2).window.start = v.window.start ∧ (v.append 2).window.stop = v.window.stop
      ∧ (∀ a ∈ actions, a.LeavesRows) ∧ run actions (v.resize 10 5) = ⟨2, 4, 2⟩
      ∧ (run actions (v.resize 10 5)).offset ≤ (run actions (v.resize 10 5)).maxOffset := by
  intro v actions
  have hmax : v.offset ≤ v.maxOffset := by decide
  have hrows : ∀ a ∈ actions, a.LeavesRows := by simp [actions, Action.LeavesRows]
  obtain ⟨hholds, -, hrun⟩ := holds_lines
  obtain ⟨hstart, hstop⟩ := hholds v 2 (by decide) (by decide) (by decide) hmax
  obtain ⟨hbounded, -⟩ := hrun v 10 5 actions (by decide) hrows
  exact ⟨hmax, by decide, by decide, hstart, hstop, hrows, by decide, hbounded⟩

end AgentConsole.ScrollView
