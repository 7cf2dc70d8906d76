import AgentConsole.Proofs.Console.Scroll

/-!
# A scrolled-back view holds still

A view that is scrolled back to closed blocks keeps showing the same rows while output
streams.  The rows of closed blocks stay where they are (`Log.closedRows_push`), and the
offset, which is counted from the newest row, grows with the rows that come.

It does not shrink with the rows that go, though.  A line can take rows away, since it can
turn the open block into something that shows less, as when a paragraph becomes the
definition of a link.  Then the view moves toward older rows, unless it stands at the oldest
one already.  `Reachable.holdsStill` says that nothing else moves such a view: neither the
lines that take no row away, nor what else comes without the user (`Console.Streamed`).
-/

namespace AgentConsole

open Transcript

/-! ### Rows that stay -/

/-- The rows of closed blocks stay where they are. -/
theorem Transcript.Log.closedRows_push (canvas : Canvas) (log : Log) (line : Text) :
    log.closedRows <+: (log.push canvas line).closedRows := by
  unfold Log.push
  dsimp only
  split
  · -- a blank line puts the rows of the open block behind those of the closed ones
    exact List.prefix_append _ _
  · split
    · -- so does a line that makes the block full
      exact List.prefix_append _ _
    · -- and any other line only renders the open block anew
      exact List.prefix_refl _

theorem Transcript.Sheet.closed_initial (sheet : Sheet) : sheet.closed <+: sheet.rows :=
  List.prefix_append _ _

namespace Sight

variable {s t : Sight} {id : WorktreeId} {sheet : Sheet}

/-- The part of the viewed rows that is shown. -/
def window (s : Sight) : Frame.Window :=
  .at s.viewed.length s.scroll.offset s.layout.bodyHeight

/-- The rows that are shown. -/
def shown (s : Sight) : List Text :=
  (s.viewed.drop s.window.start).take (s.window.stop - s.window.start)

/-- What is shown of rows that stay is said by them alone. -/
theorem shown_of_initial {closed : List Text} (h : closed <+: s.viewed)
    (hstop : s.window.stop ≤ closed.length) :
    s.shown = (closed.drop s.window.start).take (s.window.stop - s.window.start) := by
  obtain ⟨rest, hrest⟩ := h
  unfold shown
  rw [← hrest, ← List.drop_take, ← List.drop_take, List.take_append_of_le_length hstop]

/-- A worktree is viewed that is scrolled back, and all that is shown of it belongs to
closed blocks. -/
structure LooksBack (s : Sight) (id : WorktreeId) : Prop where
  sized : s.IsSized
  selected : s.selected = some id
  back : 0 < s.scroll.offset
  closed : s.window.stop ≤ (s.sheets id).closed.length

/-- The other worktrees do not matter. -/
theorem LooksBack.of_eq (h : s.LooksBack id) (hlayout : t.layout = s.layout)
    (hselected : t.selected = s.selected) (hsheet : t.sheets id = s.sheets id)
    (hscroll : t.scroll = s.scroll) : t.LooksBack id ∧ t.shown = s.shown := by
  have hid : t.selected = some id := hselected.trans h.selected
  have hviewed : t.viewed = s.viewed := by
    rw [viewed_of_selected hid, viewed_of_selected h.selected, hsheet]
  have hwindow : t.window = s.window := by
    unfold window
    rw [hviewed, hscroll, hlayout]
  refine ⟨⟨⟨?_, ?_, ?_⟩, hid, ?_, ?_⟩, ?_⟩
  · rw [hscroll, hviewed]
    exact h.sized.total
  · rw [hscroll, hlayout, hselected]
    exact h.sized.viewport
  · rw [hscroll]
    exact h.sized.bounded
  · rw [hscroll]
    exact h.back
  · rw [hwindow, hsheet]
    exact h.closed
  · unfold shown
    rw [hviewed, hwindow]

/-! ### A line -/

theorem viewed_put (h : s.selected = some id) (sheet : Sheet) :
    (s.put id sheet).viewed = sheet.rows := by
  rw [viewed_of_selected (s := s.put id sheet) h]
  exact congrArg Sheet.rows (if_pos rfl)

/-- Writing to the worktree in view counts its rows. -/
theorem write_of_selected (h : s.selected = some id) (sheet : Sheet) :
    s.write id sheet = { s.put id sheet with
      scroll := (s.scroll.append (sheet.rows.length - s.viewed.length)).resize
        sheet.rows.length s.layout.bodyHeight } := by
  unfold write
  rw [if_pos h, ← viewed_of_selected h, ← viewed_put h sheet]
  rfl

theorem viewed_write (h : s.selected = some id) (sheet : Sheet) :
    (s.write id sheet).viewed = sheet.rows := by
  rw [write_of_selected h]
  exact viewed_put h sheet

namespace LooksBack

variable (h : s.LooksBack id)
include h

theorem viewport : s.scroll.viewport = s.layout.bodyHeight :=
  h.sized.viewport_of_selected h.selected

theorem closed_initial (hclosed : (s.sheets id).closed <+: sheet.closed) :
    (s.sheets id).closed <+: s.viewed ∧ (s.sheets id).closed <+: (s.write id sheet).viewed := by
  rw [viewed_of_selected h.selected, viewed_write h.selected]
  exact ⟨(s.sheets id).closed_initial, hclosed.trans sheet.closed_initial⟩

/-- A line leaves the window where it is if and only if it takes no row away or the window
begins at the oldest row. -/
theorem window_write_iff (hclosed : (s.sheets id).closed <+: sheet.closed)
    (hroom : sheet.rows.length ≤ ScrollView.ceiling) :
    ((s.write id sheet).window.start = s.window.start ∧
        (s.write id sheet).window.stop = s.window.stop) ↔
      s.viewed.length ≤ sheet.rows.length ∨ s.window.start = 0 := by
  have hwindow : (s.write id sheet).window = .at sheet.rows.length
      ((s.scroll.append (sheet.rows.length - s.viewed.length)).resize sheet.rows.length
        s.layout.bodyHeight).offset s.layout.bodyHeight := by
    unfold window
    rw [viewed_write h.selected, write_of_selected h.selected]
    rfl
  have hstop : s.window.stop ≤ sheet.rows.length :=
    Nat.le_trans h.closed (hclosed.trans sheet.closed_initial).length_le
  rw [hwindow]
  unfold window at hstop ⊢
  -- without a body nothing is shown; otherwise it is a matter of two windows over a log
  by_cases hbody : s.layout.bodyHeight = 0
  · -- no row is shown, neither before nor after
    rw [hbody]
    have hempty (total offset : Nat) : Frame.Window.at total offset 0 = ⟨0, 0, 0, false, false⟩ :=
      if_pos (.inr rfl)
    rw [hempty, hempty]
    exact iff_of_true ⟨rfl, rfl⟩ (.inr rfl)
  · have hviewport : s.scroll.viewport ≠ 0 := h.viewport ▸ hbody
    have hoffset := ScrollView.offset_resize_append hviewport h.back hroom
    have hmax := h.sized.bounded hviewport
    unfold ScrollView.maxOffset at hmax
    rw [h.sized.total, h.viewport] at hoffset hmax
    rw [hoffset]
    exact Frame.Window.at_append_iff (Nat.pos_of_ne_zero hbody) h.back hmax hstop

/-- With no row lost, or from the first row on, the same rows are shown. -/
theorem shown_write (hclosed : (s.sheets id).closed <+: sheet.closed)
    (hroom : sheet.rows.length ≤ ScrollView.ceiling)
    (hstill : s.viewed.length ≤ sheet.rows.length ∨ s.window.start = 0) :
    (s.write id sheet).shown = s.shown := by
  obtain ⟨hstart, hstop⟩ := (h.window_write_iff hclosed hroom).mpr hstill
  obtain ⟨hbefore, hafter⟩ := h.closed_initial hclosed
  rw [shown_of_initial hbefore h.closed, shown_of_initial hafter (hstop ▸ h.closed), hstart, hstop]

theorem write (hclosed : (s.sheets id).closed <+: sheet.closed)
    (hroom : sheet.rows.length ≤ ScrollView.ceiling)
    (hgain : s.viewed.length ≤ sheet.rows.length) : (s.write id sheet).LooksBack id where
  sized := h.sized.write id sheet
  selected := by
    rw [write_of_selected h.selected]
    exact h.selected
  back := by
    have hback := ScrollView.offset_resize_append_pos h.back h.sized.bounded
      (h.sized.total ▸ hgain) hroom
    rw [h.sized.total, h.viewport] at hback
    rw [write_of_selected h.selected]
    exact hback
  closed := by
    rw [((h.window_write_iff hclosed hroom).mpr (.inl hgain)).2]
    have hsheet : (s.write id sheet).sheets id = sheet := by
      rw [write_of_selected h.selected]
      exact if_pos rfl
    rw [hsheet]
    exact Nat.le_trans h.closed hclosed.length_le

end LooksBack

/-- What is viewed and still there stays viewed. -/
theorem ensure_of_present (h : s.selected = some id) (hid : id ∈ s.present) : s.ensure = s := by
  unfold ensure
  rw [h]
  exact if_pos (List.contains_iff_mem.mpr hid)

end Sight

namespace Console

variable {c d : Console} {id : WorktreeId} {event : Event}

/-- The part of the viewed rows that is on the screen. -/
def window (c : Console) : Frame.Window :=
  .at c.viewedRows.length c.scroll.offset c.layout.bodyHeight

theorem visibleRows_eq (c : Console) : c.visibleRows = c.sight.shown := rfl

/-- The rows of a worktree after one more line. -/
def rowsAfter (c : Console) (id : WorktreeId) (line : Text) : List Text :=
  (c.onOutput id line).outputRows id

theorem rowsAfter_eq (c : Console) (id : WorktreeId) (line : Text) :
    c.rowsAfter id line = ((c.logOf id).push c.canvas line).sheet.rows :=
  congrArg Log.rows (logOf_onOutput id c line)

/-- The event comes without the user and takes nothing away from the worktree: neither a
row nor the worktree itself.  A history of it would replace its rows. -/
def Streams (id : WorktreeId) (c : Console) : Event → Prop
  | .session (.output _ other line) => other = id →
    (c.outputRows id).length ≤ (c.rowsAfter id line).length ∧
      (c.rowsAfter id line).length ≤ ScrollView.ceiling
  | .key key => key.kind = .release
  | .resize _ _ => False
  | .history other _ => other ≠ id
  | .snapshot s => id ∈ s.worktrees.map (·.id)
  | _ => True

/-- What a console comes to while output streams. -/
inductive Streamed (id : WorktreeId) (c : Console) : Console → Prop where
  | refl : Streamed id c c
  | handle {d : Console} (h : Streamed id c d) (event : Event) (now : Moment)
    (hevent : d.Streams id event) : Streamed id c (d.handle event now).console

theorem Streams.not_strikes (h : c.Streams id event) (p : Key → Prop) : ¬ event.Strikes p := by
  rintro ⟨key, rfl, hkind, -⟩
  exact hkind h

/-- The step: a view that looks back shows the same rows after every event of a stream. -/
theorem Shift.looksBack {s : Sight} (hs : c.Shift event s) (h : c.sight.LooksBack id)
    (hevent : c.Streams id event) : s.LooksBack id ∧ s.shown = c.sight.shown := by
  have hput {other : WorktreeId} (hother : other ≠ id) (sheet : Sheet) :
      (c.sight.put other sheet).LooksBack id ∧ (c.sight.put other sheet).shown = c.sight.shown :=
    h.of_eq rfl rfl (if_neg hother) rfl
  have hnot {other : WorktreeId} (hother : other ≠ id) : c.sight.selected ≠ some other :=
    fun hselected => hother (Option.some.inj (hselected.symm.trans h.selected))
  cases hs with
  | kept => exact ⟨h, rfl⟩
  | moved _ _ hkey | looked hkey | themed _ _ hkey => exact absurd hkey (hevent.not_strikes _)
  | resized => exact absurd hevent not_false
  | told snapshot =>
    -- the worktree is still there, so it stays viewed and keeps its rows
    have hpresent : id ∈ snapshot.worktrees.map (·.id) := hevent
    rw [Sight.ensure_of_present (s := c.sight.forget _) h.selected hpresent]
    exact h.of_eq rfl rfl (if_pos (List.contains_iff_mem.mpr hpresent)) rfl
  | refilled other lines sheet =>
    -- a history of another worktree
    unfold Sight.refill
    rw [if_neg (hnot hevent)]
    exact hput hevent sheet
  | written session other line =>
    by_cases hother : other = id
    · subst hother
      obtain ⟨hgain, hroom⟩ := hevent rfl
      have hrows : (c.outputRows other).length = c.sight.viewed.length :=
        congrArg List.length (viewed_sight h.selected).symm
      rw [rowsAfter_eq] at hgain hroom
      rw [hrows] at hgain
      have hclosed := (c.logOf other).closedRows_push c.canvas line
      exact ⟨h.write hclosed hroom hgain, h.shown_write hclosed hroom (.inl hgain)⟩
    · unfold Sight.write
      rw [if_neg (hnot hother)]
      exact hput hother _

/-- The run: so it does all along. -/
theorem Streamed.looksBack (hd : Streamed id c d) (h : c.sight.LooksBack id) :
    d.sight.LooksBack id ∧ d.sight.shown = c.sight.shown := by
  induction hd with
  | refl => exact ⟨h, rfl⟩
  | @handle d _ event now hevent ih =>
    obtain ⟨hback, hshown⟩ := (d.shift_handle event now).looksBack ih.1 hevent
    exact ⟨hback, hshown.trans ih.2⟩

/-- A view that is scrolled back holds still, unless a line takes rows away. -/
structure HoldsStill (c : Console) (id : WorktreeId) : Prop where
  /-- A line leaves the view where it is if and only if it takes no row away or the view
  begins at the oldest row. -/
  window_iff : ∀ session line now, (c.rowsAfter id line).length ≤ ScrollView.ceiling →
    let d := (c.handle (.session (.output session id line)) now).console
    ((d.window.start = c.window.start ∧ d.window.stop = c.window.stop) ↔
      (c.outputRows id).length ≤ (c.rowsAfter id line).length ∨ c.window.start = 0)
  /-- Then the same rows are shown. -/
  visibleRows : ∀ session line now, (c.rowsAfter id line).length ≤ ScrollView.ceiling →
    (c.outputRows id).length ≤ (c.rowsAfter id line).length ∨ c.window.start = 0 →
      (c.handle (.session (.output session id line)) now).console.visibleRows = c.visibleRows
  /-- They are shown while output streams, whatever else comes without the user. -/
  streamed : ∀ d, Streamed id c d → d.visibleRows = c.visibleRows

/-- **A view that is scrolled back to closed blocks holds still if and only if no line takes
rows away, or it stands at the oldest row.**  Numbers of rows are taken to be ones that the
offset can count. -/
theorem Reachable.holdsStill (h : c.Reachable) (hid : c.selected = some id)
    (hback : 0 < c.scroll.offset) (hclosed : c.window.stop ≤ (c.logOf id).closedRows.length) :
    c.HoldsStill id := by
  have hlooks : c.sight.LooksBack id := ⟨h.isSized, hid, hback, hclosed⟩
  have hrows : (c.outputRows id).length = c.sight.viewed.length :=
    congrArg List.length (viewed_sight hid).symm
  have hsight (session : SessionId) (line : Text) (now : Moment) :
      (c.handle (.session (.output session id line)) now).console.sight
        = c.sight.write id ((c.logOf id).push c.canvas line).sheet := c.sight_onOutput id line
  have hinitial (line : Text) := (c.logOf id).closedRows_push c.canvas line
  -- what painters have is in step with the console, so each part is one about them
  refine ⟨fun session line now hroom => ?_, fun session line now hroom hstill => ?_,
    fun d hd => (hd.looksBack hlooks).2⟩
  · rw [rowsAfter_eq] at hroom ⊢
    show (Sight.window (Console.sight _)).start = _ ∧ (Sight.window (Console.sight _)).stop = _ ↔ _
    rw [hsight, hrows]
    exact hlooks.window_write_iff (hinitial line) hroom
  · rw [rowsAfter_eq] at hroom hstill
    rw [hrows] at hstill
    rw [visibleRows_eq, hsight]
    exact hlooks.shown_write (hinitial line) hroom hstill

/-- Five rows of terminal, nine of output, and four keys back. -/
def scrolledBack : Console :=
  let lines : List String := ["a", "", "b", "", "c", "", "d", "", "[x]:"]
  let written := lines.map fun line => Event.session (.output ⟨"s1"⟩ ⟨"w1"⟩ line.toList)
  atWork.after (.resize 80 5 :: written ++ List.replicate 4 (.key { code := .up }))

theorem reachable_scrolledBack : scrolledBack.Reachable := reachable_atWork.after _

/-- It shows a row of a closed block. -/
theorem closed_scrolledBack :
    scrolledBack.window.stop ≤ (scrolledBack.logOf ⟨"w1"⟩).closedRows.length ∧
      scrolledBack.visibleRows = ["c".toList] := by decide +kernel

/-- A line that makes the open paragraph longer leaves it there. -/
theorem holdsStill_scrolledBack :
    let event := Event.session (.output ⟨"s1"⟩ ⟨"w1"⟩ "two words".toList)
    scrolledBack.Reachable ∧ scrolledBack.selected = some ⟨"w1"⟩ ∧
      0 < scrolledBack.scroll.offset ∧
        (scrolledBack.handle event ⟨0, 0⟩).console.visibleRows = ["c".toList] := by
  intro event
  have hid : scrolledBack.selected = some ⟨"w1"⟩ := by decide +kernel
  have hback : 0 < scrolledBack.scroll.offset := by decide +kernel
  have hgain : (scrolledBack.outputRows ⟨"w1"⟩).length
        ≤ (scrolledBack.rowsAfter ⟨"w1"⟩ "two words".toList).length ∧
      (scrolledBack.rowsAfter ⟨"w1"⟩ "two words".toList).length ≤ ScrollView.ceiling := by
    decide +kernel
  have hstill := reachable_scrolledBack.holdsStill hid hback closed_scrolledBack.1
  refine ⟨reachable_scrolledBack, hid, hback, ?_⟩
  rw [hstill.visibleRows _ _ _ hgain.2 (.inl hgain.1)]
  exact closed_scrolledBack.2

/-- A line that makes the open paragraph a link definition, which shows nothing, takes two
rows away, and the view moves. -/
theorem scrolledBack_moves :
    let event := Event.session (.output ⟨"s1"⟩ ⟨"w1"⟩ "/u".toList)
    let after := (scrolledBack.handle event ⟨0, 0⟩).console
    scrolledBack.Reachable ∧ scrolledBack.selected = some ⟨"w1"⟩ ∧
      scrolledBack.scroll.offset = 4 ∧
        scrolledBack.window.stop ≤ (scrolledBack.logOf ⟨"w1"⟩).closedRows.length ∧
          scrolledBack.visibleRows = ["c".toList] ∧ after.visibleRows = ["b".toList] := by
  intro event after
  have hafter : after.visibleRows = ["b".toList] := by decide +kernel +revert
  have hid : scrolledBack.selected = some ⟨"w1"⟩ := by decide +kernel
  have hback : scrolledBack.scroll.offset = 4 := by decide +kernel
  exact ⟨reachable_scrolledBack, hid, hback, closed_scrolledBack.1, closed_scrolledBack.2, hafter⟩

end Console

end AgentConsole
