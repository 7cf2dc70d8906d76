import AgentConsole.Console.Render
import AgentConsole.Proofs.Console.Quit
import AgentConsole.Proofs.Console.Sight

/-!
# The scroll position in step

The scroll position keeps a copy of how many rows there are and how many are shown.
Rows change with lines, histories, themes and sizes, and each time the copy is made anew
(`Sight.IsSized`), so whenever a worktree is viewed the copy is right
(`Reachable.scroll_inStep`).

There is one exception when nothing is viewed.  A snapshot that leaves no worktree sets
a position that knows no size, and nobody tells it one (`Sight.IsUnsized`).  Such a
position is not limited, so keys that count back carry it out of range
(`Console.Overscrolls`).  `Reachable.isRangeSafe` says that this is the only way: the
offset is in range as long as no key counts back in that state, and the first one that
does puts it out of range.
-/

namespace AgentConsole

open Transcript
open ScrollView (Motion)

/-! ### What is in sight is sized -/

namespace Sight

/-- The scroll position knows the rows there are and the rows that are shown, and is not
scrolled back past the oldest one.  If nothing is viewed it may know no size. -/
structure IsSized (s : Sight) : Prop where
  total : s.scroll.total = s.viewed.length
  viewport : s.scroll.viewport = s.layout.bodyHeight ∨ s.selected = none ∧ s.scroll.viewport = 0
  bounded : s.scroll.IsBounded

theorem isSized_sync (s : Sight) : s.sync.IsSized :=
  ⟨s.scroll.total_resize _ _, .inl (s.scroll.viewport_resize _ _), s.scroll.isBounded_resize _ _⟩

namespace IsSized

variable {s : Sight} (h : s.IsSized)
include h

/-- Its height is that of the body. -/
theorem viewport_of_selected {id : WorktreeId} (hid : s.selected = some id) :
    s.scroll.viewport = s.layout.bodyHeight := by
  rcases h.viewport with hviewport | ⟨hnone, -⟩
  · exact hviewport
  · exact absurd (hid.symm.trans hnone) (by simp)

/-- Motions keep it sized. -/
theorem moved (m : Motion) : IsSized { s with scroll := m.apply s.scroll } where
  total := (m.total_apply s.scroll).trans h.total
  viewport := by
    show (m.apply s.scroll).viewport = _ ∨ _ ∧ (m.apply s.scroll).viewport = 0
    rw [m.viewport_apply]
    exact h.viewport
  bounded := h.bounded.motion m

/-- A look at a worktree sizes the view. -/
theorem look (id : WorktreeId) : (s.look id).IsSized := by
  unfold Sight.look
  split
  · exact h
  · exact isSized_sync _

/-- Rows of a worktree that is not viewed do not matter. -/
theorem put {id : WorktreeId} (hid : s.selected ≠ some id) (sheet : Sheet) :
    (s.put id sheet).IsSized := by
  have hviewed : (s.put id sheet).viewed = s.viewed := by
    unfold Sight.viewed Sight.put
    rcases hs : s.selected with - | other
    · rfl
    · have hother : id ≠ other := fun heq => hid (hs.trans (congrArg some heq.symm))
      exact congrArg Sheet.rows (if_neg hother)
  exact ⟨h.total.trans (congrArg List.length hviewed.symm), h.viewport, h.bounded⟩

/-- If the viewed worktree is still there, so are its rows. -/
theorem forget {id : WorktreeId} {present : List WorktreeId} (hid : s.selected = some id)
    (hpresent : id ∈ present) : (s.forget present).IsSized := by
  have hviewed : (s.forget present).viewed = s.viewed := by
    rw [viewed_of_selected hid, viewed_of_selected (s := s.forget present) hid]
    exact congrArg Sheet.rows (if_pos (List.contains_iff_mem.mpr hpresent))
  exact ⟨h.total.trans (congrArg List.length hviewed.symm), h.viewport, h.bounded⟩

theorem refill (id : WorktreeId) (sheet : Sheet) : (s.refill id sheet).IsSized := by
  unfold Sight.refill
  split
  · exact isSized_sync _
  · exact h.put ‹_› sheet

/-- A line that is written is counted. -/
theorem write (id : WorktreeId) (sheet : Sheet) : (s.write id sheet).IsSized := by
  unfold Sight.write
  split
  · exact isSized_sync _
  · exact h.put ‹_› sheet

end IsSized

/-- A view that starts anew. -/
theorem isSized_blank (s : Sight) : IsSized { s with selected := none, scroll := {} } :=
  ⟨rfl, .inr ⟨rfl, rfl⟩, .of_viewport rfl⟩

end Sight

namespace Console

variable {c d : Console}

/-- Every event keeps what is in sight sized. -/
theorem Shift.isSized {event : Event} {s : Sight} (hs : c.Shift event s) (h : c.sight.IsSized) :
    s.IsSized := by
  cases hs with
  | kept => exact h
  | moved m => exact h.moved m
  | looked => exact h.look _
  | themed | resized => exact Sight.isSized_sync _
  | told snapshot =>
    rcases (c.sight.forget (snapshot.worktrees.map (·.id))).ensure_cases with
      ⟨id, hpresent, hid, hsame⟩ | ⟨-, hblank⟩ | ⟨first, -, hfirst⟩
    · rw [hsame]
      exact h.forget hid hpresent
    · rw [hblank]
      exact Sight.isSized_blank _
    · rw [hfirst]
      exact (Sight.isSized_blank _).look first
  | refilled id lines sheet => exact h.refill id sheet
  | written => exact h.write _ _

theorem Reachable.isSized (h : c.Reachable) : c.sight.IsSized :=
  h.sight_induction (fun _ _ _ => Sight.isSized_sync _) Shift.isSized
    fun _ _ _ => Sight.isSized_sync _

/-- **The scroll position is in step with what is shown.**  In every state that the console
comes to, if a worktree is viewed, the position knows how many rows its log has and how
many of them the layout shows. -/
theorem Reachable.scroll_inStep (h : c.Reachable) {id : WorktreeId} (hid : c.selected = some id) :
    c.scroll.total = (c.outputRows id).length ∧ c.scroll.viewport = c.layout.bodyHeight :=
  ⟨h.isSized.total.trans (congrArg List.length (viewed_sight hid)),
    h.isSized.viewport_of_selected hid⟩

/-- At work, after one line of output and on a smaller terminal. -/
theorem scroll_inStep_atWork :
    let written :=
      (atWork.handle (.session (.output ⟨"s1"⟩ ⟨"w1"⟩ "done".toList)) ⟨0, 0⟩).console
    let narrowed := (written.handle (.resize 40 10) ⟨0, 0⟩).console
    narrowed.Reachable ∧ narrowed.selected = some ⟨"w1"⟩ ∧
      (narrowed.outputRows ⟨"w1"⟩).length = 1 ∧
        narrowed.scroll.total = (narrowed.outputRows ⟨"w1"⟩).length ∧
          narrowed.scroll.viewport = 8 := by
  intro written narrowed
  have hrows : (narrowed.outputRows ⟨"w1"⟩).length = 1 := by decide +kernel +revert
  have hreachable : narrowed.Reachable := (reachable_atWork.handle _ _).handle _ _
  have hid : narrowed.selected = some ⟨"w1"⟩ := rfl
  exact ⟨hreachable, hid, hrows, hreachable.scroll_inStep hid⟩

end Console

/-! ### Positions that know no size -/

/-- The keys of the main output that count back from where the view stands. -/
def Key.looksBack (key : Key) : Bool := key.code ∈ [.up, .char 'k', .pageUp]

/-- A key looks back if its motion does. -/
theorem Key.looksBack_iff (key : Key) :
    key.looksBack ↔ ∃ m, Motion.ofCode? key.code = some m ∧ m.isBack := by
  rw [looksBack, decide_eq_true_iff]
  generalize key.code = code
  constructor
  · intro hmem
    simp only [List.mem_cons, List.not_mem_nil, or_false] at hmem
    obtain rfl | rfl | rfl := hmem
    · exact ⟨.up, rfl, rfl⟩
    · exact ⟨.up, rfl, rfl⟩
    · exact ⟨.pageUp, rfl, rfl⟩
  · rintro ⟨m, hm, hback⟩
    unfold Motion.ofCode? at hm
    split at hm
    all_goals first | (obtain rfl := Option.some.inj hm) | cases hm
    all_goals first | exact absurd hback Bool.false_ne_true | decide

namespace Sight

variable {s : Sight}

/-- Nothing is viewed, and the position knows no size. -/
def IsUnsized (s : Sight) : Prop := s.selected = none ∧ s.scroll.viewport = 0

/-- A view with room for rows is pinned if no size is known. -/
def IsAnchored (s : Sight) : Prop := 3 ≤ s.layout.height → s.IsUnsized → s.scroll.offset = 0

theorem not_isUnsized_of_selected {id : WorktreeId} (h : s.selected = some id) :
    ¬ s.IsUnsized := fun hunsized => absurd (h.symm.trans hunsized.1) (by simp)

theorem not_isUnsized_sync (hheight : 3 ≤ s.layout.height) : ¬ s.sync.IsUnsized := by
  rintro ⟨-, hviewport⟩
  have hbody : s.layout.bodyHeight = 0 := (s.scroll.viewport_resize _ _).symm.trans hviewport
  unfold Frame.Layout.bodyHeight at hbody
  omega

/-- Who is told a size knows one. -/
theorem eq_of_isUnsized {p : Prop} [Decidable p] {t u : Sight} (hs : s = if p then t.sync else u)
    (hheight : 3 ≤ s.layout.height) (h : s.IsUnsized) : s = u := by
  by_cases hp : p
  · rw [if_pos hp] at hs
    rw [hs] at hheight h
    exact absurd h (not_isUnsized_sync hheight)
  · rw [hs, if_neg hp]

/-- An offset is in range if a size limits it, or if it is zero. -/
theorem IsSized.offset_le_iff (h : s.IsSized) (hheight : 3 ≤ s.layout.height) :
    s.scroll.offset ≤ Frame.Window.maxOffset s.viewed.length s.layout.bodyHeight ↔
      s.IsAnchored := by
  have hbody : s.layout.bodyHeight ≠ 0 := by
    unfold Frame.Layout.bodyHeight
    omega
  rcases h.viewport with hviewport | hunsized
  · have hsized : s.scroll.viewport ≠ 0 := hviewport ▸ hbody
    refine iff_of_true ?_ fun _ hunsized => absurd hunsized.2 hsized
    rw [← h.total, ← hviewport]
    exact h.bounded hsized
  · rw [viewed_of_none hunsized.1, Frame.Window.maxOffset_eq, List.length_nil, Nat.zero_sub, Nat.le_zero]
    exact ⟨fun hzero _ _ => hzero, fun hanchored => hanchored hheight hunsized⟩

end Sight

namespace Console

variable {c d : Console} {event : Event}

/-- The offset is one that the rows and the height of the view allow. -/
def InRange (c : Console) : Prop :=
  c.scroll.offset ≤ Frame.Window.maxOffset c.viewedRows.length c.layout.bodyHeight

/-- The event is a key that counts back while no size limits how far. -/
def Overscrolls (c : Console) (event : Event) : Prop :=
  c.sight.IsUnsized ∧ c.focus.current = .mainOutput ∧ event.Strikes (·.looksBack)

/-- A position knows no size after a snapshot that leaves no worktree.  After other events
it knows none only if it knew none before; then it stands where it stood, or a key has
moved it. -/
theorem Shift.unsized_cases {s : Sight} (hs : c.Shift event s) (hheight : 3 ≤ s.layout.height)
    (hunsized : s.IsUnsized) :
    (∃ snapshot, event = .snapshot snapshot ∧ snapshot.worktrees = [] ∧ s.scroll = {}) ∨
      c.sight.IsUnsized ∧ s.layout = c.sight.layout ∧
        (s.scroll = c.scroll ∨ ∃ m, c.focus.current = .mainOutput ∧
          event.Strikes (Motion.ofCode? ·.code = some m) ∧ s.scroll = m.apply c.scroll) := by
  cases hs with
  | kept => exact .inr ⟨hunsized, rfl, .inl rfl⟩
  | moved m hmain hkey =>
    have hviewport : c.scroll.viewport = 0 := (m.viewport_apply c.scroll).symm.trans hunsized.2
    exact .inr ⟨⟨hunsized.1, hviewport⟩, rfl, .inr ⟨m, hmain, hkey, rfl⟩⟩
  | looked => exact absurd hunsized (Sight.not_isUnsized_of_selected (Sight.selected_look _ _))
  | themed | resized => exact absurd hunsized (Sight.not_isUnsized_sync hheight)
  | told snapshot =>
    -- of what a snapshot can lead to, only the blank position knows no size
    rcases (c.sight.forget (snapshot.worktrees.map (·.id))).ensure_cases with
      ⟨id, -, hid, hsame⟩ | ⟨hnone, hblank⟩ | ⟨first, -, hfirst⟩
    · rw [hsame] at hunsized
      exact absurd hunsized (Sight.not_isUnsized_of_selected hid)
    · exact .inl ⟨snapshot, rfl, List.map_eq_nil_iff.mp hnone, by rw [hblank]⟩
    · rw [hfirst] at hunsized
      exact absurd hunsized (Sight.not_isUnsized_of_selected (Sight.selected_look _ _))
  | refilled id lines sheet =>
    have hput : c.sight.refill id sheet = c.sight.put id sheet :=
      Sight.eq_of_isUnsized rfl hheight hunsized
    rw [hput] at hunsized ⊢
    exact .inr ⟨hunsized, rfl, .inl rfl⟩
  | written session id line =>
    have hput : c.sight.write id _ = c.sight.put id _ :=
      Sight.eq_of_isUnsized rfl hheight hunsized
    rw [hput] at hunsized ⊢
    exact .inr ⟨hunsized, rfl, .inl rfl⟩

/-- A key that stands for a motion moves the view, and does nothing else. -/
theorem onKey_of_motion {key : Key} (hkind : key.kind ≠ .release)
    (hmain : c.focus.current = .mainOutput) {m : Motion} (hm : Motion.ofCode? key.code = some m)
    (now : Moment) : c.onKey key now = { c with scroll := m.apply c.scroll }.quiet := by
  have hother {code : KeyCode} (hnone : Motion.ofCode? code = none) : key.code ≠ code := by
    rintro rfl
    exact absurd (hm.symm.trans hnone) (by simp)
  have hkey : c.onKey key now = c.onMainKey key now := by
    unfold onKey
    rw [if_neg hkind, if_neg fun h => hother rfl h.1, if_neg fun h => hother rfl h.1, hmain]
  rw [hkey]
  unfold onMainKey
  generalize key.code = code at hm ⊢
  unfold Motion.ofCode? at hm
  split at hm
  all_goals first | (obtain rfl := Option.some.inj hm; rfl) | exact absurd hm (by simp)

namespace Reachable

variable (h : c.Reachable)
include h

theorem inRange_iff (hheight : 3 ≤ c.height) : c.InRange ↔ c.sight.IsAnchored :=
  h.isSized.offset_le_iff hheight

/-- Of all motions, those that count back unpin a position that knows no size. -/
theorem offset_motion_eq_zero_iff (hunsized : c.sight.IsUnsized) (hoffset : c.scroll.offset = 0)
    (m : Motion) : (m.apply c.scroll).offset = 0 ↔ ¬ m.isBack := by
  have htotal : c.scroll.total = 0 :=
    h.isSized.total.trans (congrArg List.length (Sight.viewed_of_none hunsized.1))
  exact ScrollView.offset_motion_eq_zero_iff hunsized.2 htotal hoffset m

/-- Unless it is scrolled without a size, a view stays anchored. -/
theorem isAnchored_handle (hc : c.sight.IsAnchored) (hcalm : ¬ c.Overscrolls event)
    (now : Moment) : (c.handle event now).console.sight.IsAnchored := by
  intro hheight hunsized
  rcases (c.shift_handle event now).unsized_cases hheight hunsized with
    ⟨_, -, -, hnew⟩ | ⟨hbefore, hlayout, hmoved⟩
  · exact congrArg (·.offset) hnew
  · have hzero := hc (hlayout ▸ hheight) hbefore
    rcases hmoved with hsame | ⟨m, hmain, ⟨key, hevent, hkind, hm⟩, hmoved⟩
    · exact (congrArg (·.offset) hsame).trans hzero
    · -- a motion that does not count back leaves the view where it is
      refine (congrArg (·.offset) hmoved).trans ?_
      rw [h.offset_motion_eq_zero_iff hbefore hzero]
      intro hback
      have hkey : key.looksBack := key.looksBack_iff.mpr ⟨m, hm, hback⟩
      exact hcalm ⟨hbefore, hmain, key, hevent, hkind, hkey⟩

theorem isAnchored_later (hc : c.sight.IsAnchored)
    (hd : Later (fun d event => ¬ d.Overscrolls event) c d) : d.sight.IsAnchored := by
  -- the terminal may have been too low for rows in between, hence `IsAnchored`
  induction hd with
  | refl => exact hc
  | @start d _ ih => exact d.sight_start ▸ ih
  | handle hd _ now hcalm ih => exact (hd.reachable h).isAnchored_handle ih hcalm now
  | @applyTheme d _ name =>
    rw [d.sight_applyTheme name]
    exact fun hheight hunsized => absurd hunsized (Sight.not_isUnsized_sync hheight)

/-- A position that is pinned while it knows no size is unpinned by a key that counts back. -/
theorem not_isAnchored_handle (hheight : 3 ≤ c.height) (hc : c.sight.IsAnchored)
    (hover : c.Overscrolls event) (now : Moment) :
    ¬ (c.handle event now).console.sight.IsAnchored := by
  obtain ⟨hunsized, hmain, key, rfl, hkind, hback⟩ := hover
  obtain ⟨m, hm, hback⟩ := key.looksBack_iff.mp hback
  have hturn : c.handle (.key key) now = { c with scroll := m.apply c.scroll }.quiet :=
    onKey_of_motion hkind hmain hm now
  rw [hturn]
  intro hanchored
  have hstill : (m.apply c.scroll).offset = 0 :=
    hanchored hheight ⟨hunsized.1, (m.viewport_apply c.scroll).trans hunsized.2⟩
  have hoffset := hc hheight hunsized
  exact (h.offset_motion_eq_zero_iff hunsized hoffset m).mp hstill hback

end Reachable

/-- The footer is the last part of the frame, and it shows the offset of a view that is
scrolled back. -/
theorem renderMain_footer (c : Console) :
    ∃ above, c.renderMain = above ++ '\n' :: View.footer c.theme c.focus.current
      (if c.scroll.pinned then [] else '↑' :: Text.ofNat c.scroll.offset) c.width := by
  let header := View.header c.theme c.snapshot c.selected (c.selected.bind c.remote.get?) c.width
  exact ⟨header ++ '\n' :: c.renderBody, rfl⟩

/-- Scroll positions stay in range, unless a key counts back while no size is known. -/
structure IsRangeSafe (c : Console) : Prop where
  /-- While a worktree is viewed, the offset is in range. -/
  viewed : c.selected.isSome → c.InRange
  /-- While none is viewed, it is in range if a size is known or the view is pinned. -/
  inRange_iff : c.InRange ↔ (c.sight.IsUnsized → c.scroll.pinned)
  /-- Only a snapshot that leaves no worktree makes a position forget its size. -/
  unsized : ∀ event now, 3 ≤ (c.handle event now).console.height →
    (c.handle event now).console.sight.IsUnsized →
      c.sight.IsUnsized ∨ ∃ snapshot, event = .snapshot snapshot ∧ snapshot.worktrees = []
  /-- The step: a position leaves the range if and only if a key counts it back then. -/
  handle_iff : ∀ event now, 3 ≤ (c.handle event now).console.height → c.InRange →
    ((c.handle event now).console.InRange ↔ ¬ c.Overscrolls event)
  /-- The run: until a key does, the position is in range, whatever sizes the terminal takes. -/
  later : ∀ d, Later (fun d event => ¬ d.Overscrolls event) c d → c.InRange → 3 ≤ d.height →
    d.InRange
  /-- With nothing to scroll, a view in range is pinned, and the footer shows no offset. -/
  pinned : c.InRange → Frame.Window.maxOffset c.viewedRows.length c.layout.bodyHeight = 0 →
    c.scroll.pinned ∧ ∃ above,
      c.renderMain = above ++ '\n' :: View.footer c.theme c.focus.current [] c.width

/-- **The scroll position is in range as long as no key counts back while nothing is viewed
and no size is known.** -/
theorem Reachable.isRangeSafe (h : c.Reachable) (hheight : 3 ≤ c.height) : c.IsRangeSafe where
  viewed hsome := by
    obtain ⟨id, hid⟩ := Option.isSome_iff_exists.mp hsome
    refine (h.inRange_iff hheight).mpr fun _ hunsized => ?_
    exact absurd hunsized (Sight.not_isUnsized_of_selected hid)
  inRange_iff := by
    rw [h.inRange_iff hheight, ScrollView.pinned, decide_eq_true_iff]
    exact ⟨fun hc => hc hheight, fun hc _ => hc⟩
  -- a view gets unsized by a snapshot alone
  unsized event now hafter hunsized := by
    rcases (c.shift_handle event now).unsized_cases hafter hunsized with
      ⟨snapshot, hevent, hnone, -⟩ | ⟨hbefore, -⟩
    · exact .inr ⟨snapshot, hevent, hnone⟩
    · exact .inl hbefore
  handle_iff event now hafter hrange := by
    have hc := (h.inRange_iff hheight).mp hrange
    rw [(h.handle event now).inRange_iff hafter]
    refine ⟨fun hanchored hover => ?_, fun hcalm => h.isAnchored_handle hc hcalm now⟩
    exact h.not_isAnchored_handle hheight hc hover now hanchored
  later d hd hrange hafter := by
    rw [(hd.reachable h).inRange_iff hafter]
    exact h.isAnchored_later ((h.inRange_iff hheight).mp hrange) hd
  pinned hrange hmax := by
    have hoffset : c.scroll.offset = 0 := Nat.le_zero.mp (hmax ▸ hrange)
    have hpinned : c.scroll.pinned := decide_eq_true hoffset
    have hfooter := c.renderMain_footer
    rw [if_pos hpinned] at hfooter
    exact ⟨hpinned, hfooter⟩

/-- Before the first snapshot nothing is viewed, but the size is known: `k` stays in range. -/
theorem isRangeSafe_started :
    let back := (started.handle (.key { code := .char 'k' }) ⟨0, 0⟩).console
    started.Reachable ∧ 3 ≤ started.height ∧ started.selected = none ∧ back.InRange := by
  intro back
  have hheight : 3 ≤ started.height := by decide
  have hsafe := reachable_started.isRangeSafe hheight
  have hsized : ¬ started.sight.IsUnsized := fun hunsized => absurd hunsized.2 (by decide)
  have hrange : started.InRange := hsafe.inRange_iff.mpr fun hunsized => absurd hunsized hsized
  refine ⟨reachable_started, hheight, rfl, ?_⟩
  have hback : 3 ≤ back.height := hheight
  exact (hsafe.handle_iff _ _ hback hrange).mpr fun hover => hsized hover.1

/-- After a snapshot without worktrees `k` counts back where there is nothing to scroll, and
the footer shows an offset. -/
theorem overscrolls_emptied :
    let emptied := (started.handle (.snapshot {}) ⟨0, 0⟩).console
    let back := (emptied.handle (.key { code := .char 'k' }) ⟨0, 0⟩).console
    back.Reachable ∧ back.height = 24 ∧ back.selected = none ∧ back.viewedRows = [] ∧
      back.scroll.offset = 1 ∧ Frame.Window.maxOffset 0 back.layout.bodyHeight = 0 ∧
        ¬ back.InRange ∧ ∃ above,
          back.renderMain = above ++ '\n' :: View.footer back.theme .mainOutput "↑1".toList 80 := by
  intro emptied back
  have hnote : (if back.scroll.pinned then [] else '↑' :: Text.ofNat back.scroll.offset)
      = "↑1".toList := by decide +kernel +revert
  have hreachable : back.Reachable := (reachable_started.handle _ _).handle _ _
  have hfooter := back.renderMain_footer
  rw [hnote] at hfooter
  exact ⟨hreachable, rfl, rfl, rfl, rfl, rfl, Nat.not_succ_le_zero 0, hfooter⟩

end Console

end AgentConsole
