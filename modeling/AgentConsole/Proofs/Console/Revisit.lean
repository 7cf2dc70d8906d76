import AgentConsole.Proofs.Console.Laid
import AgentConsole.Proofs.Console.Still
import AgentConsole.Proofs.Console.Viewed

/-!
# A worktree is found as it was left

Who turns to another worktree finds the first one later as it was left: the offset is
put into the memory on leaving and taken from it on return.  In between the memory can
be told of other worktrees, and be pruned of those that are gone, but what it says of the
one that was left stays (`Sight.Recalls`).  On return the position has no size, and the
offset is limited only after it was told one; since the rows are the same, and the
position was in range, the limit takes nothing away (`Sight.Recalls.look`).

That needs the rows to be the same.  `Console.LeavesBe` says which events change neither the lines
of the worktree nor how they are rendered, but that is not enough.  The theme in force can be chosen
once more, and then all output is laid out anew, which gives other rows than those that streamed in
if the renderer takes notice of a blank line at the end.  So `Console.Away`, a run of such events
while the worktree is not viewed, knows whether that has happened, and `Reachable.found_as_left`
says what is found: the worktree as it was left, or as it would have been left if it had been laid
out anew.  The two are the same for a renderer that takes no notice of such lines
(`Reachable.isLaid`).
-/

namespace AgentConsole

open Transcript

namespace Sight

variable {s t left : Sight} {offset : Nat} {id other : WorktreeId}

/-! ### What is remembered while another worktree is viewed -/

/-- The view stands where an offset comes to that is told the rows there are. -/
def StandsAt (s : Sight) (offset : Nat) : Prop :=
  s.scroll = (ScrollView.at offset).resize s.viewed.length s.layout.bodyHeight

/-- What is sized stands at its own offset. -/
theorem IsSized.standsAt (h : s.IsSized) (hid : s.selected = some id) :
    s.StandsAt s.scroll.offset := by
  unfold StandsAt
  rw [← h.total, ← h.viewport_of_selected hid]
  exact (ScrollView.resize_at h.bounded).symm

/-- Telling a view its size looks at nothing but the offset. -/
theorem standsAt_sync (s : Sight) : s.sync.StandsAt s.scroll.offset := rfl

/-- The worktree is not viewed, its rows are those that it was left with, and the memory
has the offset that it was left at. -/
structure Recalls (s left : Sight) (offset : Nat) (id : WorktreeId) : Prop where
  away : s.selected ≠ some id
  layout : s.layout = left.layout
  sheet : s.sheets id = left.sheets id
  offset : s.memory.get? id = some offset

/-- The worktree is viewed as it was. -/
structure Restores (s left : Sight) (id : WorktreeId) : Prop where
  selected : s.selected = some id
  layout : s.layout = left.layout
  sheet : s.sheets id = left.sheets id
  scroll : s.scroll = left.scroll

/-- What is restored shows the same. -/
theorem Restores.shown (h : s.Restores left id) (hid : left.selected = some id) :
    s.shown = left.shown := by
  have hviewed : s.viewed = left.viewed := by
    rw [viewed_of_selected h.selected, viewed_of_selected hid, h.sheet]
  unfold Sight.shown window
  rw [hviewed, h.scroll, h.layout]

/-- Leaving a worktree for another one. -/
theorem recalls_look (hid : s.selected = some id) (hother : other ≠ id) :
    (s.look other).Recalls s s.scroll.offset id := by
  have hne : s.selected ≠ some other := fun h => hother (Option.some.inj (h.symm.trans hid))
  refine ⟨?_, s.layout_look other, ?_, ?_⟩
  · rw [s.selected_look other]
    exact fun h => hother (Option.some.inj h)
  · unfold look
    rw [if_neg hne]
    rfl
  · unfold look
    rw [if_neg hne, hid]
    exact s.memory.get?_switch_self s.scroll other id

namespace Recalls

variable (h : s.Recalls left offset id)
include h

/-- Rows of other worktrees, and where their views stand, do not matter. -/
theorem of_eq (hselected : t.selected = s.selected) (hlayout : t.layout = s.layout)
    (hsheet : t.sheets id = s.sheets id) (hmemory : t.memory.get? id = s.memory.get? id) :
    t.Recalls left offset id where
  away := hselected ▸ h.away
  layout := hlayout.trans h.layout
  sheet := hsheet.trans h.sheet
  offset := hmemory.trans h.offset

/-- Nothing is viewed any more. -/
theorem blank : Recalls { s with selected := none, scroll := {} } left offset id :=
  ⟨nofun, h.layout, h.sheet, h.offset⟩

/-- Forgetting other worktrees does not matter. -/
theorem forget {present : List WorktreeId} (hid : id ∈ present) :
    (s.forget present).Recalls left offset id := by
  have hpresent : present.contains id := List.contains_iff_mem.mpr hid
  refine h.of_eq rfl rfl (if_pos hpresent) ?_
  exact (s.memory.get?_retain _ id).trans (if_pos hpresent)

theorem refill (hother : other ≠ id) (sheet : Sheet) :
    (s.refill other sheet).Recalls left offset id := by
  unfold Sight.refill
  split
  · exact h.of_eq rfl rfl (if_neg hother) rfl
  · exact h.of_eq rfl rfl (if_neg hother) rfl

theorem write (hother : other ≠ id) (sheet : Sheet) :
    (s.write other sheet).Recalls left offset id := by
  unfold Sight.write
  split
  · exact h.of_eq rfl rfl (if_neg hother) rfl
  · exact h.of_eq rfl rfl (if_neg hother) rfl

/-- The rows of all worktrees are exchanged, and the view is told how many there are. -/
theorem exchange {anew : Sight} {sheets : WorktreeId → Sheet} (hlayout : anew.layout = left.layout)
    (hsheet : sheets id = anew.sheets id) : Recalls { s with sheets }.sync anew offset id :=
  ⟨h.away, h.layout.trans hlayout.symm, hsheet, h.offset⟩

/-- Turning to any worktree: the one that was left is restored, and of all others nothing
is forgotten. -/
theorem look (hleft : left.StandsAt offset) (hid : left.selected = some id) (other : WorktreeId) :
    (s.look other).Recalls left offset id ∨ (s.look other).Restores left id := by
  -- the look is at the worktree in view, at the one that was left, or at a third
  by_cases hsame : s.selected = some other
  · have hlook : s.look other = s := if_pos hsame
    rw [hlook]
    exact .inl h
  have hmemory : (s.memory.switch s.selected s.scroll other).2.get? id = some offset :=
    (s.memory.get?_switch_of_ne s.scroll other h.away).trans h.offset
  have hlook : s.look other
      = sync { s with
          selected := some other
          scroll := (s.memory.switch s.selected s.scroll other).1
          memory := (s.memory.switch s.selected s.scroll other).2 } := if_neg hsame
  by_cases hother : other = id
  · subst hother
    refine .inr ⟨s.selected_look other, (s.layout_look other).trans h.layout, ?_, ?_⟩
    · rw [hlook]
      exact h.sheet
    · -- the offset comes from the memory, and the size is the one it was left with
      have hscroll : (s.memory.switch s.selected s.scroll other).1 = .at offset :=
        congrArg (fun o : Option Nat => ScrollView.at (o.getD 0)) hmemory
      rw [hlook]
      show ScrollView.resize _ (s.sheets other).rows.length s.layout.bodyHeight = _
      rw [hscroll, hleft, viewed_of_selected hid, h.sheet, h.layout]
  · refine .inl ⟨?_, (s.layout_look other).trans h.layout, ?_, ?_⟩
    · rw [s.selected_look other]
      exact fun heq => hother (Option.some.inj heq)
    · rw [hlook]
      exact h.sheet
    · rw [hlook]
      exact hmemory

/-- A snapshot that has the worktree: it may be the one that is viewed instead of what is
gone. -/
theorem ensure (hleft : left.StandsAt offset) (hid : left.selected = some id)
    (hpresent : id ∈ s.present) :
    s.ensure.Recalls left offset id ∨ s.ensure.Restores left id := by
  rcases s.ensure_cases with ⟨_, -, -, hsame⟩ | ⟨hnone, -⟩ | ⟨first, -, hfirst⟩
  · rw [hsame]
    exact .inl h
  · exact absurd (hnone ▸ hpresent) List.not_mem_nil
  · rw [hfirst]
    exact h.blank.look hleft hid first

end Recalls

end Sight

namespace Console

variable {c d : Console} {id : WorktreeId} {event : Event} {now : Moment} {laid : Bool}

/-! ### Events that leave a worktree be -/

/-- Enter chooses a theme in the settings. -/
def ChoosesTheme (c : Console) (key : Key) : Prop :=
  c.focus.current = .settings ∧ key.code = .enter ∧ c.settings.selectedId?.isSome

/-- The event lays all output out anew: a theme is chosen, or the terminal tells its size. -/
def LaysOut (c : Console) (event : Event) : Prop :=
  event.Strikes c.ChoosesTheme ∨ ∃ width height, event = .resize width height

/-- The event brings no output and no history of the worktree, the size of the terminal and the
theme are after it what they were before it, and the worktree is there if it is a snapshot.  It may
lay out all output anew. -/
structure LeavesBe (id : WorktreeId) (c : Console) (event : Event) (now : Moment) : Prop where
  output : ∀ session line, event ≠ .session (.output session id line)
  history : ∀ lines, event ≠ .history id lines
  layout : (c.handle event now).console.layout = c.layout
  theme : (c.handle event now).console.theme = c.theme
  snapshot : ∀ s, event = .snapshot s → id ∈ s.worktrees.map (·.id)

/-- What a console comes to after a worktree was left, as long as it is left be and not
viewed again.  The flag tells whether all output was laid out anew in the meantime. -/
inductive Away (id : WorktreeId) (c : Console) : Bool → Console → Prop where
  | left (event : Event) (now : Moment) (hevent : c.LeavesBe id event now)
    (haway : (c.handle event now).console.selected ≠ some id) :
    Away id c false (c.handle event now).console
  | start {laid : Bool} {d : Console} (h : Away id c laid d) : Away id c laid d.start.console
  | handle {laid : Bool} {d : Console} (h : Away id c laid d) (event : Event) (now : Moment)
    (hevent : d.LeavesBe id event now) (hlays : ¬ d.LaysOut event)
    (haway : (d.handle event now).console.selected ≠ some id) :
    Away id c laid (d.handle event now).console
  | layOut {laid : Bool} {d : Console} (h : Away id c laid d) (event : Event) (now : Moment)
    (hevent : d.LeavesBe id event now) (hlays : d.LaysOut event) :
    Away id c true (d.handle event now).console
  | applyTheme {laid : Bool} {d : Console} (h : Away id c laid d) (name : String)
    (htheme : (d.applyTheme name).console.theme = d.theme) :
    Away id c true (d.applyTheme name).console

/-- The canvas stays, so logs are laid out as they were. -/
theorem LeavesBe.canvas (h : c.LeavesBe id event now) :
    (c.handle event now).console.canvas = c.canvas := by
  show Canvas.mk (c.handle event now).console.renderer (c.handle event now).console.theme
    (c.handle event now).console.layout.outputWidth = c.canvas
  rw [c.renderer_handle event now, h.theme, h.layout]
  rfl

theorem LeavesBe.lines (h : c.LeavesBe id event now) :
    ((c.handle event now).console.logOf id).lines = (c.logOf id).lines := by
  by_cases hfailed : ∃ other error, event = .historyFailed other error
  · -- a history that does not come may be asked for again, and that is all
    obtain ⟨other, error, rfl⟩ := hfailed
    rfl
  · refine (spares_handle id c ?_ now).lines_eq
    cases event with
    | snapshot s => exact h.snapshot s rfl
    | history other lines => exact fun hother => h.history lines (hother ▸ rfl)
    | historyFailed other error => exact absurd ⟨other, error, rfl⟩ hfailed
    | session event =>
      cases event with
      | output session other line => exact fun hother => h.output session line (hother ▸ rfl)
      | started | statusChanged | exited => trivial
    | key | paste | resize | timer | snapshotFailed | remoteStatus | sessionsClosed | commandDone
    | commandFailed | copied | copyFailed => trivial

/-! ### Events that lay out all output -/

/-- All output was laid out anew, and nothing else has changed that is in sight. -/
structure Relaid (c d : Console) : Prop where
  sight : d.sight = c.relayout.sight
  logs : d.logs = c.relayout.logs
  canvas : d.canvas = c.canvas

theorem relaid_applyTheme {name : String} (h : (c.applyTheme name).console.theme = c.theme) :
    c.Relaid (c.applyTheme name).console := by
  rw [applyTheme_of_same h]
  exact ⟨rfl, rfl, rfl⟩

/-- A theme that is chosen is applied, and a toast says so. -/
theorem exists_of_choosesTheme {key : Key} (hkind : key.kind ≠ .release) (h : c.ChoosesTheme key)
    (now : Moment) : ∃ (name : String) (settings : Picker) (focus : Focus) (toasts : ToastQueue),
      (c.handle (.key key) now).console
        = { (c.applyTheme name).console with settings, focus, toasts } := by
  obtain ⟨hsettings, hkey, hsome⟩ := h
  obtain ⟨name, hname⟩ := Option.isSome_iff_exists.mp hsome
  have hkeys : c.onKey key now = c.onSettingsKey key now.clock := by
    unfold onKey
    rw [if_neg hkind, if_neg (by simp [hkey]), if_neg (by simp [hkey]), hsettings]
  have hconsole : (c.handle (.key key) now).console = (c.onSettingsKey key now.clock).console :=
    congrArg Turn.console hkeys
  unfold onSettingsKey at hconsole
  rw [c.settings.handle_enter hkind hkey] at hconsole
  dsimp only at hconsole
  rw [hname] at hconsole
  exact ⟨name, _, _, _, hconsole⟩

/-- If neither the size nor the theme is another, laying out anew is all that has happened. -/
theorem LeavesBe.relaid (h : c.LeavesBe id event now) (hlays : c.LaysOut event) :
    c.Relaid (c.handle event now).console := by
  rcases hlays with ⟨key, rfl, hkind, hchooses⟩ | ⟨width, height, rfl⟩
  · obtain ⟨name, settings, focus, toasts, hconsole⟩ := exists_of_choosesTheme hkind hchooses now
    have htheme := h.theme
    rw [hconsole] at htheme ⊢
    have happlied := relaid_applyTheme htheme
    exact ⟨happlied.sight, happlied.logs, happlied.canvas⟩
  · obtain ⟨rfl, rfl⟩ := Frame.Layout.mk.inj h.layout
    exact ⟨rfl, rfl, rfl⟩

/-- The console as it is, or with all output laid out anew. -/
def laidOut (c : Console) : Bool → Console
  | false => c
  | true => c.relayout

@[simp] theorem selected_laidOut (c : Console) (laid : Bool) :
    (c.laidOut laid).selected = c.selected := by
  cases laid <;> rfl

/-- Either way the view stands where its offset comes to. -/
theorem standsAt_laidOut (h : c.sight.IsSized) (hid : c.selected = some id) (laid : Bool) :
    (c.laidOut laid).sight.StandsAt c.scroll.offset := by
  cases laid with
  | false => exact h.standsAt hid
  | true =>
    show c.relayout.sight.StandsAt c.scroll.offset
    rw [c.sight_relayout]
    exact Sight.standsAt_sync _

/-- If all logs are laid out already, it is the same. -/
theorem sight_relayout_of_isLaid (h : c.IsLaid) (hsized : c.sight.IsSized)
    (hid : c.selected = some id) : c.relayout.sight = c.sight := by
  have hsheets : (fun id => ((c.logOf id).relayout c.canvas).sheet) = c.sight.sheets :=
    funext fun id => congrArg Log.sheet (h id)
  rw [c.sight_relayout, hsheets]
  exact Sight.ext rfl rfl rfl rfl (hsized.standsAt hid).symm rfl

/-! ### The run -/

/-- The first step: what is viewed is left for another worktree, and is remembered. -/
theorem Shift.recalls {s : Sight} (hs : c.Shift event s) (hid : c.selected = some id)
    (hevent : c.LeavesBe id event now) (haway : s.selected ≠ some id) :
    s.Recalls c.sight c.scroll.offset id := by
  cases hs with
  | kept | moved | themed | resized => exact absurd hid haway
  | @looked _ other _ =>
    refine Sight.recalls_look hid fun hother => haway ?_
    rw [hother]
    exact c.sight.selected_look id
  | told snapshot =>
    -- the worktree is still there, so it stays viewed
    have hpresent : id ∈ (c.sight.forget (snapshot.worktrees.map (·.id))).present :=
      hevent.snapshot snapshot rfl
    rw [Sight.ensure_of_present hid hpresent] at haway
    exact absurd hid haway
  | refilled other lines sheet =>
    refine absurd ?_ haway
    unfold Sight.refill
    split <;> exact hid
  | written session other line =>
    refine absurd ?_ haway
    unfold Sight.write
    split <;> exact hid

/-- Every further step that lays nothing out: what is remembered stays so until it is viewed again,
and then it is as it was. -/
theorem Shift.revisits {s left : Sight} {offset : Nat} (hs : c.Shift event s)
    (h : c.sight.Recalls left offset id) (hleft : left.StandsAt offset)
    (hid : left.selected = some id) (hevent : c.LeavesBe id event now) (hlays : ¬ c.LaysOut event)
    (hsettings : ¬ (c.focus.current = .settings ∧ event.Strikes (·.code = .enter))) :
    s.Recalls left offset id ∨ s.Restores left id := by
  -- what changes the sheets is excluded, and the rest is about other worktrees or comes back to
  -- this one
  cases hs with
  | kept => exact .inl h
  | moved => exact .inl (h.of_eq rfl rfl rfl rfl)
  | @looked _ other _ => exact h.look hleft hid other
  | themed _ hcurrent henter => exact absurd ⟨hcurrent, henter⟩ hsettings
  | resized width height => exact absurd (.inr ⟨width, height, rfl⟩) hlays
  | told snapshot =>
    have hpresent := hevent.snapshot snapshot rfl
    exact (h.forget hpresent).ensure hleft hid hpresent
  | refilled other lines sheet =>
    refine .inl (h.refill (fun hother => ?_) sheet)
    exact hevent.history lines (hother ▸ rfl)
  | written session other line =>
    refine .inl (h.write (fun hother => ?_) _)
    exact hevent.output session line (hother ▸ rfl)

/-- Where no theme is selected, Enter in the settings changes nothing that is in sight. -/
theorem sight_handle_of_settings (hsettings : c.focus.current = .settings)
    (henter : event.Strikes (·.code = .enter)) (htheme : ¬ event.Strikes c.ChoosesTheme)
    (now : Moment) : (c.handle event now).console.sight = c.sight := by
  obtain ⟨key, rfl, hkind, hkey⟩ := henter
  have hnone : c.settings.selectedId? = none := by
    rw [← Option.not_isSome_iff_eq_none]
    exact fun hsome => htheme ⟨key, rfl, hkind, hsettings, hkey, hsome⟩
  show (c.onKey key now).console.sight = c.sight
  unfold onKey
  rw [if_neg hkind, if_neg (by simp [hkey]), if_neg (by simp [hkey]), hsettings]
  show (c.onSettingsKey key now.clock).console.sight = c.sight
  unfold onSettingsKey
  rw [c.settings.handle_enter hkind hkey]
  dsimp only
  rw [hnone]
  rfl

/-- An event that lays nothing out leaves the worktree as it was left, or shows it as it was. -/
theorem revisits_handle {left : Sight} {offset : Nat} (h : c.sight.Recalls left offset id)
    (hleft : left.StandsAt offset) (hid : left.selected = some id)
    (hevent : c.LeavesBe id event now) (hlays : ¬ c.LaysOut event) :
    (c.handle event now).console.sight.Recalls left offset id ∨
      (c.handle event now).console.sight.Restores left id := by
  by_cases hsettings : c.focus.current = .settings ∧ event.Strikes (·.code = .enter)
  · rw [sight_handle_of_settings hsettings.1 hsettings.2 (fun h => hlays (.inl h)) now]
    exact .inl h
  · exact (c.shift_handle event now).revisits h hleft hid hevent hlays hsettings

/-- What a console knows of a worktree that is not viewed: the offset and the rows it was left
with, or would have been left with if it had been laid out anew, and the lines that these are rows
of. -/
structure Remembers (id : WorktreeId) (c : Console) (laid : Bool) (d : Console) : Prop where
  recalls : d.sight.Recalls (c.laidOut laid).sight c.scroll.offset id
  lines : (d.logOf id).lines = (c.logOf id).lines
  canvas : d.canvas = c.canvas

/-- A step that lays all output out anew: the lines are the same, and so the rows are those that
the worktree would have been left with. -/
theorem Relaid.remembers {e : Console} (hde : d.Relaid e) (h : Remembers id c laid d) :
    Remembers id c true e := by
  have hlog : e.logOf id = (d.logOf id).relayout d.canvas := by
    rw [← logOf_relayout]
    unfold logOf
    rw [hde.logs]
  refine ⟨?_, ?_, hde.canvas.trans h.canvas⟩
  · show e.sight.Recalls c.relayout.sight c.scroll.offset id
    rw [hde.sight, sight_relayout d]
    refine h.recalls.exchange ?_ ?_
    · cases laid <;> rfl
    · show ((d.logOf id).relayout d.canvas).sheet = (c.relayout.logOf id).sheet
      rw [c.logOf_relayout, h.canvas]
      exact Log.sheet_relayout_congr h.lines
  · rw [hlog, Log.lines_relayout]
    exact h.lines

/-- The run: as long as it is away, it is remembered. -/
theorem Away.remembers (hd : Away id c laid d) (hsized : c.sight.IsSized)
    (hid : c.selected = some id) : Remembers id c laid d := by
  induction hd with
  | left event now hevent haway =>
    exact ⟨(c.shift_handle event now).recalls hid hevent haway, hevent.lines, hevent.canvas⟩
  | @start laid d _ ih =>
    obtain ⟨hlogs, hcanvas⟩ := d.logs_start
    refine ⟨?_, ?_, hcanvas.trans ih.canvas⟩
    · rw [d.sight_start]
      exact ih.recalls
    · unfold logOf
      rw [hlogs]
      exact ih.lines
  | @handle laid d _ event now hevent hlays haway ih =>
    have hid' : (c.laidOut laid).sight.selected = some id := (c.selected_laidOut laid).trans hid
    -- this step does not come back, so it remembers
    rcases revisits_handle ih.recalls (standsAt_laidOut hsized hid laid) hid' hevent hlays with
      hrecalls | hrestores
    · exact ⟨hrecalls, hevent.lines.trans ih.lines, hevent.canvas.trans ih.canvas⟩
    · exact absurd hrestores.selected haway
  | layOut _ event now hevent hlays ih => exact (hevent.relaid hlays).remembers ih
  | applyTheme _ name htheme ih => exact (relaid_applyTheme htheme).remembers ih

/-- The view stands where that of the other console does, and shows the same rows. -/
structure ShowsAs (c d : Console) : Prop where
  scroll : c.scroll = d.scroll
  visibleRows : c.visibleRows = d.visibleRows

/-- **A worktree is found as it was left, or as it would have been laid out anew.**  Say that no
output and no history of it has come since, that every snapshot had it, and that neither the size
nor the theme has changed, whatever else was viewed and scrolled in between.  If nothing has laid
out all output anew, the scroll position and the rows on the screen are those of the moment when it
was left.  If something has, they are those that it would have had at that moment laid out anew,
which are the same for a renderer that takes no notice of blank lines at the end. -/
theorem Reachable.found_as_left (h : c.Reachable) (hid : c.selected = some id)
    (hd : Away id c laid d) {event : Event} {now : Moment} (hevent : d.LeavesBe id event now)
    (hback : (d.handle event now).console.selected = some id) :
    (d.handle event now).console.ShowsAs (c.laidOut laid) ∧
      (c.renderer.IgnoresBlankEnd → (d.handle event now).console.ShowsAs c) := by
  have hid' : (c.laidOut laid).sight.selected = some id := (c.selected_laidOut laid).trans hid
  have hremembers := hd.remembers h.isSized hid
  -- what lays out all output views nothing else
  have hlays : ¬ d.LaysOut event := by
    intro hlays
    have hrelaid := (hevent.relaid hlays).remembers hremembers
    exact hrelaid.recalls.away hback
  have hrestores : (d.handle event now).console.sight.Restores (c.laidOut laid).sight id := by
    rcases revisits_handle hremembers.recalls (standsAt_laidOut h.isSized hid laid) hid' hevent
      hlays with hrecalls | hrestores
    · exact absurd hback hrecalls.away
    · exact hrestores
  refine ⟨⟨hrestores.scroll, hrestores.shown hid'⟩, fun hblank => ?_⟩
  have hsight : (c.laidOut laid).sight = c.sight := by
    cases laid with
    | false => rfl
    | true => exact sight_relayout_of_isLaid (h.isLaid hblank) h.isSized hid
  rw [hsight] at hrestores
  exact ⟨hrestores.scroll, hrestores.shown hid⟩

/-! ### A detour -/

theorem Shift.layout_key {key : Key} {s : Sight} (hs : c.Shift (.key key) s) :
    s.layout = c.layout := by
  cases hs with
  | kept | moved | themed => rfl
  | looked => exact c.sight.layout_look _

/-- A key can change nothing of it but the theme. -/
theorem leavesBe_key {key : Key} (htheme : (c.handle (.key key) now).console.theme = c.theme) :
    c.LeavesBe id (.key key) now where
  output := nofun
  history := nofun
  layout := (c.shift_handle (.key key) now).layout_key
  theme := htheme
  snapshot := nofun

theorem not_laysOut_key {key : Key} (h : key.code ≠ .enter) : ¬ c.LaysOut (.key key) := by
  rintro (⟨_, ⟨rfl⟩, -, -, henter, -⟩ | ⟨width, height, hresize⟩)
  · exact h henter
  · exact Event.noConfusion hresize

/-- The next worktree, its oldest row, and in the settings the theme in force once more. -/
def detour : List Event :=
  [.key { code := .tab }, .key { code := .home }, .key { code := .char 's' },
    .key { code := .enter }]

theorem away_detour (haway : ∀ n < 3, (c.after (detour.take (n + 1))).selected ≠ some id)
    (htheme : ∀ n < 4, (c.after (detour.take (n + 1))).theme = (c.after (detour.take n)).theme)
    (hsettings : (c.after (detour.take 3)).focus.current = .settings)
    (hselected : (c.after (detour.take 3)).settings.selectedId?.isSome) :
    Away id c true (c.after detour) := by
  have htab : Away id c false (c.after (detour.take 1)) :=
    .left _ ⟨0, 0⟩ (leavesBe_key (htheme 0 (by decide))) (haway 0 (by decide))
  have hhome : Away id c false (c.after (detour.take 2)) :=
    htab.handle _ ⟨0, 0⟩ (leavesBe_key (htheme 1 (by decide))) (not_laysOut_key (by decide))
      (haway 1 (by decide))
  have hopened : Away id c false (c.after (detour.take 3)) :=
    hhome.handle _ ⟨0, 0⟩ (leavesBe_key (htheme 2 (by decide))) (not_laysOut_key (by decide))
      (haway 2 (by decide))
  exact hopened.layOut _ ⟨0, 0⟩ (leavesBe_key (htheme 3 (by decide)))
    (.inl ((Event.strikes_key_iff _).mpr ⟨by decide, hsettings, rfl, hselected⟩))

/-- Five rows of terminal and two worktrees with output; the first one, with these lines, is
viewed. -/
def reading (lines : List String) : Console :=
  let snapshot : Snapshot :=
    { worktrees := [⟨⟨"w1"⟩, "api", "main", ""⟩, ⟨⟨"w2"⟩, "web", "dev", ""⟩] }
  let written (id : WorktreeId) (lines : List String) : List Event :=
    lines.map fun line => .session (.output ⟨"s1"⟩ id line.toList)
  (ofTuning {} (Theme.named "Nord") (fun name => (Theme.named name, [])) markup).start.console.after
    (.snapshot snapshot :: .resize 80 5
      :: written ⟨"w1"⟩ lines ++ written ⟨"w2"⟩ ["x", "", "y", "", "z"])

theorem reachable_reading (lines : List String) : (reading lines).Reachable :=
  (Reachable.ofTuning _ _ _ _).start.after _

/-- The first worktree, four rows back. -/
def readingBack : Console :=
  (reading ["a", "", "b", "", "c", "", "d", "", "e"]).after
    (List.replicate 4 (.key { code := .up }))

theorem reachable_readingBack : readingBack.Reachable := (reachable_reading _).after _

/-- The second worktree is viewed, scrolled to its oldest row and laid out anew, and then the first
one shows what it showed before. -/
theorem found_as_left_readingBack :
    let away := readingBack.after detour
    let back := (away.handle (.key { code := .tab }) ⟨0, 0⟩).console
    readingBack.Reachable ∧ readingBack.selected = some ⟨"w1"⟩ ∧ away.selected = some ⟨"w2"⟩ ∧
      away.visibleRows = ["x".toList, []] ∧ Away ⟨"w1"⟩ readingBack true away ∧
        back.selected = some ⟨"w1"⟩ ∧ back.scroll.offset = 4 ∧ back.visibleRows = ["c".toList] := by
  intro away back
  have hid : readingBack.selected = some ⟨"w1"⟩ := by decide +kernel
  have hother : away.selected = some ⟨"w2"⟩ ∧ away.visibleRows = ["x".toList, []] := by
    decide +kernel +revert
  have htheme : back.theme = away.theme := by decide +kernel +revert
  have hback : back.selected = some ⟨"w1"⟩ := by decide +kernel +revert
  have hshown : readingBack.relayout.scroll.offset = 4 ∧
      readingBack.relayout.visibleRows = ["c".toList] := by decide +kernel
  have haway : Away ⟨"w1"⟩ readingBack true away :=
    away_detour (by decide +kernel) (by decide +kernel) (by decide +kernel) (by decide +kernel)
  have hfound := (reachable_readingBack.found_as_left hid haway (leavesBe_key htheme) hback).1
  refine ⟨reachable_readingBack, hid, hother.1, hother.2, haway, hback, ?_, ?_⟩
  · exact (congrArg (·.offset) hfound.scroll).trans hshown.1
  · exact hfound.visibleRows.trans hshown.2

/-- Raw HTML keeps the blanks of its last line, so the worktree is not found as it was left
although nothing of it has changed, the theme included. -/
theorem reading_raw_html_changes :
    let c := reading ["<pre>", "x", " "]
    let away := c.after detour
    let event := Event.key { code := .tab }
    let back := (away.handle event ⟨0, 0⟩).console
    c.Reachable ∧ c.selected = some ⟨"w1"⟩ ∧ Away ⟨"w1"⟩ c true away ∧
      away.LeavesBe ⟨"w1"⟩ event ⟨0, 0⟩ ∧ back.selected = some ⟨"w1"⟩ ∧ back.theme = c.theme ∧
        c.visibleRows = ["<pre>x".toList] ∧ back.visibleRows = ["<pre>x ".toList] := by
  intro c away event back
  have hid : c.selected = some ⟨"w1"⟩ := by decide +kernel +revert
  have htheme : back.theme = away.theme ∧ back.theme = c.theme := by decide +kernel +revert
  have hback : back.selected = some ⟨"w1"⟩ := by decide +kernel +revert
  have hshown : c.visibleRows = ["<pre>x".toList] ∧ back.visibleRows = ["<pre>x ".toList] := by
    decide +kernel +revert
  have haway : Away ⟨"w1"⟩ c true away :=
    away_detour (by decide +kernel +revert) (by decide +kernel +revert) (by decide +kernel +revert)
      (by decide +kernel +revert)
  exact ⟨reachable_reading _, hid, haway, leavesBe_key htheme.1, hback, htheme.2, hshown.1, hshown.2⟩

end Console

end AgentConsole
