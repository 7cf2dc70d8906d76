import AgentConsole.Proofs.Console.Events
import AgentConsole.Proofs.Transcript.Log

/-!
# States that the console can come to

`Reachable` is every state that a console comes to by starting, by the events it
reacts to and by a theme that is chosen for it; `Later` is what it comes to from a state
on.  Three things hold of all reachable states (`Reachable.sound`): what the console itself
puts into its editors and pickers is clean, the pickers are as high as the terminal allows,
and every stored row of output is a single row.
-/

namespace AgentConsole.Console

open Styled

/-- What a console can come to. -/
inductive Reachable : Console → Prop where
  | ofTuning (tuning : Tuning) (theme : Theme) (themes : String → Theme × List Note)
    (renderer : Transcript.Renderer) : Reachable (ofTuning tuning theme themes renderer)
  | start {c : Console} (h : Reachable c) : Reachable c.start.console
  | handle {c : Console} (h : Reachable c) (event : Event) (now : Moment) :
    Reachable (c.handle event now).console
  | applyTheme {c : Console} (h : Reachable c) (name : String) :
    Reachable (c.applyTheme name).console

/-- What a console can come to by events of which `P` holds in the state that each of
them meets. -/
inductive Later (P : Console → Event → Prop) (c : Console) : Console → Prop where
  | refl : Later P c c
  | start {d : Console} (h : Later P c d) : Later P c d.start.console
  | handle {d : Console} (h : Later P c d) (event : Event) (now : Moment) (hp : P d event) :
    Later P c (d.handle event now).console
  | applyTheme {d : Console} (h : Later P c d) (name : String) :
    Later P c (d.applyTheme name).console

/-- What comes later can be reached. -/
theorem Later.reachable {P : Console → Event → Prop} {c d : Console} (h : Later P c d)
    (hc : c.Reachable) : d.Reachable := by
  induction h with
  | refl => exact hc
  | start _ ih => exact ih.start
  | handle _ event now _ ih => exact ih.handle event now
  | applyTheme _ name ih => exact ih.applyTheme name

/-- One event of which `began` holds has led here, and `P` holds of all events since. -/
def Since (P began : Console → Event → Prop) (c : Console) : Prop :=
  ∃ (d : Console) (event : Event) (now : Moment), d.Reachable ∧ began d event ∧
    Later P (d.handle event now).console c

/-- What held since something narrower holds since something wider. -/
theorem Since.mono {P P' began began' : Console → Event → Prop} {c : Console} (h : Since P began c)
    (hbegan : ∀ d event, began d event → began' d event)
    (hp : ∀ d event, P d event → P' d event) : Since P' began' c := by
  obtain ⟨d, event, now, hd, hevent, hlater⟩ := h
  refine ⟨d, event, now, hd, hbegan d event hevent, ?_⟩
  clear hd hevent
  induction hlater with
  | refl => exact .refl
  | start _ ih => exact ih.start
  | handle _ event now hevent ih => exact ih.handle event now (hp _ event hevent)
  | applyTheme _ name ih => exact ih.applyTheme name

/-- What does not hold at first holds since it began, if every event that it holds after is
one that it held before, or one with which it begins. -/
theorem Reachable.since {P began : Console → Event → Prop} {c : Console} (h : c.Reachable)
    (held : Console → Prop)
    (hfirst : ∀ tuning theme themes renderer, ¬ held (Console.ofTuning tuning theme themes renderer))
    (hstart : ∀ c, held c.start.console → held c)
    (htheme : ∀ c name, held (c.applyTheme name).console → held c)
    (hevent : ∀ c event now, c.Reachable → held (c.handle event now).console →
      held c ∧ P c event ∨ began c event) (hc : held c) : Since P began c := by
  -- going back along the run, until the event that began it
  induction h with
  | ofTuning tuning theme themes renderer => exact absurd hc (hfirst tuning theme themes renderer)
  | @start c _ ih =>
    obtain ⟨d, event, now, hd, hbegan, hlater⟩ := ih (hstart c hc)
    exact ⟨d, event, now, hd, hbegan, hlater.start⟩
  | @applyTheme c _ name ih =>
    obtain ⟨d, event, now, hd, hbegan, hlater⟩ := ih (htheme c name hc)
    exact ⟨d, event, now, hd, hbegan, hlater.applyTheme name⟩
  | @handle c hreach event now ih =>
    rcases hevent c event now hreach hc with ⟨hheld, hp⟩ | hbegan
    · obtain ⟨d, first, time, hd, hfirst, hlater⟩ := ih hheld
      exact ⟨d, first, time, hd, hfirst, hlater.handle event now hp⟩
    · exact ⟨c, event, now, hreach, hbegan, .refl⟩

/-- The console after some events, all at one moment. -/
def after (c : Console) (events : List Event) : Console :=
  events.foldl (fun c event => (c.handle event ⟨0, 0⟩).console) c

/-- After any events a console can be reached. -/
theorem Reachable.after {c : Console} (h : c.Reachable) (events : List Event) :
    (c.after events).Reachable := by
  induction events generalizing c with
  | nil => exact h
  | cons event rest ih => exact ih (h.handle event ⟨0, 0⟩)

/-- The console is furnished, its pickers are cut to its height, and the rows of its logs are
single rows. -/
structure IsSound (c : Console) : Prop where
  furnished : c.IsFurnished
  cut : c.IsCut
  rows : ∀ id, (c.logOf id).HasRows

namespace IsSound

variable {c d : Console}

/-- Nothing else matters for it. -/
theorem of_eq (h : c.IsSound) (hf : d.furniture = c.furniture) (hl : d.logs = c.logs) :
    d.IsSound := by
  refine ⟨h.furnished.of_furniture hf, h.cut.of_heights (heights_of_furniture hf), fun id => ?_⟩
  unfold logOf
  rw [hl]
  exact h.rows id

/-- Beside a sound console it is sound. -/
theorem of_beside (h : c.IsSound) (hd : c.Beside d) : d.IsSound := by
  refine ⟨hd.furnished h.furnished, h.cut.of_heights hd.heights, fun id => ?_⟩
  have hlogs : d.logs = c.logs := congrArg (·.2.2.2.1) hd.world
  unfold logOf
  rw [hlogs]
  exact h.rows id

/-- A log with single rows may be put in. -/
theorem withLog (h : c.IsSound) (id : WorktreeId) {log : Transcript.Log} (hlog : log.HasRows) :
    IsSound { c with logs := c.logs.set id log } := by
  refine ⟨h.furnished.of_furniture rfl, h.cut.of_heights rfl, fun other => ?_⟩
  unfold logOf
  rw [Table.get?_set]
  split
  · exact hlog
  · exact h.rows other

theorem relayout (h : c.IsFurnished) (hcut : c.IsCut) : c.relayout.IsSound := by
  refine ⟨h.of_furniture rfl, hcut.of_heights rfl, fun id => ?_⟩
  show (((c.logs.map (Transcript.Log.relayout c.canvas)).get? id).getD {}).HasRows
  rw [Table.get?_map]
  rcases c.logs.get? id with - | log
  · exact Transcript.Log.hasRows_empty none
  · exact Transcript.Log.hasRows_ofLines _ _ _

/-- A change of the size cuts the pickers anew, however high they were. -/
theorem applySize (h : c.IsFurnished) : c.applySize.IsSound := by
  have hcapacity (p : Picker) : (p.setCapacity c.listRows).capacity = c.listRows := by
    refine Nat.max_eq_left ?_
    unfold listRows
    omega
  refine relayout ?_ ⟨hcapacity c.picker, hcapacity c.browser, hcapacity c.settings⟩
  exact
    { picker := h.picker.setCapacity _
      browser := h.browser.setCapacity _
      settings := h.settings.setCapacity _
      taskEditor := h.taskEditor.of_frame (Editor.frame_setWidth _ _)
      followUpEditor := h.followUpEditor.of_frame (Editor.frame_setWidth _ _) }

end IsSound

/-- A turn that keeps the console sound. -/
def KeepsSound (c : Console) (t : Turn) : Prop := c.IsSound → t.console.IsSound

theorem KeepsSound.andThen {c : Console} {t : Turn} {next : Console → Turn}
    (h : c.KeepsSound t) (hnext : t.console.KeepsSound (next t.console)) :
    c.KeepsSound (t.andThen next) := fun hc => hnext (h hc)

theorem keepsSound_of_aside {c : Console} {t : Turn} (h : t.Aside c) : c.KeepsSound t :=
  fun hc => hc.of_beside h.beside

theorem keepsSound_of_fetches {c : Console} {t : Turn} (h : t.Fetches c) : c.KeepsSound t := by
  obtain ⟨refresh, remoteStarted, hconsole⟩ := h.console
  intro hc
  rw [hconsole]
  exact hc.of_eq rfl rfl

theorem keepsSound_view (c : Console) (id : WorktreeId) : c.KeepsSound (c.view id) := by
  intro hc
  unfold view
  split
  · exact hc
  · dsimp only
    split
    · exact hc.of_eq rfl rfl
    · have hviewed : IsSound
          { c with
            scroll := (c.scrollMemory.switch c.selected c.scroll id).1
            scrollMemory := (c.scrollMemory.switch c.selected c.scroll id).2
            selected := some id }.syncScroll := hc.of_eq rfl rfl
      have hmark : (c.logOf id).markHistory.HasRows := hc.rows id
      exact (hviewed.withLog id hmark).of_eq rfl rfl

theorem keepsSound_applyTheme (c : Console) (name : String) : c.KeepsSound (c.applyTheme name) :=
  fun hc => IsSound.relayout (c := { c with theme := (c.themes name).1 })
    (hc.furnished.of_furniture rfl) (hc.cut.of_heights rfl)

theorem keepsSound_onKey (c : Console) (key : Key) (now : Moment) :
    c.KeepsSound (c.onKey key now) :=
  onKey_induction (P := KeepsSound) keepsSound_of_aside keepsSound_view keepsSound_applyTheme
    KeepsSound.andThen c key now

theorem keepsSound_ensureViewed (c : Console) : c.KeepsSound c.ensureViewed :=
  ensureViewed_induction (P := KeepsSound) keepsSound_of_aside keepsSound_view KeepsSound.andThen c

theorem IsSound.forgetGone {c : Console} (hc : c.IsSound) : c.forgetGone.IsSound := by
  refine ⟨hc.furnished.of_furniture rfl, hc.cut.of_heights rfl, fun id => ?_⟩
  -- a log that is forgotten counts as an empty one
  show (((c.logs.retain c.worktreeIds.contains).get? id).getD {}).HasRows
  rw [Table.get?_retain]
  split
  · exact hc.rows id
  · exact Transcript.Log.hasRows_empty none

theorem keepsSound_onSnapshot (c : Console) (s : Snapshot) (time : Nat) :
    c.KeepsSound (c.onSnapshot s time) := by
  intro hc
  -- the fetch ends, what is gone is forgotten, and the forge may be asked
  have hnew : IsSound { c with snapshot := s } := hc.of_eq rfl rfl
  have hcompleted := keepsSound_of_fetches (fetches_completed _ .localStatus time) hnew
  have hviewed := keepsSound_ensureViewed _ hcompleted.forgetGone
  have hstarted := keepsSound_of_fetches (fetches_startRemote _) hviewed
  exact hstarted

theorem IsSound.onHistory {c : Console} (hc : c.IsSound) (worktree : WorktreeId)
    (lines : List Text) : (c.onHistory worktree lines).IsSound := by
  have hlog : ((c.logOf worktree).applyHistory c.canvas lines).HasRows :=
    Transcript.Log.hasRows_ofLines _ _ _
  have hset := hc.withLog worktree hlog
  unfold Console.onHistory
  dsimp only
  split
  · exact hset.of_eq rfl rfl
  · exact hset

theorem IsSound.onOutput {c : Console} (hc : c.IsSound) (worktree : WorktreeId) (line : Text) :
    (c.onOutput worktree line).IsSound := by
  have hlog : ((c.logOf worktree).push c.canvas line).HasRows := (hc.rows worktree).push line
  have hset := hc.withLog worktree hlog
  unfold Console.onOutput
  dsimp only
  split
  · exact hset.of_eq rfl rfl
  · exact hset

theorem keepsSound_onSession (c : Console) (event : SessionEvent) (time : Nat) :
    c.KeepsSound (c.onSession event time) := by
  intro hc
  rcases onSession_cases c event time with ⟨snapshot, haside⟩ | ⟨session, worktree, line, rfl⟩
  · have hnew : IsSound { c with snapshot } := hc.of_eq rfl rfl
    exact keepsSound_of_aside haside hnew
  · exact hc.onOutput worktree line

/-- Every event keeps the console sound. -/
theorem keepsSound_handle (c : Console) (event : Event) (now : Moment) :
    c.KeepsSound (c.handle event now) := by
  -- a new size is the one event that changes the heights
  cases event with
  | key key => exact keepsSound_onKey c key now
  | resize width height =>
    exact fun hc => IsSound.applySize (c := { c with width, height }) { hc.furnished with }
  | timer purpose generation =>
    by_cases hp : purpose = .toasts
    · have haside : (Event.timer purpose generation).isAside := decide_eq_true hp
      exact keepsSound_of_aside (aside_handle c haside now)
    · exact keepsSound_of_fetches (fetches_onTimer c hp generation _)
  | snapshot s => exact keepsSound_onSnapshot c s _
  | snapshotFailed error =>
    have hcompleted := keepsSound_of_fetches (fetches_completed c .localStatus now.clock)
    exact hcompleted
  | remoteStatus statuses => exact fun hc => hc.of_eq rfl rfl
  | history worktree lines => exact fun hc => hc.onHistory worktree lines
  | historyFailed worktree error => exact fun hc => hc.of_eq rfl rfl
  | session event => exact keepsSound_onSession c event _
  | commandDone command =>
    exact (keepsSound_of_aside (aside_toast (.refl c) _ _ _)).andThen
      (keepsSound_of_fetches (fetches_fetchNow _))
  | paste | sessionsClosed | commandFailed | copied | copyFailed =>
    exact keepsSound_of_aside (aside_handle c rfl now)

/-- A console begins sound. -/
theorem isSound_ofTuning (tuning : Tuning) (theme : Theme) (themes : String → Theme × List Note)
    (renderer : Transcript.Renderer) : (ofTuning tuning theme themes renderer).IsSound := by
  -- the first size cuts the lists, so only the furniture is left
  refine IsSound.applySize ?_
  have hlist {title : Text} (h : Clean title) : Picker.IsFurnished { title } :=
    ⟨h, fun item hitem => by simp at hitem⟩
  have heditor {placeholder primary secondary : Text} (hplaceholder : Clean placeholder)
      (hprimary : Clean primary) (hsecondary : Clean secondary) :
      (Editor.withHeights { placeholder, primaryLabel := primary, secondaryLabel := secondary }
        tuning.editorMin tuning.editorMax).IsFurnished :=
    ⟨hplaceholder, hprimary, hsecondary, Nat.le_max_right _ _,
      Nat.le_trans (Nat.le_max_right _ _) (Nat.le_max_right _ _)⟩
  exact
    { picker := hlist (by decide)
      browser := hlist (by decide)
      settings := hlist (by decide)
      taskEditor := heditor (by decide) (by decide) (by decide)
      followUpEditor := heditor (by decide) (by decide) (by decide) }

theorem Reachable.sound {c : Console} (h : c.Reachable) : c.IsSound := by
  induction h with
  | ofTuning tuning theme themes renderer => exact isSound_ofTuning tuning theme themes renderer
  | start _ ih =>
    have hfetched := keepsSound_of_fetches (fetches_fetchNow _) ih
    exact hfetched
  | handle _ event now ih => exact keepsSound_handle _ event now ih
  | applyTheme _ name ih => exact keepsSound_applyTheme _ name ih

end AgentConsole.Console
