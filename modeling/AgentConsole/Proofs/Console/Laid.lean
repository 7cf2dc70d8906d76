import AgentConsole.Proofs.Console.Sight
import AgentConsole.Proofs.Transcript.Relayout

/-!
# What is laid out anew

A theme that is chosen and a size that the terminal tells lay out all output anew, also when the
theme is the one in force and the size has not changed.  What that does to a log is a matter of the
log alone (`logOf_relayout`), and doing it twice is doing it once.

Is it a change at all?  Not if the renderer takes no notice of blank lines at the end: then all
logs are at any time as they would be laid out anew (`Reachable.isLaid`).  Every event keeps this.
The only one that asks for something is a line that streams in; all others lay a log out, or set
its mark, or forget it.  The renderer itself never changes, and both are carried through one
induction (`KeepsLaid`).
-/

namespace AgentConsole

namespace Transcript.Log

/-- The lines of a log decide its rows once it is laid out anew; the mark does not. -/
theorem sheet_relayout_congr {canvas : Canvas} {log log' : Log} (h : log.lines = log'.lines) :
    (log.relayout canvas).sheet = (log'.relayout canvas).sheet := by
  unfold relayout
  rw [ofLines_eq_withMark log.mark, ofLines_eq_withMark log'.mark, h]
  rfl

end Transcript.Log

namespace Console

open Transcript

/-! ### All output, laid out anew -/

/-- Laying out a console anew lays out each of its logs. -/
theorem logOf_relayout (c : Console) (id : WorktreeId) :
    c.relayout.logOf id = (c.logOf id).relayout c.canvas := by
  show ((c.logs.map (Log.relayout c.canvas)).get? id).getD {} = _
  rw [Table.get?_map]
  unfold logOf
  rcases c.logs.get? id with - | log
  · exact (Log.relayout_empty c.canvas).symm
  · rfl

/-- Whoever chooses the theme in force has all output laid out anew. -/
theorem applyTheme_of_same {c : Console} {name : String} (h : (c.themes name).1 = c.theme) :
    (c.applyTheme name).console = c.relayout := by
  show { c with theme := (c.themes name).1 }.relayout = c.relayout
  rw [h]

/-! ### Logs that are laid out already -/

/-- Every log is as it would be laid out anew. -/
def IsLaid (c : Console) : Prop := ∀ id, (c.logOf id).relayout c.canvas = c.logOf id

namespace IsLaid

variable {c d : Console}

/-- With the same logs and canvas, they stay laid out. -/
theorem of_eq (h : c.IsLaid) (hlogs : d.logs = c.logs) (hcanvas : d.canvas = c.canvas) :
    d.IsLaid := by
  intro id
  unfold logOf
  rw [hlogs, hcanvas]
  exact h id

/-- One log may be replaced by one that is laid out. -/
theorem withLog (h : c.IsLaid) (id : WorktreeId) {log : Log} (hlog : log.relayout c.canvas = log)
    (hlogs : d.logs = c.logs.set id log) (hcanvas : d.canvas = c.canvas) : d.IsLaid := by
  intro other
  rw [hcanvas, logOf_of_set hlogs]
  split
  · exact hlog
  · exact h other

theorem relayout (c : Console) : c.relayout.IsLaid := by
  intro id
  rw [logOf_relayout]
  exact Log.relayout_relayout _

/-- Some logs may be forgotten. -/
theorem forgetGone (h : c.IsLaid) : c.forgetGone.IsLaid := by
  intro id
  show (((c.logs.retain c.worktreeIds.contains).get? id).getD {}).relayout c.canvas
    = ((c.logs.retain c.worktreeIds.contains).get? id).getD {}
  rw [Table.get?_retain]
  split
  · exact h id
  · exact Log.relayout_empty c.canvas

end IsLaid

/-- The turn leaves the renderer as it is, and all logs laid out if the renderer takes no notice of
blank lines at the end. -/
structure KeepsLaid (c : Console) (t : Turn) : Prop where
  renderer : t.console.renderer = c.renderer
  laid : c.renderer.IgnoresBlankEnd → c.IsLaid → t.console.IsLaid

namespace KeepsLaid

variable {c d : Console} {t : Turn}

theorem of_eq (hlogs : t.console.logs = c.logs) (hcanvas : t.console.canvas = c.canvas) :
    c.KeepsLaid t where
  renderer := congrArg Canvas.renderer hcanvas
  laid _ h := h.of_eq hlogs hcanvas

theorem of_aside (h : t.Aside c) : c.KeepsLaid t :=
  .of_eq (congrArg (·.2.2.2.1) h.beside.world) (congrArg (·.2.2.2.2.2) h.beside.world)

theorem of_fetches (h : t.Fetches c) : c.KeepsLaid t := by
  obtain ⟨refresh, remoteStarted, hconsole⟩ := h.console
  refine .of_eq ?_ ?_
  · rw [hconsole]
  · rw [hconsole]
    rfl

/-- One log is written to, and lies as it would be laid out anew if it did so before. -/
theorem of_set (id : WorktreeId) {log : Log} (hlogs : t.console.logs = c.logs.set id log)
    (hcanvas : t.console.canvas = c.canvas)
    (hlog : c.renderer.IgnoresBlankEnd → (c.logOf id).relayout c.canvas = c.logOf id →
      log.relayout c.canvas = log) : c.KeepsLaid t where
  renderer := congrArg Canvas.renderer hcanvas
  laid hblank h := h.withLog id (hlog hblank (h id)) hlogs hcanvas

/-- What is laid out anew is laid out, whatever it was before. -/
theorem of_relayout (hconsole : t.console = d.relayout) (hrenderer : d.renderer = c.renderer) :
    c.KeepsLaid t where
  renderer := by
    rw [hconsole]
    exact hrenderer
  laid _ _ := by
    rw [hconsole]
    exact .relayout d

theorem andThen {next : Console → Turn} (h : c.KeepsLaid t)
    (hnext : t.console.KeepsLaid (next t.console)) : c.KeepsLaid (t.andThen next) where
  renderer := hnext.renderer.trans h.renderer
  laid hblank hc := hnext.laid (h.renderer.symm ▸ hblank) (h.laid hblank hc)

/-- What is known before the turn is known after it. -/
theorem isLaid (h : c.KeepsLaid t) (hc : c.renderer.IgnoresBlankEnd → c.IsLaid)
    (hblank : t.console.renderer.IgnoresBlankEnd) : t.console.IsLaid := by
  rw [h.renderer] at hblank
  exact h.laid hblank (hc hblank)

/-- Nothing but the logs and how they are rendered matters. -/
theorem from_eq (h : d.KeepsLaid t) (hlogs : d.logs = c.logs) (hcanvas : d.canvas = c.canvas) :
    c.KeepsLaid t where
  renderer := h.renderer.trans (congrArg Canvas.renderer hcanvas)
  laid hblank hc := by
    have hrenderer : d.renderer = c.renderer := congrArg Canvas.renderer hcanvas
    exact h.laid (hrenderer.symm ▸ hblank) (hc.of_eq hlogs hcanvas)

end KeepsLaid

/-- Looking at a worktree marks its log, at most. -/
theorem keepsLaid_view (c : Console) (id : WorktreeId) : c.KeepsLaid (c.view id) := by
  unfold view
  split
  · exact .of_eq rfl rfl
  · dsimp only
    split
    · exact .of_eq rfl rfl
    · -- the history is asked for, and a mark changes no rows
      exact .of_set id rfl rfl fun _ hlog => Log.relayout_markHistory hlog

theorem keepsLaid_applyTheme (c : Console) (name : String) : c.KeepsLaid (c.applyTheme name) :=
  .of_relayout (d := { c with theme := (c.themes name).1 }) rfl rfl

theorem keepsLaid_onKey (c : Console) (key : Key) (now : Moment) : c.KeepsLaid (c.onKey key now) :=
  onKey_induction (P := KeepsLaid) KeepsLaid.of_aside keepsLaid_view keepsLaid_applyTheme
    KeepsLaid.andThen c key now

theorem keepsLaid_ensureViewed (c : Console) : c.KeepsLaid c.ensureViewed :=
  ensureViewed_induction (P := KeepsLaid) KeepsLaid.of_aside keepsLaid_view KeepsLaid.andThen c

/-- A snapshot takes logs away. -/
theorem keepsLaid_onSnapshot (c : Console) (s : Snapshot) (time : Nat) :
    c.KeepsLaid (c.onSnapshot s time) := by
  -- the fetch ends, what is gone is forgotten, and the forge may be asked
  have hcompleted : c.KeepsLaid (completed { c with snapshot := s } .localStatus time) :=
    (KeepsLaid.of_fetches (fetches_completed _ _ _)).from_eq rfl rfl
  have hforgotten (d : Console) : d.KeepsLaid d.forgetGone.ensureViewed := by
    have hviewed := d.forgetGone.keepsLaid_ensureViewed
    exact ⟨hviewed.renderer, fun hblank h => hviewed.laid hblank h.forgetGone⟩
  exact (hcompleted.andThen (hforgotten _)).andThen (.of_fetches (fetches_startRemote _))

/-- A history is laid out as it comes in. -/
theorem keepsLaid_onHistory (c : Console) (id : WorktreeId) (lines : List Text) :
    c.KeepsLaid (c.onHistory id lines).quiet := by
  refine .of_set id (c.logs_onHistory id lines).1 ?_ fun _ _ => Log.relayout_applyHistory _ _
  show (c.onHistory id lines).canvas = c.canvas
  unfold onHistory
  dsimp only
  split <;> rfl

/-- A line that streams in is the only event that asks something of the renderer. -/
theorem keepsLaid_onOutput (c : Console) (id : WorktreeId) (line : Text) :
    c.KeepsLaid (c.onOutput id line).quiet := by
  refine .of_set id (c.logs_onOutput id line).1 ?_ fun hblank hlog =>
    Log.relayout_push hblank hlog line
  show (c.onOutput id line).canvas = c.canvas
  unfold onOutput
  dsimp only
  split <;> rfl

/-- An event of a session adds a line to a log, at most. -/
theorem keepsLaid_onSession (c : Console) (event : SessionEvent) (time : Nat) :
    c.KeepsLaid (c.onSession event time) := by
  rcases onSession_cases c event time with ⟨snapshot, haside⟩ | ⟨session, id, line, rfl⟩
  · exact (KeepsLaid.of_aside haside).from_eq rfl rfl
  · exact c.keepsLaid_onOutput id line

/-- The step: every event leaves the logs laid out. -/
theorem keepsLaid_handle (c : Console) (event : Event) (now : Moment) :
    c.KeepsLaid (c.handle event now) := by
  cases event with
  | key key => exact c.keepsLaid_onKey key now
  | resize width height =>
    -- the editors and pickers are fitted first, and they have nothing to do with it
    exact .of_relayout rfl rfl
  | timer purpose generation =>
    by_cases hp : purpose = .toasts
    · have haside : (Event.timer purpose generation).isAside := decide_eq_true hp
      exact .of_aside (aside_handle c haside now)
    · exact .of_fetches (fetches_onTimer c hp generation _)
  | snapshot s => exact c.keepsLaid_onSnapshot s _
  | history id lines => exact c.keepsLaid_onHistory id lines
  | session event =>
    have hsession := c.keepsLaid_onSession event now.clock
    exact ⟨hsession.renderer, hsession.laid⟩
  | commandDone command =>
    exact (KeepsLaid.of_aside (aside_toast (.refl c) _ _ _)).andThen
      (.of_fetches (fetches_fetchNow _))
  | snapshotFailed | remoteStatus | historyFailed => exact .of_eq rfl rfl
  | paste | sessionsClosed | commandFailed | copied | copyFailed =>
    exact .of_aside (aside_handle c rfl now)

/-- Starting asks for things and touches no output. -/
theorem logs_start (c : Console) :
    c.start.console.logs = c.logs ∧ c.start.console.canvas = c.canvas := by
  obtain ⟨refresh, remoteStarted, hconsole⟩ := (fetches_fetchNow c).console
  rw [show c.start.console = _ from hconsole]
  exact ⟨rfl, rfl⟩

theorem keepsLaid_start (c : Console) : c.KeepsLaid c.start := .of_eq c.logs_start.1 c.logs_start.2

/-- No event exchanges the renderer. -/
theorem renderer_handle (c : Console) (event : Event) (now : Moment) :
    (c.handle event now).console.renderer = c.renderer := (c.keepsLaid_handle event now).renderer

/-- **Laying out anew changes nothing under a renderer that takes no notice of blank lines at the
end.**  This is so in every state that the console comes to. -/
theorem Reachable.isLaid {c : Console} (h : c.Reachable) (hblank : c.renderer.IgnoresBlankEnd) :
    c.IsLaid := by
  induction h with
  | ofTuning => exact IsLaid.relayout _
  | @start c _ ih => exact c.keepsLaid_start.isLaid ih hblank
  | @handle c _ event now ih => exact (c.keepsLaid_handle event now).isLaid ih hblank
  | applyTheme _ name _ => exact IsLaid.relayout _

/-! ### What is in sight of it -/

/-- The logs are laid out anew, and the view is told how many rows there are. -/
theorem sight_relayout (c : Console) : c.relayout.sight
    = { c.sight with sheets := fun id => ((c.logOf id).relayout c.canvas).sheet }.sync := by
  have hsheets : c.relayout.sight.sheets = fun id => ((c.logOf id).relayout c.canvas).sheet :=
    funext fun id => congrArg Log.sheet (c.logOf_relayout id)
  rw [← hsheets]
  rfl

end Console

end AgentConsole
