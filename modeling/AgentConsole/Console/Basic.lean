import AgentConsole.Editor.Render
import AgentConsole.Focus
import AgentConsole.Frame.Layout
import AgentConsole.Frame.Scroll
import AgentConsole.Journal
import AgentConsole.Picker.Render
import AgentConsole.Schedule.Refresh
import AgentConsole.Table
import AgentConsole.Toast
import AgentConsole.Transcript.Log
import AgentConsole.Tuning
import AgentConsole.View.Main
import AgentConsole.View.Modal

/-!
# The console

The console holds all that the screen shows and reacts to one event at a time.
It never waits: what has to be done elsewhere it asks for in requests, and the
results come back as events.

This module has the state, the events and the requests.  A reaction is a
`Turn`: the new state, what it asks for, and what there is to note.
-/

namespace AgentConsole

/-- Something that the user told the agents to do. -/
inductive Command where
  | start (worktree : WorktreeId)
  | stop (session : SessionId)
  | followUp (session : SessionId)
  deriving DecidableEq, Repr

/-- What the console reacts to. -/
inductive Event where
  | key (key : Key)
  | paste (t : Text)
  | resize (width height : Nat)
  | timer (purpose : Purpose) (generation : Nat)
  | snapshot (snapshot : Snapshot)
  | snapshotFailed (error : Text)
  /-- What the forge says about the branches that could be asked about. -/
  | remoteStatus (statuses : Table WorktreeId RemoteStatus)
  | history (worktree : WorktreeId) (lines : List Text)
  | historyFailed (worktree : WorktreeId) (error : Text)
  | session (event : SessionEvent)
  /-- No session event will come any more. -/
  | sessionsClosed
  | commandDone (command : Command)
  | commandFailed (command : Command) (error : Text)
  | copied (rows : Nat)
  | copyFailed (error : Text)

/-- What the console asks for. -/
inductive Request where
  | schedule (order : Schedule)
  | fetchSnapshot
  | fetchRemoteStatus (worktrees : List WorktreeId)
  | fetchHistory (worktree : WorktreeId)
  /-- Wait for one more session event. -/
  | nextSessionEvent
  | startSession (worktree : WorktreeId) (prompt : Text)
  | stopSession (session : SessionId)
  | followUp (session : SessionId) (prompt : Text)
  | copy (rows : List Text)
  | quit
  deriving DecidableEq, Repr

/-- The state of the console. -/
structure Console where
  tuning : Tuning := {}
  theme : Theme := Theme.fallback
  /-- The theme of a name, and what there is to note about finding it. -/
  themes : String → Theme × List Note := fun name => (Theme.named name, [])
  renderer : Transcript.Renderer := Transcript.markup
  width : Nat := 80
  height : Nat := 24
  focus : Focus := {}
  snapshot : Snapshot := {}
  /-- What the forge said; entries of worktrees that are gone do no harm. -/
  remote : Table WorktreeId RemoteStatus := {}
  /-- Has the forge been asked yet? -/
  remoteStarted : Bool := false
  /-- The worktree that is viewed. -/
  selected : Option WorktreeId := none
  logs : Table WorktreeId Transcript.Log := {}
  /-- The worktrees whose history was asked for. -/
  historyAsked : List WorktreeId := []
  scroll : ScrollView := {}
  scrollMemory : ScrollMemory WorktreeId := {}
  toasts : ToastQueue := {}
  refresh : Refresh
  taskEditor : Editor := {}
  followUpEditor : Editor := {}
  /-- The worktree that was picked for a new task. -/
  taskWorktree : Option WorktreeId := none
  picker : Picker := {}
  browser : Picker := {}
  settings : Picker := {}
  helpScroll : Nat := 0
  quitting : Bool := false

/-- A moment, on the clock of the timers and on the calendar, in milliseconds. -/
structure Moment where
  clock : Nat
  calendar : Int := 0
  deriving DecidableEq, Repr

/-- A reaction of the console. -/
structure Turn where
  console : Console
  requests : List Request := []
  notes : List Note := []

namespace Turn

/-- One reaction after the other. -/
def andThen (t : Turn) (next : Console → Turn) : Turn :=
  let u := next t.console
  ⟨u.console, t.requests ++ u.requests, t.notes ++ u.notes⟩

/-- Asks for more. -/
def ask (t : Turn) (request : Request) : Turn := { t with requests := t.requests ++ [request] }

/-- Notes more. -/
def note (t : Turn) (level : Level) (message : Text) : Turn :=
  { t with notes := t.notes ++ [⟨level, message⟩] }

end Turn

namespace Console

/-- A reaction that asks for nothing. -/
def quiet (c : Console) : Turn := { console := c }

/-! ### Geometry -/

/-- The layout of the frame. -/
def layout (c : Console) : Frame.Layout := ⟨c.width, c.height⟩

/-- Columns inside the border of a modal. -/
def modalInner (c : Console) : Nat := max (c.layout.modalWidth - 2) 1

/-- How agent output is rendered now. -/
def canvas (c : Console) : Transcript.Canvas := ⟨c.renderer, c.theme, c.layout.outputWidth⟩

/-- The log of a worktree. -/
def logOf (c : Console) (id : WorktreeId) : Transcript.Log := (c.logs.get? id).getD {}

/-- The rendered output of a worktree, oldest row first. -/
def outputRows (c : Console) (id : WorktreeId) : List Text := (c.logOf id).rows

/-- The rendered output of the worktree that is viewed. -/
def viewedRows (c : Console) : List Text := (c.selected.map c.outputRows).getD []

/-- The rows of output on the screen. -/
def visibleRows (c : Console) : List Text :=
  let rows := c.viewedRows
  let w := Frame.Window.at rows.length c.scroll.offset c.layout.bodyHeight
  (rows.drop w.start).take (w.stop - w.start)

/-- Tells the scroll position how many rows there are and how many are shown. -/
def syncScroll (c : Console) : Console :=
  { c with scroll := c.scroll.resize c.viewedRows.length c.layout.bodyHeight }

/-- Renders all output anew. -/
def relayout (c : Console) : Console :=
  { c with logs := c.logs.map (Transcript.Log.relayout c.canvas) }.syncScroll

/-- The lines of the help that lie below its first page. -/
def helpMaxScroll (c : Console) : Nat :=
  (View.helpLines c.theme c.modalInner).length - c.layout.modalHeight

/-- Fits everything to the size of the terminal. -/
def applySize (c : Console) : Console :=
  let inner := c.modalInner
  let capacity := min (max (c.layout.modalHeight - 1) 1) 10
  { c with
    taskEditor := c.taskEditor.setWidth inner
    followUpEditor := c.followUpEditor.setWidth inner
    picker := c.picker.setCapacity capacity
    browser := c.browser.setCapacity capacity
    settings := c.settings.setCapacity capacity
    helpScroll := min c.helpScroll c.helpMaxScroll }.relayout

/-- Changes the size of the terminal. -/
def resize (c : Console) (width height : Nat) : Console := { c with width, height }.applySize

/-- The console before its first event, on a terminal of eighty by twenty-four. -/
def ofTuning (tuning : Tuning) (theme : Theme) (themes : String → Theme × List Note)
    (renderer : Transcript.Renderer) : Console :=
  let editor (placeholder primary secondary : String) : Editor :=
    { placeholder := placeholder.toList
      primaryLabel := primary.toList
      secondaryLabel := secondary.toList : Editor }.withHeights tuning.editorMin tuning.editorMax
  { tuning, theme, themes, renderer
    toasts := ToastQueue.ofLimit tuning.toastLimit tuning.toastLife
    refresh := Refresh.ofPeriods tuning.localEvery tuning.remoteEvery
    taskEditor := editor "Describe the task for the agent…" "Start" "Back"
    followUpEditor := editor "Ask a follow-up…" "Send" "Cancel"
    picker := { title := "Worktrees".toList }
    browser := { title := "Sessions".toList }
    settings := { title := "Theme".toList } : Console }.applySize

/-! ### Parts that many reactions share -/

/-- The identities of the worktrees. -/
def worktreeIds (c : Console) : List WorktreeId := c.snapshot.worktrees.map (·.id)

/-- The name of a worktree; its identity if it is unknown. -/
def worktreeName (c : Console) (id : WorktreeId) : Text :=
  (((c.snapshot.worktree? id).map (·.name)).getD id.name).toList

/-- The session that stands for the viewed worktree. -/
def viewedSession? (c : Console) : Option Session := c.selected.bind c.snapshot.sessionFor

/-- Shows a message. -/
def toast (c : Console) (message : Text) (severity : Severity) (time : Nat) : Turn :=
  let (toasts, order) := c.toasts.push message severity time
  { console := { c with toasts }
    requests := order.toList.map .schedule
    notes := [⟨.debug, "toast: ".toList ++ message⟩] }

/-- Opens a target from the main output. -/
def openFocus (c : Console) (target : Target) : Turn :=
  match c.focus.open target with
  | some focus => { c with focus }.quiet.note .debug "focus open".toList
  | none => c.quiet

/-- Closes the target in force. -/
def closeFocus (c : Console) : Turn :=
  { c with focus := c.focus.close }.quiet.note .debug "focus close".toList

/-- Goes on to another target of the same flow. -/
def replaceFocus (c : Console) (target : Target) : Console :=
  { c with focus := c.focus.replace target }

/-- Leaves the program. -/
def quit (c : Console) : Turn := { c with quitting := true }.quiet.ask .quit

/-- Fetches the sessions at once, unless that is under way. -/
def fetchNow (c : Console) : Turn :=
  match c.refresh.now? .localStatus with
  | some refresh => { c with refresh }.quiet.ask .fetchSnapshot
  | none => c.quiet

/-- What to ask for before the first event. -/
def start (c : Console) : Turn := c.fetchNow.ask .nextSessionEvent

/-- A fetch has ended. -/
def completed (c : Console) (purpose : Purpose) (time : Nat) : Turn :=
  let (refresh, order) := c.refresh.complete purpose time
  { console := { c with refresh }, requests := order.toList.map .schedule }

/-- Views another worktree.  Its history is asked for the first time. -/
def view (c : Console) (id : WorktreeId) : Turn :=
  if c.selected = some id then c.quiet
  else
    let (scroll, scrollMemory) := c.scrollMemory.switch c.selected c.scroll id
    let c := { c with scroll, scrollMemory, selected := some id }.syncScroll
    let turn :=
      if c.historyAsked.contains id then c.quiet
      else
        { c with
          historyAsked := id :: c.historyAsked
          logs := c.logs.set id (c.logOf id).markHistory }.quiet.ask (.fetchHistory id)
    { turn with notes := ⟨.debug, "switch source".toList⟩ :: turn.notes }

/-- Exchanges the theme. -/
def applyTheme (c : Console) (name : String) : Turn :=
  let (theme, notes) := c.themes name
  { console := { c with theme }.relayout
    notes := ⟨.info, "theme changed".toList⟩ :: notes }

end Console

end AgentConsole
