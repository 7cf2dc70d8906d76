import AgentConsole.Console.Keys

/-!
# Events of the console

What comes from outside: snapshots, histories, the life of the sessions, the
outcome of commands.  A mistake of the user becomes a toast; a fetch that fails
leaves what is shown as it is until the next one.
-/

namespace AgentConsole

namespace Snapshot

/-- Changes the first of some sessions that has the identity. -/
def updateFirst (id : SessionId) (f : Session → Session) : List Session → List Session
  | [] => []
  | x :: rest => if x.id = id then f x :: rest else x :: updateFirst id f rest

/-- Changes the first session of that identity. -/
def updateSession (s : Snapshot) (id : SessionId) (f : Session → Session) : Snapshot :=
  { s with sessions := updateFirst id f s.sessions }

/-- Puts in a session, in the place of the first one of its identity or at the end. -/
def putSession (s : Snapshot) (session : Session) : Snapshot :=
  if (s.session? session.id).isSome then s.updateSession session.id fun _ => session
  else { s with sessions := s.sessions ++ [session] }

end Snapshot

namespace Console

/-! ### Fetches -/

/-- A timer went off. -/
def onTimer (c : Console) (purpose : Purpose) (generation time : Nat) : Turn :=
  match purpose with
  | .toasts =>
    let (toasts, order) := c.toasts.onTimer generation time
    { console := { c with toasts }, requests := order.toList.map .schedule }
  | .localStatus =>
    let (refresh, fetch) := c.refresh.onTimer purpose generation
    let turn := { c with refresh }.quiet
    if fetch then turn.ask .fetchSnapshot else turn
  | .remoteStatus =>
    let (refresh, fetch) := c.refresh.onTimer purpose generation
    let turn := { c with refresh }.quiet
    if fetch then turn.ask (.fetchRemoteStatus c.worktreeIds) else turn

/-- Forgets what belongs to worktrees that are gone. -/
def forgetGone (c : Console) : Console :=
  let present (id : WorktreeId) : Bool := c.worktreeIds.contains id
  { c with
    scrollMemory := c.scrollMemory.retain present
    logs := c.logs.retain present
    historyAsked := c.historyAsked.filter present }

/-- If the viewed worktree is gone, views the first one. -/
def ensureViewed (c : Console) : Turn :=
  if c.selected.any c.worktreeIds.contains then c.quiet
  else
    let c := { c with selected := none, scroll := {} }
    match c.worktreeIds with
    | [] => c.quiet
    | first :: _ => c.view first

/-- Asks the forge for the first time, once there is a worktree. -/
def startRemote (c : Console) : Turn :=
  if c.remoteStarted || c.worktreeIds.isEmpty then c.quiet
  else
    let c := { c with remoteStarted := true }
    match c.refresh.now? .remoteStatus with
    | some refresh => { c with refresh }.quiet.ask (.fetchRemoteStatus c.worktreeIds)
    | none => c.quiet

/-- A snapshot has come. -/
def onSnapshot (c : Console) (snapshot : Snapshot) (time : Nat) : Turn :=
  (({ c with snapshot }.completed .localStatus time).andThen fun c =>
    c.forgetGone.ensureViewed).andThen startRemote

/-- A history has come. -/
def onHistory (c : Console) (worktree : WorktreeId) (lines : List Text) : Console :=
  let c := { c with logs := c.logs.set worktree ((c.logOf worktree).applyHistory c.canvas lines) }
  if c.selected = some worktree then c.syncScroll else c

/-! ### Sessions -/

/-- An agent has written a line. -/
def onOutput (c : Console) (worktree : WorktreeId) (line : Text) : Console :=
  let before := (c.outputRows worktree).length
  let log := (c.logOf worktree).push c.canvas line
  let c := { c with logs := c.logs.set worktree log }
  if c.selected = some worktree then
    { c with scroll := c.scroll.append (log.rows.length - before) }.syncScroll
  else c

/-- The state of a session whose agent has ended with this code. -/
def statusOfExit : Option Int → Status
  | some 0 => .done
  | some _ => .failed
  | none => .stopped

/-- The agent of a session has ended. -/
def onExit (c : Console) (session : SessionId) (code : Option Int) (time : Nat) : Turn :=
  match c.snapshot.session? session with
  | none => c.quiet
  | some s =>
    if s.status.isTerminal then c.quiet
    else
      let status := statusOfExit code
      let c := { c with snapshot := c.snapshot.updateSession session fun s => { s with status } }
      let turn := c.quiet.note .info "session exited".toList
      if status = .failed then
        turn.andThen fun c =>
          c.toast ("Session on ".toList ++ c.worktreeName s.worktree ++ " failed".toList) .warning
            time
      else turn

/-- Something has happened in the life of a session. -/
def onSession (c : Console) (event : SessionEvent) (time : Nat) : Turn :=
  match event with
  | .started session =>
    { c with snapshot := c.snapshot.putSession session }.quiet.note .info "session started".toList
  | .statusChanged session status =>
    { c with snapshot := c.snapshot.updateSession session fun s => { s with status } }.quiet
  | .output _ worktree line => (c.onOutput worktree line).quiet
  | .exited session code => c.onExit session code time

/-! ### Commands -/

/-- What a command was to do. -/
def Command.purpose : Command → String
  | .start _ => "start task"
  | .stop _ => "stop session"
  | .followUp _ => "send follow-up"

/-- A command was carried out. -/
def onCommandDone (c : Console) (command : Command) (time : Nat) : Turn :=
  let message :=
    match command with
    | .start worktree => "Started task on ".toList ++ c.worktreeName worktree
    | .stop _ => "Stop requested".toList
    | .followUp _ => "Follow-up sent".toList
  (c.toast message .success time).andThen fetchNow

/-- A command could not be carried out. -/
def onCommandFailed (c : Console) (command : Command) (error : Text) (time : Nat) : Turn :=
  (c.quiet.note .warn ("command failed: ".toList ++ error)).andThen fun c =>
    c.toast ("Could not ".toList ++ (Command.purpose command).toList ++ ':' :: ' ' :: error) .error
      time

/-- Pastes a text into the editor that has the focus. -/
def paste (c : Console) (t : Text) : Console :=
  match c.focus.current with
  | .followUp _ => { c with followUpEditor := c.followUpEditor.paste t }
  | .taskFlow .writePrompt => { c with taskEditor := c.taskEditor.paste t }
  | _ => c

/-- Reacts to an event. -/
def handle (c : Console) (event : Event) (now : Moment) : Turn :=
  match event with
  | .key key => c.onKey key now
  | .paste t => (c.paste t).quiet
  | .resize width height => (c.resize width height).quiet
  | .timer purpose generation => c.onTimer purpose generation now.clock
  | .snapshot snapshot => c.onSnapshot snapshot now.clock
  | .snapshotFailed error =>
    (c.quiet.note .debug ("snapshot failed, keeping stale data: ".toList ++ error)).andThen
      (·.completed .localStatus now.clock)
  | .remoteStatus statuses =>
    ({ c with remote := c.remote.merge statuses }.quiet.note .debug
      "remote status refreshed".toList).andThen (·.completed .remoteStatus now.clock)
  | .history worktree lines => (c.onHistory worktree lines).quiet
  | .historyFailed worktree error =>
    { c with historyAsked := c.historyAsked.filter (· ≠ worktree) }.quiet.note .debug
      ("history fetch failed: ".toList ++ error)
  | .session event => (c.onSession event now.clock).ask .nextSessionEvent
  | .sessionsClosed => c.quiet.note .warn "backend event stream closed".toList
  | .commandDone command => c.onCommandDone command now.clock
  | .commandFailed command error => c.onCommandFailed command error now.clock
  | .copied rows =>
    c.toast ("Copied ".toList ++ Text.ofNat rows ++ " lines".toList) .success now.clock
  | .copyFailed error => c.toast ("Copy failed: ".toList ++ error) .error now.clock

end Console

end AgentConsole
