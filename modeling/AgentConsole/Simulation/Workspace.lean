import AgentConsole.Session.Basic
import AgentConsole.Table

/-!
# Simulated workspaces

A workspace in memory stands in for real worktrees and agents: it has the
sessions, what was said in every worktree, and the commands on them.  A command
that is refused changes nothing.
-/

namespace AgentConsole.Simulation

/-- The worktrees, the sessions and what was said in every worktree. -/
structure Workspace where
  worktrees : List Worktree
  sessions : List Session
  history : Table WorktreeId (List Text)
  /-- The number in the identity of the newest session. -/
  lastNumber : Nat := 0
  deriving Repr

/-- Why a command is refused. -/
inductive Refusal where
  | unknownWorktree (id : WorktreeId)
  | unknownSession (id : SessionId)
  | finished (id : SessionId)
  | busy
  deriving DecidableEq, Repr

/-- The refusal in words. -/
def Refusal.message : Refusal → Text
  | unknownWorktree id => "unknown worktree ".toList ++ id.name.toList
  | unknownSession id => "unknown session ".toList ++ id.name.toList
  | finished id => "session ".toList ++ id.name.toList ++ " already finished".toList
  | busy => "agent is still working".toList

namespace Workspace

/-- All worktrees and sessions. -/
def snapshot (w : Workspace) : Snapshot := ⟨w.worktrees, w.sessions⟩

/-- The session of that identity. -/
def session? (w : Workspace) (id : SessionId) : Option Session := w.sessions.find? (·.id = id)

/-- What was said in a worktree. -/
def historyOf (w : Workspace) (id : WorktreeId) : List Text := (w.history.get? id).getD []

/-- Adds a line to what was said in a worktree. -/
def record (w : Workspace) (id : WorktreeId) (line : Text) : Workspace :=
  { w with history := w.history.set id (w.historyOf id ++ [line]) }

/-- Changes the status of a session. -/
def setStatus (w : Workspace) (id : SessionId) (status : Status) : Workspace :=
  { w with sessions := w.sessions.map fun s => if s.id = id then { s with status } else s }

/-- Changes the status of a session, unless it is finished or unknown. -/
def setStatus? (w : Workspace) (id : SessionId) (status : Status) : Option Workspace :=
  match w.session? id with
  | some s => if s.isLive then some (w.setStatus id status) else none
  | none => none

/-- Does the session's agent work? -/
def isRunning (w : Workspace) (id : SessionId) : Bool :=
  w.sessions.any fun s => s.id = id && s.status = .running

/-- How a prompt appears in the history. -/
def promptLine (prompt : Text) : Text := '>' :: ' ' :: prompt

/-- Starts a session. -/
def start (w : Workspace) (worktree : WorktreeId) (prompt : Text) (time : Int) :
    Except Refusal (Workspace × Session) :=
  if w.worktrees.any (·.id = worktree) then
    let number := w.lastNumber + 1
    let session : Session :=
      { id := ⟨"s" ++ String.ofList (Text.ofNat number)⟩
        worktree, agent := "claude", status := .pending, startedAt := time, prompt }
    let w := { w with lastNumber := number, sessions := w.sessions ++ [session] }
    .ok (w.record worktree (promptLine prompt), session)
  else .error (.unknownWorktree worktree)

/-- Stops a session for good. -/
def stop (w : Workspace) (id : SessionId) : Except Refusal Workspace :=
  match w.session? id with
  | none => .error (.unknownSession id)
  | some s => if s.isLive then .ok (w.setStatus id .stopped) else .error (.finished id)

/-- Gives an idle session more to do; also tells in which worktree. -/
def followUp (w : Workspace) (id : SessionId) (prompt : Text) :
    Except Refusal (Workspace × WorktreeId) :=
  match w.session? id with
  | none => .error (.unknownSession id)
  | some s =>
    match s.status with
    | .idle => .ok ((w.setStatus id .pending).record s.worktree (promptLine prompt), s.worktree)
    | .running | .pending => .error .busy
    | .done | .failed | .stopped => .error (.finished id)

/-- What the forge says about a worktree.  The first one is on the default
branch, which has no pull request. -/
def remoteStatus (w : Workspace) (id : WorktreeId) : Except Refusal RemoteStatus :=
  match w.worktrees.findIdx? (·.id = id) with
  | none => .error (.unknownWorktree id)
  | some 0 => .ok {}
  | some i =>
    .ok
      { pullRequest := some (400 + 7 * i)
        state := some (if i % 2 = 0 then "draft" else "open")
        checks := some (if i % 3 = 0 then .failing else if i % 3 = 1 then .passing else .pending) }

/-! ### The workspace to begin with -/

/-- A line of the log of flaky tests. -/
def testLine (i : Nat) : Text :=
  match i % 10 with
  | 0 => "## Run ".toList ++ Text.ofNat (i / 10)
  | 3 | 6 => "```".toList
  | _ => "test worker::pool_".toList ++ Text.ofNat i ++ " ... ok".toList

/-- Four worktrees below the home directory and two sessions that started some
time before `time`. -/
def initial (home : String) (time : Int) : Workspace :=
  let root := home ++ "/src/shipyard"
  let branched (id branch : String) : Worktree :=
    { id := ⟨id⟩, name := id, branch, path := root ++ "/.worktrees/" ++ id }
  { worktrees :=
      [ { id := ⟨"main"⟩, name := "main", branch := "main", path := root },
        branched "auth-refresh" "feature/auth-refresh",
        branched "flaky-tests" "fix/flaky-tests",
        branched "docs-pass" "docs/api-pass" ]
    sessions :=
      [ { id := ⟨"s-auth"⟩, worktree := ⟨"auth-refresh"⟩, agent := "claude", status := .idle
          startedAt := time - 42 * 60000
          prompt := "Refresh expired OAuth tokens transparently".toList },
        { id := ⟨"s-flaky"⟩, worktree := ⟨"flaky-tests"⟩, agent := "codex", status := .done
          startedAt := time - 180 * 60000
          prompt := "Find why integration tests flake on CI".toList } ]
    history :=
      { entries :=
          [ (⟨"auth-refresh"⟩,
              [ "> Refresh expired OAuth tokens transparently",
                "",
                "The client currently surfaces `401` to callers. I added a",
                "refresh step in `TokenStore::get` guarded by a mutex so only",
                "one refresh runs at a time.",
                "",
                "- `src/auth/store.rs`: refresh on expiry",
                "- `src/auth/client.rs`: retry once after refresh",
                "",
                "Want me to add a test for concurrent refreshes?" ].map String.toList),
            (⟨"flaky-tests"⟩, (List.range' 1 60).map testLine) ] } }

end Workspace

end AgentConsole.Simulation
