import AgentConsole.Text.Basic

/-!
# Worktrees and sessions

What the console knows about the world: the worktrees, the agent sessions that
run in them, and what the forge says about a worktree's branch.  A snapshot is
all of it at one moment; lifecycle events tell what changed since.

Moments are counted in milliseconds on one clock.
-/

namespace AgentConsole

/-- The identity of a worktree. -/
structure WorktreeId where
  name : String
  deriving DecidableEq, Repr

/-- The identity of a session. -/
structure SessionId where
  name : String
  deriving DecidableEq, Repr

/-- A checkout in which agents work. -/
structure Worktree where
  id : WorktreeId
  name : String
  branch : String
  path : String := ""
  deriving DecidableEq, Repr

/-- The state of a session. -/
inductive Status where
  | pending
  | running
  /-- Waiting for the user. -/
  | idle
  | done
  | failed
  | stopped
  deriving DecidableEq, Repr

namespace Status

/-- A session in such a state never changes again. -/
def isTerminal : Status → Bool
  | done | failed | stopped => true
  | pending | running | idle => false

/-- The word for the state. -/
def label : Status → String
  | pending => "pending"
  | running => "running"
  | idle => "idle"
  | done => "done"
  | failed => "failed"
  | stopped => "stopped"

end Status

/-- An agent at work in a worktree. -/
structure Session where
  id : SessionId
  worktree : WorktreeId
  agent : String
  status : Status
  startedAt : Int
  prompt : Text
  deriving DecidableEq, Repr

namespace Session

/-- Can the session still change? -/
def isLive (s : Session) : Bool := !s.status.isTerminal

/-- The session that started last; of several that started together, the last listed. -/
def newest? (sessions : List Session) : Option Session :=
  sessions.foldl
    (fun best s =>
      match best with
      | none => some s
      | some b => if b.startedAt ≤ s.startedAt then some s else some b)
    none

end Session

/-- All worktrees and sessions at one moment. -/
structure Snapshot where
  worktrees : List Worktree := []
  sessions : List Session := []
  deriving DecidableEq, Repr

namespace Snapshot

/-- How many sessions are live. -/
def activeCount (s : Snapshot) : Nat := s.sessions.countP Session.isLive

/-- The worktree of that identity. -/
def worktree? (s : Snapshot) (id : WorktreeId) : Option Worktree :=
  s.worktrees.find? (·.id = id)

/-- The session of that identity. -/
def session? (s : Snapshot) (id : SessionId) : Option Session :=
  s.sessions.find? (·.id = id)

/-- The sessions of a worktree, in the order of the snapshot. -/
def sessionsOf (s : Snapshot) (id : WorktreeId) : List Session :=
  s.sessions.filter (·.worktree = id)

/-- The session that stands for a worktree: its newest live one, else its newest. -/
def sessionFor (s : Snapshot) (id : WorktreeId) : Option Session :=
  (Session.newest? ((s.sessionsOf id).filter Session.isLive)).or
    (Session.newest? (s.sessionsOf id))

end Snapshot

/-- What the checks of a pull request came to. -/
inductive Checks where
  | passing
  | failing
  | pending
  deriving DecidableEq, Repr

/-- What the forge knows about a worktree's branch. -/
structure RemoteStatus where
  pullRequest : Option Nat := none
  /-- Open, draft, merged and the like, in the forge's words. -/
  state : Option String := none
  checks : Option Checks := none
  deriving DecidableEq, Repr

/-- A change in the life of a session. -/
inductive SessionEvent where
  | started (session : Session)
  | statusChanged (session : SessionId) (status : Status)
  /-- One line of an agent's output, written in markdown. -/
  | output (session : SessionId) (worktree : WorktreeId) (line : Text)
  | exited (session : SessionId) (code : Option Int)
  deriving DecidableEq, Repr

end AgentConsole
