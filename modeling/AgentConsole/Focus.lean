import AgentConsole.Session.Basic

/-!
# Focus

Exactly one target receives the keys.  Targets open from the main output only,
and closing one leads back there, with one exception: help opens from anywhere
and, when it closes, the target it covered comes back.
-/

namespace AgentConsole

/-- The steps of starting a task. -/
inductive TaskStep where
  | pickWorktree
  | writePrompt
  deriving DecidableEq, Repr

/-- What a single key is asked to confirm. -/
inductive Confirmation where
  | stopSession (session : SessionId)
  /-- Quitting while that many sessions are live. -/
  | quit (active : Nat)
  deriving DecidableEq, Repr

/-- What receives the keys. -/
inductive Target where
  | mainOutput
  /-- The editor for a follow-up to a session. -/
  | followUp (session : SessionId)
  | worktreePicker
  | taskFlow (step : TaskStep)
  | help
  | confirm (question : Confirmation)
  | sessionBrowser
  | settings
  deriving DecidableEq, Repr

/-- The word for a target in the footer. -/
def Target.label : Target → String
  | mainOutput => "output"
  | followUp _ => "follow-up"
  | worktreePicker => "worktrees"
  | taskFlow _ => "new task"
  | help => "help"
  | confirm _ => "confirm"
  | sessionBrowser => "sessions"
  | settings => "settings"

/-- The target in force, and the one that comes back when it closes. -/
structure Focus where
  current : Target := .mainOutput
  remembered : Option Target := none
  deriving DecidableEq, Repr

namespace Focus

/-- Does the main output receive the keys? -/
def isMain (f : Focus) : Bool := f.current = .mainOutput

/-- Opens a target from the main output; from anywhere else it does not open. -/
def «open» (f : Focus) (target : Target) : Option Focus :=
  if f.isMain then some { f with current := target } else none

/-- Opens a target over whatever has the focus now. -/
def cover (f : Focus) (target : Target) : Focus :=
  if f.current = target then f else ⟨target, some f.current⟩

/-- Goes on to another target of the same flow. -/
def replace (f : Focus) (target : Target) : Focus := { f with current := target }

/-- Closes the target in force. -/
def close (f : Focus) : Focus := ⟨f.remembered.getD .mainOutput, none⟩

/-- Back to the main output, with nothing remembered. -/
def reset (_ : Focus) : Focus := {}

end Focus

end AgentConsole
