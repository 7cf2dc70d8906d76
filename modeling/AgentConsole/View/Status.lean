import AgentConsole.Session.Basic
import AgentConsole.Theme.Basic

/-!
# Signs of a session

The glyph and the colour of a status, the age of a session, and the badge for
what the forge knows about a branch.
-/

namespace AgentConsole.View

/-- The sign for a status; a dot where there is no session. -/
def glyph : Option Status → Char
  | none => '·'
  | some .pending => '○'
  | some .running => '●'
  | some .idle => '◐'
  | some .done => '✓'
  | some .failed => '✗'
  | some .stopped => '■'

/-- The colour of a status. -/
def color (theme : Theme) : Option Status → Color
  | none => theme.dim
  | some .pending => theme.pending
  | some .running => theme.running
  | some .idle => theme.idle
  | some .done => theme.done
  | some .failed => theme.error
  | some .stopped => theme.dim

/-- The time since a moment in its largest unit; a moment to come counts as now. -/
def age (since now : Int) : Text :=
  let seconds := (now - since).toNat / 1000
  if seconds < 60 then Text.ofNat seconds ++ ['s']
  else if seconds < 3600 then Text.ofNat (seconds / 60) ++ ['m']
  else if seconds < 86400 then Text.ofNat (seconds / 3600) ++ ['h']
  else Text.ofNat (seconds / 86400) ++ ['d']

/-- The pull request and its checks; empty where nothing is known. -/
def remoteBadge (theme : Theme) (remote : RemoteStatus) : Text :=
  let pullRequest :=
    remote.pullRequest.toList.map fun n =>
      let state : Text := (remote.state.getD "").toList
      theme.muted (Text.trimEnd ("PR #".toList ++ Text.ofNat n ++ ' ' :: state))
  let checks :=
    remote.checks.toList.map fun
      | .passing => theme.done.paint ['✓']
      | .failing => theme.error.paint ['✗']
      | .pending => theme.pending.paint ['…']
  Text.join [' '] (pullRequest ++ checks)

end AgentConsole.View
