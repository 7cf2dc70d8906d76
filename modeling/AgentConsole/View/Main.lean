import AgentConsole.Focus
import AgentConsole.Styled.Fit
import AgentConsole.View.Status

/-!
# The parts of the main frame

The header, the list of worktrees, what stands in for output that is not there,
the footer, and the notice for a terminal that is too small.
-/

namespace AgentConsole.View

/-- The header: the worktree that is viewed with its session and its pull
request on the left, the number of live sessions on the right. -/
def header (theme : Theme) (snapshot : Snapshot) (selected : Option WorktreeId)
    (remote : Option RemoteStatus) (width : Nat) : Text :=
  let dot := theme.muted " · ".toList
  let worktree (w : Worktree) : Text :=
    let session :=
      match snapshot.sessionFor w.id with
      | none => []
      | some s =>
        dot ++ (color theme (some s.status)).paint
          (glyph (some s.status) :: ' ' :: s.agent.toList ++ ' ' :: s.status.label.toList)
    let badge := (remote.map (remoteBadge theme)).getD []
    dot ++ theme.foreground.strong w.name
      ++ theme.muted (" (".toList ++ w.branch.toList ++ [')'])
      ++ session ++ (if badge.isEmpty then [] else dot ++ badge)
  let left :=
    theme.accent.strong "agentdeck".toList
      ++ ((selected.bind snapshot.worktree?).map worktree).getD []
  let active := snapshot.activeCount
  let right :=
    if active = 0 then theme.muted "idle".toList
    else theme.running.paint (Text.ofNat active ++ " active".toList)
  Styled.spread left right width

/-- One row of the list of worktrees.  The first nine carry their number. -/
def worktreeRow (theme : Theme) (snapshot : Snapshot) (selected : Option WorktreeId)
    (remotes : WorktreeId → Option RemoteStatus) (width index : Nat) (w : Worktree) : Text :=
  let status := (snapshot.sessionFor w.id).map (·.status)
  let number : Text := if index < 9 then Text.ofNat (index + 1) else [' ']
  let pullRequest : Text :=
    (((remotes w.id).bind (·.pullRequest)).map ('#' :: Text.ofNat ·)).getD []
  if selected = some w.id then
    theme.selected
      (Styled.spread (glyph status :: ' ' :: number ++ ' ' :: w.name.toList) pullRequest width)
  else
    Styled.spread
      ((color theme status).paint [glyph status] ++ ' ' :: theme.muted number
        ++ ' ' :: w.name.toList)
      (theme.muted pullRequest) width

/-- The list of worktrees, as a block of the given size. -/
def worktreeList (theme : Theme) (snapshot : Snapshot) (selected : Option WorktreeId)
    (remotes : WorktreeId → Option RemoteStatus) (width height : Nat) : Text :=
  let rows := snapshot.worktrees.mapIdx fun i w =>
    worktreeRow theme snapshot selected remotes width i w
  let rows := if rows.isEmpty then [theme.muted "no worktrees".toList] else rows
  Styled.rectangle (Text.ofRows rows) width height

/-- What stands in the place of output that is not there yet. -/
def emptyOutput (theme : Theme) (hasWorktree : Bool) (width : Nat) : Text :=
  let notice :=
    if hasWorktree then "No output yet. Press n to start a task."
    else "Waiting for worktrees..."
  theme.muted (Styled.truncate notice.toList width)

/-- The keys that the footer names for a target. -/
def hints : Target → String
  | .mainOutput =>
    "n new  f follow-up  x stop  w worktrees  b sessions  s settings  y copy  ? help  q quit"
  | .followUp _ | .taskFlow .writePrompt =>
    "ctrl-s send  tab buttons  shift-enter newline  esc back"
  | .worktreePicker | .sessionBrowser | .settings | .taskFlow .pickWorktree =>
    "type to filter  ↑↓ move  enter choose  esc close"
  | .help => "↑↓ scroll  esc close"
  | .confirm _ => "y confirm  any other key cancels"

/-- The footer: the keys of the target on the left; a note and the name of the
target on the right. -/
def footer (theme : Theme) (target : Target) (note : Text) (width : Nat) : Text :=
  let label := theme.accent.strong target.label.toList
  let right := if note.isEmpty then label else theme.warning.paint note ++ ' ' :: label
  Styled.spread (theme.muted (hints target).toList) right width

/-- The whole frame of a terminal that is too small. -/
def tooSmall (width height : Nat) : Text :=
  if width = 0 ∨ height = 0 then []
  else
    let notice :=
      "Terminal too small (".toList ++ Text.ofNat width ++ 'x' :: Text.ofNat height ++ [')']
    Styled.rectangle (Styled.truncate notice width) width height

end AgentConsole.View
