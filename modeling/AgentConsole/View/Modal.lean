import AgentConsole.Focus
import AgentConsole.Picker.Basic
import AgentConsole.Styled.Fit
import AgentConsole.View.Status

/-!
# What modals show

The reference of the keys, the questions that a single key answers, and the
entries of the pickers.
-/

namespace AgentConsole.View

/-- A row of the help: the head of a group, or a key and what it does. -/
inductive HelpRow where
  | group (name : String)
  | key (name description : String)

/-- The reference of the keys. -/
def helpRows : List HelpRow :=
  [ .group "Output",
    .key "↑ / k" "Scroll up one line",
    .key "↓ / j" "Scroll down one line",
    .key "PgUp / PgDn" "Scroll by a page",
    .key "g" "Jump to oldest output",
    .key "G / End" "Pin to latest output",
    .key "y" "Copy visible output",
    .group "Worktrees",
    .key "Tab / Shift-Tab" "Next / previous worktree",
    .key "1-9" "Quick-select worktree",
    .key "w" "Worktree picker",
    .key "b" "Session browser",
    .group "Sessions",
    .key "n" "Start a new task",
    .key "f" "Send a follow-up prompt",
    .key "x" "Stop the selected session",
    .group "Prompt editor",
    .key "Ctrl-S" "Send",
    .key "Enter" "Send (or press the focused button)",
    .key "Shift-Enter / Ctrl-J" "Insert newline",
    .key "Tab" "Cycle text / buttons",
    .key "Esc" "Back",
    .group "General",
    .key "s" "Settings (theme)",
    .key "? / F1" "This help",
    .key "q" "Quit (asks when sessions are running)",
    .key "Ctrl-C" "Quit immediately" ]

/-- The lines of the help. -/
def helpLines (theme : Theme) (width : Nat) : List Text :=
  helpRows.map fun
    | .group name => theme.accent.strong name.toList
    | .key name description =>
      Styled.fit
        (' ' :: ' ' :: theme.foreground.paint (Styled.fit name.toList 22)
          ++ theme.muted description.toList)
        width

/-- The question of a confirmation. -/
def question (action : Confirmation) (snapshot : Snapshot) : Text :=
  match action with
  | .quit active =>
    Text.ofNat active
      ++ (if active = 1 then " session is" else " sessions are").toList
      ++ " still running. Quit anyway?".toList
  | .stopSession id =>
    match snapshot.session? id with
    | some session =>
      let name := ((snapshot.worktree? session.worktree).map (·.name)).getD session.worktree.name
      "Stop ".toList ++ session.agent.toList ++ " on ".toList ++ name.toList ++ ['?']
    | none => "Stop session ".toList ++ id.name.toList ++ ['?']

/-- A confirmation: its question and the keys that answer it. -/
def confirmation (theme : Theme) (action : Confirmation) (snapshot : Snapshot) : Text :=
  let keys :=
    match action with
    | .quit _ => "y / q quit    any other key cancels"
    | .stopSession _ => "y stop    any other key cancels"
  question action snapshot ++ '\n' :: '\n' :: theme.muted keys.toList

/-! ### Entries of the pickers -/

/-- The worktrees, in the order of the snapshot. -/
def worktreeItems (snapshot : Snapshot) : List Item :=
  snapshot.worktrees.map fun w =>
    .choice
      { id := w.id.name
        label := w.name
        icon := some [glyph ((snapshot.sessionFor w.id).map (·.status))]
        subtitle := some w.branch }

/-- The entry for a session of a worktree. -/
def sessionItem (w : Worktree) (now : Int) (s : Session) : Item :=
  .choice
    { id := s.id.name
      label := w.name.toList ++ '/' :: s.agent.toList
      icon := some [glyph (some s.status)]
      subtitle := some s.status.label
      badge := some (age s.startedAt now) }

/-- The sessions by worktree, under the name of the worktree; within a group
the newest comes first. -/
def sessionItems (snapshot : Snapshot) (now : Int) : List Item :=
  snapshot.worktrees.flatMap fun w =>
    match (snapshot.sessionsOf w.id).mergeSort fun a b => b.startedAt ≤ a.startedAt with
    | [] => []
    | s :: rest => .heading w.name :: (s :: rest).map (sessionItem w now)

/-- The bundled themes; the one in force is marked. -/
def themeItems (current : String) : List Item :=
  Theme.bundled.map fun theme =>
    .choice
      { id := theme.name
        label := theme.name
        badge := if theme.name = current then some "active".toList else none }

end AgentConsole.View
