import AgentConsole.Console.Basic
import AgentConsole.Frame.Overlay

/-!
# The frame

The whole screen as one block: header, body and footer, the modal in front of
them, and the toasts in front of everything, in the lower right corner.
-/

namespace AgentConsole.Console

/-- The output of the viewed worktree, as the block of its region. -/
def renderOutput (c : Console) : Text :=
  let rows := c.viewedRows
  let width := c.layout.outputWidth
  let height := c.layout.bodyHeight
  let content :=
    if rows.isEmpty then View.emptyOutput c.theme c.selected.isSome width
    else Frame.Window.render c.theme rows c.scroll.offset height
  Styled.rectangle content width height

/-- The body: the list of worktrees where there is room for it, and the output. -/
def renderBody (c : Console) : Text :=
  let l := c.layout
  if l.hasSidebar then
    let sidebar :=
      View.worktreeList c.theme c.snapshot c.selected c.remote.get? l.sidebarWidth l.bodyHeight
    let divider := Text.ofRows (List.replicate l.bodyHeight (c.theme.border.paint ['│']))
    Styled.beside [sidebar, divider, c.renderOutput]
  else c.renderOutput

/-- The page of the help that is shown. -/
def renderHelp (c : Console) : Text :=
  let lines := View.helpLines c.theme c.modalInner
  let shown := c.layout.modalHeight
  Text.ofRows ((lines.drop (min c.helpScroll (lines.length - shown))).take shown)

/-- The box of the modal that has the focus. -/
def renderModal? (c : Console) : Option Text :=
  let inner := c.modalInner
  let box (title content : Text) (border : Color) : Option Text :=
    some (Frame.boxed c.theme border title content inner)
  let list (p : Picker) : Option Text := box p.title (p.render c.theme inner) c.theme.border
  match c.focus.current with
  | .mainOutput => none
  | .followUp session =>
    let name :=
      match c.snapshot.session? session with
      | some s => c.worktreeName s.worktree
      | none => session.name.toList
    box ("Follow-up · ".toList ++ name) (c.followUpEditor.render c.theme true) c.theme.accent
  | .taskFlow .pickWorktree | .worktreePicker => list c.picker
  | .taskFlow .writePrompt =>
    let name := (c.taskWorktree.map c.worktreeName).getD []
    box ("New task · ".toList ++ name) (c.taskEditor.render c.theme true) c.theme.accent
  | .sessionBrowser => list c.browser
  | .settings => list c.settings
  | .help => box "Keys".toList c.renderHelp c.theme.border
  | .confirm question =>
    some (Frame.boxed c.theme c.theme.warning "Confirm".toList
      (View.confirmation c.theme question c.snapshot) (min inner 48))

/-- The frame without modal and toasts. -/
def renderMain (c : Console) : Text :=
  let header :=
    View.header c.theme c.snapshot c.selected (c.selected.bind c.remote.get?) c.width
  let note := if c.scroll.pinned then [] else '↑' :: Text.ofNat c.scroll.offset
  let footer := View.footer c.theme c.focus.current note c.width
  header ++ '\n' :: c.renderBody ++ '\n' :: footer

/-- The frame with the modal in front of it. -/
def withModal (c : Console) (frame : Text) : Text :=
  match c.renderModal? with
  | some modal => Frame.floatCentered frame modal c.width c.height
  | none => frame

/-- The frame with the toasts in its lower right corner. -/
def withToasts (c : Console) (frame : Text) : Text :=
  let room := min (max (c.width / 2) (min 24 c.width)) c.width
  match c.toasts.render? c.theme room with
  | some toasts =>
    Frame.floatAt frame toasts (c.width - (Styled.width toasts + 1))
      (c.height - (toasts.rows.length + 1))
  | none => frame

/-- The screen. -/
def render (c : Console) : Text :=
  if Frame.isDegenerate c.width c.height then View.tooSmall c.width c.height
  else Styled.rectangle (c.withToasts (c.withModal c.renderMain)) c.width c.height

end AgentConsole.Console
