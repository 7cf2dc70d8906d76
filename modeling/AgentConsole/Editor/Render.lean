import AgentConsole.Editor.Basic
import AgentConsole.Styled.Fit
import AgentConsole.Theme.Basic

/-!
# Drawing the editor

The rows of the view, an empty row and the row of the buttons.  The cursor is a
cell in reverse video, shown while the editor is active and its field has the
focus.
-/

namespace AgentConsole.Editor

/-- A row with the cursor drawn over column `column`. -/
def withCursor (column : Nat) : Text → Text
  | [] => Styled.inverse [' ']
  | c :: rest =>
    if column = 0 then Styled.inverse [c] ++ rest
    else c :: withCursor (column - Unicode.columns c) rest

/-- A button; one that has the focus of an active editor is drawn in reverse. -/
def button (theme : Theme) (label : Text) (focused : Bool) : Text :=
  let face := '[' :: ' ' :: label ++ [' ', ']']
  if focused then Styled.inverse face else theme.muted face

/-- Both buttons. -/
def buttons (e : Editor) (theme : Theme) (active : Bool) : Text :=
  button theme e.primaryLabel (active && e.focus = .primary)
    ++ [' ', ' '] ++ button theme e.secondaryLabel (active && e.focus = .secondary)

/-- The rows of the view. -/
def viewRows (e : Editor) (theme : Theme) (active : Bool) : List Text :=
  let shown := active && e.focus = .field
  let blank := Text.spaces e.width
  if e.buffer.text.isEmpty then
    let cursor := if shown then Styled.inverse [' '] else [' ']
    Styled.fit (cursor ++ theme.muted e.placeholder) e.width
      :: List.replicate (e.viewHeight - 1) blank
  else
    let rows := e.rows
    let (cursorRow, cursorColumn) := e.cursorAt
    (List.range' e.scrollTarget e.viewHeight).map fun i =>
      match rows[i]? with
      | none => blank
      | some r =>
        let text := r.text e.buffer.text
        Styled.fit (if shown && i = cursorRow then withCursor cursorColumn text else text) e.width

/-- The editor, in rows of its width. -/
def render (e : Editor) (theme : Theme) (active : Bool) : Text :=
  Text.ofRows
    (e.viewRows theme active
      ++ [Text.spaces e.width, Styled.fit (e.buttons theme active) e.width])

end AgentConsole.Editor
