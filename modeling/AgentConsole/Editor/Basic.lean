import AgentConsole.Editor.Rows
import AgentConsole.Key

/-!
# The prompt editor

A text field with a view that follows the cursor, and two buttons below it.
The field and the buttons take the focus in turn.
-/

namespace AgentConsole

namespace Editor

/-- The parts of the editor that can have its focus. -/
inductive Part where
  | field
  /-- The button that sends the text. -/
  | primary
  /-- The button that gives it up. -/
  | secondary
  deriving DecidableEq, Repr

namespace Part

/-- The part after this one, around the ring. -/
def next : Part → Part
  | field => primary
  | primary => secondary
  | secondary => field

/-- The part before this one, around the ring. -/
def previous : Part → Part
  | field => secondary
  | primary => field
  | secondary => primary

end Part

/-- What a key came to. -/
inductive Outcome where
  | handled
  /-- Send the text. -/
  | submit
  /-- Give the text up. -/
  | cancel
  /-- Leave the program at once. -/
  | quit
  | unhandled
  deriving DecidableEq, Repr

end Editor

/-- An editor: its buffer, its focus, and the view of a few rows of the text. -/
structure Editor where
  buffer : Buffer := {}
  focus : Editor.Part := .field
  /-- Columns of the editor. -/
  width : Nat := 40
  /-- The first row of the view. -/
  scroll : Nat := 0
  minHeight : Nat := 3
  maxHeight : Nat := 10
  placeholder : Text := []
  primaryLabel : Text := "Submit".toList
  secondaryLabel : Text := "Cancel".toList
  deriving DecidableEq, Repr

namespace Editor

/-- The editor with other bounds on the rows of its view. -/
def withHeights (e : Editor) (least greatest : Nat) : Editor :=
  { e with minHeight := max least 1, maxHeight := max greatest (max least 1) }

/-- Columns for text; one is kept for the cursor. -/
def textWidth (e : Editor) : Nat := max (e.width - 1) 1

/-- The rows of the text. -/
def rows (e : Editor) : List Row := Row.ofText e.textWidth e.buffer.text

/-- The row and the column of the cursor. -/
def cursorAt (e : Editor) : Nat × Nat := Row.locate e.rows e.buffer.text e.buffer.cursor

/-- The rows of the view. -/
def viewHeight (e : Editor) : Nat := min (max e.rows.length e.minHeight) e.maxHeight

/-- The rows the editor is drawn in: the view, a gap and the buttons. -/
def height (e : Editor) : Nat := e.viewHeight + 2

/-- The first row of a view that holds the cursor and moves as little as possible. -/
def scrollTarget (e : Editor) : Nat :=
  let view := e.viewHeight
  let scroll := min e.scroll (e.rows.length - view)
  let row := e.cursorAt.1
  if row < scroll then row else if scroll + view ≤ row then row + 1 - view else scroll

/-- Moves the view so that it holds the cursor. -/
def reveal (e : Editor) : Editor := { e with scroll := e.scrollTarget }

/-- Exchanges the buffer. -/
def withBuffer (e : Editor) (b : Buffer) : Editor := { e with buffer := b }.reveal

/-- Replaces the text; the cursor goes to its end. -/
def setText (e : Editor) (t : Text) : Editor :=
  { e with scroll := 0 }.withBuffer (Buffer.ofText t)

/-- Empties the editor. -/
def reset (e : Editor) : Editor := { e with buffer := {}, scroll := 0, focus := .field }

/-- Gives the editor that many columns, and at least two. -/
def setWidth (e : Editor) (width : Nat) : Editor := { e with width := max width 2 }.reveal

/-- Moves the cursor. -/
def moveTo (e : Editor) (position : Nat) : Editor := e.withBuffer (e.buffer.moveTo position)

/-- Inserts a character as it is. -/
def insertChar (e : Editor) (c : Char) : Editor := e.withBuffer (e.buffer.insert [c])

/-- Inserts a pasted text. -/
def paste (e : Editor) (t : Text) : Editor := e.withBuffer (e.buffer.insert (Buffer.pasted t))

/-- Changes the buffer where the change is possible. -/
def tryEdit (e : Editor) (edit : Buffer → Option Buffer) : Editor :=
  match edit e.buffer with
  | some b => e.withBuffer b
  | none => e

/-- One row up, keeping the column; from the first row to the start of the text. -/
def up (e : Editor) : Editor :=
  let (row, column) := e.cursorAt
  let cursor := if row = 0 then 0 else Row.position e.rows e.buffer.text (row - 1) column
  e.withBuffer { e.buffer with cursor }

/-- One row down, keeping the column; from the last row to the end of the text. -/
def down (e : Editor) : Editor :=
  let (row, column) := e.cursorAt
  let cursor :=
    if e.rows.length ≤ row + 1 then e.buffer.text.length
    else Row.position e.rows e.buffer.text (row + 1) column
  e.withBuffer { e.buffer with cursor }

/-! ### Keys -/

/-- Reads a key while the field has the focus. -/
def handleInField (e : Editor) (key : Key) : Editor × Outcome :=
  let edited (e : Editor) : Editor × Outcome := (e, .handled)
  match key.code with
  | .char c =>
    if key.control then
      if c = 'j' then edited (e.insertChar '\n')
      else if c = 'a' then edited (e.withBuffer e.buffer.lineStart)
      else if c = 'e' then edited (e.withBuffer e.buffer.lineEnd)
      else if c = 'u' then edited (e.withBuffer e.buffer.deleteToLineStart)
      else if c = 'k' then edited (e.withBuffer e.buffer.deleteToLineEnd)
      else if c = 'w' then edited (e.withBuffer e.buffer.deleteWordBackward)
      else (e, .unhandled)
    else if key.alt then (e, .unhandled)
    else edited (e.insertChar c)
  | .backspace => edited (e.tryEdit Buffer.deleteBackward?)
  | .delete => edited (e.tryEdit Buffer.deleteForward?)
  | .left => edited (e.withBuffer e.buffer.left)
  | .right => edited (e.withBuffer e.buffer.right)
  | .up => edited e.up
  | .down => edited e.down
  | .home => edited (e.withBuffer e.buffer.lineStart)
  | .«end» => edited (e.withBuffer e.buffer.lineEnd)
  | _ => (e, .unhandled)

/-- Reads the key that enters a line: what it does depends on the focus. -/
def handleEnter (e : Editor) (key : Key) : Editor × Outcome :=
  match e.focus with
  | .field =>
    if key.shift || key.alt then (e.insertChar '\n', .handled)
    else if e.buffer.isBlank then (e, .handled)
    else (e, .submit)
  | .primary => (e, .submit)
  | .secondary => (e, .cancel)

/-- Reads a key while a button has the focus. -/
def handleAtButton (e : Editor) (key : Key) : Editor × Outcome :=
  match key.code with
  | .left | .right =>
    ({ e with focus := if e.focus = .primary then .secondary else .primary }, .handled)
  | _ => (e, .unhandled)

/-- Reads a key. -/
def handle (e : Editor) (key : Key) : Editor × Outcome :=
  if key.kind = .release then (e, .unhandled)
  else if key.code = .char 'c' ∧ key.control then (e, .quit)
  else if key.code = .char 's' ∧ key.control then (e, .submit)
  else
    match key.code with
    | .escape => (e, .cancel)
    | .tab => ({ e with focus := e.focus.next }, .handled)
    | .backTab => ({ e with focus := e.focus.previous }, .handled)
    | .enter => e.handleEnter key
    | _ => if e.focus = .field then e.handleInField key else e.handleAtButton key

end Editor

end AgentConsole
