import AgentConsole.Text.Basic

/-!
# Text under a cursor

A buffer is a text and a position in it, counted in characters.  Every edit is
said by what it does to the text before and after the cursor.
-/

namespace AgentConsole

/-- A text and the number of its characters that stand before the cursor. -/
structure Buffer where
  text : Text := []
  cursor : Nat := 0
  deriving DecidableEq, Repr

namespace Buffer

/-- The text before the cursor. -/
def before (b : Buffer) : Text := b.text.take b.cursor

/-- The text after the cursor. -/
def after (b : Buffer) : Text := b.text.drop b.cursor

/-- The buffer with the cursor between two texts. -/
def between (before after : Text) : Buffer := ⟨before ++ after, before.length⟩

/-- The text with every line ending written as a newline. -/
def unifyNewlines : Text → Text
  | [] => []
  | '\r' :: '\n' :: rest => '\n' :: unifyNewlines rest
  | c :: rest => (if c = '\r' then '\n' else c) :: unifyNewlines rest

/-- A pasted text: line endings are newlines, and a tab is four spaces. -/
def pasted (t : Text) : Text :=
  (unifyNewlines t).flatMap fun c => if c = '\t' then Text.spaces 4 else [c]

/-- A buffer over a text, with the cursor at its end. -/
def ofText (t : Text) : Buffer := between (unifyNewlines t) []

/-- Moves the cursor to a position, or to the end. -/
def moveTo (b : Buffer) (position : Nat) : Buffer := { b with cursor := min position b.text.length }

/-! ### Edits -/

/-- Inserts a text before the cursor. -/
def insert (b : Buffer) (t : Text) : Buffer := between (b.before ++ t) b.after

/-- Deletes the character before the cursor, if there is one. -/
def deleteBackward? (b : Buffer) : Option Buffer :=
  if b.before.isEmpty then none else some (between b.before.dropLast b.after)

/-- Deletes the character after the cursor, if there is one. -/
def deleteForward? (b : Buffer) : Option Buffer :=
  match b.after with
  | [] => none
  | _ :: rest => some (between b.before rest)

/-- Deletes from the start of the line to the cursor. -/
def deleteToLineStart (b : Buffer) : Buffer :=
  between (b.before.dropEndWhile (· ≠ '\n')) b.after

/-- Deletes from the cursor to the end of the line. -/
def deleteToLineEnd (b : Buffer) : Buffer :=
  between b.before (b.after.dropWhile (· ≠ '\n'))

/-- Deletes the spaces before the cursor and the word before them. -/
def deleteWordBackward (b : Buffer) : Buffer :=
  between
    ((b.before.dropEndWhile (· = ' ')).dropEndWhile fun c => c ≠ ' ' && c ≠ '\n')
    b.after

/-! ### Motions -/

/-- One character to the left. -/
def left (b : Buffer) : Buffer := b.moveTo (b.cursor - 1)

/-- One character to the right. -/
def right (b : Buffer) : Buffer := b.moveTo (b.cursor + 1)

/-- To the start of the line. -/
def lineStart (b : Buffer) : Buffer :=
  { b with cursor := (b.before.dropEndWhile (· ≠ '\n')).length }

/-- To the end of the line. -/
def lineEnd (b : Buffer) : Buffer :=
  { b with cursor := b.before.length + (b.after.takeWhile (· ≠ '\n')).length }

/-- Nothing but blanks? -/
def isBlank (b : Buffer) : Bool := b.text.isBlank

end Buffer

end AgentConsole
