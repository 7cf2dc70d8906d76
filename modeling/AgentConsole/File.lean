import AgentConsole.Text.Basic

/-!
# Files

What is found at a path, as far as it matters to one who wants to read a text
from there or write one.
-/

namespace AgentConsole

/-- What is at a path. -/
inductive File where
  | text (t : Text)
  /-- A file whose bytes are no text. -/
  | binary
  | directory
  /-- Nothing, and a file can be put there. -/
  | missing
  /-- Nothing, as what should be a directory on the way is none. -/
  | blocked
  deriving DecidableEq, Repr

namespace File

/-- The text of the file. -/
def text? : File → Option Text
  | text t => some t
  | _ => none

/-- Is there anything at the path? -/
def isThere : File → Bool
  | text _ | binary | directory => true
  | missing | blocked => false

/-- Why no text can be read. -/
def trouble? : File → Option String
  | text _ => none
  | binary => some "stream did not contain valid UTF-8"
  | directory => some "Is a directory (os error 21)"
  | missing => some "No such file or directory (os error 2)"
  | blocked => some "Not a directory (os error 20)"

/-- What is there after a text was written, or could not be. -/
def write (f : File) (t : Text) : File :=
  match f with
  | directory => directory
  | blocked => blocked
  | text _ | binary | missing => text t

end File

end AgentConsole
