import AgentConsole.Text.Basic
import AgentConsole.CommonMark.Html

/-!
# Lines

A document is read line by line.  Indentation is counted in columns; a tab
reaches to the next multiple of four, and what of it is not used up counts as
spaces.  Code and HTML are kept as they stand, up to a newline each time.
-/

namespace AgentConsole.CommonMark

/-- A line and what ends it; only the last line of a document may end with nothing. -/
structure Line where
  text : Text
  ending : Text
  deriving DecidableEq, Repr

namespace Line

/-- The lines of a document.  A newline, a carriage return and both together end a line. -/
def ofText : Text → List Line
  | [] => []
  | c :: rest =>
    if c = '\n' then ⟨[], ['\n']⟩ :: ofText rest
    else if c = '\r' then
      match rest with
      | '\n' :: more => ⟨[], ['\r', '\n']⟩ :: ofText more
      | rest => ⟨[], ['\r']⟩ :: ofText rest
    else
      match ofText rest with
      | [] => [⟨[c], []⟩]
      | line :: below => ⟨c :: line.text, line.ending⟩ :: below

/-- What follows the text of a line up to a newline, and how many of the lines
`below` that takes in: a carriage return alone does not end a line of code or
HTML. -/
def tail (line : Line) : List Line → Text × Nat
  | [] => (line.ending, 0)
  | next :: below =>
    if line.ending = ['\r'] then
      let (t, n) := next.tail below
      (line.ending ++ next.text ++ t, n + 1)
    else (line.ending, 0)

end Line

/-- The pieces of a line of code or HTML.  The carriage return of a pair is left
out, and so is one before a last character in ASCII. -/
def verbatim (t : Text) : List Text :=
  match t.reverse with
  | c :: '\r' :: before => if c.toNat < 128 then [before.reverse, [c]] else [t]
  | _ => [t]

/-- Blanks inside a line. -/
def isLineBlank (c : Char) : Bool := c = ' ' || c = '\t' || c.toNat = 11 || c.toNat = 12

/-- Nothing but blanks? -/
def isBlankLine (t : Text) : Bool := t.all isLineBlank

/-- A place in a line: what is left to read, and the column where it begins. -/
structure Cursor where
  rest : Text
  column : Nat := 0
  deriving DecidableEq, Repr

namespace Cursor

/-- The same place with a tab there written as the spaces it stands for. -/
def expand (c : Cursor) : Cursor :=
  match c.rest with
  | '\t' :: rest => { c with rest := Text.spaces (4 - c.column % 4) ++ rest }
  | _ => c

/-- Skips up to `n` columns of indentation; also tells how many there were. -/
def skip : Nat → Cursor → Nat × Cursor
  | 0, c => (0, c)
  | n + 1, c =>
    match c.expand.rest with
    | ' ' :: rest =>
      let (k, c') := skip n ⟨rest, c.column + 1⟩
      (k + 1, c')
    | _ => (0, c)

/-- Skips characters that take one column each. -/
def drop (c : Cursor) (n : Nat) : Cursor := ⟨c.rest.drop n, c.column + n⟩

/-- Skips all indentation. -/
def text (c : Cursor) : Text := c.rest.dropWhile fun c => c = ' ' || c = '\t'

end Cursor

end AgentConsole.CommonMark
