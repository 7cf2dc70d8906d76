import AgentConsole.Editor.Buffer
import AgentConsole.Unicode.Width

/-!
# Rows of an editor

The lines of a buffer are wrapped to the columns of the editor.  A row ends
after its last space, or inside a word that is too long for a row; spaces may
hang over the edge.  Rows are ranges of character positions, and a position is
turned into a row and a column and back.
-/

namespace AgentConsole

/-- The columns of a text without escape sequences. -/
def Text.columns (t : Text) : Nat := t.foldr (fun c n => Unicode.columns c + n) 0

namespace Editor

/-- A row of the editor: the characters from `start` up to `stop`, which belong
to the line with number `line`. -/
structure Row where
  line : Nat
  start : Nat
  stop : Nat
  deriving DecidableEq, Repr

namespace Row

/-- Wrapping in progress.  The open row holds the characters up to its last
space and the word after it. -/
structure Wrapping where
  /-- The lengths of the finished rows, newest first. -/
  done : List Nat := []
  /-- How many characters stand up to and including the last space. -/
  head : Option Nat := none
  /-- How many characters stand after it. -/
  word : Nat := 0
  wordColumns : Nat := 0
  /-- Columns of the whole open row. -/
  columns : Nat := 0

namespace Wrapping

/-- Characters of the open row. -/
def length (s : Wrapping) : Nat := s.head.getD 0 + s.word

/-- Adds a character of a word to the open row. -/
def add (s : Wrapping) (width : Nat) : Wrapping :=
  { s with
    word := s.word + 1
    wordColumns := s.wordColumns + width
    columns := s.columns + width }

/-- Reads one character.  A word that does not fit goes to the next row, and is
split only where it alone fills a row. -/
def step (room : Nat) (s : Wrapping) (c : Char) : Wrapping :=
  let width := Unicode.columns c
  if c = ' ' then
    { s with head := some (s.length + 1), word := 0, wordColumns := 0, columns := s.columns + 1 }
  else if room < s.columns + width ∧ 0 < s.length then
    match s.head with
    | none => { done := s.length :: s.done : Wrapping }.add width
    | some h =>
      if room < s.wordColumns + width ∧ 0 < s.word then
        { done := s.word :: h :: s.done : Wrapping }.add width
      else
        { done := h :: s.done, word := s.word, wordColumns := s.wordColumns,
          columns := s.wordColumns : Wrapping }.add width
  else s.add width

end Wrapping

/-- The lengths of the rows of one line. -/
def lengths (room : Nat) (line : Text) : List Nat :=
  let s := line.foldl (Wrapping.step room) {}
  (s.length :: s.done).reverse

/-- Ranges of the given lengths, one after the other. -/
def ranges (line start : Nat) : List Nat → List Row
  | [] => []
  | n :: rest => ⟨line, start, start + n⟩ :: ranges line (start + n) rest

/-- The rows of lines that begin at position `start` and are counted from `line`. -/
def ofLines (room line start : Nat) : List Text → List Row
  | [] => []
  | t :: rest =>
    ranges line start (lengths room t) ++ ofLines room (line + 1) (start + t.length + 1) rest

/-- The rows of a text in an editor with `room` columns for text. -/
def ofText (room : Nat) (t : Text) : List Row := ofLines room 0 0 t.rows

/-- The characters of a row. -/
def text (r : Row) (t : Text) : Text := (t.drop r.start).take (r.stop - r.start)

/-- The row and the column of a position: the last row that holds it. -/
def locate (rows : List Row) (t : Text) (position : Nat) : Nat × Nat :=
  let holds (r : Row) : Bool := r.start ≤ position && position ≤ r.stop
  let row := ((List.range rows.length).reverse.find? fun i => (rows[i]?).any holds).getD 0
  let start := (rows[row]?.map Row.start).getD 0
  (row, Text.columns ((t.drop start).take (position - start)))

/-- How many characters of a text stand in its first `column` columns. -/
def within (column : Nat) : Text → Nat
  | [] => 0
  | c :: rest =>
    if column < Unicode.columns c then 0 else 1 + within (column - Unicode.columns c) rest

/-- The position in a row that is nearest to a column from the left.  The end
of a row that its line continues belongs to the next row. -/
def position (rows : List Row) (t : Text) (row column : Nat) : Nat :=
  match rows[row]? with
  | none => t.length
  | some r =>
    let found := r.start + within column (r.text t)
    let continues := (rows[row + 1]?).any (·.line = r.line)
    if continues ∧ r.stop ≤ found ∧ r.start < r.stop then r.stop - 1 else found

end Row

end Editor

end AgentConsole
