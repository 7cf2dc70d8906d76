import AgentConsole.Styled.Fit

/-!
# Wrapping

A styled text is broken into rows of at most `room` columns: at the last space
of a row where there is one, else inside the word.  The styles in force at a
break are closed at the end of the row and opened again on the next, so every
row stands by itself.
-/

namespace AgentConsole.Styled

namespace Wrap

/-- What stands before the last space of the open row: its text (newest
character first), its width and the styles in force at the space. -/
structure Head where
  text : Text
  width : Nat
  active : Text

/-- The open row.  It reads `head`, a space and `word`; without a head, just
`word`.  Texts are kept newest character first. -/
structure State where
  /-- The finished rows, newest first. -/
  done : List Text := []
  head : Option Head := none
  word : Text := []
  /-- Columns of the open row. -/
  width : Nat := 0
  /-- Style sequences since the last reset, oldest first. -/
  active : Text := []

namespace State

/-- The open row, newest character first. -/
def row (s : State) : Text :=
  match s.head with
  | none => s.word
  | some h => s.word ++ ' ' :: h.text

/-- A row is finished: its styles are closed, and `active` is what was in force at its end. -/
def finished (row active : Text) : Text := row.reverse ++ closing (!active.isEmpty)

/-- Ends the open row and starts an empty one under the same styles. -/
def newRow (s : State) : State :=
  { s with
    done := finished s.row s.active :: s.done
    head := none
    word := s.active.reverse
    width := 0 }

/-- Ends the open row at its last space, which is dropped, and takes the word
after it to the next row; without a space the row ends here. -/
def breakRow (s : State) : State :=
  match s.head with
  | none => s.newRow
  | some h =>
    { s with
      done := finished h.text h.active :: s.done
      head := none
      word := s.word ++ h.active.reverse
      width := s.width - (h.width + 1) }

/-- Adds a character to the open row. -/
def put (s : State) (c : Char) : State :=
  if c = ' ' then
    { s with
      head := some ⟨s.row, s.width, s.active⟩
      word := []
      width := s.width + Unicode.columns c }
  else { s with word := c :: s.word, width := s.width + Unicode.columns c }

/-- Reads one token.  A space that does not fit ends the row and is dropped. -/
def step (room : Nat) (s : State) : Token → State
  | .escape e =>
    { s with
      active := if isReset e then [] else if isRendition e then s.active ++ e else s.active
      word := e.reverse ++ s.word }
  | .glyph c =>
    if c = '\n' then s.newRow
    else if room < s.width + Unicode.columns c ∧ 0 < s.width then
      if c = ' ' then s.newRow else s.breakRow.put c
    else s.put c

end State

end Wrap

/-- The rows of a text wrapped to `room` columns; zero columns wrap nothing. -/
def wrap (t : Text) (room : Nat) : List Text :=
  if room = 0 then t.rows
  else
    let s := (tokens t).foldl (Wrap.State.step room) {}
    (Wrap.State.finished s.row s.active :: s.done).reverse

end AgentConsole.Styled
