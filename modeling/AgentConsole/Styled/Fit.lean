import AgentConsole.Styled.Token

/-!
# Fitting text to columns

`cut` keeps the longest start of a row that fits, `pad` fills a row with
spaces, `fit` does both and `truncate` marks what it drops with an ellipsis.
None of them splits an escape sequence or a wide character, and a row that was
cut while a style was in force is closed with a reset.
-/

namespace AgentConsole.Styled

/-- The mark of dropped content. -/
def ellipsis : Text := ['.', '.', '.']

/-- Is a style in force after the sequence? -/
def styledAfter (styled : Bool) (sequence : Text) : Bool :=
  if isReset sequence then false else styled || isRendition sequence

/-- What closes a row in which a style may be in force. -/
def closing (styled : Bool) : Text := if styled then reset else []

/-- The start of a row that fits into `room` columns, and its width. -/
def cutTokens (styled : Bool) (room : Nat) : List Token → Text × Nat
  | [] => ([], 0)
  | .escape s :: rest =>
    let (kept, w) := cutTokens (styledAfter styled s) room rest
    (s ++ kept, w)
  | .glyph c :: rest =>
    if Unicode.columns c ≤ room then
      let (kept, w) := cutTokens styled (room - Unicode.columns c) rest
      (c :: kept, Unicode.columns c + w)
    else (closing styled, 0)

/-- The longest start of a row whose width is at most `room`, and its width. -/
def cut (row : Text) (room : Nat) : Text × Nat := cutTokens false room (tokens row)

/-- The text if it fits into `room` columns; else the start of its first row,
followed by an ellipsis where there is room for more than that. -/
def truncate (t : Text) (room : Nat) : Text :=
  if width t ≤ room then t
  else if room ≤ ellipsis.length then (cut t.firstRow room).1
  else (cut t.firstRow (room - ellipsis.length)).1 ++ ellipsis

/-- The row, filled with spaces up to `room` columns. -/
def pad (row : Text) (room : Nat) : Text := row ++ Text.spaces (room - rowWidth row)

/-- The row, cut or filled to exactly `room` columns. -/
def fit (row : Text) (room : Nat) : Text := pad (cut row room).1 room

/-- Exactly `height` rows of exactly `width` columns. -/
def rectangle (t : Text) (width height : Nat) : Text :=
  let kept := (t.rows.take height).map (fit · width)
  Text.ofRows (kept ++ List.replicate (height - kept.length) (Text.spaces width))

/-- The blocks side by side, row by row; a block that ends early adds nothing. -/
def beside (blocks : List Text) : Text :=
  let columns := blocks.map Text.rows
  let height := (columns.map List.length).foldl max 0
  Text.ofRows ((List.range height).map fun i => columns.flatMap fun rows => rows[i]?.getD [])

/-- `left` and `right` at the two ends of a row of `room` columns.  The right
side has priority: the left one is truncated to what it leaves. -/
def spread (left right : Text) (room : Nat) : Text :=
  if width right = 0 then fit left room
  else
    let leftRoom := room - (width right + 1)
    fit (fit (truncate left leftRoom) leftRoom ++ ' ' :: right) room

end AgentConsole.Styled
