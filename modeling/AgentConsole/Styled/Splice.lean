import AgentConsole.Styled.Fit

/-!
# Splicing rows

A row is split at a column: `splice` keeps what stands before it and continues
with another text, `skip` keeps what stands after it.  A wide character that
the column would split becomes a space on either side.
-/

namespace AgentConsole.Styled

/-- The first `room` columns of a row, with every style closed. -/
def before (styled : Bool) (room : Nat) : List Token → Text
  | [] => closing styled ++ Text.spaces room
  | token :: rest =>
    if room = 0 then closing styled
    else
      match token with
      | .escape s => s ++ before (styledAfter styled s) room rest
      | .glyph c =>
        if room < Unicode.columns c then ' ' :: closing styled ++ Text.spaces (room - 1)
        else c :: before styled (room - Unicode.columns c) rest

/-- The row with `overlay` in place of everything from column `column` on. -/
def splice (row overlay : Text) (column : Nat) : Text :=
  before false column (tokens row) ++ overlay

/-- What follows the first `room` columns of a row, where `room` is not zero
and `active` holds the styles in force. -/
def after (active : Text) (room : Nat) : List Token → Text
  | [] => []
  | .escape s :: rest =>
    after (if isReset s then [] else if isRendition s then active ++ s else active) room rest
  | .glyph c :: rest =>
    if Unicode.columns c < room then after active (room - Unicode.columns c) rest
    else if Unicode.columns c = room then active ++ sources rest
    else active ++ ' ' :: sources rest

/-- The part of a row from column `column` on, with the styles in force there. -/
def skip (row : Text) (column : Nat) : Text :=
  if column = 0 then row else after [] column (tokens row)

end AgentConsole.Styled
