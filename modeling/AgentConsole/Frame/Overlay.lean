import AgentConsole.Styled.Splice
import AgentConsole.Theme.Basic

/-!
# Placing one frame on another

An overlay replaces part of a base frame and never adds rows to it: what falls
below the last row of the base is dropped.
-/

namespace AgentConsole.Frame

/-- Changes the rows of `base` that lie beside the rows of `overlay`, the first
of which lies beside row `y`. -/
def onRows (base overlay : Text) (y : Nat) (change : Text → Text → Text) : Text :=
  let lines := overlay.rows
  Text.ofRows (base.rows.mapIdx fun i row =>
    if i < y then row
    else
      match lines[i - y]? with
      | some line => change row line
      | none => row)

/-- The base with every row from column `x` on replaced by the overlay's row. -/
def overlayAt (base overlay : Text) (x y : Nat) : Text :=
  onRows base overlay y fun row line => Styled.splice row line x

/-- The base with the rectangle at column `x` and row `y` replaced by the overlay. -/
def floatAt (base overlay : Text) (x y : Nat) : Text :=
  let width := Styled.width overlay
  onRows base overlay y fun row line =>
    Styled.splice row (Styled.fit line width) x ++ Styled.skip row (x + width)

/-- The top left corner of a block that is centred in a frame. -/
def centered (frameWidth frameHeight width height : Nat) : Nat × Nat :=
  ((frameWidth - width) / 2, (frameHeight - height) / 2)

/-- The base with the overlay in the middle of a frame of the given size. -/
def floatCentered (base overlay : Text) (width height : Nat) : Text :=
  let (x, y) := centered width height (Styled.width overlay) overlay.rows.length
  floatAt base overlay x y

/-- `content` in a box that is `inner` columns wide inside its border, with an
optional title in the upper edge. -/
def boxed (theme : Theme) (border : Color) (title content : Text) (inner : Nat) : Text :=
  let edge (t : Text) : Text := border.paint t
  let title :=
    if title.isEmpty then [] else Styled.truncate (' ' :: title ++ [' ']) inner
  let top :=
    edge ['╭'] ++ theme.accent.strong title
      ++ edge (Text.times (inner - Styled.width title) ['─']) ++ edge ['╮']
  let side := edge ['│']
  let bottom := edge ['╰'] ++ edge (Text.times inner ['─']) ++ edge ['╯']
  Text.ofRows
    (top :: content.rows.map (fun row => side ++ Styled.fit row inner ++ side) ++ [bottom])

end AgentConsole.Frame
