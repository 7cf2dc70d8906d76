import AgentConsole.Text.Case
import AgentConsole.Styled.Token

/-!
# Colours

The colours a terminal can be asked for, how each is written in a theme, and
the sequences that paint a text with one.  An empty text stays empty when it is
painted; only reverse video is drawn around nothing, as the cursor needs it.
-/

namespace AgentConsole

/-- A colour of the terminal. -/
inductive Color where
  /-- A colour by its components. -/
  | rgb (red green blue : UInt8)
  /-- One of the sixteen colours of the terminal's palette. -/
  | palette (index : Fin 16)
  /-- The terminal's own foreground or background. -/
  | terminal
  deriving DecidableEq, Repr

namespace Color

/-- The colour of the terminal's palette with that number, which is taken modulo sixteen. -/
def ansi (n : Nat) : Color := palette (Fin.ofNat 16 n)

/-- White, which stands in for every colour that cannot be read. -/
def white : Color := ansi 15

/-- A control sequence with the given parameters that changes the style. -/
def rendition (parameters : Text) : Text := Styled.esc :: '[' :: parameters ++ ['m']

/-- The parameters that select the colour, after `38` or `48`. -/
def parameters : Color → Option Text
  | rgb r g b =>
    some (['2', ';'] ++ Text.ofNat r.toNat ++ ';' :: Text.ofNat g.toNat ++ ';' :: Text.ofNat b.toNat)
  | palette i => some (['5', ';'] ++ Text.ofNat i.val)
  | terminal => none

/-- Ends a foreground colour. -/
def foregroundEnd : Text := rendition ['3', '9']

/-- Ends a background colour. -/
def backgroundEnd : Text := rendition ['4', '9']

/-- Selects the colour for the foreground. -/
def foreground (c : Color) : Text :=
  match c.parameters with
  | some p => rendition (['3', '8', ';'] ++ p)
  | none => foregroundEnd

/-- Selects the colour for the background. -/
def background (c : Color) : Text :=
  match c.parameters with
  | some p => rendition (['4', '8', ';'] ++ p)
  | none => backgroundEnd

/-- The text in the given foreground colour. -/
def paint (c : Color) (t : Text) : Text :=
  if t.isEmpty then [] else c.foreground ++ t ++ foregroundEnd

/-- The text in the given foreground colour and bold. -/
def strong (c : Color) (t : Text) : Text :=
  if t.isEmpty then [] else c.foreground ++ rendition ['1'] ++ t ++ Styled.reset

/-! ### Reading a colour -/

/-- The value of a hexadecimal digit. -/
def hexDigit? (c : Char) : Option Nat :=
  if '0' ≤ c ∧ c ≤ '9' then some (c.toNat - '0'.toNat)
  else if 'a' ≤ c ∧ c ≤ 'f' then some (c.toNat - 'a'.toNat + 10)
  else if 'A' ≤ c ∧ c ≤ 'F' then some (c.toNat - 'A'.toNat + 10)
  else none

/-- A component is two hexadecimal digits, or a plus sign and one; anything
else counts as the largest value. -/
def component (a b : Char) : UInt8 :=
  match hexDigit? a, hexDigit? b with
  | some x, some y => (16 * x + y).toUInt8
  | none, some y => if a = '+' then y.toUInt8 else 255
  | _, none => 255

/-- A colour of the palette by its number, or `fg` and `bg` for the terminal's
own; other names give white. -/
def ofName (name : Text) : Color :=
  if name = ['f', 'g'] ∨ name = ['b', 'g'] then terminal
  else ((List.finRange 16).find? fun i => Text.ofNat i.val = name).elim white palette

/-- A colour as themes write it: `ansi:` and a name, or six hexadecimal digits
after any number of `#`.  Whatever cannot be read is white. -/
def parse (value : Text) : Color :=
  if ['a', 'n', 's', 'i', ':'].isPrefixOf value then ofName (value.drop 5)
  else
    match value.dropWhile (· = '#') with
    | [a, b, c, d, e, f] =>
      if [a, b, c, d, e, f].all (·.toNat < 0x80) then
        rgb (component a b) (component c d) (component e f)
      else white
    | _ => white

end Color

namespace Styled

/-- The text in bold. -/
def bold (t : Text) : Text := Color.rendition ['1'] ++ t ++ reset

/-- The text in italics. -/
def italic (t : Text) : Text := Color.rendition ['3'] ++ t ++ reset

/-- The text underlined. -/
def underlined (t : Text) : Text := Color.rendition ['4'] ++ t ++ reset

/-- The text in reverse video. -/
def inverse (t : Text) : Text := Color.rendition ['7'] ++ t ++ reset

/-- The text crossed out. -/
def crossedOut (t : Text) : Text := Color.rendition ['9'] ++ t ++ reset

end Styled

end AgentConsole
