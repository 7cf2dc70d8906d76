import AgentConsole.Toml.Value
import AgentConsole.Theme.Color

/-!
# TOML numbers, dates and times

Everything without quotes and brackets is one word, and what it means shows
from the whole of it.
-/

namespace AgentConsole.Toml

/-- The characters of words. -/
def isWordChar (c : Char) : Bool :=
  c.isAlphanum || c = '_' || c = '+' || c = '-' || c = '.' || c = ':'

/-- The digits of a number without the underscores, which stand singly between digits. -/
def ungroup? (isDigit : Char → Bool) : Text → Option Text
  | [] => none
  | [c] => if isDigit c then some [c] else none
  | c :: '_' :: rest => if isDigit c then (ungroup? isDigit rest).map (c :: ·) else none
  | c :: d :: rest => if isDigit c then (ungroup? isDigit (d :: rest)).map (c :: ·) else none

/-- The number that digits stand for. -/
def ofDigits (base : Nat) (digits : Text) : Nat :=
  digits.foldl (fun n c => base * n + (Color.hexDigit? c).getD 0) 0

/-- A sign, and what follows it. -/
def sign (t : Text) : Bool × Text :=
  match t with
  | '-' :: rest => (true, rest)
  | '+' :: rest => (false, rest)
  | _ => (false, t)

/-- The digits of a whole number; it has no leading zeros. -/
def wholeDigits? (t : Text) : Option Text :=
  (ungroup? Char.isDigit t).filter fun digits => digits.length = 1 || digits.head? ≠ some '0'

/-- An integer of 64 bits. -/
def checked? (n : Int) : Option Int :=
  if -0x8000000000000000 ≤ n ∧ n ≤ 0x7fffffffffffffff then some n else none

/-- An integer. -/
def integer? (t : Text) : Option Int :=
  let based (base : Nat) (isDigit : Char → Bool) (rest : Text) : Option Int :=
    (ungroup? isDigit rest).bind fun digits => checked? (ofDigits base digits)
  match t with
  | '0' :: 'x' :: rest => based 16 (fun c => (Color.hexDigit? c).isSome) rest
  | '0' :: 'o' :: rest => based 8 (fun c => '0' ≤ c && c ≤ '7') rest
  | '0' :: 'b' :: rest => based 2 (fun c => c = '0' || c = '1') rest
  | _ =>
    let (negative, rest) := sign t
    (wholeDigits? rest).bind fun digits =>
      checked? (if negative then -(ofDigits 10 digits : Int) else ofDigits 10 digits)

/-! ### Floats -/

/-- The exponent of a float; `e` or `E` stands before it. -/
def exponent? (t : Text) : Option Int :=
  let (negative, rest) := sign t
  (ungroup? Char.isDigit rest).map fun digits =>
    if negative then -(ofDigits 10 digits : Int) else ofDigits 10 digits

/-- The least whole number that is too large for a float of 64 bits, also after
rounding: half a step above the largest one. -/
def floatBound : Nat := Nat.pow 2 1024 - Nat.pow 2 970

/-- Is `digits · 10 ^ e` too large for a float of 64 bits, also after rounding? -/
def overflows (digits : Nat) (e : Int) : Bool :=
  let size : Int := (Nat.toDigits 10 digits).length + e
  if digits = 0 ∨ size < 300 then false
  else if 320 < size then true
  else if 0 ≤ e then floatBound ≤ digits * Nat.pow 10 e.toNat
  else floatBound * Nat.pow 10 (-e).toNat ≤ digits

/-- Is the word a float?  A positive one may not be too large. -/
def isFloat (t : Text) : Bool :=
  let (negative, t) := sign t
  if t = ['i', 'n', 'f'] ∨ t = ['n', 'a', 'n'] then true
  else
    let isMark (c : Char) : Bool := c = '.' || c = 'e' || c = 'E'
    let whole := t.takeWhile (!isMark ·)
    let check (fraction : Text) (e : Int) : Bool :=
      match wholeDigits? whole with
      | none => false
      | some digits =>
        negative || !overflows (ofDigits 10 (digits ++ fraction)) (e - fraction.length)
    match t.dropWhile (!isMark ·) with
    | '.' :: rest =>
      let isExponent (c : Char) : Bool := c = 'e' || c = 'E'
      match ungroup? Char.isDigit (rest.takeWhile (!isExponent ·)) with
      | none => false
      | some fraction =>
        match rest.dropWhile (!isExponent ·) with
        | [] => check fraction 0
        | _ :: rest => (exponent? rest).any (check fraction)
    | _ :: rest => (exponent? rest).any (check [])
    | [] => false

/-! ### Dates and times -/

/-- A number of exactly `n` digits between two bounds, and what follows it. -/
def field? (n least greatest : Nat) (t : Text) : Option (Nat × Text) :=
  let digits := t.take n
  if digits.length = n ∧ digits.all Char.isDigit then
    let value := ofDigits 10 digits
    if least ≤ value ∧ value ≤ greatest then some (value, t.drop n) else none
  else none

/-- What follows a character that has to stand here. -/
def after? (c : Char) (t : Text) : Option Text :=
  match t with
  | d :: rest => if d = c then some rest else none
  | [] => none

/-- The days of a month. -/
def daysIn (year month : Nat) : Nat :=
  if month = 2 then
    if year % 4 = 0 ∧ (year % 100 ≠ 0 ∨ year % 400 = 0) then 29 else 28
  else if month = 4 ∨ month = 6 ∨ month = 9 ∨ month = 11 then 30
  else 31

/-- What follows a date. -/
def date? (t : Text) : Option Text := do
  let (year, t) ← field? 4 0 9999 t
  let t ← after? '-' t
  let (month, t) ← field? 2 1 12 t
  let t ← after? '-' t
  let (_, t) ← field? 2 1 (daysIn year month) t
  return t

/-- What follows a time of day. -/
def time? (t : Text) : Option Text := do
  let (_, t) ← field? 2 0 23 t
  let t ← after? ':' t
  let (_, t) ← field? 2 0 59 t
  let t ← after? ':' t
  let (_, t) ← field? 2 0 60 t
  match t with
  | '.' :: rest =>
    if rest.head?.any Char.isDigit then return rest.dropWhile Char.isDigit else none
  | _ => return t

/-- Is this nothing, or the offset of a time zone? -/
def isOffset (t : Text) : Bool :=
  match t with
  | [] => true
  | ['Z'] | ['z'] => true
  | c :: rest =>
    (c = '+' || c = '-') &&
      (do
        let (_, t) ← field? 2 0 23 rest
        let t ← after? ':' t
        let (_, t) ← field? 2 0 59 t
        return t.isEmpty : Option Bool).getD false

/-- Is the word a date, a time or both? -/
def isMoment (t : Text) : Bool :=
  match date? t with
  | some [] => true
  | some (c :: rest) => (c = 'T' || c = 't' || c = ' ') && (time? rest).any isOffset
  | none => time? t = some []

/-- The value of a word. -/
def scalar? (t : Text) : Option Value :=
  if t = ['t', 'r', 'u', 'e'] then some (.boolean true)
  else if t = ['f', 'a', 'l', 's', 'e'] then some (.boolean false)
  else if isMoment t then some (.moment t)
  else if isFloat t then some (.float t)
  else (integer? t).map .integer

/-- The word at the start of a text, and what follows it.  A space may stand
between a date and a time. -/
def word (t : Text) : Text × Text :=
  let w := t.takeWhile isWordChar
  let rest := t.dropWhile isWordChar
  match rest with
  | ' ' :: more =>
    if date? w = some [] ∧ more.head?.any Char.isDigit then
      (w ++ ' ' :: more.takeWhile isWordChar, more.dropWhile isWordChar)
    else (w, rest)
  | _ => (w, rest)

end AgentConsole.Toml
