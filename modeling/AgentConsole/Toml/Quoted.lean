import AgentConsole.Theme.Color

/-!
# TOML strings

The four kinds of strings, each read after its opening quotes: the content, and
what follows the closing quotes.
-/

namespace AgentConsole.Toml

/-- Spaces and tabs. -/
def isBlank (c : Char) : Bool := c = ' ' || c = '\t'

/-- May the character stand in a line of text: a tab, or anything but a control? -/
def isPlain (c : Char) : Bool := c = '\t' || (0x20 ≤ c.toNat && c.toNat ≠ 0x7f)

/-- The character of a code point in hexadecimal digits. -/
def codePoint? (digits : Text) : Option Char :=
  (digits.mapM Color.hexDigit?).bind fun ds =>
    let n := ds.foldl (fun n d => 16 * n + d) 0
    if n.isValidChar then some (Char.ofNat n) else none

/-- What a backslash and this character stand for. -/
def escaped? (c : Char) : Option Char :=
  match c with
  | 'b' => some '\x08'
  | 't' => some '\t'
  | 'n' => some '\n'
  | 'f' => some '\x0c'
  | 'r' => some '\x0d'
  | '"' => some '"'
  | '\\' => some '\\'
  | _ => none

/-- A character in front of what was read. -/
def before (c : Char) (r : Option (Text × Text)) : Option (Text × Text) :=
  r.map fun (t, rest) => (c :: t, rest)

/-- A string after a double quote. -/
def basic? : Text → Option (Text × Text)
  | [] => none
  | '\\' :: 'u' :: a :: b :: c :: d :: rest =>
    (codePoint? [a, b, c, d]).bind (before · (basic? rest))
  | '\\' :: 'U' :: a :: b :: c :: d :: e :: f :: g :: h :: rest =>
    (codePoint? [a, b, c, d, e, f, g, h]).bind (before · (basic? rest))
  | '\\' :: c :: rest => (escaped? c).bind (before · (basic? rest))
  | c :: rest =>
    if c = '"' then some ([], rest)
    else if c ≠ '\\' ∧ isPlain c then before c (basic? rest)
    else none

/-- A string after a single quote. -/
def literal? : Text → Option (Text × Text)
  | [] => none
  | c :: rest =>
    if c = '\'' then some ([], rest) else if isPlain c then before c (literal? rest) else none

/-- Three quotes close a string of several lines; up to two more before them belong to it. -/
def closing (quote : Char) (rest : Text) : Text × Text :=
  match rest with
  | a :: b :: more =>
    if a = quote ∧ b = quote then ([quote, quote], more)
    else if a = quote then ([quote], b :: more)
    else ([], rest)
  | [a] => if a = quote then ([quote], []) else ([], rest)
  | [] => ([], [])

/-- Does nothing but blanks stand before the end of the line? -/
def endsLine (t : Text) : Bool :=
  match t.dropWhile isBlank with
  | '\n' :: _ => true
  | '\r' :: '\n' :: _ => true
  | _ => false

/-- A string after three double quotes.  A backslash at the end of a line takes
away all blanks and line ends after it, which `joining` stands for. -/
def basicLines? (joining : Bool) : Text → Option (Text × Text)
  | [] => none
  | '\r' :: '\n' :: rest =>
    if joining then basicLines? true rest else before '\n' (basicLines? false rest)
  | '"' :: '"' :: '"' :: rest => some (closing '"' rest)
  | '\\' :: 'u' :: a :: b :: c :: d :: rest =>
    (codePoint? [a, b, c, d]).bind (before · (basicLines? false rest))
  | '\\' :: 'U' :: a :: b :: c :: d :: e :: f :: g :: h :: rest =>
    (codePoint? [a, b, c, d, e, f, g, h]).bind (before · (basicLines? false rest))
  | '\\' :: c :: rest =>
    if endsLine (c :: rest) then basicLines? true (c :: rest)
    else (escaped? c).bind (before · (basicLines? false rest))
  | c :: rest =>
    if joining ∧ (isBlank c ∨ c = '\n') then basicLines? true rest
    else if c = '\n' ∨ (c ≠ '\\' ∧ isPlain c) then before c (basicLines? false rest)
    else none

/-- A string after three single quotes. -/
def literalLines? : Text → Option (Text × Text)
  | [] => none
  | '\r' :: '\n' :: rest => before '\n' (literalLines? rest)
  | '\'' :: '\'' :: '\'' :: rest => some (closing '\'' rest)
  | c :: rest => if c = '\n' ∨ isPlain c then before c (literalLines? rest) else none

/-- The text after a line end at its start. -/
def afterNewline? : Text → Option Text
  | '\n' :: rest => some rest
  | '\r' :: '\n' :: rest => some rest
  | _ => none

/-- A string of any kind. -/
def string? : Text → Option (Text × Text)
  | '"' :: '"' :: '"' :: rest => basicLines? false ((afterNewline? rest).getD rest)
  | '\'' :: '\'' :: '\'' :: rest => literalLines? ((afterNewline? rest).getD rest)
  | '"' :: rest => basic? rest
  | '\'' :: rest => literal? rest
  | _ => none

end AgentConsole.Toml
