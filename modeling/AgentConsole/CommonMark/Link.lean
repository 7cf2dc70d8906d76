import AgentConsole.CommonMark.Entity
import AgentConsole.CommonMark.Html
import AgentConsole.Text.Case

/-!
# The parts of links

Destinations, titles, labels and definitions.  Every reader works at the start
of a text and tells how many characters it took.
-/

namespace AgentConsole.CommonMark.Link

/-- A destination between angle brackets: how long it is, and its raw text.
`escaped` tells whether a backslash stands before. -/
def pointy? (escaped : Bool) : Text → Option Nat
  | [] => none
  | c :: rest =>
    if c = '\n' then none
    else if escaped then (pointy? false rest).map (· + 1)
    else if c = '<' then none
    else if c = '>' then some 0
    else
      (pointy? (c = '\\' && (rest.head?).any Unicode.isAsciiPunctuation) rest).map (· + 1)

/-- The length of a destination without brackets.  It ends at a blank, a
control or a closing parenthesis that it did not open. -/
def bare? (limit depth : Nat) (escaped : Bool) : Text → Option Nat
  | [] => if depth = 0 then some 0 else none
  | c :: rest =>
    if c.toNat ≤ 0x20 then (if depth = 0 then some 0 else none)
    else if escaped then (bare? limit depth false rest).map (· + 1)
    else if c = '(' then
      if limit < depth then none else (bare? limit (depth + 1) false rest).map (· + 1)
    else if c = ')' then
      if depth = 0 then some 0 else (bare? limit (depth - 1) false rest).map (· + 1)
    else
      (bare? limit depth (c = '\\' && (rest.head?).any Unicode.isAsciiPunctuation) rest).map
        (· + 1)

/-- A destination and how many characters it takes.  Parentheses in it may be
nested up to `limit` deep. -/
def destination? (limit : Nat) (t : Text) : Option (Text × Nat) :=
  match t with
  | '<' :: rest => (pointy? false rest).map fun n => (unescape (rest.take n), n + 2)
  | _ => (bare? limit 0 false t).map fun n => (unescape (t.take n), n)

/-- The length of a title after its opening mark, the closing one included. -/
def titleRest? (opening closing : Char) (escaped : Bool) : Text → Option Nat
  | [] => none
  | c :: rest =>
    if escaped then (titleRest? opening closing false rest).map (· + 1)
    else if c = closing then some 1
    else if c = opening then none
    else
      (titleRest? opening closing (c = '\\' && (rest.head?).any Unicode.isAsciiPunctuation)
        rest).map (· + 1)

/-- The length of a title. -/
def titleLength? : Text → Option Nat
  | '"' :: rest => (titleRest? '"' '"' false rest).map (· + 1)
  | '\'' :: rest => (titleRest? '\'' '\'' false rest).map (· + 1)
  | '(' :: rest => (titleRest? '(' ')' false rest).map (· + 1)
  | _ => none

/-- The length of a label after its opening bracket, the closing one included. -/
def labelRest? (escaped : Bool) : Text → Option Nat
  | [] => none
  | c :: rest =>
    if escaped then (labelRest? false rest).map (· + 1)
    else if c = ']' then some 1
    else if c = '[' then none
    else (labelRest? (c = '\\') rest).map (· + 1)

/-- The text with every run of blanks made one space. -/
def collapseBlanks : Text → Text
  | [] => []
  | c :: rest =>
    if Html.isSpace c then
      match collapseBlanks rest with
      | ' ' :: more => ' ' :: more
      | more => ' ' :: more
    else c :: collapseBlanks rest

/-- What two labels must have in common to name the same link. -/
def labelKey (label : Text) : Text := Text.fold (Text.trim (collapseBlanks label))

/-- A label at the start of a text: its key and its length. -/
def label? (t : Text) : Option (Text × Nat) :=
  match t with
  | '[' :: rest =>
    match labelRest? false rest with
    | some n =>
      let inside := rest.take (n - 1)
      if inside.all Html.isSpace || 1000 ≤ inside.length then none
      else some (labelKey inside, n + 1)
    | none => none
  | _ => none

/-! ### Links by address -/

/-- An address with a scheme, up to `>`: its length. -/
def uriLength? (t : Text) : Option Nat :=
  let scheme := t.takeWhile fun c => c.isAlphanum || c = '.' || c = '-' || c = '+'
  if (scheme.head?).any Char.isAlpha && 2 ≤ scheme.length && scheme.length ≤ 32
      && t[scheme.length]? == some ':' then
    let n := scheme.length + 1
    let path := (t.drop n).takeWhile fun c => c ≠ '>' && c ≠ '<' && 0x20 < c.toNat
    if t[n + path.length]? = some '>' then some (n + path.length) else none
  else none

/-- Characters of the part of a mail address before the `@`. -/
def isMailbox (c : Char) : Bool := c.isAlphanum || "./!#$%&'*+=?^_\x60\x7b|\x7d~-".toList.contains c

/-- The parts of a text between points. -/
def betweenPoints : Text → List Text
  | [] => [[]]
  | c :: rest =>
    if c = '.' then [] :: betweenPoints rest
    else
      match betweenPoints rest with
      | [] => [[c]]
      | part :: parts => (c :: part) :: parts

/-- A part of the name of a host. -/
def isHostLabel (t : Text) : Bool :=
  !t.isEmpty && t.length ≤ 63 && t.head? != some '-' && t.getLast? != some '-'

/-- A mail address, up to `>`: its length. -/
def mailLength? (t : Text) : Option Nat :=
  let mailbox := t.takeWhile isMailbox
  if mailbox.isEmpty || t[mailbox.length]? != some '@' then none
  else
    let host := (t.drop (mailbox.length + 1)).takeWhile fun c => c.isAlphanum || c = '-' || c = '.'
    let n := mailbox.length + 1 + host.length
    if (betweenPoints host).all isHostLabel && t[n]? == some '>' then some n else none

/-- An address between angle brackets, after the opening one: its length. -/
def addressLength? (t : Text) : Option Nat := (uriLength? t).or (mailLength? t)

/-! ### Inline links and definitions -/

/-- Is it a blank that ends no line? -/
def isInlineBlank (c : Char) : Bool := Html.isSpace c && c ≠ '\n' && c ≠ '\r'

/-- Blanks with at most one line ending among them: how many. -/
def gapLength (t : Text) : Nat :=
  let first := (t.takeWhile isInlineBlank).length
  match t.drop first with
  | '\n' :: rest => first + 1 + (rest.takeWhile isInlineBlank).length
  | _ => first

/-- What follows the text of an inline link, from the opening parenthesis on:
the destination and the length of it all. -/
def target? (t : Text) : Option (Text × Nat) :=
  match t with
  | '(' :: _ =>
    let n := 1 + gapLength (t.drop 1)
    match destination? 5 (t.drop n) with
    | none => none
    | some (destination, taken) =>
      let n := n + taken
      let n := n + gapLength (t.drop n)
      let n :=
        match titleLength? (t.drop n) with
        | some taken => n + taken + gapLength (t.drop (n + taken))
        | none => n
      if t[n]? = some ')' then some (destination, n + 1) else none
  | _ => none

/-- A definition. -/
structure Definition where
  key : Text
  destination : Text
  deriving DecidableEq, Repr

/-- A definition at the start of a paragraph, and how many characters it takes;
it ends where a line ends.  A title that does not end its line is no part of it. -/
def definition? (t : Text) : Option (Definition × Nat) :=
  match label? t with
  | none => none
  | some (key, n) =>
    if t[n]? ≠ some ':' then none
    else
      let n := n + 1 + gapLength (t.drop (n + 1))
      match destination? 1 (t.drop n) with
      | none | some (_, 0) => none
      | some (destination, taken) =>
        let n := n + taken
        let found := (⟨key, destination⟩ : Definition)
        let restOfLine (n : Nat) : Text := (t.drop n).takeWhile (· ≠ '\n')
        let bare := (restOfLine n).all Html.isSpace
        let gap := gapLength (t.drop n)
        let titled :=
          if gap = 0 then none
          else
            (titleLength? (t.drop (n + gap))).bind fun taken =>
              if (restOfLine (n + gap + taken)).all Html.isSpace then some (n + gap + taken)
              else none
        match titled with
        | some n => some (found, n)
        | none => if bare then some (found, n) else none

end AgentConsole.CommonMark.Link
