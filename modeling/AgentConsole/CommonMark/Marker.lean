import AgentConsole.CommonMark.Html
import AgentConsole.CommonMark.Line

/-!
# Markers

What the start of a line says about the block that it begins: rules, headings,
fences, quotes and the items of lists.
-/

namespace AgentConsole.CommonMark

/-- How many times `c` stands at the start of the text. -/
def runLength (c : Char) (t : Text) : Nat := (t.takeWhile (· = c)).length

/-- A rule: three or more of one of `*`, `-` and `_`, with blanks anywhere. -/
def isRule (t : Text) : Bool :=
  match t with
  | [] => false
  | c :: _ =>
    (c = '*' || c = '-' || c = '_')
      && t.all (fun d => d = c || d = ' ' || d = '\t')
      && 3 ≤ t.countP (· = c)

/-- The level of a heading that its line begins with: one to six `#` and a blank. -/
def headingLevel? (t : Text) : Option Nat :=
  let level := runLength '#' t
  if 1 ≤ level ∧ level ≤ 6 ∧ ((t.drop level).head?.all Html.isSpace) then some level else none

/-- What a heading says, without the `#` that may close it. -/
def headingContent (t : Text) : Text :=
  let content := Text.dropEndWhile (· = ' ') (t.dropWhile isLineBlank)
  let body := content.dropEndWhile (· = '#')
  if body.isEmpty then []
  else if body.getLast? = some ' ' then body.dropEndWhile (· = ' ')
  else content

/-- The level of a heading that this line would underline. -/
def underlineLevel? (t : Text) : Option Nat :=
  match t with
  | '=' :: _ => if isBlankLine (t.dropWhile (· = '=')) then some 1 else none
  | '-' :: _ => if isBlankLine (t.dropWhile (· = '-')) then some 2 else none
  | _ => none

/-- An opening fence. -/
structure Fence where
  mark : Char
  length : Nat
  /-- The words after the fence. -/
  info : Text
  deriving DecidableEq, Repr

namespace Fence

/-- The backtick. -/
def backtick : Char := Char.ofNat 0x60

/-- An opening fence: three or more backticks or tildes.  No backtick follows a
fence of backticks up to the newline. -/
def read? (t : Text) : Option Fence :=
  match t with
  | [] => none
  | c :: _ =>
    let n := runLength c t
    let rest := t.drop n
    if (c = backtick ∨ c = '~') ∧ 3 ≤ n ∧ ¬(c = backtick ∧ rest.contains backtick) then
      some ⟨c, n, Text.dropEndWhile Html.isSpace (rest.dropWhile isLineBlank)⟩
    else none

/-- Does the line close the fence: at least as many of its mark, and only spaces after? -/
def closedBy (f : Fence) (t : Text) : Bool :=
  let n := runLength f.mark t
  f.length ≤ n && (t.drop n).all (· = ' ')

end Fence

/-- What an item of a list begins with. -/
structure ItemMarker where
  /-- The bullet, or what follows the number. -/
  mark : Char
  /-- The number of an ordered item. -/
  number : Option Nat
  /-- Characters of the marker. -/
  length : Nat
  deriving DecidableEq, Repr

namespace ItemMarker

/-- The marker at the start of a text: a bullet, or up to nine digits and `.` or `)`. -/
def read? (t : Text) : Option ItemMarker :=
  match t with
  | [] => none
  | c :: _ =>
    if c = '-' ∨ c = '+' ∨ c = '*' then some ⟨c, none, 1⟩
    else
      let digits := (t.take 9).takeWhile Char.isDigit
      match digits, t[digits.length]? with
      | [], _ => none
      | _, some d =>
        if d = '.' ∨ d = ')' then
          some ⟨d, some (digits.foldl (fun n c => n * 10 + (c.toNat - 48)) 0), digits.length + 1⟩
        else none
      | _, none => none

end ItemMarker

namespace Cursor

/-- The marker of an item of a list, the columns that the content of the item
is indented by, and where that content begins. -/
def itemMarker? (c : Cursor) : Option (ItemMarker × Nat × Cursor) :=
  let (indent, c) := c.skip 4
  if indent = 4 ∨ isRule c.rest then none
  else
    match ItemMarker.read? c.rest with
    | none => none
    | some m =>
      let indent := indent + m.length + 1
      let c := c.drop m.length
      let (gap, inside) := c.skip 1
      if gap = 0 ∧ ¬c.rest.isEmpty then none
      else if isBlankLine inside.rest then some (m, indent, inside)
      else
        -- four columns more are the indentation of code
        let (more, further) := inside.skip 4
        if more < 4 then some (m, indent + more, further) else some (m, indent, inside)

/-- The content of a quote, if the line goes on with one. -/
def quote? (c : Cursor) : Option Cursor :=
  let (indent, c) := c.skip 4
  if indent < 4 ∧ c.rest.head? = some '>' then some ((c.drop 1).skip 1).2 else none

end Cursor

/-- May the line end an open paragraph?  `tail` is what follows it up to a
newline; `inside` tells whether it stands in all the containers of the
paragraph, `next` is the text of the line after it. -/
def interrupts (t tail : Text) (inside : Bool) (next : Option Text) : Bool :=
  t.isEmpty || isRule t || (headingLevel? t).isSome || (Fence.read? (t ++ tail)).isSome
    || t.head? = some '>'
    || (match t with
        | '<' :: rest => (Html.ending? rest).isSome || Html.startsBlock rest
        | _ => false)
    || (match ItemMarker.read? t with
        | none => false
        | some m =>
          let rest := t.drop m.length
          (rest.isEmpty || rest.head? = some ' ' || rest.head? = some '\t')
            && (!inside
              || ((m.number.isNone || m.number = some 1)
                && !(isBlankLine rest && (next.getD []).all isLineBlank))))

end AgentConsole.CommonMark
