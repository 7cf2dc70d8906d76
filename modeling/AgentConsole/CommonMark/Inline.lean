import AgentConsole.CommonMark.Emphasis
import AgentConsole.CommonMark.Link
import AgentConsole.CommonMark.Marker

/-!
# Inline markup

The text of a paragraph or a heading is cut into pieces where a character may
have a meaning; then code, HTML, links and images are recognised from left to
right, and at last emphasis.  `inlineEvents` does it all.
-/

namespace AgentConsole.CommonMark

/-- What a piece of a text may be. -/
inductive Shape where
  | text (content : Text)
  | run (mark : Char) (count : Nat) (opens closes : Bool)
  /-- Backticks; `escaped` if a backslash takes the first of them away. -/
  | ticks (count : Nat) (escaped : Bool)
  | angle
  | bang
  | bracketOpen
  | bracketClose
  | softBreak
  | hardBreak
  deriving DecidableEq, Repr

/-- A piece and its place in the text. -/
structure Piece where
  shape : Shape
  start : Nat
  stop : Nat
  deriving DecidableEq, Repr

namespace Piece

/-- Can a run of marks open a span, standing between these characters? -/
def canOpen (mark : Char) (count : Nat) (before : Char) (after : Option Char) : Bool :=
  match after with
  | none => false
  | some after =>
    !Unicode.isBlank after &&
      ((mark = '*' && !Unicode.isPunctuation after) || (mark = '~' && 1 < count)
        || (mark = '~' && before = '~' && !Unicode.isPunctuation after)
        || Unicode.isBlank before || Unicode.isPunctuation before)

/-- Can a run of marks close a span, standing between these characters? -/
def canClose (mark : Char) (count : Nat) (before : Char) (after : Option Char) : Bool :=
  !Unicode.isBlank before &&
    (((mark = '*' || (mark = '~' && 1 < count)) && !Unicode.isPunctuation before)
      || (mark = '~' && before = '~')
      || after.all fun c => Unicode.isBlank c || Unicode.isPunctuation c)

/-- How the next characters are read. -/
inductive Mode where
  | normal
  /-- So many characters have no meaning of their own. -/
  | literal (count : Nat)
  /-- So many characters are dealt with. -/
  | skip (count : Nat)

/-- The text kept back so far (newest character first), which ends at `stop`, as a piece. -/
def flush (pending : Text) (stop : Nat) (pieces : List Piece) : List Piece :=
  if pending.isEmpty then pieces
  else ⟨.text pending.reverse, stop - pending.length, stop⟩ :: pieces

/-- The pieces of a text from position `here` on, after the character `before`. -/
def scan (mode : Mode) (before : Char) (here : Nat) (pending : Text) : Text → List Piece
  | [] => flush pending here []
  | c :: rest =>
    match mode with
    | .skip (n + 1) => scan (.skip n) c (here + 1) [] rest
    | .literal (n + 1) => scan (.literal n) c (here + 1) (c :: pending) rest
    | _ =>
      let one (shape : Shape) : List Piece :=
        flush pending here (⟨shape, here, here + 1⟩ :: scan .normal c (here + 1) [] rest)
      if c = '\n' then
        let content := pending.dropWhile isLineBlank
        let blanks := pending.length - content.length
        let shape := if 2 ≤ blanks then Shape.hardBreak else .softBreak
        flush content (here - blanks)
          (⟨shape, here - blanks, here + 1⟩ :: scan .normal c (here + 1) [] rest)
      else if c = '\\' then
        match rest.head? with
        | some '\n' =>
          flush pending here (⟨.hardBreak, here, here + 2⟩ :: scan (.skip 1) c (here + 1) [] rest)
        | some d =>
          if d = Fence.backtick then
            let n := runLength d rest
            flush pending here
              (⟨.ticks n true, here + 1, here + 1 + n⟩ :: scan (.skip n) c (here + 1) [] rest)
          else if Unicode.isAsciiPunctuation d then
            flush pending here (scan (.literal 1) c (here + 1) [] rest)
          else scan .normal c (here + 1) (c :: pending) rest
        | none => scan .normal c (here + 1) (c :: pending) rest
      else if c = '*' ∨ c = '_' ∨ c = '~' then
        let n := 1 + runLength c rest
        let after := rest[n - 1]?
        let opens := canOpen c n before after
        let closes := canClose c n before after
        if (opens || closes) && (c != '~' || n ≤ 2) then
          flush pending here
            (⟨.run c n opens closes, here, here + n⟩ :: scan (.skip (n - 1)) c (here + 1) [] rest)
        else scan (.literal (n - 1)) c (here + 1) (c :: pending) rest
      else if c = Fence.backtick then
        let n := 1 + runLength c rest
        flush pending here
          (⟨.ticks n false, here, here + n⟩ :: scan (.skip (n - 1)) c (here + 1) [] rest)
      else if c = '<' ∧ rest.head? ≠ some '\\' then one .angle
      else if c = '!' ∧ rest.head? = some '[' then
        flush pending here (⟨.bang, here, here + 2⟩ :: scan (.skip 1) c (here + 1) [] rest)
      else if c = '[' then one .bracketOpen
      else if c = ']' then one .bracketClose
      else if c = '&' then
        match Entity.read? rest with
        | some (value, n) =>
          flush pending here
            (⟨.text value, here, here + 1 + n⟩ :: scan (.skip n) c (here + 1) [] rest)
        | none => scan .normal c (here + 1) (c :: pending) rest
      else scan .normal c (here + 1) (c :: pending) rest

/-- The pieces of a text. -/
def ofText (t : Text) : List Piece := scan .normal '\n' 0 [] t

end Piece

/-! ### Code, HTML and links -/

/-- A bracket that waits to be closed. -/
structure Bracket where
  image : Bool
  /-- Brackets around a link are no links. -/
  active : Bool
  /-- Where the text in the brackets begins. -/
  start : Nat
  /-- What was read before the bracket, newest first. -/
  before : List Inline

/-- The parts of a bracket that turns out to be text. -/
def Bracket.asText (b : Bracket) (parts : List Inline) : List Inline :=
  parts ++ .read [.text (if b.image then ['!', '['] else ['['])] :: b.before

/-- The reading of a text between two of its pieces. -/
structure InlineReader where
  /-- The open brackets, innermost first. -/
  brackets : List Bracket := []
  /-- What was read since the innermost of them, newest first. -/
  parts : List Inline := []
  /-- Everything before this place is dealt with. -/
  resume : Nat := 0

namespace InlineReader

/-- Adds an event. -/
def push (r : InlineReader) (event : Event) : InlineReader :=
  { r with parts := .read [event] :: r.parts }

/-- What is inside a span of code: line ends are spaces, and one space at each
end goes away unless there is nothing else. -/
def codeContent (raw : Text) : Text :=
  let t := raw.map fun c => if c = '\n' then ' ' else c
  if t.head? = some ' ' && t.getLast? = some ' ' && !t.all (· = ' ') then (t.drop 1).dropLast
  else t

/-- Opens a bracket whose text begins at `start`. -/
def openBracket (r : InlineReader) (image : Bool) (start : Nat) : InlineReader :=
  { r with brackets := ⟨image, true, start, r.parts⟩ :: r.brackets, parts := [] }

/-- What a bracket links to, closed at `stop`: the destination, and where the link ends. -/
def linkTarget? (source : Text) (definitions : List Link.Definition) (b : Bracket) (stop : Nat) :
    Option (Text × Nat) :=
  let rest := source.drop (stop + 1)
  let lookup (key : Text) : Option Text :=
    (definitions.find? (·.key = key)).map (·.destination)
  let inner (taken : Nat) : Option (Text × Nat) :=
    let text := '[' :: (source.drop b.start).take (stop - b.start) ++ [']']
    (Link.label? text).bind fun (key, n) =>
      if n = text.length then (lookup key).map (·, stop + 1 + taken) else none
  match Link.target? rest with
  | some (destination, n) => some (destination, stop + 1 + n)
  | none =>
    if ['[', ']'].isPrefixOf rest then inner 2
    else
      match Link.label? rest with
      | some (key, n) => (lookup key).map (·, stop + 1 + n)
      | none => inner 0

/-- Closes the innermost bracket with the one at `stop`. -/
def closeBracket (source : Text) (definitions : List Link.Definition) (r : InlineReader)
    (stop : Nat) : InlineReader :=
  match r.brackets with
  | [] => r.push (.text [']'])
  | b :: outer =>
    match if b.active then linkTarget? source definitions b stop else none with
    | none => { r with brackets := outer, parts := b.asText r.parts }.push (.text [']'])
    | some (destination, resume) =>
      let tag := if b.image then Tag.image destination else .link destination
      let outer :=
        if b.image then outer else outer.map fun b => { b with active := b.active && b.image }
      { brackets := outer
        parts := .read (Event.within tag (emphasize r.parts.reverse)) :: b.before
        resume := resume }

/-- HTML or an address that begins with a `<` before `start`: its events, and where it ends. -/
def angle? (source : Text) (start : Nat) : Option (List Event × Nat) :=
  let rest := source.drop start
  match Link.addressLength? rest with
  | some n =>
    let address := rest.take n
    some (Event.within (.link address) [.text address], start + n + 1)
  | none =>
    (Html.inlineLength? rest).map fun n => ([.inlineHtml ('<' :: rest.take n)], start + n)

/-- The backticks that close a span of code opened by `count` of them. -/
def closingTicks? (count : Nat) (below : List Piece) : Option Piece :=
  below.find? fun p =>
    match p.shape with
    | .ticks n _ => n = count
    | _ => false

/-- Reads a piece, which the pieces `below` follow. -/
def step (source : Text) (definitions : List Link.Definition) (r : InlineReader) (p : Piece)
    (below : List Piece) : InlineReader :=
  if p.stop ≤ r.resume then r
  else
    match p.shape with
    | .text content => r.push (.text (content.drop (r.resume - p.start)))
    | .run mark count opens closes =>
      { r with parts := .run mark count opens closes :: r.parts }
    | .ticks count escaped =>
      let ticks := if escaped then count - 1 else count
      match if ticks = 0 then none else closingTicks? ticks below with
      | none => r.push (.text (List.replicate count Fence.backtick))
      | some close =>
        let r := if escaped then r.push (.text [Fence.backtick]) else r
        let raw := (source.drop p.stop).take (close.start - p.stop)
        { r.push (.code (codeContent raw)) with resume := close.stop }
    | .angle =>
      match angle? source p.stop with
      | none => r.push (.text ['<'])
      | some (events, resume) => { r with parts := .read events :: r.parts, resume }
    | .bang => r.openBracket true p.stop
    | .bracketOpen => r.openBracket false p.stop
    | .bracketClose => closeBracket source definitions r p.start
    | .softBreak => r.push .softBreak
    | .hardBreak => r.push .hardBreak

/-- Reads all pieces. -/
def readAll (source : Text) (definitions : List Link.Definition) :
    List Piece → InlineReader → InlineReader
  | [], r => r
  | p :: below, r => readAll source definitions below (step source definitions r p below)

/-- What was read, brackets that nothing closes being text. -/
def finish (r : InlineReader) : List Inline :=
  (r.brackets.foldl (fun parts b => b.asText parts) r.parts).reverse

end InlineReader

/-- The events of the text of a paragraph or a heading. -/
def inlineEvents (definitions : List Link.Definition) (t : Text) : List Event :=
  emphasize (InlineReader.readAll t definitions (Piece.ofText t) {}).finish

end AgentConsole.CommonMark
