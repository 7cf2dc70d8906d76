import AgentConsole.CommonMark.Document

/-!
# Segments

What an agent writes is markup.  For the screen a document is a flat list of
segments: spans inside of spans are one span, and a line end inside a span is a
space.  `Segment.ofEvents` reads the segments off the events of a document.
-/

namespace AgentConsole.Transcript

/-- A piece of a document, as far as the screen tells pieces apart. -/
inductive Segment where
  | text (content : Text)
  | code (content : Text)
  | codeBlock (language : Option Text) (content : Text)
  /-- The end of a line. -/
  | lineEnd
  | paragraphEnd
  | heading (level : Nat) (content : Text)
  /-- An item at nesting depth `depth`, counted from one. -/
  | itemStart (ordered : Bool) (number depth : Nat)
  | itemEnd
  | listEnd
  | bold (content : Text)
  | italic (content : Text)
  | strike (content : Text)
  | quoteStart
  | quoteEnd
  | rule
  | link (content url : Text)
  deriving DecidableEq, Repr

/-- A span that collects text. -/
inductive Span where
  | bold
  | italic
  | strike
  | link (url : Text)
  | heading (level : Nat)
  deriving DecidableEq, Repr

/-- The segment made of a span and its text. -/
def Span.segment (content : Text) : Span → Segment
  | bold => .bold content
  | italic => .italic content
  | strike => .strike content
  | link url => .link content url
  | heading level => .heading level content

/-- The span that a tag begins. -/
def Span.ofTag? : CommonMark.Tag → Option Span
  | .strong => some .bold
  | .emphasis => some .italic
  | .strikethrough => some .strike
  | .link url => some (.link url)
  | .heading level => some (.heading level)
  | _ => none

/-- Is this the span that the tag ends? -/
def Span.endsWith (tag : CommonMark.Tag) : Span → Bool
  | bold => tag = .strong
  | italic => tag = .emphasis
  | strike => tag = .strikethrough
  | link _ => match tag with | .link _ => true | _ => false
  | heading _ => match tag with | .heading _ => true | _ => false

/-- The reading of a document between two of its events. -/
structure Reader where
  /-- The open span and its text so far. -/
  span : Option (Span × Text) := none
  /-- The open block of code: its language, and its text so far. -/
  code : Option (Option Text × Text) := none
  /-- The open lists, innermost first: whether ordered, and the next number. -/
  lists : List (Bool × Nat) := []
  /-- The segments, newest first. -/
  done : List Segment := []

namespace Reader

/-- Adds a segment. -/
def push (r : Reader) (segment : Segment) : Reader := { r with done := segment :: r.done }

/-- Text goes to the open block of code, or to the open span, or stands for itself. -/
def text (r : Reader) (content : Text) : Reader :=
  match r.code, r.span with
  | some (language, code), _ => { r with code := some (language, code ++ content) }
  | none, some (span, t) => { r with span := some (span, t ++ content) }
  | none, none => r.push (.text content)

/-- A tag begins. -/
def opening (r : Reader) (tag : CommonMark.Tag) : Reader :=
  match tag with
  | .codeBlock info => { r with code := some (if info.isEmpty then none else some info, []) }
  | .list start => { r with lists := (start.isSome, start.getD 1) :: r.lists }
  | .item =>
    match r.lists with
    | [] => r
    | (ordered, number) :: outer =>
      { r with lists := (ordered, number + 1) :: outer }.push
        (.itemStart ordered number r.lists.length)
  | .quote => r.push .quoteStart
  | tag =>
    match r.span, Span.ofTag? tag with
    | none, some span => { r with span := some (span, []) }
    | _, _ => r

/-- A tag ends. -/
def closing (r : Reader) (tag : CommonMark.Tag) : Reader :=
  match tag with
  | .codeBlock _ =>
    match r.code with
    | some (language, code) => { r with code := none }.push (.codeBlock language code)
    | none => r
  | .list _ => { r with lists := r.lists.drop 1 }.push .listEnd
  | .item => r.push .itemEnd
  | .quote => r.push .quoteEnd
  | .paragraph => r.push .paragraphEnd
  | tag =>
    match r.span with
    | some (span, t) =>
      if span.endsWith tag then { r with span := none }.push (span.segment t) else r
    | none => r

/-- Reads one event. -/
def step (r : Reader) : CommonMark.Event → Reader
  | .opening tag => r.opening tag
  | .closing tag => r.closing tag
  | .text content => r.text content
  | .code content =>
    match r.span with
    | some (span, t) => { r with span := some (span, t ++ content) }
    | none => r.push (.code content)
  | .html content | .inlineHtml content => r.push (.text (content.dropEndWhile (· = '\n')))
  | .softBreak | .hardBreak =>
    match r.span with
    | some (span, t) => { r with span := some (span, t ++ [' ']) }
    | none => r.push .lineEnd
  | .rule => r.push .rule

end Reader

namespace Segment

/-- The segments of a document, from its events. -/
def ofEvents (events : List CommonMark.Event) : List Segment :=
  (events.foldl Reader.step {}).done.reverse

/-- The segments of a document. -/
def ofText (t : Text) : List Segment := ofEvents (CommonMark.events t)

end Segment

end AgentConsole.Transcript
