import AgentConsole.Text.Basic

/-!
# Markup events

A document, read from start to end: containers and spans that begin and end,
and the texts between them.
-/

namespace AgentConsole.CommonMark

/-- What begins and ends. -/
inductive Tag where
  | paragraph
  | heading (level : Nat)
  | quote
  /-- A block of code, with the words after its opening fence. -/
  | codeBlock (info : Text)
  | htmlBlock
  /-- A list; an ordered one counts from `start`. -/
  | list (start : Option Nat)
  | item
  | emphasis
  | strong
  | strikethrough
  | link (destination : Text)
  | image (destination : Text)
  deriving DecidableEq, Repr

/-- One step through a document. -/
inductive Event where
  | opening (tag : Tag)
  | closing (tag : Tag)
  | text (content : Text)
  | code (content : Text)
  /-- A line of an HTML block. -/
  | html (content : Text)
  | inlineHtml (content : Text)
  | softBreak
  | hardBreak
  | rule
  deriving DecidableEq, Repr

/-- Events between the two ends of a tag. -/
def Event.within (tag : Tag) (events : List Event) : List Event :=
  .opening tag :: events ++ [.closing tag]

end AgentConsole.CommonMark
