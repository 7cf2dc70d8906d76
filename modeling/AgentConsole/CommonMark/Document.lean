import AgentConsole.CommonMark.Block
import AgentConsole.CommonMark.Inline

/-!
# Documents

The events of a whole document: its blocks in order, and inside of them the
events of their texts.
-/

namespace AgentConsole.CommonMark

mutual

/-- The events of a block.  In a tight item the ends of paragraphs are left out. -/
def Block.events (definitions : List Link.Definition) (tight : Bool) : Block → List Event
  | .paragraph content =>
    let inner := inlineEvents definitions content
    if tight then inner else Event.within .paragraph inner
  | .heading level content => Event.within (.heading level) (inlineEvents definitions content)
  | .code info content => Event.within (.codeBlock (unescape info)) [.text content]
  | .html indent lines =>
    let indentation := if indent = 0 then [] else [Event.text (Text.spaces indent)]
    Event.within .htmlBlock (indentation ++ lines.map .html)
  | .rule => [.rule]
  | .quote blocks => Event.within .quote (Block.allEvents definitions false blocks)
  | .list start tight items =>
    Event.within (.list start) (Block.allEvents definitions tight items)
  | .item blocks => Event.within .item (Block.allEvents definitions tight blocks)

/-- The events of blocks, one after the other. -/
def Block.allEvents (definitions : List Link.Definition) (tight : Bool) : List Block → List Event
  | [] => []
  | block :: rest => block.events definitions tight ++ Block.allEvents definitions tight rest

end

/-- The events of a document. -/
def events (t : Text) : List Event :=
  let (blocks, definitions) := Block.ofText t
  Block.allEvents definitions false blocks

end AgentConsole.CommonMark
