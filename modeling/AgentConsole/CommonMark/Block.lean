import AgentConsole.CommonMark.Link
import AgentConsole.CommonMark.Marker

/-!
# Blocks

The blocks of a document are found line by line.  Between two lines a document
is a stack of open containers and perhaps an open leaf; a line first goes
through the containers that it continues, then continues the leaf or begins new
blocks.

`Block.ofText` gives the blocks of a document together with its link
definitions; the texts of paragraphs and headings are still unread.
-/

namespace AgentConsole.CommonMark

/-- A block of a document. -/
inductive Block where
  | paragraph (content : Text)
  | heading (level : Nat) (content : Text)
  /-- Code, with the words after its fence as they were written. -/
  | code (info content : Text)
  /-- HTML; `indent` spaces stand before its first line. -/
  | html (indent : Nat) (lines : List Text)
  | rule
  | quote (blocks : List Block)
  /-- In a tight list the paragraphs of the items are not set apart. -/
  | list (start : Option Nat) (tight : Bool) (items : List Block)
  | item (blocks : List Block)
  deriving Repr

/-- A block that holds other blocks, while it is open. -/
inductive Container where
  | quote
  | list (mark : Char) (start : Option Nat) (tight : Bool)
  /-- The content of an item is indented by `indent` columns. -/
  | item (indent : Nat)
  deriving DecidableEq, Repr

namespace Container

/-- The block made of a container and what it holds. -/
def close (blocks : List Block) : Container → Block
  | quote => .quote blocks
  | list _ start tight => .list start tight blocks
  | item _ => .item blocks

/-- Where the content of the container begins on a line that continues it. -/
def continue? (c : Cursor) : Container → Option Cursor
  | quote => c.quote?
  | list .. => some c
  | item indent =>
    let (n, inside) := c.skip indent
    if n = indent ∨ inside.rest.isEmpty then some inside else none

/-- How many of the containers, outermost first, a line continues, and where
their content begins. -/
def continued (c : Cursor) : List Container → Nat × Cursor
  | [] => (0, c)
  | container :: inner =>
    match container.continue? c with
    | none => (0, c)
    | some inside =>
      let (n, c) := continued inside inner
      (n + 1, c)

end Container

/-- A block that holds no blocks, while it is open.  Texts are kept line by
line, the newest first. -/
inductive Leaf where
  | none
  | paragraph (lines : List Text)
  /-- Code between fences; its lines lose up to `indent` columns. -/
  | fenced (indent : Nat) (fence : Fence) (lines : List Text)
  /-- Indented code, and the blank lines after it, which count only if more code follows. -/
  | indented (lines blanks : List Text)
  /-- HTML, up to a line that holds `ending`, or to a blank line. -/
  | html (ending : Option Text) (indent : Nat) (lines : List Text)
  deriving DecidableEq, Repr

namespace Leaf

/-- The text of a paragraph, without the blanks at its end. -/
def paragraphText (lines : List Text) : Text :=
  Text.dropEndWhile isLineBlank (Text.ofRows lines.reverse)

/-- The block made of a leaf. -/
def close? : Leaf → Option Block
  | none => .none
  | paragraph lines => some (.paragraph (paragraphText lines))
  | fenced _ fence lines => some (.code fence.info lines.reverse.flatten)
  | indented lines _ => some (.code [] lines.reverse.flatten)
  | html _ indent lines => some (.html indent lines.reverse)

/-- What a line does to an open leaf. -/
inductive Outcome where
  /-- The leaf goes on, after `further` lines that it takes as well. -/
  | more (leaf : Leaf) (further : Nat)
  /-- The line is the last one of the leaf, apart from `further` lines. -/
  | last (leaf : Leaf) (further : Nat)
  /-- The line underlines the paragraph, which is a heading. -/
  | heading (level : Nat) (content : Text)
  /-- The line is no part of the leaf. -/
  | apart

/-- What a line does to an open leaf.  `inside` tells whether the line continues
all containers, `c` is what is left of it, `tail` what follows up to a newline,
over `further` lines, and `next` the text of the line after it. -/
def line (inside : Bool) (c : Cursor) (tail : Text) (further : Nat) (next : Option Text) :
    Leaf → Outcome
  | none => .apart
  | paragraph lines =>
    let (indent, c) := c.skip 4
    let underline := if inside && indent < 4 then underlineLevel? c.rest else .none
    match underline with
    | some level => .heading level (paragraphText lines)
    | .none =>
      let content := c.text
      if content.isEmpty || (indent < 4 && interrupts c.rest tail inside next) then .apart
      else .more (paragraph (content :: lines)) 0
  | fenced indent fence lines =>
    if !inside then .apart
    else
      let c := (c.skip indent).2
      let (n, after) := c.skip (4 - indent)
      if n < 4 - indent && fence.closedBy after.rest then .last (fenced indent fence lines) 0
      else .more (fenced indent fence ((verbatim (c.rest ++ tail)).flatten :: lines)) further
  | indented lines blanks =>
    let (n, c) := c.skip 4
    if !inside || (n < 4 && !c.rest.isEmpty) then .apart
    else
      let content := (verbatim (c.rest ++ tail)).flatten
      if isBlankLine c.rest then .more (indented lines (content :: blanks)) further
      else .more (indented (content :: (blanks ++ lines)) []) further
  | html closing indent lines =>
    if !inside || (closing.isNone && isBlankLine c.rest) then .apart
    else
      let t := c.rest ++ tail
      let leaf := html closing indent ((verbatim t).reverse ++ lines)
      match closing with
      | some closing =>
        if Text.hasInfix t closing then .last leaf further else .more leaf further
      | .none => .more leaf further

end Leaf

/-- A container and the blocks found in it so far, newest first. -/
structure Level where
  container : Container
  blocks : List Block := []

/-- A document between two of its lines. -/
structure Outline where
  /-- The open containers, innermost first. -/
  levels : List Level := []
  /-- The blocks outside of all open containers, newest first. -/
  root : List Block := []
  leaf : Leaf := .none
  /-- Was the last line blank? -/
  lastBlank : Bool := false
  /-- Is the innermost item still without content? -/
  bareItem : Bool := false
  /-- Lines that were read ahead. -/
  skip : Nat := 0
  /-- The definitions found so far, oldest first. -/
  definitions : List Link.Definition := []

namespace Outline

/-- Adds a block to the innermost container. -/
def add (s : Outline) (block : Block) : Outline :=
  match s.levels with
  | [] => { s with root := block :: s.root }
  | level :: outer => { s with levels := { level with blocks := block :: level.blocks } :: outer }

/-- Closes the leaf. -/
def closeLeaf (s : Outline) : Outline :=
  match s.leaf.close? with
  | none => s
  | some block => { s.add block with leaf := .none }

/-- Opens a container. -/
def enter (s : Outline) (container : Container) : Outline :=
  { s with levels := ⟨container, []⟩ :: s.levels }

/-- Closes the innermost container. -/
def leave (s : Outline) : Outline :=
  match s.levels with
  | [] => s
  | level :: outer =>
    let closed := { s with levels := outer }.add (level.container.close level.blocks.reverse)
    match level.container with
    | .list _ _ true => { closed with bareItem := false }
    | _ => closed

/-- Closes the `n` innermost containers. -/
def leaveMany : Nat → Outline → Outline
  | 0, s => s
  | n + 1, s => leaveMany n s.leave

/-- The innermost container. -/
def top? (s : Outline) : Option Container := s.levels.head?.map (·.container)

/-- Makes the list around the innermost container loose. -/
def loosenOuter (s : Outline) : Outline :=
  match s.levels with
  | inner :: ⟨.list mark start _, blocks⟩ :: outer =>
    { s with levels := inner :: ⟨.list mark start false, blocks⟩ :: outer }
  | _ => s

/-- Before a block that is no item: an open list ends, and after a blank line
the list around is loose. -/
def endList (s : Outline) : Outline :=
  let s :=
    match s.top? with
    | some (.list ..) => s.leave
    | _ => s
  if s.lastBlank then { s.loosenOuter with lastBlank := false } else s

/-- Before an item: the open list goes on if its marker is of the same kind,
and is loose after a blank line; else a new list begins. -/
def continueList (s : Outline) (m : ItemMarker) : Outline :=
  let fresh (s : Outline) : Outline :=
    { s.enter (.list m.mark m.number true) with lastBlank := false }
  match s.levels with
  | ⟨.list mark start _, blocks⟩ :: outer =>
    if mark = m.mark then
      if s.lastBlank then
        { s with levels := ⟨.list mark start false, blocks⟩ :: outer, lastBlank := false }
      else s
    else fresh s.endList
  | _ :: _ => fresh s.endList
  | [] => fresh s

/-- A blank line outside of all leaves. -/
def blankLine (s : Outline) : Outline :=
  match s.top? with
  | none | some .quote => s
  | some (.item _) =>
    -- an item begins with at most one blank line
    let s := if s.bareItem then { s.leave with bareItem := false } else s
    { s with lastBlank := true }
  | some (.list ..) => { s with lastBlank := true }

/-- The open containers, outermost first. -/
def containers (s : Outline) : List Container := (s.levels.map (·.container)).reverse

/-- What is left of the lines that may go on with a paragraph in these containers. -/
def paragraphLines (containers : List Container) : List Line → List Text
  | [] => []
  | line :: below =>
    let (n, c) := Container.continued ⟨line.text, 0⟩ containers
    let (indent, c) := c.skip 4
    let content := c.text
    if n < containers.length || content.isEmpty
        || (indent < 4 && (interrupts c.rest (line.tail below).1 true (below.head?.map (·.text))
              || (underlineLevel? c.rest).isSome)) then []
    else content :: paragraphLines containers below

/-- A block that begins at a place that is neither blank nor the start of a
container; `indent` columns of indentation stand before it. -/
def startLeaf (s : Outline) (indent : Nat) (c : Cursor) (line : Line) (below : List Line) :
    Outline :=
  let t := c.rest
  let (tail, further) := line.tail below
  let html : Option (Option Text) :=
    match t with
    | '<' :: rest =>
      match Html.ending? rest with
      | some ending => some (some ending)
      | none => if Html.startsBlock rest || Html.isTagLine rest then some none else none
    | _ => none
  match html with
  | some ending =>
    let s := { s with leaf := .html ending indent (verbatim (t ++ tail)).reverse, skip := further }
    match ending with
    | some ending => if Text.hasInfix (t ++ tail) ending then s.closeLeaf else s
    | none => s
  | none =>
    if isRule t then s.add .rule
    else
      match headingLevel? t with
      | some level => s.add (.heading level (headingContent (t.drop level)))
      | none =>
        match Fence.read? (t ++ tail) with
        | some fence => { s with leaf := .fenced indent fence [], skip := further }
        | none =>
          let content := Text.ofRows (t :: paragraphLines s.containers below)
          match Link.definition? content with
          | some (definition, n) =>
            { s with
              definitions := s.definitions ++ [definition]
              skip := (content.take n).count '\n' }
          | none => { s with leaf := .paragraph [t] }

/-- The blocks that begin at a place of a line; `fuel` bounds the containers
that may begin there, each of which takes a character. -/
def startBlocks (line : Line) (below : List Line) : Nat → Outline → Cursor → Outline
  | 0, s, _ => s
  | fuel + 1, s, c =>
    match c.itemMarker? with
    | some (m, indent, inside) =>
      let s := (s.continueList m).enter (.item indent)
      if isBlankLine inside.rest then { s with bareItem := true }
      else startBlocks line below fuel s inside
    | none =>
      match c.quote? with
      | some inside => startBlocks line below fuel (s.endList.enter .quote) inside
      | none =>
        if isBlankLine c.rest then s.blankLine
        else
          let s := { s.endList with bareItem := false }
          let (indent, c) := c.skip 4
          if indent < 4 then s.startLeaf indent c line below
          else
            let (tail, further) := line.tail below
            { s with
              leaf := .indented [(verbatim (c.rest ++ tail)).flatten] []
              skip := further }

/-- A line of a document, which the lines `below` follow. -/
def read (s : Outline) (line : Line) (below : List Line) : Outline :=
  match s.skip with
  | n + 1 => { s with skip := n }
  | 0 =>
    let (n, c) := Container.continued ⟨line.text, 0⟩ s.containers
    let next := below.head?.map (·.text)
    let (tail, further) := line.tail below
    match s.leaf.line (n = s.levels.length) c tail further next with
    | .more leaf further => { s with leaf, skip := further }
    | .last leaf further => { s with leaf, skip := further }.closeLeaf
    | .heading level content => { s with leaf := .none }.add (.heading level content)
    | .apart =>
      startBlocks line below (line.text.length + 1)
        (leaveMany (s.levels.length - n) s.closeLeaf) c

/-- All lines of a document. -/
def readAll : List Line → Outline → Outline
  | [], s => s
  | line :: below, s => readAll below (s.read line below)

end Outline

/-- The blocks of a document and its link definitions, of which the first for a label counts. -/
def Block.ofText (t : Text) : List Block × List Link.Definition :=
  let s := (Outline.readAll (Line.ofText t) {}).closeLeaf
  let s := s.leaveMany s.levels.length
  (s.root.reverse, s.definitions)

end AgentConsole.CommonMark
