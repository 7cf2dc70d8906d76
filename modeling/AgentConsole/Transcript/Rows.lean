import AgentConsole.Styled.Plain
import AgentConsole.Styled.Wrap
import AgentConsole.Text.Case
import AgentConsole.Theme.Basic
import AgentConsole.Transcript.Segment

/-!
# Rows of a document

Segments become styled rows.  The text of a line is collected until the line
ends, then wrapped; quotes and lists put bars and indentation in front of its
rows, and the marker of an item stands before its first row only.
-/

namespace AgentConsole.Transcript

/-- The rows of a document while they are laid out. -/
structure Page where
  /-- The finished rows, newest first. -/
  rows : List Text := []
  /-- The open line. -/
  line : Text := []
  /-- Open quotes. -/
  quotes : Nat := 0
  /-- Open lists. -/
  lists : Nat := 0
  /-- The marker of an item that has no row yet. -/
  marker : Option Text := none
  /-- Columns that the marker of the open item takes. -/
  indent : Nat := 0

/-- Does the row show nothing? -/
def isBlankRow (row : Text) : Bool := Text.isBlank (Styled.strip row)

namespace Page

/-- The bars of the open quotes, and the indentation of the nested lists. -/
def margin (theme : Theme) (p : Page) : Text :=
  (if p.quotes = 0 then [] else theme.muted (Text.times p.quotes ['│', ' ']))
    ++ Text.spaces (2 * (p.lists - 1))

/-- What stands before the later rows of a line. -/
def continuation (theme : Theme) (p : Page) : Text := p.margin theme ++ Text.spaces p.indent

/-- What stands before the first row of a line. -/
def lead (theme : Theme) (p : Page) : Text :=
  match p.marker with
  | some marker => p.margin theme ++ theme.accent.paint marker
  | none => p.continuation theme

/-- Ends the open line: it is wrapped, and its marker is used up. -/
def flush (theme : Theme) (width : Nat) (p : Page) : Page :=
  if p.line.isEmpty && p.marker.isNone then p
  else
    let continuation := p.continuation theme
    let room := max 1 (width - Styled.width continuation)
    let rows := (Styled.wrap p.line room).mapIdx fun i row =>
      (if i = 0 then p.lead theme else continuation) ++ row
    { p with rows := rows.reverse ++ p.rows, line := [], marker := none }

/-- A blank row: never the first one, and never two of them. -/
def blank (theme : Theme) (width : Nat) (p : Page) : Page :=
  let p := p.flush theme width
  match p.rows with
  | row :: _ => if isBlankRow row then p else { p with rows := [] :: p.rows }
  | [] => p

/-- Adds to the open line. -/
def write (p : Page) (t : Text) : Page := { p with line := p.line ++ t }

/-- Adds a text, of which each row but the last ends its line. -/
def writeRows (theme : Theme) (width : Nat) (p : Page) (t : Text) : Page :=
  match t.rows with
  | [] => p
  | row :: below => below.foldl (fun p row => (p.flush theme width).write row) (p.write row)

/-- Lays out a segment. -/
def step (theme : Theme) (width : Nat) (p : Page) : Segment → Page
  | .text t => p.writeRows theme width t
  | .code t => p.write (theme.accent.paint t)
  | .bold t => p.write (Styled.bold t)
  | .italic t => p.write (Styled.italic t)
  | .strike t => p.write (Styled.crossedOut t)
  | .link t url =>
    p.write (Styled.underlined t ++
      if url.isEmpty || url = t then [] else theme.muted (' ' :: '(' :: url ++ [')']))
  | .lineEnd => p.flush theme width
  | .paragraphEnd =>
    if p.lists = 0 ∧ p.quotes = 0 then p.blank theme width else p.flush theme width
  | .heading level t =>
    let styled :=
      match level with
      | 1 => theme.accent.strong t.upper
      | 2 => theme.accent.strong t
      | _ => theme.foreground.strong t
    (((p.blank theme width).write styled).flush theme width).blank theme width
  | .codeBlock _ code =>
    let p := p.flush theme width
    let rows := (Text.lines code).flatMap fun line => Styled.wrap line (max 1 (width - 2))
    let styled := rows.map fun row => ' ' :: ' ' :: theme.muted row
    let p := { p with rows := styled.reverse ++ p.rows }
    if p.lists = 0 then p.blank theme width else p
  | .itemStart ordered number depth =>
    let marker := if ordered then Text.ofNat number ++ ['.', ' '] else ['•', ' ']
    { p.flush theme width with
      lists := depth, indent := Styled.width marker, marker := some marker }
  | .itemEnd => { p.flush theme width with marker := none }
  | .listEnd =>
    let p := p.flush theme width
    let p := { p with lists := p.lists - 1 }
    if p.lists = 0 then { p with indent := 0 }.blank theme width else { p with indent := 2 }
  | .quoteStart =>
    let p := p.flush theme width
    { p with quotes := p.quotes + 1 }
  | .quoteEnd =>
    let p := p.flush theme width
    let p := { p with quotes := p.quotes - 1 }
    if p.quotes = 0 then p.blank theme width else p
  | .rule =>
    let p := p.flush theme width
    { p with rows := theme.border.paint (List.replicate width '─') :: p.rows }.blank theme width

/-- All rows, without the blank ones at the end. -/
def finish (theme : Theme) (width : Nat) (p : Page) : List Text :=
  ((p.flush theme width).rows.dropWhile isBlankRow).reverse

end Page

/-- The rows of a list of segments, at most `width` columns wide where the text
leaves a choice. -/
def rows (theme : Theme) (segments : List Segment) (width : Nat) : List Text :=
  let width := max 1 width
  (segments.foldl (Page.step theme width) {}).finish theme width

/-- The rows of a document of foreign text, which is made harmless before it is read. -/
def render (t : Text) (width : Nat) (theme : Theme) : List Text :=
  rows theme (Segment.ofText (Styled.sanitize t)) width

end AgentConsole.Transcript
