import AgentConsole.Transcript.Rows

/-!
# The log of an agent

Output streams in one line at a time.  So that a new line does not cost the
length of the log, the lines are split into blocks: a blank line outside of all
fences ends a block, and so does a block's sixty-fourth line.  Rows are kept for
the closed blocks, and only the open block is rendered again.  If a fence is
open when a block is cut off, the next block begins with the line that opened it.

A change of the width or the theme sends every line through the same splitting
again (`Log.relayout`).
-/

namespace AgentConsole.Transcript

/-- A document renderer: the rows of a text, joined by newlines. -/
abbrev Renderer := Text → Nat → Theme → Text

/-- The renderer of agent output. -/
def markup : Renderer := fun t width theme => Text.ofRows (render t width theme)

/-- How a log is rendered. -/
structure Canvas where
  renderer : Renderer
  theme : Theme
  width : Nat

/-- The rows of a text; none if nothing shows. -/
def Canvas.rows (canvas : Canvas) (t : Text) : List Text :=
  let rendered := canvas.renderer t (max 1 canvas.width) canvas.theme
  if rendered.isEmpty then [] else rendered.rows

/-! ### Fences -/

/-- An open fence: its run of marks, and the whole line that opened it. -/
structure OpenFence where
  run : Text
  opener : Text
  deriving DecidableEq, Repr

/-- The run of three or more backticks or tildes that a line begins with; the
blanks before it take up to three bytes. -/
def fenceRun? (line : Text) : Option Text :=
  let t := Text.trimStart line
  if 3 < Text.byteLength line - Text.byteLength t then none
  else
    match t with
    | [] => none
    | c :: _ =>
      let run := t.takeWhile (· = c)
      if (c = CommonMark.Fence.backtick ∨ c = '~') ∧ 3 ≤ run.length then some run else none

/-- The fence that is open after a line. -/
def fenceAfter (fence : Option OpenFence) (line : Text) : Option OpenFence :=
  match fenceRun? line, fence with
  | none, fence => fence
  | some run, none => some ⟨run, line⟩
  | some run, some current =>
    let rest := (Text.trimStart line).drop run.length
    if current.run.isPrefixOf run && Text.isBlank rest then none else some current

/-! ### Blocks -/

/-- The most lines that are rendered as one block. -/
def longestBlock : Nat := 64

/-- The log of an agent's output. -/
structure Log where
  /-- The lines of the closed blocks. -/
  closedLines : List Text := []
  /-- The lines of the open block. -/
  openLines : List Text := []
  /-- The rows of the closed blocks. -/
  closedRows : List Text := []
  /-- The rows of the open block. -/
  openRows : List Text := []
  /-- Does the open block follow a blank line? -/
  gap : Bool := false
  /-- The line that opened the fence in which the last block was cut off. -/
  carried : Option Text := none
  fence : Option OpenFence := none
  /-- How many lines there were when the history was asked for. -/
  mark : Option Nat := none

namespace Log

/-- All lines. -/
def lines (log : Log) : List Text := log.closedLines ++ log.openLines

/-- All rows. -/
def rows (log : Log) : List Text := log.closedRows ++ log.openRows

/-- The text of the open block; none if it is blank. -/
def openText? (log : Log) : Option Text :=
  if log.openLines.all Text.isBlank then none
  else some (Text.ofRows (log.carried.toList ++ log.openLines))

/-- Renders the open block. -/
def renderOpen (canvas : Canvas) (log : Log) : Log :=
  let rendered := (log.openText?.map canvas.rows).getD []
  let spacer : List Text :=
    if log.gap && !log.closedRows.isEmpty && !rendered.isEmpty then [[]] else []
  { log with openRows := spacer ++ rendered }

/-- Closes the open block.  After a blank line, `gap`, the next one stands apart. -/
def close (gap : Bool) (log : Log) : Log :=
  { log with
    closedLines := log.lines
    openLines := []
    closedRows := log.rows
    openRows := []
    gap := if log.openRows.isEmpty then log.gap || gap else gap
    carried := log.fence.map (·.opener) }

/-- Takes a line into the open block. -/
def receive (log : Log) (line : Text) : Log :=
  { log with openLines := log.openLines ++ [line], fence := fenceAfter log.fence line }

/-- Does the line, which was just received, end its block by being blank? -/
def isGap (log : Log) (line : Text) : Bool := Text.isBlank line && log.fence.isNone

/-- Is the open block full? -/
def isFull (log : Log) : Bool := longestBlock ≤ log.openLines.length

/-- Appends a line.  A blank line that ends a block shows nothing, so nothing is rendered. -/
def push (canvas : Canvas) (log : Log) (line : Text) : Log :=
  let log := log.receive line
  if log.isGap line then log.close true
  else
    let log := log.renderOpen canvas
    if log.isFull then log.close false else log

/-- Appends a line whose rows are not needed yet: a block is rendered when it is closed. -/
def replay (canvas : Canvas) (log : Log) (line : Text) : Log :=
  let log := log.receive line
  if log.isGap line then (log.renderOpen canvas).close true
  else if log.isFull then (log.renderOpen canvas).close false
  else log

/-- The log of these lines. -/
def ofLines (canvas : Canvas) (mark : Option Nat) (lines : List Text) : Log :=
  (lines.foldl (replay canvas) { mark }).renderOpen canvas

/-- Renders all lines anew. -/
def relayout (canvas : Canvas) (log : Log) : Log := ofLines canvas log.mark log.lines

/-- Remembers where the output stands as the history is asked for. -/
def markHistory (log : Log) : Log := { log with mark := some log.lines.length }

/-- The lines after the history has come in.  What was there when it was asked
for is part of it; what streamed in since then follows it. -/
def withHistory (history : List Text) (log : Log) : List Text :=
  history ++ log.lines.drop (log.mark.getD 0)

/-- Puts the history in front of the output that streamed in after it was asked for. -/
def applyHistory (canvas : Canvas) (history : List Text) (log : Log) : Log :=
  ofLines canvas none (log.withHistory history)

/-! ### What is rendered -/

/-- The text that is rendered when a line is appended. -/
def pushText? (log : Log) (line : Text) : Option Text :=
  let log := log.receive line
  if log.isGap line then none else log.openText?

/-- The texts that are rendered when these lines are replayed. -/
def replayTexts (log : Log) : List Text → List Text
  | [] => log.openText?.toList
  | line :: rest =>
    let received := log.receive line
    if received.isGap line then received.openText?.toList ++ (received.close true).replayTexts rest
    else if received.isFull then
      received.openText?.toList ++ (received.close false).replayTexts rest
    else received.replayTexts rest

end Log

end AgentConsole.Transcript
