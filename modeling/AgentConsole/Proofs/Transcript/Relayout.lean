import AgentConsole.Proofs.Transcript.Log
import AgentConsole.Styled.Wrap

/-!
# Streaming and laying out anew

Lines come into a log on two ways.  `Log.push` keeps the rows of the open block
current after every line; `Log.replay` renders a block only when it is closed.  The
two see the fences, the full blocks and the blank lines at different moments, and
yet they come to the same log.

Rendering the open block does not depend on what was rendered of it before, so one
line may be pushed before or after rendering (`push_renderOpen`).  The only place
where this needs anything of the renderer is a blank line that ends a block: `push`
closes the block without rendering it, and so relies on a renderer that takes no
notice of a blank line at the end (`Renderer.IgnoresBlankEnd`).

Main results: laying out some lines is pushing them one at a time
(`ofLines_eq_foldl_push`), and whatever is done to a log on one canvas, laying it out
on this canvas changes nothing at all, and on any other canvas it gives the log that
the lines would have streamed into (`relayout_eq_streamed`).
-/

namespace AgentConsole.Transcript

/-! ### Blank lines at the end -/

/-- Does the renderer take no notice of a blank line at the end of a text? -/
def Renderer.IgnoresBlankEnd (renderer : Renderer) : Prop :=
  ∀ (t blank : Text) (width : Nat) (theme : Theme), Text.isBlank blank → '\n' ∉ blank →
    renderer (t ++ '\n' :: blank) width theme = renderer t width theme

namespace Renderer.IgnoresBlankEnd

variable {renderer : Renderer} (h : renderer.IgnoresBlankEnd)
include h

/-- Blank lines at the end are taken away one by one. -/
theorem append_rows {rows : List Text} (hne : rows ≠ [])
    (hrows : ∀ row ∈ rows, Text.isBlank row ∧ '\n' ∉ row) (t : Text) (width : Nat) (theme : Theme) :
    renderer (t ++ '\n' :: Text.ofRows rows) width theme = renderer t width theme := by
  induction rows generalizing t with
  | nil => exact absurd rfl hne
  | cons row below ih =>
    obtain ⟨hblank, hnewline⟩ := hrows row List.mem_cons_self
    by_cases hbelow : below = []
    · subst hbelow
      exact h t row width theme hblank hnewline
    · have hsplit : t ++ '\n' :: Text.ofRows (row :: below)
          = (t ++ '\n' :: row) ++ '\n' :: Text.ofRows below := by
        rw [Text.ofRows_cons row hbelow, List.append_assoc, List.cons_append]
      rw [hsplit, ih hbelow fun r hr => hrows r (List.mem_cons_of_mem _ hr)]
      exact h t row width theme hblank hnewline

/-- Several blank lines are as good as one. -/
theorem append_blank {blank : Text} (hblank : Text.isBlank blank) (t : Text) (width : Nat)
    (theme : Theme) : renderer (t ++ '\n' :: blank) width theme = renderer t width theme := by
  have hrows : ∀ row ∈ blank.rows, Text.isBlank row ∧ '\n' ∉ row := by
    intro row hrow
    refine ⟨?_, Text.newline_notMem_of_mem_rows hrow⟩
    exact List.all_eq_true.mpr fun c hc =>
      List.all_eq_true.mp hblank c (Text.mem_of_mem_rows hrow hc)
  have happended := h.append_rows (Text.rows_ne_nil blank) hrows t width theme
  rwa [Text.ofRows_rows] at happended

end Renderer.IgnoresBlankEnd

/-- Hence they change no row. -/
theorem Canvas.rows_append_blank {canvas : Canvas} (h : canvas.renderer.IgnoresBlankEnd)
    {blank : Text} (hblank : Text.isBlank blank) (t : Text) :
    canvas.rows (t ++ '\n' :: blank) = canvas.rows t := by
  unfold Canvas.rows
  rw [h.append_blank hblank]

namespace Log

/-! ### Rendering the open block -/

section

variable (canvas : Canvas) (log : Log)

/-- The rows that show of the open block. -/
def rendered : List Text := (log.openText?.map canvas.rows).getD []

/-- Rendering changes the rows of the open block, which may begin with a spacer, and nothing else.
-/
theorem renderOpen_eq : log.renderOpen canvas
    = { log with
        openRows :=
          (if log.gap && !log.closedRows.isEmpty && !(log.rendered canvas).isEmpty then [[]] else [])
            ++ log.rendered canvas } := rfl

/-- What was rendered of the open block before does not matter. -/
theorem renderOpen_receive_renderOpen (line : Text) :
    ((log.renderOpen canvas).receive line).renderOpen canvas
      = (log.receive line).renderOpen canvas := rfl

/-- A block that was just closed has nothing to render. -/
@[simp] theorem renderOpen_close (gap : Bool) :
    (log.close gap).renderOpen canvas = log.close gap := by
  have hrendered : (log.close gap).rendered canvas = [] := rfl
  rw [renderOpen_eq, hrendered]
  simp [close]

@[simp] theorem renderOpen_empty (mark : Option Nat) :
    ({ mark } : Log).renderOpen canvas = { mark } := rfl

@[simp] theorem isGap_renderOpen (line : Text) :
    ((log.renderOpen canvas).receive line).isGap line = (log.receive line).isGap line := rfl

@[simp] theorem isFull_renderOpen : (log.renderOpen canvas).isFull = log.isFull := rfl

end

variable {canvas : Canvas} (h : canvas.renderer.IgnoresBlankEnd)
include h

/-- A blank line shows nothing of its own. -/
theorem rendered_receive (log : Log) {line : Text} (hblank : Text.isBlank line) :
    (log.receive line).rendered canvas = log.rendered canvas := by
  unfold rendered openText? receive
  dsimp only
  rw [List.all_append]
  -- a block that is blank so far shows nothing before and after
  by_cases hall : log.openLines.all Text.isBlank
  · simp [hall, hblank]
  · -- something shows: the text has a first line, and the blank one stands below it
    have hne : log.carried.toList ++ log.openLines ≠ [] := by
      intro hnil
      rw [(List.append_eq_nil_iff.mp hnil).2] at hall
      exact hall rfl
    simp only [hall, Bool.false_and, Bool.false_eq_true, if_false, Option.map_some, Option.getD_some]
    rw [← List.append_assoc, Text.ofRows_concat hne]
    exact Canvas.rows_append_blank h hblank _

theorem receive_renderOpen (log : Log) {line : Text} (hblank : Text.isBlank line) :
    (log.renderOpen canvas).receive line = (log.receive line).renderOpen canvas := by
  rw [renderOpen_eq, renderOpen_eq, rendered_receive h log hblank]
  rfl

/-! ### Pushing and replaying -/

/-- **One line, pushed or replayed.**  Pushing a line to a block that is rendered
comes to the same as replaying the line and rendering then. -/
theorem push_renderOpen (log : Log) (line : Text) :
    (log.renderOpen canvas).push canvas line = (log.replay canvas line).renderOpen canvas := by
  unfold push replay
  dsimp only
  rw [isGap_renderOpen, renderOpen_receive_renderOpen, isFull_renderOpen]
  by_cases hgap : (log.receive line).isGap line
  · -- the block is closed by `push` as it was rendered before the blank line
    have hblank : Text.isBlank line := by
      unfold isGap at hgap
      exact (Bool.and_eq_true_iff.mp hgap).1
    rw [if_pos hgap, if_pos hgap, receive_renderOpen h log hblank, renderOpen_close]
  · rw [if_neg hgap, if_neg hgap]
    split
    · rw [renderOpen_close]
    · rfl

/-- The run: lines that are pushed come to what they come to if they are replayed. -/
theorem foldl_push_renderOpen (lines : List Text) (log : Log) :
    lines.foldl (push canvas) (log.renderOpen canvas)
      = (lines.foldl (replay canvas) log).renderOpen canvas := by
  induction lines generalizing log with
  | nil => rfl
  | cons line rest ih => rw [List.foldl_cons, List.foldl_cons, push_renderOpen h, ih]

/-- **Laying out lines is pushing them one at a time.** -/
theorem ofLines_eq_foldl_push (mark : Option Nat) (lines : List Text) :
    ofLines canvas mark lines = lines.foldl (push canvas) { mark } := by
  have hfold := foldl_push_renderOpen h lines { mark }
  rw [renderOpen_empty] at hfold
  exact hfold.symm

theorem push_ofLines (mark : Option Nat) (lines : List Text) (line : Text) :
    (ofLines canvas mark lines).push canvas line = ofLines canvas mark (lines ++ [line]) := by
  rw [ofLines_eq_foldl_push h, ofLines_eq_foldl_push h, List.foldl_append]
  rfl

omit h

/-! ### The mark -/

/-- The mark plays no part in the splitting into blocks. -/
theorem push_withMark (log : Log) (mark : Option Nat) (line : Text) :
    { log with mark }.push canvas line = { log.push canvas line with mark } := by
  show (if (log.receive line).isGap line then _ else _) = _
  unfold push
  dsimp only
  split
  · rfl
  · show (if ((log.receive line).renderOpen canvas).isFull then _ else _) = _
    split <;> rfl

theorem replay_withMark (log : Log) (mark : Option Nat) (line : Text) :
    { log with mark }.replay canvas line = { log.replay canvas line with mark } := by
  show (if (log.receive line).isGap line then _ else _) = _
  unfold replay
  dsimp only
  split
  · rfl
  · show (if (log.receive line).isFull then _ else _) = _
    split <;> rfl

/-- What does not look at the mark does not do so in a run. -/
theorem foldl_withMark {step : Log → Text → Log}
    (hstep : ∀ log mark line, step { log with mark } line = { step log line with mark })
    (lines : List Text) (log : Log) (mark : Option Nat) :
    lines.foldl step { log with mark } = { lines.foldl step log with mark } := by
  -- the induction is on the lines
  induction lines generalizing log with
  | nil => rfl
  | cons line rest ih => rw [List.foldl_cons, List.foldl_cons, hstep, ih]

/-- Lines are laid out in the same way under every mark. -/
theorem ofLines_eq_withMark (mark : Option Nat) (lines : List Text) :
    ofLines canvas mark lines = { ofLines canvas none lines with mark } :=
  congrArg (renderOpen canvas) (foldl_withMark replay_withMark lines {} mark)

theorem relayout_empty (canvas : Canvas) : ({} : Log).relayout canvas = {} := rfl

/-- Laying out twice is laying out once. -/
@[simp] theorem relayout_relayout (log : Log) :
    (log.relayout canvas).relayout canvas = log.relayout canvas := by
  show ofLines canvas (log.relayout canvas).mark (log.relayout canvas).lines = _
  rw [mark_relayout, lines_relayout]
  rfl

/-- Asking for the history does not undo it. -/
theorem relayout_markHistory {log : Log} (hlog : log.relayout canvas = log) :
    log.markHistory.relayout canvas = log.markHistory := by
  have hblocks : { log.relayout canvas with mark := some log.lines.length }
      = { log with mark := some log.lines.length } := by rw [hlog]
  unfold relayout at hblocks ⊢
  rw [lines_markHistory, mark_markHistory, ofLines_eq_withMark]
  rw [ofLines_eq_withMark] at hblocks
  exact hblocks

/-- A history that has come in is laid out. -/
theorem relayout_applyHistory (log : Log) (history : List Text) :
    (log.applyHistory canvas history).relayout canvas = log.applyHistory canvas history := by
  show ofLines canvas (log.applyHistory canvas history).mark _ = _
  unfold applyHistory
  rw [mark_ofLines, lines_ofLines]

/-! ### Runs -/

/-- What is done to a log on one canvas. -/
inductive Operation where
  /-- A line streams in. -/
  | push (line : Text)
  /-- The history is asked for. -/
  | markHistory
  /-- The history comes in. -/
  | applyHistory (history : List Text)
  /-- All lines are laid out anew. -/
  | relayout

/-- The log after an operation. -/
def apply (canvas : Canvas) (log : Log) : Operation → Log
  | .push line => log.push canvas line
  | .markHistory => log.markHistory
  | .applyHistory history => log.applyHistory canvas history
  | .relayout => log.relayout canvas

/-- The log that some operations make of an empty one. -/
def run (canvas : Canvas) (operations : List Operation) : Log := operations.foldl (apply canvas) {}

include h

/-- On another canvas the log becomes what its lines would have streamed into. -/
theorem relayout_eq_foldl_push (log : Log) :
    log.relayout canvas = { log.lines.foldl (push canvas) {} with mark := log.mark } := by
  rw [relayout, ofLines_eq_foldl_push h]
  exact foldl_withMark push_withMark log.lines {} log.mark

/-- A line that streams in leaves a log laid out. -/
theorem relayout_push {log : Log} (hlog : log.relayout canvas = log) (line : Text) :
    (log.push canvas line).relayout canvas = log.push canvas line := by
  calc (log.push canvas line).relayout canvas
      = ofLines canvas log.mark (log.lines ++ [line]) := by
        rw [relayout, mark_push, lines_push]
    _ = (log.relayout canvas).push canvas line := (push_ofLines h log.mark log.lines line).symm
    _ = log.push canvas line := by rw [hlog]

/-- Is the log laid out as its lines are laid out anew?  Every operation keeps this. -/
theorem relayout_apply {log : Log} (hlog : log.relayout canvas = log) (operation : Operation) :
    (log.apply canvas operation).relayout canvas = log.apply canvas operation := by
  cases operation with
  | push line => exact relayout_push h hlog line
  | markHistory => exact relayout_markHistory hlog
  | applyHistory history => exact relayout_applyHistory log history
  | relayout => exact relayout_relayout log

/-- The run: whatever is done to a log, it stays laid out. -/
theorem relayout_run (operations : List Operation) :
    (run canvas operations).relayout canvas = run canvas operations := by
  have hfold (log : Log) (hlog : log.relayout canvas = log) :
      (operations.foldl (apply canvas) log).relayout canvas = operations.foldl (apply canvas) log := by
    induction operations generalizing log with
    | nil => exact hlog
    | cons operation rest ih => exact ih _ (relayout_apply h hlog operation)
  exact hfold {} rfl

/-- **Streaming and laying out anew agree.**  Whatever is done to a log on one canvas,
laying it out on this canvas again leaves it the very same log.  Under another width
and theme it becomes the log that its lines stream into, one at a time, under that
width and theme; only the mark stays its own. -/
theorem relayout_eq_streamed (operations : List Operation) :
    (run canvas operations).relayout canvas = run canvas operations ∧
      ∀ (theme : Theme) (width : Nat),
        (run canvas operations).relayout { canvas with theme, width }
          = { (run canvas operations).lines.foldl (push { canvas with theme, width }) {} with
              mark := (run canvas operations).mark } := by
  refine ⟨relayout_run h operations, fun theme width => ?_⟩
  -- what is asked of a renderer does not depend on the canvas
  have hother : Renderer.IgnoresBlankEnd { canvas with theme, width }.renderer := h
  exact relayout_eq_foldl_push hother _

end Log

/-! ### A renderer of plain text -/

/-- Renders a text as it stands, wrapped to the width. -/
def unstyled : Renderer := fun t width _ => Text.ofRows (Styled.wrap (Text.trimEnd t) width)

theorem ignoresBlankEnd_unstyled : unstyled.IgnoresBlankEnd := by
  intro t blank width theme hblank _
  have hall : ∀ c ∈ ('\n' :: blank).reverse, Unicode.isBlank c = true := by
    intro c hc
    rcases List.mem_cons.mp (List.mem_reverse.mp hc) with rfl | hc
    · rfl
    · exact List.all_eq_true.mp hblank c hc
  have htrim : Text.trimEnd (t ++ '\n' :: blank) = Text.trimEnd t := by
    unfold Text.trimEnd Text.dropEndWhile
    rw [List.reverse_append, List.dropWhile_append_of_pos hall]
  unfold unstyled
  rw [htrim]

/-- A block in front of a fence, a blank line in the fence, a history that comes in
between, and a blank line that closes the block. -/
theorem relayout_eq_streamed_fence :
    let canvas : Canvas := ⟨unstyled, Theme.fallback, 20⟩
    let log := Log.run canvas
      [.push "Intro".toList, .markHistory, .push [], .push "```".toList, .push [],
        .applyHistory ["Old".toList, "Intro".toList], .push "```".toList, .push [' '], .relayout]
    unstyled.IgnoresBlankEnd ∧ log.relayout canvas = log ∧
      ∀ (theme : Theme) (width : Nat),
        log.relayout { canvas with theme, width }
          = { log.lines.foldl (Log.push { canvas with theme, width }) {} with mark := log.mark } :=
  ⟨ignoresBlankEnd_unstyled, Log.relayout_eq_streamed ignoresBlankEnd_unstyled _⟩

/-- The markup of agents is no such renderer.  Raw HTML keeps the blanks of its last
line, so a row that streamed in without them has them when the log is laid out anew. -/
theorem rows_relayout_raw_html :
    let canvas : Canvas := ⟨markup, Theme.fallback, 20⟩
    let log := Log.run canvas [.push "<pre>".toList, .push ['x'], .push [' ']]
    log.rows = ["<pre>x".toList] ∧ (log.relayout canvas).rows = ["<pre>x ".toList] := by
  decide +kernel

end AgentConsole.Transcript
