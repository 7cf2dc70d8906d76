import AgentConsole.Proofs.Transcript.Relayout
import Mathlib.Data.List.Basic
import Mathlib.Data.List.Induction

/-!
# What a new line touches

A line that streams in should not cost the length of the log.  It does not: `push` renders one text
at most, and this text is made of the open block alone.

That the open block is short is an invariant (`runs_isSplit`): whatever is done to a log, under any
widths and themes, its open block has fewer lines than `longestBlock`, its fence is the one that its
lines leave open, and the line carried into the open block is the one that opened the fence in which
the closed lines end.  The rows of the open block are those that it had when it was rendered last
(`runs_isDrawn`), so that a line for which nothing is rendered leaves all rows as they are.

Main result: `push_touches_open_block`.
-/

namespace AgentConsole.Transcript.Log

/-! ### Runs on many canvases -/

/-- The log that operations make of an empty one, each on a canvas of its own: the renderer, the
theme and the width may change at any time. -/
def runs (steps : List (Canvas × Operation)) : Log :=
  steps.foldl (fun log step => log.apply step.1 step.2) {}

theorem runs_concat (steps : List (Canvas × Operation)) (step : Canvas × Operation) :
    runs (steps ++ [step]) = (runs steps).apply step.1 step.2 :=
  List.foldl_concat ..

/-- What holds of the empty log and is kept by every operation holds of every log. -/
theorem runs_induction {P : Log → Prop} (empty : P {})
    (apply : ∀ log, P log → ∀ canvas operation, P (log.apply canvas operation))
    (steps : List (Canvas × Operation)) : P (runs steps) := by
  induction steps using List.reverseRecOn with
  | nil => exact empty
  | append_singleton steps step ih =>
    rw [runs_concat]
    exact apply _ ih step.1 step.2

variable (canvas : Canvas) (log : Log) (line : Text)

/-- What a push does: it ends the block, or renders it and closes it because it is full, or only
renders it. -/
theorem push_cases :
    ((log.receive line).isGap line ∧ log.push canvas line = (log.receive line).close true) ∨
    (¬(log.receive line).isGap line ∧ longestBlock ≤ (log.receive line).openLines.length ∧
      log.push canvas line = ((log.receive line).renderOpen canvas).close false) ∨
    (¬(log.receive line).isGap line ∧ (log.receive line).openLines.length < longestBlock ∧
      log.push canvas line = (log.receive line).renderOpen canvas) := by
  have hfull : ((log.receive line).renderOpen canvas).isFull
      = decide (longestBlock ≤ (log.receive line).openLines.length) := rfl
  unfold push
  dsimp only
  rw [hfull]
  -- a gap closes the block unseen; otherwise the block is rendered, and closed if it is full
  by_cases hgap : (log.receive line).isGap line
  · exact .inl ⟨hgap, if_pos hgap⟩
  · rw [if_neg hgap]
    rcases Nat.lt_or_ge (log.receive line).openLines.length longestBlock with hlt | hge
    · exact .inr (.inr ⟨hgap, hlt, by simp [Nat.not_le.mpr hlt]⟩)
    · exact .inr (.inl ⟨hgap, hge, by simp [hge]⟩)

/-- What a replay does: it renders a block and closes it, or takes the line in. -/
theorem replay_cases :
    (∃ gap, log.replay canvas line = ((log.receive line).renderOpen canvas).close gap) ∨
    ((log.receive line).openLines.length < longestBlock ∧
      log.replay canvas line = log.receive line) := by
  unfold replay
  dsimp only
  split
  · exact .inl ⟨true, rfl⟩
  · split
    · exact .inl ⟨false, rfl⟩
    · rename_i hfull
      refine .inr ⟨?_, rfl⟩
      simpa [isFull] using hfull

/-! ### Fences -/

/-- The fence that some lines leave open. -/
def fenceOf (lines : List Text) : Option OpenFence := lines.foldl fenceAfter none

theorem fenceOf_concat (lines : List Text) (line : Text) :
    fenceOf (lines ++ [line]) = fenceAfter (fenceOf lines) line :=
  List.foldl_concat ..

/-- A fence is left as it is, or is opened by the line. -/
theorem mem_fenceAfter {before : Option OpenFence} {line : Text} {fence : OpenFence}
    (h : fence ∈ fenceAfter before line) : fence ∈ before ∨ fence.opener = line := by
  unfold fenceAfter at h
  split at h
  · exact .inl h
  · obtain rfl := Option.some.inj h
    exact .inr rfl
  · dsimp only at h
    split at h
    · cases h
    · exact .inl h

/-- What opened the fence is one of the lines. -/
theorem opener_mem {lines : List Text} {fence : OpenFence} (h : fence ∈ fenceOf lines) :
    fence.opener ∈ lines := by
  induction lines using List.reverseRecOn with
  | nil => cases h
  | append_singleton lines line ih =>
    rw [fenceOf_concat] at h
    rcases mem_fenceAfter h with hbefore | hline
    · exact List.mem_append_left _ (ih hbefore)
    · rw [hline]
      exact List.mem_append_right _ List.mem_cons_self

/-! ### How the lines are split -/

/-- Does the log keep the fences of its lines: the open one, and the one in which the closed lines
end, whose first line is carried into the open block? -/
structure KeepsFences (log : Log) : Prop where
  fence : log.fence = fenceOf log.lines
  carried : log.carried = (fenceOf log.closedLines).map (·.opener)

/-- Does the log keep its fences, and is its open block short? -/
structure IsSplit (log : Log) : Prop extends log.KeepsFences where
  short : log.openLines.length < longestBlock

variable {canvas log line}

/-- A line that was received is followed by the fence that is open after it. -/
theorem KeepsFences.receive (h : log.KeepsFences) (line : Text) :
    (log.receive line).KeepsFences where
  fence := by
    show fenceAfter log.fence line = _
    rw [lines_receive, fenceOf_concat, h.fence]
  carried := h.carried

/-- A block that is closed leaves its fence to the next one. -/
theorem KeepsFences.close (h : log.KeepsFences) (gap : Bool) : (log.close gap).IsSplit where
  fence := by
    show log.fence = _
    rw [lines_close, h.fence]
  carried := by
    show log.fence.map _ = (fenceOf log.lines).map _
    rw [h.fence]
  short := Nat.zero_lt_succ 63

/-- Rendering splits nothing. -/
theorem KeepsFences.renderOpen (h : log.KeepsFences) (canvas : Canvas) :
    (log.renderOpen canvas).KeepsFences :=
  ⟨h.fence, h.carried⟩

theorem IsSplit.renderOpen (h : log.IsSplit) (canvas : Canvas) :
    (log.renderOpen canvas).IsSplit :=
  ⟨h.toKeepsFences.renderOpen canvas, h.short⟩

/-- A line that streams in is split off where it should be. -/
theorem IsSplit.push (h : log.IsSplit) (canvas : Canvas) (line : Text) :
    (log.push canvas line).IsSplit := by
  have hreceived := h.receive line
  rcases push_cases canvas log line with ⟨-, heq⟩ | ⟨-, -, heq⟩ | ⟨-, hshort, heq⟩
  · rw [heq]
    exact hreceived.close true
  · rw [heq]
    exact (hreceived.renderOpen canvas).close false
  · rw [heq]
    exact ⟨hreceived.renderOpen canvas, hshort⟩

theorem IsSplit.replay (h : log.IsSplit) (canvas : Canvas) (line : Text) :
    (log.replay canvas line).IsSplit := by
  have hreceived := h.receive line
  rcases replay_cases canvas log line with ⟨gap, heq⟩ | ⟨hshort, heq⟩
  · rw [heq]
    exact (hreceived.renderOpen canvas).close gap
  · rw [heq]
    exact ⟨hreceived, hshort⟩

theorem isSplit_empty (mark : Option Nat) : ({ mark } : Log).IsSplit :=
  ⟨⟨rfl, rfl⟩, Nat.zero_lt_succ 63⟩

theorem isSplit_ofLines (canvas : Canvas) (mark : Option Nat) (lines : List Text) :
    (ofLines canvas mark lines).IsSplit := by
  have hfold : ∀ log : Log, log.IsSplit → (lines.foldl (Log.replay canvas) log).IsSplit := by
    induction lines with
    | nil => exact fun log h => h
    | cons line rest ih => exact fun log h => ih _ (h.replay canvas line)
  exact (hfold _ (isSplit_empty mark)).renderOpen canvas

/-- What is done to a log leaves it split. -/
theorem IsSplit.apply (h : log.IsSplit) (canvas : Canvas) (operation : Operation) :
    (log.apply canvas operation).IsSplit := by
  cases operation with
  | push line => exact h.push canvas line
  | markHistory => exact ⟨⟨h.fence, h.carried⟩, h.short⟩
  | applyHistory history => exact isSplit_ofLines canvas none _
  | relayout => exact isSplit_ofLines canvas log.mark _

theorem runs_isSplit (steps : List (Canvas × Operation)) : (runs steps).IsSplit :=
  runs_induction (isSplit_empty none) (fun _ h canvas operation => h.apply canvas operation) steps

/-! ### What shows of the open block -/

/-- Are the rows of the open block those that some canvas gives it? -/
def IsDrawn (log : Log) : Prop := ∃ canvas : Canvas, log.renderOpen canvas = log

theorem isDrawn_renderOpen (canvas : Canvas) (log : Log) : (log.renderOpen canvas).IsDrawn :=
  ⟨canvas, rfl⟩

theorem isDrawn_close (canvas : Canvas) (log : Log) (gap : Bool) : (log.close gap).IsDrawn :=
  ⟨canvas, renderOpen_close canvas log gap⟩

/-- After a line the rows of the open block are those of its text, or there are none. -/
theorem isDrawn_push (canvas : Canvas) (log : Log) (line : Text) :
    (log.push canvas line).IsDrawn := by
  rcases push_cases canvas log line with ⟨-, heq⟩ | ⟨-, -, heq⟩ | ⟨-, -, heq⟩
  · rw [heq]
    exact isDrawn_close canvas _ true
  · rw [heq]
    exact isDrawn_close canvas _ false
  · rw [heq]
    exact isDrawn_renderOpen canvas _

/-- The run: whatever was done to it, the rows of the open block were rendered from it. -/
theorem runs_isDrawn (steps : List (Canvas × Operation)) : (runs steps).IsDrawn := by
  have hempty : ({} : Log).IsDrawn := ⟨⟨unstyled, Theme.fallback, 1⟩, rfl⟩
  refine runs_induction hempty ?_ steps
  intro log h canvas operation
  cases operation with
  | push line => exact isDrawn_push canvas log line
  | markHistory =>
    obtain ⟨drawn, hdrawn⟩ := h
    exact ⟨drawn, congrArg markHistory hdrawn⟩
  | applyHistory history => exact isDrawn_renderOpen canvas _
  | relayout => exact isDrawn_renderOpen canvas _

/-- At most one empty row. -/
def IsSpacer (rows : List Text) : Prop := rows = [] ∨ rows = [[]]

/-- The rows of a block that was just rendered, behind those of the closed ones. -/
theorem exists_rows_renderOpen (canvas : Canvas) (log : Log) :
    ∃ spacer, IsSpacer spacer ∧
      (log.renderOpen canvas).rows = log.closedRows ++ spacer ++ log.rendered canvas := by
  refine ⟨if log.gap && !log.closedRows.isEmpty && !(log.rendered canvas).isEmpty then [[]] else [],
    ?_, ?_⟩
  · split
    · exact .inr rfl
    · exact .inl rfl
  · exact (List.append_assoc _ _ _).symm

/-- A block without text has no rows, and no row sets it apart. -/
theorem rows_renderOpen_of_blank (h : log.openText? = none) :
    (log.renderOpen canvas).rows = log.closedRows := by
  have hnone : log.rendered canvas = [] := by
    unfold rendered
    rw [h]
    rfl
  rw [renderOpen_eq, hnone]
  simp [rows]

@[simp] theorem rows_close (gap : Bool) : (log.close gap).rows = log.rows := List.append_nil _

/-- A block is blank only if it was blank before its last line came in. -/
theorem openText?_eq_none_of_receive (h : (log.receive line).openText? = none) :
    log.openText? = none := by
  unfold openText? receive at h
  dsimp only at h
  rw [List.all_append] at h
  unfold openText?
  by_cases hall : log.openLines.all Text.isBlank
  · exact if_pos hall
  · simp [hall] at h

/-! ### What a push touches -/

/-- Only what the renderer makes of the open block matters when this block is rendered. -/
theorem renderOpen_withRenderer (renderer : Renderer)
    (h : ∀ t ∈ log.openText?, renderer t (max 1 canvas.width) canvas.theme
      = canvas.renderer t (max 1 canvas.width) canvas.theme) :
    log.renderOpen { canvas with renderer } = log.renderOpen canvas := by
  have hrendered : log.rendered { canvas with renderer } = log.rendered canvas := by
    unfold rendered
    rcases ht : log.openText? with - | t
    · rfl
    · show Canvas.rows { canvas with renderer } t = canvas.rows t
      unfold Canvas.rows
      dsimp only
      rw [h t ht]
  rw [renderOpen_eq, renderOpen_eq, hrendered]

/-- What the text of the open block is made of. -/
theorem eq_of_mem_openText {t : Text} (h : t ∈ log.openText?) :
    t = Text.ofRows (log.carried.toList ++ log.openLines) := by
  unfold openText? at h
  split at h
  · cases h
  · exact (Option.some.inj h).symm

/-- What a line touches that comes in on a canvas. -/
structure TouchesOpenBlock (canvas : Canvas) (log : Log) (line : Text) : Prop where
  /-- The renderer counts at one text at most: any other one that agrees there will do. -/
  asks : ∀ renderer : Renderer,
    (∀ t ∈ log.pushText? line, renderer t (max 1 canvas.width) canvas.theme
      = canvas.renderer t (max 1 canvas.width) canvas.theme) →
    log.push { canvas with renderer } line = log.push canvas line
  /-- The text is made of the last lines, at most sixty-four, behind the line that is carried on. -/
  text : ∀ t ∈ log.pushText? line, ∃ last : List Text,
    t = Text.ofRows (log.carried.toList ++ last) ∧ last.length ≤ 64 ∧
      log.closedLines ++ last = (log.push canvas line).lines
  /-- What is carried on is the line that opened the fence in which the closed lines end. -/
  carried : log.carried = (fenceOf log.closedLines).map (·.opener) ∧
    ∀ opener ∈ log.carried, opener ∈ log.closedLines
  /-- The rows of the closed blocks stay, and stay closed. -/
  closed : log.closedRows <+: (log.push canvas line).closedRows
  /-- Behind them are the rows of the text that was rendered. -/
  rows : ∀ t ∈ log.pushText? line, ∃ spacer, IsSpacer spacer ∧
    (log.push canvas line).rows = log.closedRows ++ spacer ++ canvas.rows t
  /-- If nothing was rendered, all rows are as they were, and were rendered of the open block. -/
  silent : log.pushText? line = none → (log.push canvas line).rows = log.rows ∧
    ∃ (drawn : Canvas) (spacer : List Text), IsSpacer spacer ∧
      log.rows = log.closedRows ++ spacer ++ log.rendered drawn

/-- Of the renderer, a line asks for one text at most. -/
theorem asks_pushText (renderer : Renderer)
    (h : ∀ t ∈ log.pushText? line, renderer t (max 1 canvas.width) canvas.theme
      = canvas.renderer t (max 1 canvas.width) canvas.theme) :
    log.push { canvas with renderer } line = log.push canvas line := by
  unfold pushText? at h
  unfold push
  dsimp only at h ⊢
  by_cases hgap : (log.receive line).isGap line
  · rw [if_pos hgap, if_pos hgap]
  · rw [if_neg hgap] at h ⊢
    rw [if_neg hgap, renderOpen_withRenderer renderer h]

/-- A text is rendered unless a blank line ends the block, and its rows are then current. -/
theorem rows_push_of_text (canvas : Canvas) {t : Text} (h : t ∈ log.pushText? line) :
    t ∈ (log.receive line).openText? ∧
      (log.push canvas line).rows = ((log.receive line).renderOpen canvas).rows := by
  unfold pushText? at h
  dsimp only at h
  rcases push_cases canvas log line with ⟨hgap, -⟩ | ⟨hgap, -, heq⟩ | ⟨hgap, -, heq⟩
  · rw [if_pos hgap] at h
    cases h
  · rw [if_neg hgap] at h
    rw [heq, rows_close]
    exact ⟨h, rfl⟩
  · rw [if_neg hgap] at h
    rw [heq]
    exact ⟨h, rfl⟩

/-- Without a text to render, the rows stay. -/
theorem rows_push_of_none (hdrawn : log.IsDrawn) (h : log.pushText? line = none) :
    (log.push canvas line).rows = log.rows := by
  obtain ⟨drawn, hdrawn⟩ := hdrawn
  -- a block in which all is blank had no rows before either
  have hblank (hnone : (log.receive line).openText? = none) :
      ((log.receive line).renderOpen canvas).rows = log.rows := by
    rw [rows_renderOpen_of_blank hnone, ← hdrawn,
      rows_renderOpen_of_blank (openText?_eq_none_of_receive hnone)]
    rfl
  unfold pushText? at h
  dsimp only at h
  rcases push_cases canvas log line with ⟨-, heq⟩ | ⟨hgap, -, heq⟩ | ⟨hgap, -, heq⟩
  · rw [heq, rows_close]
    rfl
  · rw [if_neg hgap] at h
    rw [heq, rows_close, hblank h]
  · rw [if_neg hgap] at h
    rw [heq, hblank h]

/-- Rows that are closed stay where they are. -/
theorem closedRows_prefix_push (canvas : Canvas) (log : Log) (line : Text) :
    log.closedRows <+: (log.push canvas line).closedRows := by
  rcases push_cases canvas log line with ⟨-, heq⟩ | ⟨-, -, heq⟩ | ⟨-, -, heq⟩
  · rw [heq]
    exact List.prefix_append _ _
  · rw [heq]
    exact List.prefix_append _ _
  · rw [heq]
    exact List.prefix_refl _

/-- **A line touches only the open block.**  Whatever was done to a log, on whatever
canvases: a line that comes in has the renderer asked for one text at most, which is made
of the last lines of the log, no more than sixty-four, and of the line that opened the
fence in which they begin.  All rows of the closed blocks stay where they are; an empty row
may follow, and then the rows of that text. -/
theorem push_touches_open_block (steps : List (Canvas × Operation)) (canvas : Canvas)
    (line : Text) :
    TouchesOpenBlock canvas (runs steps) line := by
  have hsplit := runs_isSplit steps
  have hdrawn := runs_isDrawn steps
  refine ⟨fun renderer h => asks_pushText renderer h, ?_, ⟨hsplit.carried, ?_⟩,
    closedRows_prefix_push canvas _ line, ?_, ?_⟩
  · intro t ht
    obtain ⟨hopen, -⟩ := rows_push_of_text canvas ht
    refine ⟨(runs steps).openLines ++ [line], eq_of_mem_openText hopen, ?_, ?_⟩
    · rw [List.length_append]
      exact hsplit.short
    · rw [lines_push, lines, List.append_assoc]
  -- what is carried over is the line that opened the fence
  · intro opener hopener
    rw [hsplit.carried] at hopener
    obtain ⟨fence, hfence, rfl⟩ := Option.map_eq_some_iff.mp hopener
    exact opener_mem hfence
  · intro t ht
    obtain ⟨hopen, hrows⟩ := rows_push_of_text canvas ht
    obtain ⟨spacer, hspacer, heq⟩ := exists_rows_renderOpen canvas ((runs steps).receive line)
    have hrendered : ((runs steps).receive line).rendered canvas = canvas.rows t := by
      unfold rendered
      rw [hopen]
      rfl
    refine ⟨spacer, hspacer, ?_⟩
    rw [hrows, heq, hrendered]
    rfl
  -- nothing is rendered, so the rows are those that were rendered before
  · intro hnone
    refine ⟨rows_push_of_none hdrawn hnone, ?_⟩
    obtain ⟨drawn, heq⟩ := hdrawn
    obtain ⟨spacer, hspacer, hrows⟩ := exists_rows_renderOpen drawn (runs steps)
    rw [heq] at hrows
    exact ⟨drawn, spacer, hspacer, hrows⟩

end AgentConsole.Transcript.Log
