import AgentConsole.Proofs.Text.Rows
import AgentConsole.Transcript.Log

/-!
# Lines and rows of a log

Whatever is closed, rendered or rendered anew, the lines of a log are the lines it
was given, in their order (`lines_push`, `lines_ofLines`), and the mark stays until
a history comes in.  Rows are pieces between newlines, so none of them holds one.
-/

namespace AgentConsole.Transcript

/-! ### Lines and the mark -/

namespace Log

variable (canvas : Canvas) (log : Log)

@[simp] theorem lines_receive (line : Text) : (log.receive line).lines = log.lines ++ [line] :=
  (List.append_assoc _ _ _).symm

@[simp] theorem lines_renderOpen : (log.renderOpen canvas).lines = log.lines := rfl

@[simp] theorem lines_close (gap : Bool) : (log.close gap).lines = log.lines := List.append_nil _

@[simp] theorem mark_receive (line : Text) : (log.receive line).mark = log.mark := rfl

@[simp] theorem mark_renderOpen : (log.renderOpen canvas).mark = log.mark := rfl

@[simp] theorem mark_close (gap : Bool) : (log.close gap).mark = log.mark := rfl

/-- A line that is appended is the last one. -/
@[simp] theorem lines_push (line : Text) : (log.push canvas line).lines = log.lines ++ [line] := by
  unfold push
  dsimp only
  split
  · simp
  · split <;> simp

@[simp] theorem mark_push (line : Text) : (log.push canvas line).mark = log.mark := by
  unfold push
  dsimp only
  split
  · rfl
  · split <;> rfl

@[simp] theorem lines_replay (line : Text) :
    (log.replay canvas line).lines = log.lines ++ [line] := by
  unfold replay
  dsimp only
  split
  · simp
  · split <;> simp

@[simp] theorem mark_replay (line : Text) : (log.replay canvas line).mark = log.mark := by
  unfold replay
  dsimp only
  split
  · rfl
  · split <;> rfl

/-- However they are split, lines that are replayed follow one another. -/
theorem lines_foldl_replay (lines : List Text) :
    (lines.foldl (replay canvas) log).lines = log.lines ++ lines := by
  induction lines generalizing log with
  | nil => simp
  | cons line rest ih =>
    rw [List.foldl_cons, ih, lines_replay, List.append_assoc]
    rfl

theorem mark_foldl_replay (lines : List Text) :
    (lines.foldl (replay canvas) log).mark = log.mark := by
  induction lines generalizing log with
  | nil => rfl
  | cons line rest ih => rw [List.foldl_cons, ih, mark_replay]

@[simp] theorem lines_ofLines (mark : Option Nat) (lines : List Text) :
    (ofLines canvas mark lines).lines = lines :=
  lines_foldl_replay canvas { mark } lines

@[simp] theorem mark_ofLines (mark : Option Nat) (lines : List Text) :
    (ofLines canvas mark lines).mark = mark :=
  mark_foldl_replay canvas { mark } lines

@[simp] theorem lines_relayout : (log.relayout canvas).lines = log.lines := lines_ofLines canvas _ _

@[simp] theorem mark_relayout : (log.relayout canvas).mark = log.mark := mark_ofLines canvas _ _

@[simp] theorem lines_markHistory : log.markHistory.lines = log.lines := rfl

@[simp] theorem mark_markHistory : log.markHistory.mark = some log.lines.length := rfl

@[simp] theorem lines_applyHistory (history : List Text) :
    (log.applyHistory canvas history).lines = history ++ log.lines.drop (log.mark.getD 0) :=
  lines_ofLines canvas _ _

end Log

/-! ### Rows -/

theorem Canvas.newline_notMem_rows (canvas : Canvas) (t : Text) :
    ∀ row ∈ canvas.rows t, '\n' ∉ row := by
  intro row hrow
  unfold Canvas.rows at hrow
  dsimp only at hrow
  split at hrow
  · exact absurd hrow List.not_mem_nil
  · exact Text.newline_notMem_of_mem_rows hrow

namespace Log

/-- Every row of the log is a single row. -/
def HasRows (log : Log) : Prop := ∀ row ∈ log.rows, '\n' ∉ row

variable {canvas : Canvas} {log : Log}

theorem HasRows.close (h : log.HasRows) (gap : Bool) : (log.close gap).HasRows := by
  intro row hrow
  have hrows : (log.close gap).rows = log.rows := List.append_nil _
  exact h row (hrows ▸ hrow)

/-- Rendering puts in rows of a text, which are pieces between newlines. -/
theorem HasRows.renderOpen (h : log.HasRows) : (log.renderOpen canvas).HasRows := by
  intro row hrow
  -- the rows that are closed, a blank one between the parts, and the rows of the open part
  rcases List.mem_append.mp hrow with hrow | hrow
  · exact h row (List.mem_append_left _ hrow)
  · rcases List.mem_append.mp hrow with hrow | hrow
    · split at hrow
      · rw [List.mem_singleton.mp hrow]
        exact List.not_mem_nil
      · exact absurd hrow List.not_mem_nil
    · rcases ht : log.openText? with - | t
      · rw [ht] at hrow
        exact absurd hrow List.not_mem_nil
      · rw [ht] at hrow
        exact canvas.newline_notMem_rows t row hrow

/-- A line that streams in leaves all rows single. -/
theorem HasRows.push (h : log.HasRows) (line : Text) : (log.push canvas line).HasRows := by
  have hreceived : (log.receive line).HasRows := h
  unfold Log.push
  dsimp only
  split
  · exact hreceived.close true
  · split
    · exact hreceived.renderOpen.close false
    · exact hreceived.renderOpen

theorem HasRows.replay (h : log.HasRows) (line : Text) : (log.replay canvas line).HasRows := by
  have hreceived : (log.receive line).HasRows := h
  unfold Log.replay
  dsimp only
  split
  · exact hreceived.renderOpen.close true
  · split
    · exact hreceived.renderOpen.close false
    · exact hreceived

theorem HasRows.foldl_replay (h : log.HasRows) (lines : List Text) :
    (lines.foldl (Log.replay canvas) log).HasRows := by
  induction lines generalizing log with
  | nil => exact h
  | cons line rest ih => exact ih (h.replay line)

theorem hasRows_empty (mark : Option Nat) : ({ mark } : Log).HasRows := fun _ hrow =>
  absurd hrow List.not_mem_nil

theorem hasRows_ofLines (canvas : Canvas) (mark : Option Nat) (lines : List Text) :
    (ofLines canvas mark lines).HasRows :=
  ((hasRows_empty mark).foldl_replay lines).renderOpen

end Log

end AgentConsole.Transcript
