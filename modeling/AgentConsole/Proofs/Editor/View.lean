import AgentConsole.Proofs.Editor.Rows
import AgentConsole.Proofs.Editor.Zipper

/-!
# The cursor stays in view

The rows of an editor are found anew from its text, its width and its cursor whenever they are
asked for, and only the first row of the view is kept.  Whatever changes the rows or the cursor
has to move the view after it (`Editor.reveal`).

The rows of a text hold every position in it (`Row.exists_holds_ofText`), the newline at the end
of a line being held by the last row of that line.  So the cursor always has a row of its own, and
the view can be moved to it (`isInView_reveal`).  What the operations leave is therefore of two
kinds: a view that was moved just now, or one that nothing has changed under
(`IsFollowing.apply`).
-/

namespace AgentConsole.Editor

/-! ### The row of a position -/

namespace Row

/-- The position is one of the row, or its end. -/
def Holds (r : Row) (position : Nat) : Prop := r.start ≤ position ∧ position ≤ r.stop

/-- Each position of a line is held by one of its rows. -/
theorem exists_holds_ranges (line : Nat) {start position : Nat} {ns : List Nat} (h : ns ≠ [])
    (hfirst : start ≤ position) (hlast : position ≤ start + ns.sum) :
    ∃ r ∈ ranges line start ns, r.Holds position := by
  induction ns generalizing start with
  | nil => exact absurd rfl h
  | cons n ns ih =>
    by_cases hn : position ≤ start + n
    · exact ⟨_, List.mem_cons_self, hfirst, hn⟩
    · rw [List.sum_cons] at hlast
      -- a position behind the first row needs a second one
      have hns : ns ≠ [] := by
        rintro rfl
        rw [List.sum_nil] at hlast
        omega
      have hbegin : start + n ≤ position := by omega
      have hend : position ≤ start + n + ns.sum := by omega
      obtain ⟨r, hr, hholds⟩ := ih hns hbegin hend
      exact ⟨r, List.mem_cons_of_mem _ hr, hholds⟩

theorem lengths_ne_nil (room : Nat) (line : Text) : lengths room line ≠ [] := by
  show (_ :: _ : List Nat).reverse ≠ []
  rw [Ne, List.reverse_eq_nil_iff]
  exact List.cons_ne_nil _ _

/-- Each position of the text is held by a row. -/
theorem exists_holds_ofLines (room n : Nat) {start position : Nat} {lines : List Text}
    (h : lines ≠ []) (hfirst : start ≤ position)
    (hlast : position ≤ start + (Text.ofRows lines).length) :
    ∃ r ∈ ofLines room n start lines, r.Holds position := by
  induction lines generalizing n start with
  | nil => exact absurd rfl h
  | cons line below ih =>
    by_cases hline : position ≤ start + line.length
    · rw [← sum_lengths room line] at hline
      obtain ⟨r, hr, hholds⟩ := exists_holds_ranges n (lengths_ne_nil room line) hfirst hline
      exact ⟨r, List.mem_append_left _ hr, hholds⟩
    · -- a position behind the first line needs a second one, which begins after a newline
      have hbelow : below ≠ [] := by
        rintro rfl
        exact hline hlast
      rw [Text.ofRows_cons line hbelow, List.length_append, List.length_cons] at hlast
      have hbegin : start + line.length + 1 ≤ position := by omega
      have hend : position ≤ start + line.length + 1 + (Text.ofRows below).length := by omega
      obtain ⟨r, hr, hholds⟩ := ih (n + 1) hbelow hbegin hend
      exact ⟨r, List.mem_append_right _ hr, hholds⟩

/-- Every position of a text is held by a row. -/
theorem exists_holds_ofText (room : Nat) {t : Text} {position : Nat} (h : position ≤ t.length) :
    ∃ r ∈ ofText room t, r.Holds position := by
  apply exists_holds_ofLines room 0 (Text.rows_ne_nil t) (Nat.zero_le _)
  rw [Text.ofRows_rows, Nat.zero_add]
  exact h

theorem bounds_of_mem_ofLines {room n start : Nat} {lines : List Text} {r : Row}
    (h : r ∈ ofLines room n start lines) :
    r.start ≤ r.stop ∧ r.stop ≤ start + (Text.ofRows lines).length := by
  induction lines generalizing n start with
  | nil => exact absurd h List.not_mem_nil
  | cons line below ih =>
    -- a row of the first line, or of those below
    rcases List.mem_append.mp h with h | h
    · obtain ⟨-, horder, hlast⟩ := bounds_of_mem_ranges h
      rw [sum_lengths] at hlast
      have hline : line.length ≤ (Text.ofRows (line :: below)).length := by
        cases below with
        | nil => exact Nat.le_refl _
        | cons next more =>
          rw [Text.ofRows_cons line (List.cons_ne_nil next more), List.length_append]
          exact Nat.le_add_right _ _
      exact ⟨horder, by omega⟩
    · have hbelow : below ≠ [] := by
        rintro rfl
        exact List.not_mem_nil h
      obtain ⟨horder, hlast⟩ := ih h
      rw [Text.ofRows_cons line hbelow, List.length_append, List.length_cons]
      exact ⟨horder, by omega⟩

/-- A row lies inside the text. -/
theorem bounds_of_mem_ofText {room : Nat} {t : Text} {r : Row} (h : r ∈ ofText room t) :
    r.start ≤ r.stop ∧ r.stop ≤ t.length := by
  have hbounds := bounds_of_mem_ofLines h
  rwa [Text.ofRows_rows, Nat.zero_add] at hbounds

/-- Where a row holds a position, one is found for it. -/
theorem find?_row {rows : List Row} {position : Nat} (h : ∃ r ∈ rows, r.Holds position) (t : Text) :
    ((List.range rows.length).reverse.find? fun i =>
        (rows[i]?).any fun r => r.start ≤ position && position ≤ r.stop)
      = some (locate rows t position).1 := by
  obtain ⟨r, hr, hfirst, hlast⟩ := h
  obtain ⟨i, hi, hrow⟩ := List.mem_iff_getElem.mp hr
  have hsome : ((List.range rows.length).reverse.find? fun i =>
      (rows[i]?).any fun r => r.start ≤ position && position ≤ r.stop).isSome := by
    rw [List.find?_isSome]
    refine ⟨i, ?_, ?_⟩
    · simpa using hi
    · simp [hi, hrow, hfirst, hlast]
  -- both sides make the same search, and it finds something
  obtain ⟨j, hj⟩ := Option.isSome_iff_exists.mp hsome
  rw [hj]
  show some j = some (Option.getD (List.find? _ _) 0)
  rw [hj]
  rfl

/-- The row that is found holds the position. -/
theorem exists_row_locate {rows : List Row} {position : Nat} (h : ∃ r ∈ rows, r.Holds position)
    (t : Text) :
    ∃ r, rows[(locate rows t position).1]? = some r ∧ r.Holds position := by
  have hholds := List.find?_some (find?_row h t)
  rcases hget : rows[(locate rows t position).1]? with - | r
  · simp [hget] at hholds
  · rw [hget] at hholds
    simp only [Option.any_some, Bool.and_eq_true, decide_eq_true_eq] at hholds
    exact ⟨r, rfl, hholds⟩

/-! ### The position of a column -/

/-- The position in a row does not go beyond the row. -/
theorem within_le (column : Nat) (t : Text) : within column t ≤ t.length := by
  induction t generalizing column with
  | nil => exact Nat.le_refl _
  | cons c t ih =>
    unfold within
    split
    · exact Nat.zero_le _
    · rw [List.length_cons, Nat.add_comm]
      exact Nat.succ_le_succ (ih _)

/-- A column of a row has a position in the text. -/
theorem position_le (room : Nat) (t : Text) (row column : Nat) :
    position (ofText room t) t row column ≤ t.length := by
  unfold position
  split
  · exact Nat.le_refl _
  · rename_i r hr
    obtain ⟨horder, hlast⟩ := bounds_of_mem_ofText (List.mem_of_getElem? hr)
    have hfound : r.start + within column (r.text t) ≤ r.stop := by
      have hwithin := within_le column (r.text t)
      have hlength : (r.text t).length ≤ r.stop - r.start := List.length_take_le _ _
      omega
    dsimp only
    split
    · exact Nat.le_trans (Nat.sub_le _ _) hlast
    · exact Nat.le_trans hfound hlast

end Row

/-! ### Moving the view -/

/-- The view holds the row of the cursor, and shows no rows that are not there as long as the
text has enough of them. -/
structure IsInView (e : Editor) : Prop where
  scroll_le : e.scroll ≤ e.cursorAt.1
  lt_scroll : e.cursorAt.1 < e.scroll + e.viewHeight
  le_rows : e.scroll + e.viewHeight ≤ max e.rows.length e.viewHeight
  /-- The row of the cursor is one of the rows, and the cursor is in it. -/
  holds : ∃ r, e.rows[e.cursorAt.1]? = some r ∧ r.Holds e.buffer.cursor

/-- The cursor stands in the text, and the view has room for a row. -/
structure IsSound (e : Editor) : Prop where
  within : e.buffer.IsWithin
  minHeight : 1 ≤ e.minHeight
  maxHeight : 1 ≤ e.maxHeight

namespace IsSound

variable {e : Editor} (h : e.IsSound)
include h

theorem viewHeight_pos : 1 ≤ e.viewHeight := Editor.viewHeight_pos h.minHeight h.maxHeight

/-- The cursor has a row. -/
theorem exists_row : ∃ r, e.rows[e.cursorAt.1]? = some r ∧ r.Holds e.buffer.cursor :=
  Row.exists_row_locate (Row.exists_holds_ofText e.textWidth h.within) e.buffer.text

theorem cursorAt_lt : e.cursorAt.1 < e.rows.length := by
  obtain ⟨r, hr, -⟩ := h.exists_row
  exact (List.getElem?_eq_some_iff.mp hr).1

/-- A view that is moved holds the row of the cursor. -/
theorem isInView_reveal : e.reveal.IsInView := by
  have hpos := h.viewHeight_pos
  have hrow := h.cursorAt_lt
  have htarget : e.scrollTarget ≤ e.cursorAt.1 ∧ e.cursorAt.1 < e.scrollTarget + e.viewHeight ∧
      e.scrollTarget + e.viewHeight ≤ max e.rows.length e.viewHeight := by
    unfold scrollTarget
    dsimp only
    split
    · omega
    · split
      · omega
      · omega
  exact ⟨htarget.1, htarget.2.1, htarget.2.2, h.exists_row⟩

/-- An empty text has one row, and a view that begins there shows it. -/
theorem isInView_of_empty (htext : e.buffer = {}) (hscroll : e.scroll = 0) : e.IsInView := by
  have hpos := h.viewHeight_pos
  have hrow := h.cursorAt_lt
  have hone : e.rows.length = 1 := by
    show (Row.ofText e.textWidth e.buffer.text).length = 1
    rw [htext]
    rfl
  refine ⟨?_, ?_, ?_, h.exists_row⟩
  · omega
  · omega
  · omega

end IsSound

/-- The view of a sound editor holds the cursor. -/
structure IsFollowing (e : Editor) : Prop where
  sound : e.IsSound
  inView : e.IsInView

theorem IsSound.reveal {e : Editor} (h : e.IsSound) : e.reveal.IsFollowing :=
  ⟨⟨h.within, h.minHeight, h.maxHeight⟩, h.isInView_reveal⟩

theorem IsSound.withBuffer {e : Editor} (h : e.IsSound) {b : Buffer} (hb : b.IsWithin) :
    (e.withBuffer b).IsFollowing :=
  IsSound.reveal ⟨hb, h.minHeight, h.maxHeight⟩

/-! ### Operations -/

/-- Something that is done to an editor. -/
inductive Operation where
  | edit (x : Buffer.Edit)
  | up
  | down
  | setWidth (width : Nat)
  | setFocus (part : Part)
  | handle (key : Key)

/-- The editor after an operation. -/
def apply (e : Editor) : Operation → Editor
  | .edit x => e.edit x
  | .up => e.up
  | .down => e.down
  | .setWidth width => e.setWidth width
  | .setFocus part => { e with focus := part }
  | .handle key => (e.handle key).1

/-- The words of an editor and the bounds of its view are given once. -/
theorem frame_apply (e : Editor) (o : Operation) : (e.apply o).frame = e.frame := by
  cases o with
  | edit x =>
    obtain ⟨buffer, focus, scroll, h⟩ := edited_edit e x
    show (e.edit x).frame = e.frame
    rw [h]
    rfl
  | handle key => exact frame_handle e key
  | _ => rfl

/-- No operation changes what surrounds the text. -/
theorem frame_foldl_apply (e : Editor) (os : List Operation) :
    (os.foldl apply e).frame = e.frame := by
  induction os generalizing e with
  | nil => rfl
  | cons o os ih => exact (ih (e.apply o)).trans (e.frame_apply o)

/-- What a key can do to an editor. -/
inductive Answer (e : Editor) : Editor → Prop where
  | nothing : Answer e e
  | setFocus (part : Part) : Answer e { e with focus := part }
  | edit (x : Buffer.Edit) : Answer e (e.edit x)
  | up : Answer e e.up
  | down : Answer e e.down

/-- Whatever a key comes to, the editor answers it. -/
theorem Reads.answer {e f : Editor} {key : Key} {o : Outcome} (h : e.Reads key f o) :
    e.Answer f := by
  cases h with
  | ignore | quit | cancel | submit | refuse => exact .nothing
  | setFocus part => exact .setFocus part
  | edit _ x => exact .edit x
  | up => exact .up
  | down => exact .down

theorem answer_handle (e : Editor) (key : Key) : e.Answer (e.handle key).1 :=
  (e.reads_handle key).answer

namespace IsFollowing

variable {e : Editor} (h : e.IsFollowing)
include h

theorem setFocus (part : Part) : IsFollowing { e with focus := part } :=
  ⟨⟨h.sound.within, h.sound.minHeight, h.sound.maxHeight⟩,
    h.inView.scroll_le, h.inView.lt_scroll, h.inView.le_rows, h.inView.holds⟩

/-- An edit that is refused leaves the view where it was. -/
theorem tryEdit {f : Buffer → Option Buffer} (hf : ((f e.buffer).getD e.buffer).IsWithin) :
    (e.tryEdit f).IsFollowing := by
  unfold Editor.tryEdit
  split
  · rename_i b hb
    rw [hb] at hf
    exact h.sound.withBuffer hf
  · exact h

theorem reset : e.reset.IsFollowing := by
  have hsound : e.reset.IsSound := ⟨Nat.le_refl _, h.sound.minHeight, h.sound.maxHeight⟩
  exact ⟨hsound, hsound.isInView_of_empty rfl rfl⟩

theorem edit (x : Buffer.Edit) : (e.edit x).IsFollowing := by
  have hwithin := h.sound.within.edit x
  cases x with
  | deleteBackward => exact h.tryEdit hwithin
  | deleteForward => exact h.tryEdit hwithin
  | setText t =>
    have hsound : IsSound { e with scroll := 0 } :=
      ⟨h.sound.within, h.sound.minHeight, h.sound.maxHeight⟩
    exact hsound.withBuffer hwithin
  | reset => exact h.reset
  | _ => exact h.sound.withBuffer hwithin

theorem up : e.up.IsFollowing := by
  apply h.sound.withBuffer
  show (if e.cursorAt.1 = 0 then 0 else _) ≤ e.buffer.text.length
  split
  · exact Nat.zero_le _
  · exact Row.position_le _ _ _ _

theorem down : e.down.IsFollowing := by
  apply h.sound.withBuffer
  show (if e.rows.length ≤ e.cursorAt.1 + 1 then _ else _) ≤ e.buffer.text.length
  split
  · exact Nat.le_refl _
  · exact Row.position_le _ _ _ _

theorem setWidth (width : Nat) : (e.setWidth width).IsFollowing :=
  IsSound.reveal ⟨h.sound.within, h.sound.minHeight, h.sound.maxHeight⟩

/-- No key takes the view from the cursor. -/
theorem handle (key : Key) : (e.handle key).1.IsFollowing := by
  have hanswer := e.answer_handle key
  generalize (e.handle key).1 = f at hanswer
  cases hanswer with
  | nothing => exact h
  | setFocus part => exact h.setFocus part
  | edit x => exact h.edit x
  | up => exact h.up
  | down => exact h.down

/-- An operation leaves the cursor in view. -/
theorem apply (o : Operation) : (e.apply o).IsFollowing := by
  cases o with
  | edit x => exact h.edit x
  | up => exact h.up
  | down => exact h.down
  | setWidth width => exact h.setWidth width
  | setFocus part => exact h.setFocus part
  | handle key => exact h.handle key

theorem foldl_apply (os : List Operation) : (os.foldl Editor.apply e).IsFollowing := by
  induction os generalizing e with
  | nil => exact h
  | cons o os ih => exact ih (h.apply o)

end IsFollowing

/-- A new editor, whatever the bounds of its view are to be. -/
theorem isFollowing_withHeights {e : Editor} (htext : e.buffer = {}) (hscroll : e.scroll = 0)
    (least greatest : Nat) : (e.withHeights least greatest).IsFollowing := by
  have hsound : (e.withHeights least greatest).IsSound := by
    refine ⟨?_, Nat.le_max_right _ _, ?_⟩
    · show e.buffer.cursor ≤ e.buffer.text.length
      rw [htext]
      exact Nat.le_refl _
    · exact Nat.le_trans (Nat.le_max_right _ _) (Nat.le_max_right _ _)
  exact ⟨hsound, hsound.isInView_of_empty htext hscroll⟩

/-- Whatever was done to an editor, it is sound, and its words are those it was given. -/
theorem isSound_foldl_apply (placeholder primary secondary : Text) (least greatest : Nat)
    (os : List Operation) :
    let new : Editor := { placeholder, primaryLabel := primary, secondaryLabel := secondary }
    let e := os.foldl apply (new.withHeights least greatest)
    e.IsSound ∧ e.placeholder = placeholder ∧ e.primaryLabel = primary
      ∧ e.secondaryLabel = secondary := by
  intro new e
  have hframe : e.frame = (new.withHeights least greatest).frame := frame_foldl_apply _ os
  simp only [frame, Prod.mk.injEq] at hframe
  exact ⟨((isFollowing_withHeights rfl rfl least greatest).foldl_apply os).sound, hframe.1⟩

/-- **The row of the cursor is in view whatever was done to an editor.**  Its words and the bounds
of its view may be any. -/
theorem isInView_foldl_apply (placeholder primary secondary : Text) (least greatest : Nat)
    (os : List Operation) :
    let new : Editor := { placeholder, primaryLabel := primary, secondaryLabel := secondary }
    (os.foldl apply (new.withHeights least greatest)).IsInView :=
  ((isFollowing_withHeights rfl rfl least greatest).foldl_apply os).inView

end AgentConsole.Editor
