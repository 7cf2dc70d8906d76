import AgentConsole.Proofs.Editor.View
import AgentConsole.Proofs.Frame.Rectangle

/-!
# The block an editor is drawn in

An editor is drawn as a block: one row for each row of its view, an empty one and that of the
buttons.  That there are as many rows as the editor asks for needs nothing of the text, since no
row of it holds a newline (`rows_render`).

Whether the rows are as wide as the editor is another matter.  The text is wrapped by its characters,
and an ESC is one of them; but a row is filled up behind what it shows, and where it ends inside an
escape sequence the spaces are read as part of that sequence.  So the rows that come out too narrow
are exactly those whose last sequence is open (`isRectangle_render_iff`), and there are none as long
as nobody types or pastes an ESC (`isRectangle_render_of_plain`).
-/

namespace AgentConsole.Editor

open Styled

section

variable {e : Editor} (hplaceholder : Flat e.placeholder) (hprimary : Flat e.primaryLabel)
  (hsecondary : Flat e.secondaryLabel) (hmin : 1 ≤ e.minHeight) (hmax : 1 ≤ e.maxHeight)
include hplaceholder hprimary hsecondary hmin hmax

/-- The block is exact if every line of it can be filled up. -/
theorem isRectangle_render_iff_lines (theme : Theme) (active : Bool) :
    IsRectangle (e.render theme active) e.width e.height ↔
      ∀ line ∈ e.lines theme active, EscapeComplete line ∨ e.width ≤ rowWidth line := by
  have hflat := kind_lines kind_flat hplaceholder hprimary hsecondary (fun _ => Row.flat_text) theme
    active
  have hrows := rows_render theme active hplaceholder hprimary hsecondary
  -- the height is right in any case, so it is a matter of the width of each line
  constructor
  · intro hrectangle line hline
    refine (rowWidth_fit_iff (hflat line hline) e.width).mp (hrectangle.rowWidth ?_)
    rw [hrows]
    exact List.mem_map_of_mem hline
  · intro hlines
    refine isRectangle_of_rowWidth ?_ fun row hrow => ?_
    · rw [hrows, List.length_map, length_lines theme active hmin hmax]
    · rw [hrows] at hrow
      obtain ⟨line, hline, rfl⟩ := List.mem_map.mp hrow
      exact (rowWidth_fit_iff (hflat line hline) e.width).mpr (hlines line hline)

end

/-- The block of a furnished editor is exact as long as nothing in its text acts on a terminal. -/
theorem isRectangle_render_of_plain {e : Editor} (hf : e.IsFurnished) (h : esc ∉ e.buffer.text)
    (theme : Theme) (active : Bool) : IsRectangle (e.render theme active) e.width e.height :=
  (isRectangle_render_iff_lines hf.placeholder.2 hf.primary.2 hf.secondary.2 hf.minHeight hf.maxHeight
    theme active).mpr fun line hline => .inl (solid_lines hf h theme active line hline).escapeComplete

/-- **The block of an editor has exactly its rows, and exactly its columns as long as no row in view
ends inside an escape sequence.**  The words of the editor are single rows; whatever is typed or
pasted, moved or focused, the block is exact if and only if every line is finished or leaves nothing
to fill. -/
theorem isRectangle_render_iff {placeholder primary secondary : Text} (hplaceholder : Flat placeholder)
    (hprimary : Flat primary) (hsecondary : Flat secondary) (least greatest : Nat)
    (os : List Operation) (theme : Theme) (active : Bool) :
    let new : Editor := { placeholder, primaryLabel := primary, secondaryLabel := secondary }
    let e := os.foldl apply (new.withHeights least greatest)
    (e.render theme active).rows.length = e.height ∧
      (IsRectangle (e.render theme active) e.width e.height ↔
        ∀ line ∈ e.lines theme active, EscapeComplete line ∨ e.width ≤ rowWidth line) := by
  intro new e
  obtain ⟨hsound, hp, hq, hr⟩ := isSound_foldl_apply placeholder primary secondary least greatest os
  have hplaceholder : Flat e.placeholder := hp ▸ hplaceholder
  have hprimary : Flat e.primaryLabel := hq ▸ hprimary
  have hsecondary : Flat e.secondaryLabel := hr ▸ hsecondary
  refine ⟨?_, isRectangle_render_iff_lines hplaceholder hprimary hsecondary hsound.minHeight
    hsound.maxHeight theme active⟩
  rw [rows_render theme active hplaceholder hprimary hsecondary, List.length_map,
    length_lines theme active hsound.minHeight hsound.maxHeight]

/-- A word is pasted with its colour, over which the cursor then stands. -/
theorem isRectangle_render_iff_red :
    let new : Editor := { placeholder := "Describe".toList }
    let os := [Operation.setWidth 20, .edit (.insertText "a \x1b[31mred\x1b[0m".toList), .up]
    let e := os.foldl apply (new.withHeights 1 3)
    Flat "Describe".toList ∧ Flat "Submit".toList ∧ Flat "Cancel".toList
      ∧ IsRectangle (e.render Theme.fallback true) e.width e.height := by
  intro new os e
  have hwords : Flat "Describe".toList ∧ Flat "Submit".toList ∧ Flat "Cancel".toList := by
    decide +kernel
  have hlines : ∀ line ∈ e.lines Theme.fallback true, IsComplete line := by decide +kernel
  refine ⟨hwords.1, hwords.2.1, hwords.2.2, ?_⟩
  exact (isRectangle_render_iff hwords.1 hwords.2.1 hwords.2.2 1 3 os Theme.fallback true).2.mpr
    fun line hline => .inl (hlines line hline).solid.escapeComplete

/-- A word is pasted with its colour, and the row ends behind the ESC of the second sequence, which
then takes the first of the spaces. -/
theorem pasted_colour_falls_short :
    let os := [Operation.setWidth 8, .edit (.insertText "\x1b[31mred\x1b[0m".toList)]
    let e := os.foldl apply (({} : Editor).withHeights 1 3)
    let row := "\x1b[31mred\x1b".toList ++ Text.spaces 5
    e.width = 8 ∧ (e.render Theme.fallback false).rows.head? = some row ∧ Styled.width row = 7
      ∧ ¬ IsRectangle (e.render Theme.fallback false) e.width e.height := by
  intro os e row
  have hhead : (e.render Theme.fallback false).rows.head? = some row := by decide +kernel
  refine ⟨rfl, hhead, by decide +kernel, fun h => ?_⟩
  have hwidth : Styled.width row = e.width := h.row row (List.mem_of_head? hhead)
  exact absurd hwidth (by decide +kernel)

end AgentConsole.Editor
