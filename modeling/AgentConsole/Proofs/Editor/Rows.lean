import AgentConsole.Proofs.Editor.Render
import AgentConsole.Proofs.Styled.Flat
import Mathlib.Algebra.GroupWithZero.Nat

/-!
# The rows an editor takes

Wrapping a line of the buffer loses no character of it: the lengths of its rows add up to its own
(`Row.sum_lengths`).  So a row lies inside its line and holds no newline, and the editor is drawn
in as many rows as its view has and two more, for a gap and the buttons (`length_rows_render`).
-/

namespace AgentConsole.Editor

open Styled

/-! ### Rows lie inside their lines -/

namespace Row

/-- The characters read so far. -/
def Wrapping.total (s : Wrapping) : Nat := s.length + s.done.sum

/-- Each character is counted once. -/
theorem Wrapping.total_step (room : Nat) (s : Wrapping) (c : Char) :
    (s.step room c).total = s.total + 1 := by
  unfold step
  dsimp only
  split
  · -- a space closes the word
    simp only [total, length, Option.getD_some]
    omega
  · split
    · split
      · rename_i hnone
        simp only [total, add, length, hnone, Option.getD_none, List.sum_cons]
        omega
      · rename_i h hsome
        split
        · simp only [total, add, length, hsome, Option.getD_none, Option.getD_some, List.sum_cons]
          omega
        · simp only [total, add, length, hsome, Option.getD_none, Option.getD_some, List.sum_cons]
          omega
    · simp only [total, add, length]
      omega

/-- The rows of a line hold all of its characters. -/
theorem sum_lengths (room : Nat) (line : Text) : (lengths room line).sum = line.length := by
  have hfold : ∀ (line : Text) (s : Wrapping),
      (line.foldl (Wrapping.step room) s).total = s.total + line.length := by
    intro line
    induction line with
    | nil => intro s; rfl
    | cons c line ih =>
      intro s
      rw [List.foldl_cons, ih, Wrapping.total_step, List.length_cons]
      omega
  have hall := hfold line {}
  unfold lengths
  dsimp only
  rw [List.sum_reverse, List.sum_cons]
  exact hall.trans (Nat.zero_add _)

/-- The rows of a line lie one after the other from its start on. -/
theorem bounds_of_mem_ranges {line start : Nat} {ns : List Nat} {r : Row}
    (h : r ∈ ranges line start ns) :
    start ≤ r.start ∧ r.start ≤ r.stop ∧ r.stop ≤ start + ns.sum := by
  induction ns generalizing start with
  | nil => exact absurd h List.not_mem_nil
  | cons n ns ih =>
    rw [List.sum_cons]
    rcases List.mem_cons.mp h with rfl | h
    · exact ⟨Nat.le_refl _, Nat.le_add_right _ _, Nat.add_le_add_left (Nat.le_add_right _ _) _⟩
    · obtain ⟨hfirst, horder, hlast⟩ := ih h
      exact ⟨by omega, horder, by omega⟩

/-- A row that lies inside a line is made of characters of the line. -/
theorem text_subset {before line after : Text} {r : Row} (hfirst : before.length ≤ r.start)
    (horder : r.start ≤ r.stop) (hlast : r.stop ≤ before.length + line.length) :
    ∀ c ∈ r.text (before ++ (line ++ after)), c ∈ line := by
  obtain ⟨k, hk⟩ := Nat.exists_eq_add_of_le hfirst
  have htext : r.text (before ++ (line ++ after)) = (line.drop k).take (r.stop - r.start) := by
    unfold text
    rw [hk, List.drop_length_add_append, List.drop_append_of_le_length (by omega),
      List.take_append_of_le_length (by rw [List.length_drop]; omega)]
  intro c hc
  rw [htext] at hc
  exact List.mem_of_mem_drop (List.mem_of_mem_take hc)

/-- No row goes over a newline. -/
theorem flat_of_mem_ofLines (room : Nat) {n : Nat} (before : Text) {lines : List Text}
    (hlines : ∀ line ∈ lines, Flat line) {r : Row} (h : r ∈ ofLines room n before.length lines) :
    Flat (r.text (before ++ Text.ofRows lines)) := by
  -- line by line, with the text before the line carried along
  induction lines generalizing n before with
  | nil => exact absurd h List.not_mem_nil
  | cons line below ih =>
    have hline : Flat line := hlines line List.mem_cons_self
    rcases List.mem_append.mp h with h | h
    · -- a row of the first line
      obtain ⟨hfirst, horder, hlast⟩ := bounds_of_mem_ranges h
      rw [sum_lengths] at hlast
      obtain ⟨after, hafter⟩ : ∃ after, Text.ofRows (line :: below) = line ++ after := by
        rcases below with - | ⟨next, more⟩
        · exact ⟨[], (List.append_nil line).symm⟩
        · exact ⟨_, rfl⟩
      rw [hafter]
      exact hline.of_subset (text_subset hfirst horder hlast)
    · rcases below with - | ⟨next, more⟩
      · exact absurd h List.not_mem_nil
      · -- the other lines begin after a newline
        have hbefore : before ++ Text.ofRows (line :: next :: more)
            = (before ++ line ++ ['\n']) ++ Text.ofRows (next :: more) := by
          rw [Text.ofRows_cons line (List.cons_ne_nil next more)]
          simp
        have hlength : (before ++ line ++ ['\n']).length = before.length + line.length + 1 := by
          rw [List.length_append, List.length_append]
          rfl
        rw [hbefore]
        refine ih (n := n + 1) _ (fun l hl => hlines l (List.mem_cons_of_mem _ hl)) ?_
        rw [hlength]
        exact h

/-- A row of an editor holds no newline. -/
theorem flat_text {room : Nat} {t : Text} {r : Row} (h : r ∈ ofText room t) : Flat (r.text t) := by
  have hrow := flat_of_mem_ofLines room [] (fun _ => flat_of_mem_rows) h
  rwa [List.nil_append, Text.ofRows_rows] at hrow

end Row

/-! ### Drawing -/

section

variable {e : Editor}

theorem viewHeight_pos (hmin : 1 ≤ e.minHeight) (hmax : 1 ≤ e.maxHeight) : 1 ≤ e.viewHeight := by
  unfold viewHeight
  omega

variable (theme : Theme) (active : Bool)

/-- The lines of the view fill its height. -/
theorem length_viewLines (hmin : 1 ≤ e.minHeight) (hmax : 1 ≤ e.maxHeight) :
    (e.viewLines theme active).length = e.viewHeight := by
  have hpos := viewHeight_pos hmin hmax
  unfold viewLines
  split
  · rw [List.length_cons, List.length_replicate]
    omega
  · rw [List.length_map, List.length_range']

/-- There is a line for each row of the view and two more. -/
theorem length_lines (hmin : 1 ≤ e.minHeight) (hmax : 1 ≤ e.maxHeight) :
    (e.lines theme active).length = e.height := by
  unfold lines
  rw [List.length_append, length_viewLines theme active hmin hmax]
  rfl

/-- Every line is drawn as a row of its own, if the words of the editor are single rows. -/
theorem rows_render (hplaceholder : Flat e.placeholder) (hprimary : Flat e.primaryLabel)
    (hsecondary : Flat e.secondaryLabel) :
    (e.render theme active).rows = (e.lines theme active).map (fit · e.width) := by
  have hflat := kind_lines kind_flat hplaceholder hprimary hsecondary (fun _ => Row.flat_text) theme
    active
  rw [render_eq]
  refine Text.rows_ofRows (by simp [lines]) fun row hrow => ?_
  obtain ⟨line, hline, rfl⟩ := List.mem_map.mp hrow
  exact newline_notMem_fit (hflat line hline) e.width

/-- An editor is drawn in the rows of its view and two more. -/
theorem length_rows_render (h : e.IsFurnished) : (e.render theme active).rows.length = e.height := by
  rw [rows_render theme active h.placeholder.2 h.primary.2 h.secondary.2, List.length_map,
    length_lines theme active h.minHeight h.maxHeight]

end

end AgentConsole.Editor
