import AgentConsole.Editor.Render
import AgentConsole.Proofs.Editor.Keys
import AgentConsole.Proofs.Styled.Kind

/-!
# Editors are drawn solid

The words on an editor's buttons and in its empty field are the console's own and
never change, and neither do the bounds of its view.  What is drawn of an editor are
lines, each of which is then fitted to its columns (`Editor.lines`, `Editor.render_eq`),
so what holds of its words and of the rows of its text holds of all that is drawn
(`Editor.kind_lines`).

An editor with clean words whose buffer holds no ESC is drawn solid
(`Editor.solid_render`): the cursor is painted over whole characters.
-/

namespace AgentConsole.Editor

open Styled

/-- The words that the console gives the editor are clean, and its view has at least one row. -/
structure IsFurnished (e : Editor) : Prop where
  placeholder : Clean e.placeholder
  primary : Clean e.primaryLabel
  secondary : Clean e.secondaryLabel
  minHeight : 1 ≤ e.minHeight
  maxHeight : 1 ≤ e.maxHeight

/-! ### What the operations leave alone -/

/-- The words of an editor and the bounds of its view. -/
def frame (e : Editor) : (Text × Text × Text) × Nat × Nat :=
  ((e.placeholder, e.primaryLabel, e.secondaryLabel), e.minHeight, e.maxHeight)

/-- What surrounds the text decides whether an editor is furnished. -/
theorem IsFurnished.of_frame {e f : Editor} (h : e.IsFurnished) (hf : f.frame = e.frame) :
    f.IsFurnished := by
  simp only [frame, Prod.mk.injEq] at hf
  obtain ⟨⟨hplaceholder, hprimary, hsecondary⟩, hmin, hmax⟩ := hf
  exact ⟨hplaceholder ▸ h.placeholder, hprimary ▸ h.primary, hsecondary ▸ h.secondary,
    hmin ▸ h.minHeight, hmax ▸ h.maxHeight⟩

@[simp] theorem frame_reset (e : Editor) : e.reset.frame = e.frame := rfl

@[simp] theorem frame_setWidth (e : Editor) (width : Nat) : (e.setWidth width).frame = e.frame := rfl

@[simp] theorem frame_paste (e : Editor) (t : Text) : (e.paste t).frame = e.frame := rfl

/-- The editors differ in the text, the focus and the view only. -/
def Edited (e f : Editor) : Prop := ∃ buffer focus scroll, f = { e with buffer, focus, scroll }

theorem edited_refl (e : Editor) : e.Edited e := ⟨e.buffer, e.focus, e.scroll, rfl⟩

theorem edited_withBuffer (e : Editor) (b : Buffer) : e.Edited (e.withBuffer b) :=
  ⟨b, e.focus, _, rfl⟩

theorem edited_tryEdit (e : Editor) (edit : Buffer → Option Buffer) : e.Edited (e.tryEdit edit) := by
  unfold tryEdit
  split
  · exact edited_withBuffer e _
  · exact edited_refl e

theorem edited_edit (e : Editor) (x : Buffer.Edit) : e.Edited (e.edit x) := by
  cases x with
  | deleteBackward => exact edited_tryEdit e _
  | deleteForward => exact edited_tryEdit e _
  | _ => exact ⟨_, _, _, rfl⟩

/-- Whatever a key does is an edit, or less. -/
theorem Reads.edited {e f : Editor} {key : Key} {o : Outcome} (h : e.Reads key f o) :
    e.Edited f := by
  cases h with
  | ignore | quit | cancel | submit | refuse => exact edited_refl e
  | setFocus part => exact ⟨_, _, _, rfl⟩
  | edit _ x => exact edited_edit e x
  | up | down => exact edited_withBuffer e _

/-- Keys change the text, the focus and the view; all else stays. -/
theorem edited_handle (e : Editor) (key : Key) : e.Edited (e.handle key).1 :=
  (e.reads_handle key).edited

@[simp] theorem frame_handle (e : Editor) (key : Key) : (e.handle key).1.frame = e.frame := by
  obtain ⟨buffer, focus, scroll, h⟩ := edited_handle e key
  rw [h]
  rfl

/-! ### The lines that are drawn -/

/-- What is drawn in row `i` of the text, before it is fitted to the columns. -/
def line (e : Editor) (active : Bool) (i : Nat) : Text :=
  match e.rows[i]? with
  | none => []
  | some r =>
    if active && e.focus = .field && i = e.cursorAt.1 then
      withCursor e.cursorAt.2 (r.text e.buffer.text)
    else r.text e.buffer.text

/-- What is drawn in an empty field. -/
def prompt (e : Editor) (theme : Theme) (active : Bool) : Text :=
  (if active && e.focus = .field then Styled.inverse [' '] else [' ']) ++ theme.muted e.placeholder

/-- The lines of the view. -/
def viewLines (e : Editor) (theme : Theme) (active : Bool) : List Text :=
  if e.buffer.text.isEmpty then e.prompt theme active :: List.replicate (e.viewHeight - 1) []
  else (List.range' e.scrollTarget e.viewHeight).map (e.line active)

/-- All lines of an editor, of which that of the buttons comes last. -/
def lines (e : Editor) (theme : Theme) (active : Bool) : List Text :=
  e.viewLines theme active ++ [[], e.buttons theme active]

theorem fit_nil (room : Nat) : Styled.fit [] room = Text.spaces room := rfl

/-- The rows of the view are its lines, fitted. -/
theorem viewRows_eq (e : Editor) (theme : Theme) (active : Bool) :
    e.viewRows theme active = (e.viewLines theme active).map (fit · e.width) := by
  unfold viewRows viewLines
  dsimp only
  split
  · rw [List.map_cons, List.map_replicate, fit_nil]
    rfl
  · rw [List.map_map]
    refine List.map_congr_left fun i _ => ?_
    unfold line
    dsimp only [Function.comp]
    rcases e.rows[i]? with - | r
    · exact (fit_nil e.width).symm
    · rfl

/-- Every line of an editor is fitted to its columns. -/
theorem render_eq (e : Editor) (theme : Theme) (active : Bool) :
    e.render theme active = Text.ofRows ((e.lines theme active).map (fit · e.width)) := by
  unfold render lines
  rw [viewRows_eq, List.map_append]
  rfl

section

variable {x : Char} {P : Text → Prop} (k : Kind x P)
include k

/-- A cursor is put into a line without changing its kind. -/
theorem kind_withCursor (column : Nat) {t : Text} (h : x ∉ t) : P (withCursor column t) := by
  induction t generalizing column with
  | nil => exact k.inverse (k.one (by decide))
  | cons c t ih =>
    simp only [List.mem_cons, not_or] at h
    have hone : P [c] := k.of_notMem fun hmem => h.1 (List.mem_singleton.mp hmem)
    unfold withCursor
    split
    · exact k.append (k.inverse hone) (k.of_notMem h.2)
    · exact k.append hone (ih _ h.2)

theorem kind_button (theme : Theme) {label : Text} (h : P label) (focused : Bool) :
    P (button theme label focused) := by
  have hface : P ('[' :: ' ' :: label ++ [' ', ']']) :=
    k.append (k.cons (by decide) (k.cons (by decide) h)) (k.words (by decide))
  unfold button
  split
  · exact k.inverse hface
  · exact k.muted hface theme

variable {e : Editor}

theorem kind_buttons (hprimary : P e.primaryLabel) (hsecondary : P e.secondaryLabel) (theme : Theme)
    (active : Bool) : P (e.buttons theme active) :=
  k.append (k.append (kind_button k theme hprimary _) (k.words (by decide)))
    (kind_button k theme hsecondary _)

/-- Lines are of the kind of the text. -/
theorem kind_line (hrows : ∀ r ∈ e.rows, x ∉ r.text e.buffer.text) (active : Bool) (i : Nat) :
    P (e.line active i) := by
  unfold line
  split
  · exact k.nil
  · rename_i r hr
    have htext := hrows r (List.mem_of_getElem? hr)
    split
    · exact kind_withCursor k _ htext
    · exact k.of_notMem htext

theorem kind_prompt (hplaceholder : P e.placeholder) (theme : Theme) (active : Bool) :
    P (e.prompt theme active) := by
  refine k.append ?_ (k.muted hplaceholder theme)
  split
  · exact k.inverse (k.one (by decide))
  · exact k.one (by decide)

theorem kind_viewLines (hplaceholder : P e.placeholder)
    (hrows : ∀ r ∈ e.rows, x ∉ r.text e.buffer.text) (theme : Theme) (active : Bool) :
    ∀ line ∈ e.viewLines theme active, P line := by
  intro line hline
  unfold viewLines at hline
  split at hline
  · rcases List.mem_cons.mp hline with rfl | hline
    · exact kind_prompt k hplaceholder theme active
    · rw [List.eq_of_mem_replicate hline]
      exact k.nil
  · obtain ⟨i, -, rfl⟩ := List.mem_map.mp hline
    exact kind_line k hrows active i

/-- What holds of the words of an editor and of its rows holds of all its lines. -/
theorem kind_lines (hplaceholder : P e.placeholder) (hprimary : P e.primaryLabel)
    (hsecondary : P e.secondaryLabel) (hrows : ∀ r ∈ e.rows, x ∉ r.text e.buffer.text)
    (theme : Theme) (active : Bool) : ∀ line ∈ e.lines theme active, P line := by
  intro line hline
  rcases List.mem_append.mp hline with hline | hline
  · exact kind_viewLines k hplaceholder hrows theme active line hline
  · simp only [List.mem_cons, List.not_mem_nil, or_false] at hline
    rcases hline with rfl | rfl
    · exact k.nil
    · exact kind_buttons k hprimary hsecondary theme active

end

theorem esc_notMem_text {e : Editor} (h : esc ∉ e.buffer.text) (r : Row) :
    esc ∉ r.text e.buffer.text := fun hmem =>
  h (List.mem_of_mem_drop (List.mem_of_mem_take hmem))

/-- The lines of a furnished editor over a plain text are solid. -/
theorem solid_lines {e : Editor} (hf : e.IsFurnished) (h : esc ∉ e.buffer.text) (theme : Theme)
    (active : Bool) : ∀ line ∈ e.lines theme active, Solid line :=
  kind_lines kind_solid (kind_solid.words hf.placeholder) (kind_solid.words hf.primary)
    (kind_solid.words hf.secondary) (fun r _ => esc_notMem_text h r) theme active

/-- A furnished editor over a plain text is drawn solid. -/
theorem solid_render {e : Editor} (hf : e.IsFurnished) (h : esc ∉ e.buffer.text) (theme : Theme)
    (active : Bool) : Solid (e.render theme active) := by
  rw [render_eq]
  refine solid_ofRows fun row hrow => ?_
  obtain ⟨line, hline, rfl⟩ := List.mem_map.mp hrow
  exact (solid_lines hf h theme active line hline).fit e.width

end AgentConsole.Editor
