import AgentConsole.Proofs.Editor.Change

/-!
# What an editor makes of a key

The keys of an editor are told apart one after the other: first what works wherever the focus is,
then what the button in focus takes, or the field.  An earlier case could take away what belongs
to a later one.

`Editor.Reads` lists what a key can come to, each outcome with what it takes, and every key comes
to one of these (`reads_handle`).  Nothing but an outcome of `handled` is listed with an editor
that has changed, and nothing but the field with an edit.  Which keys send the text is said
beforehand (`Editor.Sends`), and they are all taken for what they are (`handle_of_sends`).
-/

namespace AgentConsole.Editor

/-- Does the key ask for the text to be sent?  Ctrl-S does everywhere, Enter on the first button,
and in the field where it is not held down with a modifier that makes it a newline and the text
says something. -/
def Sends (e : Editor) (key : Key) : Prop :=
  key.kind ≠ .release
    ∧ (key.code = .char 's' ∧ key.control
      ∨ key.code = .enter ∧ e.focus = .primary
      ∨ key.code = .enter ∧ e.focus = .field ∧ ¬key.shift ∧ ¬key.alt
        ∧ ∃ c ∈ e.buffer.text, ¬Unicode.isBlank c)

/-- What a key can come to: the editor after it, and the outcome. -/
inductive Reads (e : Editor) (key : Key) : Editor → Outcome → Prop
  | ignore : Reads e key e .unhandled
  | quit (hkey : key.code = .char 'c' ∧ key.control) : Reads e key e .quit
  | cancel : Reads e key e .cancel
  | submit (hsends : e.Sends key) : Reads e key e .submit
  /-- Enter in a field whose text says nothing. -/
  | refuse : Reads e key e .handled
  | setFocus (part : Part) : Reads e key { e with focus := part } .handled
  | edit (hfocus : e.focus = .field) (x : Buffer.Edit) : Reads e key (e.edit x) .handled
  | up (hfocus : e.focus = .field) : Reads e key e.up .handled
  | down (hfocus : e.focus = .field) : Reads e key e.down .handled

/-! ### Every key is read -/

section

variable (e : Editor) (key : Key)

/-- A text says something if one of its characters is not blank. -/
theorem not_isBlank_iff : ¬e.buffer.isBlank ↔ ∃ c ∈ e.buffer.text, ¬Unicode.isBlank c := by
  simp [Buffer.isBlank, Text.isBlank]

/-- In the field, each key is an edit, a motion over rows or nothing. -/
theorem reads_handleInField (hfocus : e.focus = .field) :
    e.Reads key (e.handleInField key).1 (e.handleInField key).2 := by
  unfold handleInField
  -- characters come first: some of them are edits with control held
  cases key.code
  case char c =>
    dsimp only
    split_ifs
    · exact .edit hfocus (.insertChar '\n')
    · exact .edit hfocus .lineStart
    · exact .edit hfocus .lineEnd
    · exact .edit hfocus .deleteToLineStart
    · exact .edit hfocus .deleteToLineEnd
    · exact .edit hfocus .deleteWordBackward
    · exact .ignore
    · exact .ignore
    · exact .edit hfocus (.insertChar c)
  case backspace => exact .edit hfocus .deleteBackward
  case delete => exact .edit hfocus .deleteForward
  case left => exact .edit hfocus .left
  case right => exact .edit hfocus .right
  case up => exact .up hfocus
  case down => exact .down hfocus
  case home => exact .edit hfocus .lineStart
  case «end» => exact .edit hfocus .lineEnd
  all_goals exact .ignore

variable {key}

/-- Enter presses the button in focus. -/
theorem reads_handleEnter (hkind : key.kind ≠ .release) (hcode : key.code = .enter) :
    e.Reads key (e.handleEnter key).1 (e.handleEnter key).2 := by
  unfold handleEnter
  split
  -- in the field Enter sends, unless it is held with a key for a new line or there is nothing to
  -- send
  · rename_i hfocus
    split
    · exact .edit hfocus (.insertChar '\n')
    · rename_i hplain
      rw [Bool.or_eq_true, not_or] at hplain
      split
      · exact .refuse
      · rename_i hblank
        have htext := e.not_isBlank_iff.mp hblank
        exact .submit ⟨hkind, .inr (.inr ⟨hcode, hfocus, hplain.1, hplain.2, htext⟩)⟩
  · rename_i hfocus
    exact .submit ⟨hkind, .inr (.inl ⟨hcode, hfocus⟩)⟩
  · exact .cancel

variable (key)

/-- At a button, keys move the focus. -/
theorem reads_handleAtButton : e.Reads key (e.handleAtButton key).1 (e.handleAtButton key).2 := by
  unfold handleAtButton
  split
  · exact .setFocus _
  · exact .setFocus _
  · exact .ignore

/-- Every key comes to something that is listed. -/
theorem reads_handle : e.Reads key (e.handle key).1 (e.handle key).2 := by
  -- in the order in which the program asks: released, interrupt, send, and then the key itself
  unfold handle
  split
  · exact .ignore
  · rename_i hkind
    split
    · exact .quit ‹_›
    · split
      · exact .submit ⟨hkind, .inl ‹_›⟩
      · split
        · exact .cancel
        · exact .setFocus _
        · exact .setFocus _
        · exact reads_handleEnter e hkind ‹_›
        · split
          · exact reads_handleInField e key ‹_›
          · exact reads_handleAtButton e key

/-- No key that sends the text is taken for another one. -/
theorem handle_of_sends {e : Editor} {key : Key} (h : e.Sends key) :
    e.handle key = (e, .submit) := by
  obtain ⟨hkind, ⟨hcode, hcontrol⟩ | ⟨hcode, hfocus⟩ | ⟨hcode, hfocus, hshift, halt, htext⟩⟩ := h
  · simp [handle, hkind, hcode, hcontrol]
  · simp [handle, handleEnter, hkind, hcode, hfocus]
  · have hblank := e.not_isBlank_iff.mpr htext
    simp [handle, handleEnter, hkind, hcode, hfocus, hshift, halt, hblank]

end

/-! ### What the owner of an editor relies on -/

namespace Reads

variable {e f : Editor} {key : Key} {o : Outcome}

theorem eq_of_ne_handled (h : e.Reads key f o) (ho : o ≠ .handled) : f = e := by
  cases h with
  | ignore | quit | cancel | submit => rfl
  | refuse | setFocus | edit | up | down => exact absurd rfl ho

/-- Only the field is edited. -/
theorem field_of_ne (h : e.Reads key f o) (hbuffer : f.buffer ≠ e.buffer) :
    e.focus = .field ∧ o = .handled := by
  cases h with
  | edit hfocus | up hfocus | down hfocus => exact ⟨hfocus, rfl⟩
  | ignore | quit | cancel | submit | refuse | setFocus => exact absurd rfl hbuffer

theorem sends (h : e.Reads key f .submit) : e.Sends key := by
  cases h with
  | submit hsends => exact hsends

theorem interrupts (h : e.Reads key f .quit) : key.code = .char 'c' ∧ key.control := by
  cases h with
  | quit hkey => exact hkey

end Reads

/-- What a key does to an editor, and what it tells the owner of the editor. -/
structure Obeys (e : Editor) (key : Key) : Prop where
  /-- Unless the key was handled the editor is as it was. -/
  unchanged : (e.handle key).2 ≠ .handled → (e.handle key).1 = e
  /-- The text and the cursor change in the field only, and by keys that are handled. -/
  edited : (e.handle key).1.buffer ≠ e.buffer → e.focus = .field ∧ (e.handle key).2 = .handled
  submit_iff : (e.handle key).2 = .submit ↔ e.Sends key

/-- **Every key is read as its owner expects**, whatever the state of the editor is. -/
theorem obeys_key (e : Editor) (key : Key) : e.Obeys key where
  unchanged := (e.reads_handle key).eq_of_ne_handled
  edited := (e.reads_handle key).field_of_ne
  submit_iff := by
    constructor
    · intro hsubmit
      have hreads := e.reads_handle key
      rw [hsubmit] at hreads
      exact hreads.sends
    · intro h
      rw [handle_of_sends h]

end AgentConsole.Editor
