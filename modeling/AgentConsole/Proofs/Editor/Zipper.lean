import AgentConsole.Proofs.Editor.Change

/-!
# The editor as a zipper

A zipper is a text opened at the cursor.  What stands before the cursor is read backwards from
it, so that every edit takes something off the heads of two lists or puts something there, and
no position is ever counted.  Editing a buffer comes to the same (`Zipper.buffer_edit`), and so
does every sequence of edits (`Editor.isAt_foldl_edit`).

A pasted text has its line endings unified and its tabs spread out.  The zipper does this by
replacing one after the other from left to right (`Text.replaceAll`), a buffer in one pass.
-/

namespace AgentConsole

/-! ### Replacing -/

namespace Text

/-- The text with every occurrence of another text replaced, from left to right. -/
def replaceAll (t old new : Text) : Text :=
  match t with
  | [] => []
  | c :: t =>
    if old.isPrefixOf (c :: t) then new ++ replaceAll (t.drop (old.length - 1)) old new
    else c :: replaceAll t old new
termination_by t.length

/-- Replacing one character is done character by character. -/
theorem replaceAll_singleton (t : Text) (a : Char) (new : Text) :
    t.replaceAll [a] new = t.flatMap fun c => if c = a then new else [c] := by
  induction t with
  | nil => rw [replaceAll, List.flatMap_nil]
  | cons c t ih =>
    rw [replaceAll, List.flatMap_cons]
    by_cases hc : c = a
    · simp [hc, ih]
    · simp [hc, Ne.symm hc, ih]

end Text

/-- A text opened at the cursor. -/
structure Zipper where
  /-- What stands before the cursor, the nearest character first. -/
  before : List Char := []
  /-- What stands after the cursor, the nearest character first. -/
  after : List Char := []
  deriving DecidableEq, Repr

namespace Zipper

/-- The whole text. -/
def text (z : Zipper) : Text := z.before.reverse ++ z.after

/-- The text and the position of the cursor in it. -/
def buffer (z : Zipper) : Buffer := ⟨z.text, z.before.length⟩

/-- A text with its line endings written as newlines. -/
def unified (t : Text) : Text :=
  (t.replaceAll ['\r', '\n'] ['\n']).replaceAll ['\r'] ['\n']

/-- A text as it is inserted, with four spaces for a tab. -/
def inserted (t : Text) : Text := (unified t).replaceAll ['\t'] [' ', ' ', ' ', ' ']

/-- The zipper after an edit. -/
def edit (z : Zipper) : Buffer.Edit → Zipper
  | .insertChar c => { z with before := c :: z.before }
  | .insertText t => { z with before := (inserted t).reverse ++ z.before }
  | .deleteBackward => { z with before := z.before.tail }
  | .deleteForward => { z with after := z.after.tail }
  | .deleteToLineStart => { z with before := z.before.dropWhile (· ≠ '\n') }
  | .deleteToLineEnd => { z with after := z.after.dropWhile (· ≠ '\n') }
  | .deleteWordBackward =>
    { z with
      before := (z.before.dropWhile (· = ' ')).dropWhile fun c => c ≠ ' ' && c ≠ '\n' }
  | .left =>
    match z.before with
    | [] => z
    | c :: s => ⟨s, c :: z.after⟩
  | .right =>
    match z.after with
    | [] => z
    | c :: t => ⟨c :: z.before, t⟩
  | .lineStart =>
    ⟨z.before.dropWhile (· ≠ '\n'), (z.before.takeWhile (· ≠ '\n')).reverse ++ z.after⟩
  | .lineEnd =>
    ⟨(z.after.takeWhile (· ≠ '\n')).reverse ++ z.before, z.after.dropWhile (· ≠ '\n')⟩
  | .setText t => ⟨(unified t).reverse, []⟩
  | .moveTo position => ⟨(z.text.take position).reverse, z.text.drop position⟩
  | .reset => {}

/-! ### Pasted texts -/

/-- Newlines are unified as they are read. -/
theorem unifyNewlines_eq (t : Text) : Buffer.unifyNewlines t = unified t := by
  unfold unified
  rw [Text.replaceAll_singleton]
  -- the program reads both line endings in one pass, the definition replaces one after the other
  induction t using Buffer.unifyNewlines.induct with
  | case1 => rw [Text.replaceAll]; rfl
  | case2 t ih => rw [Text.replaceAll, Buffer.unifyNewlines, ih]; simp
  | case3 c t hpair ih =>
    have hstart : ¬ List.isPrefixOf ['\r', '\n'] (c :: t) := by
      intro hprefix
      obtain ⟨rest, hrest⟩ := List.isPrefixOf_iff_prefix.mp hprefix
      obtain ⟨rfl, rfl⟩ := List.cons.inj hrest
      exact hpair rest rfl rfl
    rw [Text.replaceAll, if_neg hstart, Buffer.unifyNewlines, ih]
    · by_cases hc : c = '\r'
      · simp [hc]
      · simp [hc]
    · exact hpair

theorem pasted_eq (t : Text) : Buffer.pasted t = inserted t := by
  unfold inserted
  rw [Text.replaceAll_singleton, ← unifyNewlines_eq]
  rfl

/-! ### One edit -/

theorem buffer_eq_between (z : Zipper) : z.buffer = Buffer.between z.before.reverse z.after := by
  show Buffer.mk _ z.before.length = ⟨_, z.before.reverse.length⟩
  rw [List.length_reverse]
  rfl

/-- What is taken off the head of what stands before the cursor is taken off the end of the text
before it. -/
theorem dropEndWhile_reverse (p : Char → Bool) (s : List Char) :
    Text.dropEndWhile p s.reverse = (s.dropWhile p).reverse := by
  show (s.reverse.reverse.dropWhile p).reverse = _
  rw [List.reverse_reverse]

/-- An edit of a buffer does what the edit of a zipper does. -/
theorem buffer_edit (z : Zipper) (x : Buffer.Edit) : z.buffer.edit x = (z.edit x).buffer := by
  obtain ⟨s, t⟩ := z
  rw [buffer_eq_between, buffer_eq_between]
  -- deletions and motions drop from the half before the cursor, which is kept from its end
  cases x with
  | insertChar c => simp [Buffer.edit, edit, Buffer.insert]
  | insertText x => simp [Buffer.edit, edit, Buffer.insert, pasted_eq]
  | deleteBackward =>
    rw [Buffer.edit_deleteBackward, List.dropLast_reverse]
    rfl
  | deleteForward => exact Buffer.edit_deleteForward _ _
  | deleteToLineStart =>
    rw [Buffer.edit_deleteToLineStart, dropEndWhile_reverse]
    rfl
  | deleteToLineEnd => exact Buffer.edit_deleteToLineEnd _ _
  | deleteWordBackward =>
    rw [Buffer.edit_deleteWordBackward, dropEndWhile_reverse, dropEndWhile_reverse]
    rfl
  | left =>
    rw [Buffer.edit_left]
    cases s with
    | nil => simp [edit, Buffer.between]
    | cons c s => simp [edit, Buffer.between]
  | right =>
    cases t with
    | nil => simp [Buffer.edit, Buffer.right, Buffer.moveTo, edit, Buffer.between]
    | cons c t => simp [Buffer.edit, Buffer.right, Buffer.moveTo, edit, Buffer.between]
  | lineStart =>
    have hline : s.reverse
        = (s.dropWhile (· ≠ '\n')).reverse ++ (s.takeWhile (· ≠ '\n')).reverse := by
      rw [← List.reverse_append, List.takeWhile_append_dropWhile]
    rw [Buffer.edit_lineStart, dropEndWhile_reverse]
    nth_rewrite 1 [hline]
    simp [edit, Buffer.between]
  | lineEnd =>
    rw [Buffer.edit_lineEnd]
    simp [edit, Buffer.between]
  | setText x =>
    show Buffer.ofText x = Buffer.between (unified x).reverse.reverse []
    rw [List.reverse_reverse, ← unifyNewlines_eq]
    rfl
  | moveTo position =>
    simp [Buffer.edit, Buffer.moveTo, edit, Buffer.between, text]
  | reset => rfl

end Zipper

/-- After an edit the cursor stands in the text or at one of its ends. -/
theorem Buffer.IsWithin.edit {b : Buffer} (h : b.IsWithin) (x : Buffer.Edit) :
    (b.edit x).IsWithin := by
  have hzipper : b = Zipper.buffer ⟨b.before.reverse, b.after⟩ := by
    rw [Zipper.buffer_eq_between, List.reverse_reverse, h.between]
  rw [hzipper, Zipper.buffer_edit, Zipper.buffer_eq_between]
  exact isWithin_between _ _

namespace Zipper

/-! ### Sequences of edits -/

/-- So many deletions take so many characters before the cursor. -/
theorem foldl_deleteBackward (n : Nat) (z : Zipper) :
    (List.replicate n .deleteBackward).foldl edit z = { z with before := z.before.drop n } := by
  induction n generalizing z with
  | zero => rfl
  | succ n ih =>
    rw [List.replicate_succ, List.foldl_cons, ih]
    show Zipper.mk (z.before.tail.drop n) z.after = _
    rw [List.drop_tail]

/-- Typing pushes on the half before the cursor. -/
theorem foldl_insertChar (t : Text) (z : Zipper) :
    (t.map Buffer.Edit.insertChar).foldl edit z = { z with before := t.reverse ++ z.before } := by
  induction t generalizing z with
  | nil => rfl
  | cons c t ih =>
    rw [List.map_cons, List.foldl_cons, ih, List.reverse_cons, List.append_assoc]
    rfl

end Zipper

namespace Editor

/-- Edits in turn, on both sides. -/
theorem buffer_foldl_edit {e : Editor} {z : Zipper} (h : e.buffer = z.buffer)
    (xs : List Buffer.Edit) : (xs.foldl edit e).buffer = (xs.foldl Zipper.edit z).buffer := by
  induction xs generalizing e z with
  | nil => exact h
  | cons x xs ih =>
    apply ih
    rw [buffer_edit, h, Zipper.buffer_edit]

/-- The editor stands where the zipper does, and takes edits as it should. -/
structure IsAt (e : Editor) (z : Zipper) : Prop where
  /-- The text and the cursor are those of the zipper. -/
  buffer : e.buffer = ⟨z.before.reverse ++ z.after, z.before.length⟩
  cursor_le : e.buffer.cursor ≤ e.buffer.text.length
  /-- An edit exchanges the bytes between the offsets of two positions for those of a text. -/
  bytes : ∀ x : Buffer.Edit,
    (e.edit x).buffer.text.utf8 = (x.change e.buffer).onBytes e.buffer.text
  cursor : ∀ x : Buffer.Edit,
    (e.edit x).buffer.cursor
      = (x.change e.buffer).start + (x.change e.buffer).text.length
  /-- What was pasted is gone after a deletion for each of its characters. -/
  pasted : ∀ t : Text,
    ((.insertText t :: List.replicate (Zipper.inserted t).length .deleteBackward).foldl edit
      e).buffer = e.buffer
  /-- So is what was typed. -/
  typed : ∀ t : Text,
    ((t.map Buffer.Edit.insertChar ++ List.replicate t.length Buffer.Edit.deleteBackward).foldl edit
      e).buffer = e.buffer

/-- An editor with the buffer of a zipper is at it. -/
theorem isAt_of_buffer {e : Editor} {z : Zipper} (h : e.buffer = z.buffer) : e.IsAt z := by
  have hbetween : e.buffer = Buffer.between z.before.reverse z.after :=
    h.trans z.buffer_eq_between
  have hchange (x : Buffer.Edit) : (e.edit x).buffer = (x.change e.buffer).apply e.buffer := by
    rw [buffer_edit, hbetween]
    exact Buffer.edit_between _ _ x
  -- the last two: what is typed or pasted is deleted again, character by character
  refine ⟨h, ?_, ?_, ?_, ?_, ?_⟩
  · rw [hbetween]
    exact Buffer.isWithin_between _ _
  · intro x
    rw [hchange]
    exact Buffer.Change.utf8_apply _ _
  · intro x
    rw [hchange]
    rfl
  · intro t
    rw [buffer_foldl_edit h, List.foldl_cons, Zipper.foldl_deleteBackward, h]
    simp [Zipper.edit]
  · intro t
    rw [buffer_foldl_edit h, List.foldl_append, Zipper.foldl_insertChar,
      Zipper.foldl_deleteBackward, h]
    simp

/-- **Every sequence of edits does to an editor what it does to a zipper.** -/
theorem isAt_foldl_edit (e : Editor) (before after : Text) (xs : List Buffer.Edit) :
    (xs.foldl edit { e with buffer := Buffer.between before after }).IsAt
      (xs.foldl Zipper.edit ⟨before.reverse, after⟩) := by
  apply isAt_of_buffer
  apply buffer_foldl_edit
  rw [Zipper.buffer_eq_between, List.reverse_reverse]

end Editor

end AgentConsole
