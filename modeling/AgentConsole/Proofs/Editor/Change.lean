import AgentConsole.Editor.Basic
import Mathlib.Data.List.DropRight

/-!
# Edits as changes of bytes

The cursor of a buffer counts characters, but a text in memory is its UTF-8 form.  A change
(`Buffer.Change`) takes out what stands between two positions and puts a text there.  On the
bytes it happens between the offsets at which the characters at these positions begin
(`Buffer.Change.utf8_apply`), so that no character is ever cut in two.

Every edit is such a change (`Buffer.edit_between`), and a motion is one that changes nothing
and leaves the cursor elsewhere.  Two positions have to be searched for.  The bounds of the line
around the cursor come from a scan of the whole text (`Buffer.lineBounds`), and the start of the
word before the cursor from two walks backwards (`Buffer.wordStart`).
-/

namespace AgentConsole

/-! ### Offsets -/

namespace Text

/-- The UTF-8 form of a text. -/
def utf8 (t : Text) : List UInt8 := t.flatMap String.utf8EncodeChar

/-- The offset at which the character at a position begins; beyond the end, that of the end. -/
def offset : Text → Nat → Nat
  | [], _ => 0
  | _ :: _, 0 => 0
  | c :: t, n + 1 => c.utf8Size + offset t n

@[simp] theorem utf8_nil : utf8 [] = [] := rfl

@[simp] theorem utf8_cons (c : Char) (t : Text) :
    utf8 (c :: t) = String.utf8EncodeChar c ++ utf8 t := rfl

@[simp] theorem utf8_append (s t : Text) : utf8 (s ++ t) = utf8 s ++ utf8 t :=
  List.flatMap_append

/-- Characters are cut where their bytes are. -/
theorem utf8_take (t : Text) (n : Nat) : utf8 (t.take n) = (utf8 t).take (t.offset n) := by
  induction t generalizing n with
  | nil => simp
  | cons c t ih =>
    cases n with
    | zero => simp [offset]
    | succ n =>
      rw [List.take_succ_cons, utf8_cons, utf8_cons, ih, offset,
        ← String.length_utf8EncodeChar, List.take_length_add_append]

theorem utf8_drop (t : Text) (n : Nat) : utf8 (t.drop n) = (utf8 t).drop (t.offset n) := by
  induction t generalizing n with
  | nil => simp
  | cons c t ih =>
    cases n with
    | zero => simp [offset]
    | succ n =>
      rw [List.drop_succ_cons, utf8_cons, ih, offset, ← String.length_utf8EncodeChar,
        List.drop_length_add_append]

/-! ### The end of a text -/

section

variable (p : Char → Bool)

theorem dropEndWhile_concat (t : Text) (c : Char) :
    dropEndWhile p (t ++ [c]) = if p c then dropEndWhile p t else t ++ [c] :=
  List.rdropWhile_concat p t c

theorem dropEndWhile_prefix (t : Text) : dropEndWhile p t <+: t := List.rdropWhile_prefix p t

end

/-- What stands at the start of a text is found again by its length. -/
theorem take_length_of_prefix {r s : Text} (h : r <+: s) (t : Text) :
    (s ++ t).take r.length = r :=
  (List.prefix_iff_eq_take.mp (h.trans (List.prefix_append s t))).symm

end Text

namespace Buffer

/-! ### Changes -/

/-- What stands between two positions gives way to a text, and the cursor goes behind it. -/
structure Change where
  start : Nat
  stop : Nat
  text : Text := []
  deriving DecidableEq, Repr

namespace Change

/-- The buffer after a change. -/
def apply (x : Change) (b : Buffer) : Buffer :=
  ⟨b.text.take x.start ++ x.text ++ b.text.drop x.stop, x.start + x.text.length⟩

/-- The same on bytes: what stands between two offsets gives way to other bytes. -/
def onBytes (x : Change) (t : Text) : List UInt8 :=
  t.utf8.take (t.offset x.start) ++ x.text.utf8 ++ t.utf8.drop (t.offset x.stop)

/-- A change of a text is a change of its bytes. -/
theorem utf8_apply (x : Change) (b : Buffer) : (x.apply b).text.utf8 = x.onBytes b.text := by
  show Text.utf8 (b.text.take x.start ++ x.text ++ b.text.drop x.stop) = _
  rw [Text.utf8_append, Text.utf8_append, Text.utf8_take, Text.utf8_drop]
  rfl

end Change

/-! ### The line around the cursor -/

/-- Reads on from position `i`, where the line that began at `start` has not ended.  The first
newline that is not before the cursor ends the search. -/
def scanLine (cursor start i : Nat) : Text → Nat × Nat
  | [] => (start, i)
  | c :: t =>
    if c = '\n' then
      if cursor ≤ i then (start, i) else scanLine cursor (i + 1) (i + 1) t
    else scanLine cursor start (i + 1) t

/-- The positions between which the line of the cursor stands. -/
def lineBounds (b : Buffer) : Nat × Nat := scanLine b.cursor 0 0 b.text

/-- Behind the cursor, only the end of the line is looked for. -/
theorem scanLine_of_le {cursor i : Nat} (h : cursor ≤ i) (start : Nat) (t : Text) :
    scanLine cursor start i t = (start, i + (t.takeWhile (· ≠ '\n')).length) := by
  induction t generalizing i with
  | nil => rfl
  | cons c t ih =>
    by_cases hc : c = '\n'
    · simp [scanLine, hc, h]
    · simp [scanLine, hc, ih (Nat.le_succ_of_le h)]
      omega

/-- The start of the line is what the scan has seen last when it comes to the cursor. -/
theorem scanLine_append (seen rest after : Text) :
    scanLine (seen.length + rest.length) (seen.dropEndWhile (· ≠ '\n')).length seen.length
        (rest ++ after)
      = (((seen ++ rest).dropEndWhile (· ≠ '\n')).length,
          seen.length + rest.length + (after.takeWhile (· ≠ '\n')).length) := by
  induction rest generalizing seen with
  | nil =>
    rw [List.nil_append, List.append_nil]
    exact scanLine_of_le (Nat.le_refl _) _ _
  | cons c rest ih =>
    have hlength : (seen ++ [c]).length = seen.length + 1 := List.length_append
    have hstep := ih (seen ++ [c])
    rw [hlength, Text.dropEndWhile_concat, List.append_assoc, List.singleton_append,
      Nat.add_assoc, Nat.add_comm 1] at hstep
    by_cases hc : c = '\n'
    · -- the line ends before the cursor, so the next one begins behind it
      rw [if_neg (by simp [hc]), hlength] at hstep
      rw [List.cons_append, scanLine, if_pos hc, if_neg (by simp)]
      exact hstep
    · rw [if_pos (by simp [hc])] at hstep
      rw [List.cons_append, scanLine, if_neg hc]
      exact hstep

/-- The line of the cursor ends at the newlines around it. -/
theorem lineBounds_between (before after : Text) :
    (between before after).lineBounds
      = ((before.dropEndWhile (· ≠ '\n')).length,
          before.length + (after.takeWhile (· ≠ '\n')).length) := by
  have hscan := scanLine_append [] before after
  simpa [lineBounds, between, Text.dropEndWhile] using hscan

/-! ### The word before the cursor -/

/-- Walks back from a position while the character before it satisfies `p`. -/
def walkBack (p : Char → Bool) (t : Text) : Nat → Nat
  | 0 => 0
  | n + 1 => if t[n]?.any p then walkBack p t n else n + 1

/-- Where the word before the cursor starts, with the spaces behind it. -/
def wordStart (b : Buffer) : Nat :=
  walkBack (fun c => c ≠ ' ' && c ≠ '\n') b.text (walkBack (· = ' ') b.text b.cursor)

/-- Walking back is dropping from the end. -/
theorem walkBack_append (p : Char → Bool) (before after : Text) :
    walkBack p (before ++ after) before.length = (before.dropEndWhile p).length := by
  induction before using List.reverseRecOn generalizing after with
  | nil => rfl
  | append_singleton before c ih =>
    have hlast : (before ++ [c] ++ after)[before.length]? = some c := by simp
    rw [List.length_append, List.length_singleton, walkBack, hlast, Text.dropEndWhile_concat,
      List.append_assoc, ih]
    by_cases hc : p c
    · simp [hc]
    · simp [hc]

/-- A word is walked over with the spaces behind it. -/
theorem wordStart_between (before after : Text) :
    (between before after).wordStart
      = ((before.dropEndWhile (· = ' ')).dropEndWhile fun c => c ≠ ' ' && c ≠ '\n').length := by
  -- the spaces that the first walk has passed belong to what the second one has behind it
  obtain ⟨spaces, hspaces⟩ : before.dropEndWhile (· = ' ') <+: before :=
    Text.dropEndWhile_prefix _ _
  show walkBack _ (before ++ after) (walkBack _ (before ++ after) before.length) = _
  rw [walkBack_append]
  nth_rewrite 1 [← hspaces]
  rw [List.append_assoc, walkBack_append]

/-! ### Between two texts -/

section

variable (before after : Text)

@[simp] theorem text_between : (between before after).text = before ++ after := rfl

@[simp] theorem cursor_between : (between before after).cursor = before.length := rfl

@[simp] theorem before_between : (between before after).before = before := List.take_left

@[simp] theorem after_between : (between before after).after = after := List.drop_left

end

/-- The cursor stands in the text or at one of its ends. -/
def IsWithin (b : Buffer) : Prop := b.cursor ≤ b.text.length

@[simp] theorem isWithin_between (before after : Text) : (between before after).IsWithin := by
  show before.length ≤ (before ++ after).length
  rw [List.length_append]
  omega

/-- A buffer is what stands before its cursor and what stands after it. -/
theorem IsWithin.between {b : Buffer} (h : b.IsWithin) : between b.before b.after = b := by
  show Buffer.mk (b.text.take b.cursor ++ b.text.drop b.cursor) (b.text.take b.cursor).length = b
  rw [List.take_append_drop, List.length_take_of_le h]

/-! ### Edits -/

/-- An edit of the text or a motion in it. -/
inductive Edit where
  | insertChar (c : Char)
  | insertText (t : Text)
  | deleteBackward
  | deleteForward
  | deleteToLineStart
  | deleteToLineEnd
  | deleteWordBackward
  | left
  | right
  | lineStart
  | lineEnd
  | setText (t : Text)
  | moveTo (position : Nat)
  | reset
  deriving DecidableEq, Repr

/-- The buffer after an edit. -/
def edit (b : Buffer) : Edit → Buffer
  | .insertChar c => b.insert [c]
  | .insertText t => b.insert (pasted t)
  | .deleteBackward => b.deleteBackward?.getD b
  | .deleteForward => b.deleteForward?.getD b
  | .deleteToLineStart => b.deleteToLineStart
  | .deleteToLineEnd => b.deleteToLineEnd
  | .deleteWordBackward => b.deleteWordBackward
  | .left => b.left
  | .right => b.right
  | .lineStart => b.lineStart
  | .lineEnd => b.lineEnd
  | .setText t => ofText t
  | .moveTo position => b.moveTo position
  | .reset => {}

/-- The change that an edit makes.  A motion takes nothing out and puts nothing in. -/
def Edit.change (b : Buffer) : Edit → Change
  | .insertChar c => ⟨b.cursor, b.cursor, [c]⟩
  | .insertText t => ⟨b.cursor, b.cursor, pasted t⟩
  | .deleteBackward => ⟨b.cursor - 1, b.cursor, []⟩
  | .deleteForward => ⟨b.cursor, b.cursor + 1, []⟩
  | .deleteToLineStart => ⟨b.lineBounds.1, b.cursor, []⟩
  | .deleteToLineEnd => ⟨b.cursor, b.lineBounds.2, []⟩
  | .deleteWordBackward => ⟨b.wordStart, b.cursor, []⟩
  | .left => ⟨b.cursor - 1, b.cursor - 1, []⟩
  | .right => ⟨min (b.cursor + 1) b.text.length, min (b.cursor + 1) b.text.length, []⟩
  | .lineStart => ⟨b.lineBounds.1, b.lineBounds.1, []⟩
  | .lineEnd => ⟨b.lineBounds.2, b.lineBounds.2, []⟩
  | .setText t => ⟨0, b.text.length, unifyNewlines t⟩
  | .moveTo position => ⟨min position b.text.length, min position b.text.length, []⟩
  | .reset => ⟨0, b.text.length, []⟩

theorem Change.apply_motion (b : Buffer) (n : Nat) :
    Change.apply ⟨n, n, []⟩ b = { b with cursor := n } := by
  show Buffer.mk (b.text.take n ++ [] ++ b.text.drop n) n = ⟨b.text, n⟩
  rw [List.append_nil, List.take_append_drop]

/-- A change is known from what stands before and behind the cursor then. -/
theorem Change.apply_eq_between {x : Change} {b : Buffer} {s t : Text}
    (hbefore : b.text.take x.start ++ x.text = s) (hafter : b.text.drop x.stop = t)
    (hcursor : x.start + x.text.length = s.length) : x.apply b = Buffer.between s t := by
  subst hbefore hafter
  exact congrArg _ hcursor

section

variable (s t : Text)

/-- The character before the cursor goes. -/
theorem edit_deleteBackward : (between s t).edit .deleteBackward = between s.dropLast t := by
  show (if (between s t).before.isEmpty then none
    else some (between (between s t).before.dropLast (between s t).after)).getD _ = _
  rw [before_between, after_between]
  cases s with
  | nil => rfl
  | cons c s => rfl

/-- The character behind the cursor goes. -/
theorem edit_deleteForward : (between s t).edit .deleteForward = between s t.tail := by
  show ((between s t).deleteForward?).getD _ = _
  rw [deleteForward?, before_between, after_between]
  cases t with
  | nil => rfl
  | cons c t => rfl

theorem edit_deleteToLineStart :
    (between s t).edit .deleteToLineStart = between (s.dropEndWhile (· ≠ '\n')) t := by
  show between ((between s t).before.dropEndWhile _) (between s t).after = _
  rw [before_between, after_between]

theorem edit_deleteToLineEnd :
    (between s t).edit .deleteToLineEnd = between s (t.dropWhile (· ≠ '\n')) := by
  show between (between s t).before ((between s t).after.dropWhile _) = _
  rw [before_between, after_between]

/-- The word before the cursor goes, with the spaces behind it. -/
theorem edit_deleteWordBackward :
    (between s t).edit .deleteWordBackward
      = between ((s.dropEndWhile (· = ' ')).dropEndWhile fun c => c ≠ ' ' && c ≠ '\n') t := by
  show between (((between s t).before.dropEndWhile _).dropEndWhile _) (between s t).after = _
  rw [before_between, after_between]

theorem edit_left : (between s t).edit .left = ⟨s ++ t, s.length - 1⟩ := by
  show Buffer.mk (s ++ t) (min (s.length - 1) (s ++ t).length) = _
  rw [Nat.min_eq_left]
  rw [List.length_append]
  omega

theorem edit_lineStart :
    (between s t).edit .lineStart = ⟨s ++ t, (s.dropEndWhile (· ≠ '\n')).length⟩ := by
  show Buffer.mk (s ++ t) ((between s t).before.dropEndWhile _).length = _
  rw [before_between]

theorem edit_lineEnd :
    (between s t).edit .lineEnd = ⟨s ++ t, s.length + (t.takeWhile (· ≠ '\n')).length⟩ := by
  show Buffer.mk (s ++ t) ((between s t).before.length + ((between s t).after.takeWhile _).length)
    = _
  rw [before_between, after_between]

/-- Every edit is a change, and every motion an empty one. -/
theorem edit_between (x : Edit) :
    (between s t).edit x = (x.change (between s t)).apply (between s t) := by
  symm
  -- a deletion is compared through the two texts around the cursor, a motion through its target
  cases x with
  | insertChar c | insertText =>
    refine Change.apply_eq_between ?_ ?_ ?_
    all_goals simp [Edit.change]
  | deleteBackward =>
    rw [edit_deleteBackward]
    apply Change.apply_eq_between
    · simp [Edit.change, List.dropLast_eq_take, List.take_append_of_le_length]
    · simp [Edit.change]
    · simp [Edit.change]
  | deleteForward =>
    rw [edit_deleteForward]
    apply Change.apply_eq_between
    · simp [Edit.change]
    · simp [Edit.change, List.drop_append]
    · simp [Edit.change]
  | deleteToLineStart =>
    rw [edit_deleteToLineStart]
    apply Change.apply_eq_between
    · show (s ++ t).take (between s t).lineBounds.1 ++ [] = _
      rw [lineBounds_between, List.append_nil]
      exact Text.take_length_of_prefix (Text.dropEndWhile_prefix _ s) t
    · simp [Edit.change]
    · simp [Edit.change, lineBounds_between]
  | deleteToLineEnd =>
    rw [edit_deleteToLineEnd]
    have hafter : t.drop (t.takeWhile (· ≠ '\n')).length = t.dropWhile (· ≠ '\n') := by
      nth_rewrite 2 [← List.takeWhile_append_dropWhile (p := (· ≠ '\n')) (l := t)]
      exact List.drop_left
    apply Change.apply_eq_between
    · simp [Edit.change]
    · show (s ++ t).drop (between s t).lineBounds.2 = _
      rw [lineBounds_between, List.drop_length_add_append, hafter]
    · simp [Edit.change]
  | deleteWordBackward =>
    rw [edit_deleteWordBackward]
    apply Change.apply_eq_between
    · show (s ++ t).take (between s t).wordStart ++ [] = _
      rw [wordStart_between, List.append_nil]
      refine Text.take_length_of_prefix ?_ t
      exact (Text.dropEndWhile_prefix _ _).trans (Text.dropEndWhile_prefix _ s)
    · simp [Edit.change]
    · simp [Edit.change, wordStart_between]
  | left =>
    rw [edit_left]
    exact Change.apply_motion _ _
  | right => exact Change.apply_motion _ _
  | moveTo position => exact Change.apply_motion _ _
  | lineStart =>
    rw [edit_lineStart]
    show Change.apply ⟨_, _, []⟩ _ = _
    rw [lineBounds_between]
    exact Change.apply_motion _ _
  | lineEnd =>
    rw [edit_lineEnd]
    show Change.apply ⟨_, _, []⟩ _ = _
    rw [lineBounds_between]
    exact Change.apply_motion _ _
  | setText t =>
    show _ = between (unifyNewlines t) []
    refine Change.apply_eq_between ?_ ?_ ?_
    all_goals simp [Edit.change]
  | reset =>
    show _ = between [] []
    refine Change.apply_eq_between ?_ ?_ ?_
    all_goals simp [Edit.change]

end

end Buffer

namespace Editor

/-- The editor after an edit of its buffer. -/
def edit (e : Editor) : Buffer.Edit → Editor
  | .insertChar c => e.insertChar c
  | .insertText t => e.paste t
  | .deleteBackward => e.tryEdit Buffer.deleteBackward?
  | .deleteForward => e.tryEdit Buffer.deleteForward?
  | .deleteToLineStart => e.withBuffer e.buffer.deleteToLineStart
  | .deleteToLineEnd => e.withBuffer e.buffer.deleteToLineEnd
  | .deleteWordBackward => e.withBuffer e.buffer.deleteWordBackward
  | .left => e.withBuffer e.buffer.left
  | .right => e.withBuffer e.buffer.right
  | .lineStart => e.withBuffer e.buffer.lineStart
  | .lineEnd => e.withBuffer e.buffer.lineEnd
  | .setText t => e.setText t
  | .moveTo position => e.moveTo position
  | .reset => e.reset

/-- An edit that is refused changes nothing. -/
theorem buffer_tryEdit (e : Editor) (f : Buffer → Option Buffer) :
    (e.tryEdit f).buffer = (f e.buffer).getD e.buffer := by
  unfold tryEdit
  cases f e.buffer with
  | none => rfl
  | some b => rfl

/-- The editor edits its buffer. -/
@[simp] theorem buffer_edit (e : Editor) (x : Buffer.Edit) :
    (e.edit x).buffer = e.buffer.edit x := by
  cases x with
  | deleteBackward => exact buffer_tryEdit e _
  | deleteForward => exact buffer_tryEdit e _
  | _ => rfl

end Editor

end AgentConsole
