import AgentConsole.Proofs.Console.Frame
import AgentConsole.Proofs.Editor.Rows
import AgentConsole.Proofs.Frame.Box

/-!
# The modal in its frame

The lists and the help are cut to the height of the terminal, and a confirmation has three rows
between its edges.  So their boxes fit into every frame that is laid out at all, and all of their
rows stand in it.

The view of an editor has bounds of its own, which know nothing of the terminal.  Its box is four
rows higher than the view, and where the terminal has fewer rows, those that are too many are
dropped at the end: first the lower edge, then the buttons, then the text (`lies`).  Five rows are
not enough even for a box that was just opened (`buttons_dropped`).
-/

namespace AgentConsole.Console

open Styled

variable {c : Console}

/-! ### The height of the frame -/

/-- The body is as high as the layout says. -/
theorem length_rows_renderBody (hh : 5 ≤ c.height) :
    c.renderBody.rows.length = c.layout.bodyHeight := by
  have hbody : 0 < c.layout.bodyHeight := by
    show 0 < c.height - 2
    omega
  have houtput : c.renderOutput.rows.length = c.layout.bodyHeight :=
    length_rows_rectangle _ _ hbody
  unfold renderBody
  dsimp only
  split
  · refine length_rows_beside (List.cons_ne_nil _ _) hbody fun block hblock => ?_
    simp only [List.mem_cons, List.not_mem_nil, or_false] at hblock
    -- side by side: the worktrees, a line of signs, the output
    rcases hblock with rfl | rfl | rfl
    · exact length_rows_rectangle _ _ hbody
    · rw [Text.rows_ofRows, List.length_replicate]
      · exact List.ne_nil_of_length_pos (by rwa [List.length_replicate])
      · intro row hrow
        rw [List.eq_of_mem_replicate hrow]
        exact kind_flat.paint (Flat.one (by decide)) _
    · exact houtput
  · exact houtput

/-- The frame has as many rows as the terminal. -/
theorem length_rows_renderMain (hh : 5 ≤ c.height) (hn : c.NamesLack '\n') :
    c.renderMain.rows.length = c.height := by
  obtain ⟨hheader, hfooter⟩ := kind_edges kind_flat hn
  unfold renderMain
  dsimp only
  rw [List.append_assoc, List.cons_append, Text.rows_append_newline, Text.rows_append_newline,
    List.length_append, List.length_append, length_rows_renderBody hh, hheader.rows, hfooter.rows]
  show 1 + (c.height - 2 + 1) = c.height
  omega

/-! ### The size of the box -/

/-- The editor in the box of what has the focus, if that is an editor. -/
def editorShown? (c : Console) : Option Editor :=
  match c.focus.current with
  | .followUp _ => some c.followUpEditor
  | .taskFlow .writePrompt => some c.taskEditor
  | _ => none

/-- The help is no higher than a box may be. -/
theorem length_rows_renderHelp_le (c : Console) :
    c.renderHelp.rows.length ≤ c.layout.modalHeight := by
  have hpos : 1 ≤ c.layout.modalHeight := Nat.le_max_right _ _
  unfold renderHelp
  dsimp only
  generalize hlines : ((View.helpLines c.theme c.modalInner).drop _).take _ = lines
  have hflat : ∀ line ∈ lines, Flat line := by
    intro line hline
    rw [← hlines] at hline
    exact View.kind_helpLines kind_flat _ _ line (List.mem_of_mem_drop (List.mem_of_mem_take hline))
  by_cases hne : lines = []
  · rw [hne]
    exact hpos
  · rw [Text.rows_ofRows hne hflat, ← hlines]
    exact List.length_take_le _ _

/-- A list in its box is no higher than the window. -/
theorem length_rows_list_le {p : Picker} (hf : p.IsFurnished) (hp : p.Lacks '\n')
    (hcut : p.capacity = c.listRows) (hh : 5 ≤ c.height) (inner : Nat) :
    (p.render c.theme inner).rows.length + 2 ≤ c.height := by
  have hrows := Picker.length_rows_render_le hf hp c.theme inner
  have hlist : c.listRows = min (max (max (c.height - 6) 1 - 1) 1) 10 := rfl
  omega

/-- A question has three rows, where no name breaks it. -/
theorem length_rows_confirmation {theme : Theme} {snapshot : Snapshot} {question : Confirmation}
    (h : snapshot.Lacks '\n') (hq : ∀ id, question = .stopSession id → '\n' ∉ id.name.toList) :
    (View.confirmation theme question snapshot).rows.length = 3 := by
  have hquestion := View.kind_question kind_flat h hq
  obtain ⟨keys, hkeys, hlines⟩ : ∃ keys, Flat keys ∧ View.confirmation theme question snapshot
      = View.question question snapshot ++ '\n' :: '\n' :: keys :=
    ⟨_, View.kind_keys kind_flat theme question, rfl⟩
  rw [hlines, Text.rows_append_newline, Text.rows_newline, hquestion.rows, hkeys.rows]
  rfl

/-- What an editor is drawn in has the height of the editor; all else has room in the terminal. -/
theorem Box.length_rows {title content : Text} {inner : Nat} (h : c.Box title content inner)
    (hs : c.IsSound) (hn : c.NamesLack '\n') (hh : 5 ≤ c.height) :
    (∀ e ∈ c.editorShown?, content.rows.length = e.height) ∧
      (c.editorShown? = none → content.rows.length + 2 ≤ c.height) := by
  have htarget := hn.target
  unfold editorShown?
  -- editors have a height of their own, and everything else is cut to the window
  cases h with
  | followUp hfocus =>
    rw [hfocus]
    refine ⟨?_, by simp⟩
    rintro e ⟨rfl⟩
    exact Editor.length_rows_render _ _ hs.furnished.followUpEditor
  | prompt hfocus =>
    rw [hfocus]
    refine ⟨?_, by simp⟩
    rintro e ⟨rfl⟩
    exact Editor.length_rows_render _ _ hs.furnished.taskEditor
  | worktrees hfocus =>
    have hlist := length_rows_list_le hs.furnished.picker hn.picker hs.cut.picker hh c.modalInner
    rcases hfocus with hfocus | hfocus
    · rw [hfocus]
      exact ⟨by simp, fun _ => hlist⟩
    · rw [hfocus]
      exact ⟨by simp, fun _ => hlist⟩
  | sessions hfocus =>
    rw [hfocus]
    exact ⟨by simp, fun _ =>
      length_rows_list_le hs.furnished.browser hn.browser hs.cut.browser hh c.modalInner⟩
  | settings hfocus =>
    rw [hfocus]
    exact ⟨by simp, fun _ =>
      length_rows_list_le hs.furnished.settings hn.settings hs.cut.settings hh c.modalInner⟩
  | help hfocus =>
    have hhelp := c.length_rows_renderHelp_le
    have hmodal : c.layout.modalHeight = max (c.height - 6) 1 := rfl
    rw [hfocus]
    exact ⟨by simp, fun _ => by omega⟩
  | @confirm question hfocus =>
    rw [hfocus] at htarget ⊢
    refine ⟨by simp, fun _ => ?_⟩
    rw [length_rows_confirmation hn.snapshot]
    · exact hh
    · rintro id rfl
      exact htarget

/-- On terminals that are not too narrow a box leaves four columns free. -/
theorem Box.inner_add_le {title content : Text} {inner : Nat} (h : c.Box title content inner)
    (hw : 20 ≤ c.width) : inner + 2 + 4 ≤ c.width := by
  have hmodal : c.layout.modalWidth ≤ c.width - 4 :=
    Nat.max_le.mpr ⟨Nat.min_le_right _ _, Nat.le_sub_of_add_le hw⟩
  have hinner : c.modalInner = max (c.layout.modalWidth - 2) 1 := rfl
  cases h with
  | followUp | prompt | worktrees | sessions | settings | help => omega
  | confirm => omega

/-! ### The box in the frame -/

/-- A row of the modal stands in the frame, in one piece and where the modal is put. -/
def ShowsRow (c : Console) (modal : Text) (i : Nat) : Prop :=
  ∃ line ∈ modal.rows[i]?,
    ∃ row ∈ (c.withModal c.renderMain).rows[(c.height - modal.rows.length) / 2 + i]?, line <:+: row

/-- How a modal lies in the frame. -/
structure Lies (c : Console) (modal : Text) : Prop where
  /-- An editor takes its own height and two edges, however high the terminal is. -/
  editor : ∀ e ∈ c.editorShown?, modal.rows.length = e.height + 2
  /-- Anything else keeps within the height of the terminal. -/
  other : c.editorShown? = none → modal.rows.length ≤ c.height
  /-- Two columns are free on either side. -/
  columns : c.IsPlain → Styled.width modal + 4 ≤ c.width
  /-- Of the rows of the modal, those are shown that the terminal has room for. -/
  shown : c.IsPlain → ∀ i < modal.rows.length, c.ShowsRow modal i ↔ i < c.height
  /-- No row is dropped unless an editor is too high. -/
  whole : c.IsPlain → ((∀ i < modal.rows.length, c.ShowsRow modal i) ↔
    ∀ e ∈ c.editorShown?, e.height + 2 ≤ c.height)

/-- A row of a box is shown if the window reaches that far. -/
theorem showsRow_iff {modal : Text} (hmodal : c.renderModal? = some modal)
    (hmain : c.renderMain.rows.length = c.height)
    (hwidth : ∀ row ∈ modal.rows, rowWidth row = Styled.width modal) {i : Nat}
    (hi : i < modal.rows.length) : c.ShowsRow modal i ↔ i < c.height := by
  have hline : modal.rows[i]? = some modal.rows[i] := List.getElem?_eq_getElem hi
  have hframe : c.withModal c.renderMain
      = Frame.floatCentered c.renderMain modal c.width c.renderMain.rows.length := by
    unfold withModal
    rw [hmodal, hmain]
  have hplaced := Frame.infix_floatCentered_iff c.renderMain c.width hline
    (hwidth _ (List.getElem_mem hi))
  unfold ShowsRow
  rw [hframe, hline, ← hmain]
  simp only [Option.mem_def, Option.some.injEq, exists_eq_left']
  rw [hplaced]
  -- a box that fits is shown from its first row on, and one that does not fit starts at the top
  omega

theorem forall_showsRow_iff {modal : Text}
    (h : ∀ i < modal.rows.length, c.ShowsRow modal i ↔ i < c.height) :
    (∀ i < modal.rows.length, c.ShowsRow modal i) ↔ modal.rows.length ≤ c.height := by
  constructor
  · intro hall
    rcases Nat.lt_or_ge c.height modal.rows.length with hlt | hle
    · -- the row below the last one of the terminal is not shown
      exact absurd ((h c.height hlt).mp (hall c.height hlt)) (Nat.lt_irrefl _)
    · exact hle
  · exact fun hle i hi => (h i hi).mpr (Nat.lt_of_lt_of_le hi hle)

/-- Over the output, every focus has a box. -/
theorem exists_modal (h : c.focus.current ≠ .mainOutput) :
    ∃ modal, c.renderModal? = some modal := by
  unfold renderModal?
  dsimp only
  split
  case h_1 hmain => exact absurd hmain h
  all_goals exact ⟨_, rfl⟩

/-- **How the modal lies in the frame.**  In every state that the console can come to, on a terminal
of at least twenty columns and five rows, as long as no name on the screen holds a newline: whatever
has the focus but the main output is drawn in a box, which is low enough unless it holds an editor
whose height and two edges are more than the terminal has rows.  If no string from outside holds an
ESC, the box is also narrow enough, and its rows are shown as far as the terminal goes; so none of
them is dropped exactly if the box is low enough. -/
theorem lies (h : c.Reachable) (hw : 20 ≤ c.width) (hh : 5 ≤ c.height) (hn : c.NamesLack '\n')
    (hfocus : c.focus.current ≠ .mainOutput) :
    ∃ modal, c.renderModal? = some modal ∧ c.Lies modal := by
  have hs := h.sound
  obtain ⟨modal, hmodal⟩ := exists_modal hfocus
  obtain ⟨border, title, content, inner, hbox, hboxed⟩ := exists_box hmodal
  have hflat : Flat title := hbox.notMem_title kind_flat hs.furnished hn
  have hlength : modal.rows.length = content.rows.length + 2 :=
    hboxed ▸ Frame.length_rows_boxed c.theme border inner hflat
  obtain ⟨heditor, hother⟩ := hbox.length_rows hs hn hh
  have hwidth (hp : c.IsPlain) : Styled.width modal = inner + 2 := by
    obtain ⟨htitle, hcontent⟩ := hbox.solid hs hp
    exact hboxed ▸ Frame.width_boxed c.theme border inner hflat htitle hcontent
  have hshown (hp : c.IsPlain) : ∀ i < modal.rows.length, c.ShowsRow modal i ↔ i < c.height := by
    obtain ⟨htitle, hcontent⟩ := hbox.solid hs hp
    have hrows := Frame.rowWidth_boxed c.theme border inner hflat htitle hcontent
    rw [← hboxed, ← hwidth hp] at hrows
    exact fun i hi => showsRow_iff hmodal (length_rows_renderMain hh hn) hrows hi
  -- the heights need no plain names; the width and the rows that are shown do
  refine ⟨modal, hmodal, ?_, ?_, ?_, hshown, fun hp => (forall_showsRow_iff (hshown hp)).trans ?_⟩
  · exact fun e he => by rw [hlength, heditor e he]
  · exact fun hnone => hlength ▸ hother hnone
  · exact fun hp => hwidth hp ▸ hbox.inner_add_le hw
  · rw [hlength]
    rcases heq : c.editorShown? with - | e
    · exact iff_of_true (hother heq) (by simp)
    · rw [heditor e heq]
      simp

/-- The prompt of a new task, on a terminal of eighty columns and five rows. -/
def cramped : Console :=
  let c := ofTuning {} Theme.fallback (fun name => (Theme.named name, [])) Transcript.markup
  c.start.console.after
    [.snapshot { worktrees := [⟨⟨"w1"⟩, "api", "main", ""⟩] }, .resize 80 5,
      .key { code := .char 'n' }, .key { code := .enter }]

theorem reachable_cramped : cramped.Reachable := (Reachable.ofTuning _ _ _ _).start.after _

theorem size_cramped : cramped.width = 80 ∧ cramped.height = 5 := by decide +kernel

/-- The box of the prompt has seven rows.  The sixth is that of the buttons, and no row of the
frame shows it. -/
theorem buttons_dropped :
    cramped.Reachable ∧ cramped.width = 80 ∧ cramped.height = 5 ∧
      ∃ modal, cramped.renderModal? = some modal ∧ modal.rows.length = 7 ∧
        (∃ line ∈ modal.rows[5]?, "[ Start ]".toList <:+: line) ∧ ¬ cramped.ShowsRow modal 5 := by
  have hbox : ∃ modal ∈ cramped.renderModal?, modal.rows.length = 7 ∧
      ∃ line ∈ modal.rows[5]?, "[ Start ]".toList <:+: line := by decide +kernel
  have hframe : (cramped.withModal cramped.renderMain).rows[5]? = none := by decide +kernel
  obtain ⟨hwidth, hheight⟩ := size_cramped
  obtain ⟨modal, hmodal, hlength, hbuttons⟩ := hbox
  refine ⟨reachable_cramped, hwidth, hheight, modal, hmodal, hlength, hbuttons, ?_⟩
  rintro ⟨line, -, row, hrow, -⟩
  -- the box starts in the first row of the frame, and the frame ends before the sixth
  rw [hheight, hlength] at hrow
  exact absurd (hframe.symm.trans hrow) (by simp)

theorem focus_cramped : cramped.focus.current = .taskFlow .writePrompt := by decide +kernel

theorem namesLack_cramped {x : Char} (hx : x = esc ∨ x = '\n') : cramped.NamesLack x := by
  have hremote : cramped.remote.entries = [] := List.isEmpty_iff.mp (by decide +kernel)
  rcases hx with rfl | rfl
  all_goals exact
    { snapshot := ⟨by decide +kernel, by decide +kernel⟩
      remote := fun id r hr => by simp [Table.get?, hremote] at hr
      target := focus_cramped ▸ trivial
      taskWorktree := by decide +kernel
      picker := ⟨by decide +kernel, by decide +kernel⟩
      browser := ⟨by decide +kernel, by decide +kernel⟩
      settings := ⟨by decide +kernel, by decide +kernel⟩ }

/-- The box of the prompt lies in the frame as far as the frame goes. -/
theorem lies_cramped :
    cramped.Reachable ∧ 20 ≤ cramped.width ∧ 5 ≤ cramped.height ∧ cramped.NamesLack '\n' ∧
      cramped.focus.current ≠ .mainOutput ∧ cramped.IsPlain ∧
      ∃ modal, cramped.renderModal? = some modal ∧ cramped.Lies modal := by
  obtain ⟨hwidth, hheight⟩ := size_cramped
  have hwidth : 20 ≤ cramped.width := hwidth ▸ by decide
  have hheight : 5 ≤ cramped.height := Nat.le_of_eq hheight.symm
  have hnewline : cramped.NamesLack '\n' := namesLack_cramped (.inr rfl)
  have hfocus : cramped.focus.current ≠ .mainOutput := focus_cramped ▸ by decide
  have hplain : cramped.IsPlain := (namesLack_cramped (.inl rfl)).isPlain (by decide +kernel)
    (by decide +kernel) (by decide +kernel)
  exact ⟨reachable_cramped, hwidth, hheight, hnewline, hfocus, hplain,
    lies reachable_cramped hwidth hheight hnewline hfocus⟩

end AgentConsole.Console
