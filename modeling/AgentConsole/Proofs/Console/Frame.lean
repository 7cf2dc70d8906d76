import AgentConsole.Console.Render
import AgentConsole.Proofs.Console.Reach
import AgentConsole.Proofs.Frame.Rectangle

/-!
# The size of the screen

The screen is cut from one text: header, body and footer, spliced with the modal
and again with the toasts.  That text is solid as long as the strings that came
from outside hold no ESC (`Console.IsPlain`) and no stored row ends inside an
escape sequence, whatever has the focus and however small the terminal is.  A
rectangle cut from a solid text has exactly the rows and columns asked for
(`Console.render_size`).
-/

namespace AgentConsole

open Styled

/-! ### What came from outside -/

/-- The identities in a target hold no ESC. -/
def Target.IsPlain : Target → Prop
  | followUp session | confirm (.stopSession session) => esc ∉ session.name.toList
  | _ => True

/-- The identities in a target do not hold a character. -/
def Target.Lacks (x : Char) : Target → Prop
  | followUp session | confirm (.stopSession session) => x ∉ session.name.toList
  | _ => True

theorem Target.lacks_esc_iff {target : Target} : target.Lacks esc ↔ target.IsPlain := by
  rcases target with - | - | - | - | - | (- | -) | - | - <;> exact Iff.rfl

/-- No string that came from outside holds an ESC: names, branches and agents, the
forge's words, messages, what was typed, and the labels in the lists. -/
structure Console.IsPlain (c : Console) : Prop where
  snapshot : c.snapshot.IsPlain
  remote : ∀ id, ∀ r ∈ c.remote.get? id, r.IsPlain
  target : c.focus.current.IsPlain
  taskWorktree : ∀ id ∈ c.taskWorktree, esc ∉ id.name.toList
  toasts : ∀ t ∈ c.toasts.toasts, esc ∉ t.message
  taskEditor : esc ∉ c.taskEditor.buffer.text
  followUpEditor : esc ∉ c.followUpEditor.buffer.text
  picker : c.picker.IsPlain
  browser : c.browser.IsPlain
  settings : c.settings.IsPlain

namespace Console

/-! ### Names on the screen -/

/-- No name from outside that is shown holds a character: neither one of the snapshot or of the
forge, nor one in a list. -/
structure NamesLack (x : Char) (c : Console) : Prop where
  snapshot : c.snapshot.Lacks x
  remote : ∀ id, ∀ r ∈ c.remote.get? id, r.Lacks x
  target : c.focus.current.Lacks x
  taskWorktree : ∀ id ∈ c.taskWorktree, x ∉ id.name.toList
  picker : c.picker.Lacks x
  browser : c.browser.Lacks x
  settings : c.settings.Lacks x

/-- In a plain console no name has an escape. -/
theorem IsPlain.namesLack {c : Console} (h : c.IsPlain) : c.NamesLack esc where
  snapshot := h.snapshot.lacks
  remote := h.remote
  target := Target.lacks_esc_iff.mpr h.target
  taskWorktree := h.taskWorktree
  picker := Picker.lacks_esc_iff.mpr h.picker
  browser := Picker.lacks_esc_iff.mpr h.browser
  settings := Picker.lacks_esc_iff.mpr h.settings

/-- Beside the names there are the toasts and the texts in the editors. -/
theorem NamesLack.isPlain {c : Console} (h : c.NamesLack esc)
    (htoasts : ∀ t ∈ c.toasts.toasts, esc ∉ t.message)
    (htask : esc ∉ c.taskEditor.buffer.text) (hfollow : esc ∉ c.followUpEditor.buffer.text) :
    c.IsPlain where
  snapshot := ⟨h.snapshot.worktree, h.snapshot.session⟩
  remote := h.remote
  target := Target.lacks_esc_iff.mp h.target
  taskWorktree := h.taskWorktree
  toasts := htoasts
  taskEditor := htask
  followUpEditor := hfollow
  picker := Picker.lacks_esc_iff.mp h.picker
  browser := Picker.lacks_esc_iff.mp h.browser
  settings := Picker.lacks_esc_iff.mp h.settings

section

variable {x : Char} {P : Text → Prop} (k : Kind x P) {c : Console} (h : c.NamesLack x)
include h

theorem NamesLack.notMem_worktreeName {id : WorktreeId} (hid : x ∉ id.name.toList) :
    x ∉ c.worktreeName id := h.snapshot.notMem_name hid

include k

/-- The header and the footer. -/
theorem kind_edges :
    P (View.header c.theme c.snapshot c.selected (c.selected.bind c.remote.get?) c.width) ∧
    P (View.footer c.theme c.focus.current
      (if c.scroll.pinned then [] else '↑' :: Text.ofNat c.scroll.offset) c.width) := by
  have hremote : ∀ r ∈ c.selected.bind c.remote.get?, r.Lacks x := by
    intro r hr
    obtain ⟨id, -, hid⟩ := Option.bind_eq_some_iff.mp hr
    exact h.remote id r hid
  have hnote : P (if c.scroll.pinned then [] else '↑' :: Text.ofNat c.scroll.offset) := by
    split
    · exact k.nil
    · exact k.cons (by decide) (k.ofNat _)
  exact ⟨View.kind_header k _ h.snapshot _ hremote _, View.kind_footer k _ _ hnote _⟩

end

/-! ### The box of what has the focus -/

/-- The name of the worktree of a session, or its identity if it is unknown. -/
def sessionName (c : Console) (session : SessionId) : Text :=
  match c.snapshot.session? session with
  | some s => c.worktreeName s.worktree
  | none => session.name.toList

/-- The title, the content and the columns of the box of the target that has the focus. -/
inductive Box (c : Console) : Text → Text → Nat → Prop where
  | followUp {session : SessionId} (h : c.focus.current = .followUp session) :
    Box c ("Follow-up · ".toList ++ c.sessionName session) (c.followUpEditor.render c.theme true)
      c.modalInner
  | prompt (h : c.focus.current = .taskFlow .writePrompt) :
    Box c ("New task · ".toList ++ (c.taskWorktree.map c.worktreeName).getD [])
      (c.taskEditor.render c.theme true) c.modalInner
  | worktrees (h : c.focus.current = .worktreePicker ∨ c.focus.current = .taskFlow .pickWorktree) :
    Box c c.picker.title (c.picker.render c.theme c.modalInner) c.modalInner
  | sessions (h : c.focus.current = .sessionBrowser) :
    Box c c.browser.title (c.browser.render c.theme c.modalInner) c.modalInner
  | settings (h : c.focus.current = .settings) :
    Box c c.settings.title (c.settings.render c.theme c.modalInner) c.modalInner
  | help (h : c.focus.current = .help) : Box c "Keys".toList c.renderHelp c.modalInner
  | confirm {question : Confirmation} (h : c.focus.current = .confirm question) :
    Box c "Confirm".toList (View.confirmation c.theme question c.snapshot) (min c.modalInner 48)

/-- A modal is such a box. -/
theorem exists_box {c : Console} {modal : Text} (h : c.renderModal? = some modal) :
    ∃ border title content inner, c.Box title content inner ∧
      modal = Frame.boxed c.theme border title content inner := by
  unfold renderModal? at h
  dsimp only at h
  -- the main output has no box; each other target has its case in `renderModal?`
  split at h
  case h_1 => exact absurd h (by simp)
  case h_2 hfocus => exact ⟨_, _, _, _, .followUp hfocus, (Option.some.inj h).symm⟩
  case h_3 hfocus => exact ⟨_, _, _, _, .worktrees (.inr hfocus), (Option.some.inj h).symm⟩
  case h_4 hfocus => exact ⟨_, _, _, _, .worktrees (.inl hfocus), (Option.some.inj h).symm⟩
  case h_5 hfocus => exact ⟨_, _, _, _, .prompt hfocus, (Option.some.inj h).symm⟩
  case h_6 hfocus => exact ⟨_, _, _, _, .sessions hfocus, (Option.some.inj h).symm⟩
  case h_7 hfocus => exact ⟨_, _, _, _, .settings hfocus, (Option.some.inj h).symm⟩
  case h_8 hfocus => exact ⟨_, _, _, _, .help hfocus, (Option.some.inj h).symm⟩
  case h_9 hfocus => exact ⟨_, _, _, _, .confirm hfocus, (Option.some.inj h).symm⟩

/-- A title is made of words and names. -/
theorem Box.notMem_title {x : Char} {P : Text → Prop} (k : Kind x P) {c : Console}
    {title content : Text} {inner : Nat} (h : c.Box title content inner) (hf : c.IsFurnished)
    (hn : c.NamesLack x) : x ∉ title := by
  have htarget := hn.target
  have hjoined {t u : Text} (ht : x ∉ t) (hu : x ∉ u) : x ∉ t ++ u := fun hmem =>
    (List.mem_append.mp hmem).elim ht hu
  -- the titles of editors name a session or a worktree, the others are fixed
  cases h with
  | followUp hfocus =>
    rw [hfocus] at htarget
    refine hjoined (k.notMem_literal (by decide)) ?_
    unfold sessionName
    split
    · exact hn.notMem_worktreeName (hn.snapshot.of_session? ‹_›).1
    · exact htarget
  | prompt hfocus =>
    refine hjoined (k.notMem_literal (by decide)) ?_
    rcases hid : c.taskWorktree with - | id
    · exact List.not_mem_nil
    · exact hn.notMem_worktreeName (hn.taskWorktree id hid)
  | worktrees hfocus => exact k.notMem_words hf.picker.title
  | sessions hfocus => exact k.notMem_words hf.browser.title
  | settings hfocus => exact k.notMem_words hf.settings.title
  | help hfocus => exact k.notMem_literal (by decide)
  | confirm hfocus => exact k.notMem_literal (by decide)

/-! ### The parts of the screen -/

section

variable {c : Console} (hs : c.IsSound) (hp : c.IsPlain)
  (hrows : ∀ id, ∀ row ∈ c.outputRows id, EscapeComplete row)

include hs hrows in
/-- The rows of the log were complete by assumption. -/
theorem solid_viewedRows : ∀ row ∈ c.viewedRows, Solid row := by
  intro row hrow
  unfold viewedRows at hrow
  rcases hid : c.selected with - | id
  · rw [hid] at hrow
    exact absurd hrow List.not_mem_nil
  · rw [hid] at hrow
    exact (hrows id row hrow).solid (hs.rows id row hrow)

include hs hrows in
theorem solid_renderOutput : Solid c.renderOutput := by
  refine Solid.rectangle ?_ _ _
  split
  · exact View.kind_emptyOutput kind_solid _ _ _
  · exact Frame.Window.solid_render (solid_viewedRows hs hrows) _ _ _

include hs hp hrows in
theorem solid_renderBody : Solid c.renderBody := by
  have houtput := solid_renderOutput hs hrows
  unfold renderBody
  dsimp only
  split
  · refine Solid.beside fun block hblock => ?_
    simp only [List.mem_cons, List.not_mem_nil, or_false] at hblock
    rcases hblock with rfl | rfl | rfl
    · exact View.solid_worktreeList hp.snapshot _ _ _ _ _
    · refine solid_ofRows fun row hrow => ?_
      rw [List.eq_of_mem_replicate hrow]
      exact (Solid.one (by decide)).paint _
    · exact houtput
  · exact houtput

include hs hp hrows in
theorem solid_renderMain : Solid c.renderMain := by
  obtain ⟨hheader, hfooter⟩ := kind_edges kind_solid hp.namesLack
  exact (hheader.append ((solid_renderBody hs hp hrows).cons newline_ne_esc)).append
    (hfooter.cons newline_ne_esc)

theorem solid_renderHelp (c : Console) : Solid c.renderHelp :=
  solid_ofRows fun line hline =>
    View.kind_helpLines kind_solid _ _ line (List.mem_of_mem_drop (List.mem_of_mem_take hline))

include hs hp in
/-- What stands in the box of whatever has the focus is solid. -/
theorem Box.solid {title content : Text} {inner : Nat} (h : c.Box title content inner) :
    Solid title ∧ Solid content := by
  have htitle : esc ∉ title := h.notMem_title kind_solid hs.furnished hp.namesLack
  refine ⟨solid_of_notMem htitle, ?_⟩
  have htarget := hp.target
  -- the content is an editor, a list, the help or a question
  cases h with
  | followUp hfocus =>
    exact Editor.solid_render hs.furnished.followUpEditor hp.followUpEditor _ _
  | prompt hfocus => exact Editor.solid_render hs.furnished.taskEditor hp.taskEditor _ _
  | worktrees hfocus => exact Picker.solid_render hs.furnished.picker hp.picker _ _
  | sessions hfocus => exact Picker.solid_render hs.furnished.browser hp.browser _ _
  | settings hfocus => exact Picker.solid_render hs.furnished.settings hp.settings _ _
  | help hfocus => exact c.solid_renderHelp
  | confirm hfocus =>
    rw [hfocus] at htarget
    refine View.solid_confirmation _ hp.snapshot ?_
    rintro id rfl
    exact htarget

include hs hp in
theorem solid_of_renderModal? {modal : Text} (h : c.renderModal? = some modal) : Solid modal := by
  obtain ⟨border, title, content, inner, hbox, rfl⟩ := exists_box h
  obtain ⟨htitle, hcontent⟩ := hbox.solid hs hp
  exact Frame.solid_boxed htitle hcontent _ _ _

include hs hp in
theorem solid_withModal {frame : Text} (h : Solid frame) : Solid (c.withModal frame) := by
  unfold withModal
  split
  · rename_i modal hmodal
    exact Frame.solid_floatCentered h (solid_of_renderModal? hs hp hmodal) _ _
  · exact h

include hp in
theorem solid_withToasts {frame : Text} (h : Solid frame) : Solid (c.withToasts frame) := by
  unfold withToasts
  dsimp only
  split
  · rename_i toasts htoasts
    exact Frame.solid_floatAt h (ToastQueue.solid_of_render? _ hp.toasts htoasts) _ _
  · exact h

end

/-! ### The screen -/

/-- A notice that the terminal is too small fills it. -/
theorem size_tooSmall {width height : Nat} (hw : 1 ≤ width) (hh : 1 ≤ height) :
    (View.tooSmall width height).rows.length = height
      ∧ ∀ row ∈ (View.tooSmall width height).rows, rowWidth row = width := by
  unfold View.tooSmall
  rw [if_neg (by omega)]
  exact rows_rectangle ((View.solid_notice width height).truncate width) width hh

/-- **The screen has exactly the size of the terminal.**  In every state that the
console can come to, on a terminal of at least one column and one row, as long as
no string from outside holds an ESC and the stored rows hold finished sequences
only: the screen has `height` rows and each of them measures `width` columns. -/
theorem render_size {c : Console} (h : c.Reachable) (hw : 1 ≤ c.width) (hh : 1 ≤ c.height)
    (hp : c.IsPlain) (hrows : ∀ id, ∀ row ∈ c.outputRows id, EscapeComplete row) :
    c.render.rows.length = c.height ∧ ∀ row ∈ c.render.rows, Styled.width row = c.width := by
  have hs := h.sound
  have hsize : c.render.rows.length = c.height ∧ ∀ row ∈ c.render.rows, rowWidth row = c.width := by
    unfold render
    split
    · exact size_tooSmall hw hh
    · -- modal and toasts may be wider than the frame, which the rectangle cuts
      have hmain := solid_renderMain hs hp hrows
      exact rows_rectangle (solid_withToasts hp (solid_withModal hs hp hmain)) c.width hh
  refine ⟨hsize.1, fun row hrow => ?_⟩
  rw [width_of_notMem (Text.newline_notMem_of_mem_rows hrow)]
  exact hsize.2 row hrow

/-- The help and a toast on a terminal of forty by ten. -/
theorem render_size_help_and_toast :
    let c₀ := ofTuning {} Theme.fallback (fun name => (Theme.named name, [])) Transcript.markup
    let c₁ := (c₀.handle (.resize 40 10) ⟨0, 0⟩).console
    let c₂ := (c₁.handle (.copied 3) ⟨0, 0⟩).console
    let c := (c₂.handle (.key { code := .function 1 }) ⟨0, 0⟩).console
    c.Reachable ∧ c.focus.current = .help ∧ c.toasts.toasts.length = 1
      ∧ c.render.rows.length = 10 ∧ ∀ row ∈ c.render.rows, Styled.width row = 40 := by
  intro c₀ c₁ c₂ c
  have hreach : c.Reachable := (((Reachable.ofTuning _ _ _ _).handle _ _).handle _ _).handle _ _
  have hempty : ∀ item ∈ (#[] : Array Item), item.IsPlain := by simp
  -- nothing has been typed and no worktree is known
  have hplain : c.IsPlain :=
    { snapshot := ⟨by decide, by decide⟩
      remote := fun _ r hr => absurd (show none = some r from hr) (by simp)
      target := trivial
      taskWorktree := by decide
      toasts := by decide
      taskEditor := by decide
      followUpEditor := by decide
      picker := ⟨by decide, hempty⟩
      browser := ⟨by decide, hempty⟩
      settings := ⟨by decide, hempty⟩ }
  have hrows : ∀ id, ∀ row ∈ c.outputRows id, EscapeComplete row := fun id row hrow =>
    absurd hrow List.not_mem_nil
  exact ⟨hreach, rfl, rfl, render_size hreach (by decide) (by decide) hplain hrows⟩

end Console

end AgentConsole
