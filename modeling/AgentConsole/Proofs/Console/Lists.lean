import AgentConsole.Console.Keys
import AgentConsole.Proofs.Picker.Render

/-!
# Keys in a list

Four targets of the console are lists: the picker of worktrees, the picker in which a task begins,
the browser of sessions and the settings.  A key goes to the list first, and the console acts on
the outcome.

What can come of it is said once for all four (`Picker.Yields`): Enter takes the row that is
selected or misses one, a key closes the list, and all others let the console stay in it.  The
list itself changes in the last case only, and keeps its rows.  A theorem for each list says
which row it takes and what it does with it.
-/

namespace AgentConsole

namespace Picker

variable {α : Type} {p q : Picker} {key : Key} {outcome : Outcome} {row? : Option α}
  {take : α → Turn} {miss close : Turn} {stay : Picker → Turn}

/-- What can come of a key in a list: Enter takes the row or misses one, a key closes the list, and
all others let the console stay in it. -/
inductive Yields (p : Picker) (key : Key) (row? : Option α) (take : α → Turn) (miss close : Turn)
    (stay : Picker → Turn) : Turn → Prop
  | take {a : α} (hkey : key.code = .enter) (hrow : row? = some a) :
    Yields p key row? take miss close stay (take a)
  | miss : Yields p key row? take miss close stay miss
  | close : Yields p key row? take miss close stay close
  | stay {q : Picker} (hstock : q.stock = p.stock) :
    Yields p key row? take miss close stay (stay q)

/-- A turn is what comes of a key if it answers every outcome as it should. -/
theorem Reads.yields (h : p.Reads key q outcome) {turn : Picker → Outcome → Turn}
    (hconfirm : turn p .confirm = row?.elim miss take) (hdismiss : turn p .dismiss = close)
    (hhandled : ∀ q, turn q .handled = stay q) (hunhandled : turn p .unhandled = stay p) :
    p.Yields key row? take miss close stay (turn q outcome) := by
  -- what the list makes of the key decides which of the four continuations is taken
  cases outcome with
  | confirm =>
    cases h with
    | confirm hkey =>
      rw [hconfirm]
      cases row? with
      | none => exact .miss
      | some a => exact .take hkey rfl
  | dismiss =>
    cases h
    rw [hdismiss]
    exact .close
  | handled =>
    rw [hhandled]
    exact .stay h.stock
  | unhandled =>
    cases h
    rw [hunhandled]
    exact .stay rfl

end Picker

namespace Console

variable (c : Console) (key : Key) (time : Nat)

/-- Choosing a worktree looks at it. -/
theorem yields_onPickerKey :
    c.picker.Yields key c.picker.selectedId?
      (fun id => { c with picker := c.picker.close }.closeFocus.andThen (·.view ⟨id⟩))
      (c.toast "No worktree selected".toList .warning time)
      { c with picker := c.picker.close }.closeFocus
      (fun picker => { c with picker }.quiet)
      (c.onPickerKey key time) := by
  unfold onPickerKey
  rcases hread : c.picker.handle key with ⟨picker, outcome⟩
  apply (Picker.Reads.of_handle hread).yields
  · cases hrow : c.picker.selectedId? <;> simp [hrow]
  · rfl
  · exact fun _ => rfl
  · rfl

/-- Choosing it for a task leads to the prompt. -/
theorem yields_onTaskPickKey :
    c.picker.Yields key c.picker.selectedId?
      (fun id => ({ c with taskWorktree := some ⟨id⟩ }.replaceFocus (.taskFlow .writePrompt)).quiet)
      (c.toast "No worktree selected".toList .warning time)
      { c with picker := c.picker.close, taskWorktree := none }.closeFocus
      (fun picker => { c with picker }.quiet)
      (c.onTaskPickKey key time) := by
  unfold onTaskPickKey
  rcases hread : c.picker.handle key with ⟨picker, outcome⟩
  apply (Picker.Reads.of_handle hread).yields
  · cases hrow : c.picker.selectedId? <;> simp [hrow]
  · rfl
  · exact fun _ => rfl
  · rfl

/-- Choosing a session looks at its worktree, if the session is still known. -/
theorem yields_onBrowserKey :
    c.browser.Yields key (c.browser.selectedId?.bind fun id => c.snapshot.session? ⟨id⟩)
      (fun s => { c with browser := c.browser.close }.closeFocus.andThen (·.view s.worktree))
      (c.toast "No session selected".toList .warning time)
      { c with browser := c.browser.close }.closeFocus
      (fun browser => { c with browser }.quiet)
      (c.onBrowserKey key time) := by
  unfold onBrowserKey
  rcases hread : c.browser.handle key with ⟨browser, outcome⟩
  apply (Picker.Reads.of_handle hread).yields
  · cases hrow : c.browser.selectedId?.bind fun id => c.snapshot.session? ⟨id⟩ <;> simp [hrow]
  · rfl
  · exact fun _ => rfl
  · rfl

/-- Choosing a theme applies it. -/
theorem yields_onSettingsKey :
    c.settings.Yields key c.settings.selectedId?
      (fun name =>
        ({ c with settings := c.settings.close }.closeFocus.andThen (·.applyTheme name)).andThen
          fun d => d.toast ("Theme: ".toList ++ d.theme.name.toList) .success time)
      (c.toast "No theme selected".toList .warning time)
      { c with settings := c.settings.close }.closeFocus
      (fun settings => { c with settings }.quiet)
      (c.onSettingsKey key time) := by
  unfold onSettingsKey
  rcases hread : c.settings.handle key with ⟨settings, outcome⟩
  apply (Picker.Reads.of_handle hread).yields
  · cases hrow : c.settings.selectedId? <;> simp [hrow]
  · rfl
  · exact fun _ => rfl
  · rfl

end Console

end AgentConsole
