import AgentConsole.Console.Basic

/-!
# Keys of the console

A key goes to the target that has the focus.  Ctrl-C leaves the program from
anywhere, and F1 opens the help over anything but itself.
-/

namespace AgentConsole.Console

/-! ### Opening targets from the main output -/

/-- A picker shown over a list, with an entry selected if it is there. -/
def offered (p : Picker) (items : List Item) (id : Option String) : Picker :=
  let p := (p.setItems items).open
  match id with
  | some id => (p.selectId id).1
  | none => p

/-- The picker of worktrees under a title, at the one that is viewed. -/
def worktreePicker (c : Console) (title : String) : Picker :=
  offered { c.picker with title := title.toList } (View.worktreeItems c.snapshot)
    (c.selected.map (·.name))

/-- Begins a new task. -/
def openTaskFlow (c : Console) (time : Nat) : Turn :=
  if c.snapshot.worktrees.isEmpty then
    c.toast "No worktrees to start a task in".toList .warning time
  else
    { c with
      picker := c.worktreePicker "New task · choose a worktree"
      taskEditor := c.taskEditor.reset
      taskWorktree := none }.openFocus (.taskFlow .pickWorktree)

/-- Opens the editor for a follow-up to the session of the viewed worktree. -/
def openFollowUp (c : Console) (time : Nat) : Turn :=
  match c.viewedSession? with
  | none => c.toast "No session here. Press n to start one".toList .warning time
  | some s =>
    if s.status.isTerminal then
      c.toast ("Session is ".toList ++ s.status.label.toList) .warning time
    else { c with followUpEditor := c.followUpEditor.reset }.openFocus (.followUp s.id)

/-- Asks whether to stop the session of the viewed worktree. -/
def askToStop (c : Console) (time : Nat) : Turn :=
  match c.viewedSession?.filter Session.isLive with
  | some s => c.openFocus (.confirm (.stopSession s.id))
  | none => c.toast "No running session to stop".toList .warning time

/-- Opens the picker of worktrees. -/
def openPicker (c : Console) (time : Nat) : Turn :=
  if c.snapshot.worktrees.isEmpty then c.toast "No worktrees yet".toList .info time
  else { c with picker := c.worktreePicker "Worktrees" }.openFocus .worktreePicker

/-- Opens the browser of sessions. -/
def openBrowser (c : Console) (now : Moment) : Turn :=
  if c.snapshot.sessions.isEmpty then c.toast "No sessions yet".toList .info now.clock
  else
    let items := View.sessionItems c.snapshot now.calendar
    { c with browser := offered c.browser items (c.viewedSession?.map fun (s : Session) => s.id.name) }.openFocus
      .sessionBrowser

/-- Opens the settings. -/
def openSettings (c : Console) : Turn :=
  { c with
    settings := offered c.settings (View.themeItems c.theme.name) (some c.theme.name) }.openFocus
    .settings

/-- Opens the help over whatever has the focus. -/
def openHelp (c : Console) : Turn :=
  { c with helpScroll := 0, focus := c.focus.cover .help }.quiet

/-- Copies the rows of output on the screen. -/
def copyVisible (c : Console) (time : Nat) : Turn :=
  let rows := c.visibleRows
  if rows.isEmpty then c.toast "Nothing to copy".toList .info time else c.quiet.ask (.copy rows)

/-- Leaves the program, or asks first while sessions are live. -/
def requestQuit (c : Console) : Turn :=
  let active := c.snapshot.activeCount
  if active = 0 then c.quit
  else
    let turn := c.openFocus (.confirm (.quit active))
    { turn with notes := ⟨.debug, "quit armed".toList⟩ :: turn.notes }

/-- Views the worktree `steps` places further on, around the ring. -/
def cycle (c : Console) (steps : Int) : Turn :=
  let worktrees := c.snapshot.worktrees
  let next : Nat :=
    match worktrees.findIdx? fun w => c.selected = some w.id with
    | some i => ((i + steps) % worktrees.length).toNat
    | none => 0
  match worktrees[next]? with
  | some w => c.view w.id
  | none => c.quiet

/-- Views the worktree at a place in the list. -/
def quickSelect (c : Console) (index time : Nat) : Turn :=
  match c.snapshot.worktrees[index]? with
  | some w => c.view w.id
  | none => c.toast ("No worktree ".toList ++ Text.ofNat (index + 1)) .warning time

/-- The place in the list that a digit stands for. -/
def quickIndex? (c : Char) : Option Nat :=
  if '1' ≤ c ∧ c ≤ '9' then some (c.toNat - '1'.toNat) else none

/-- Reads a key in the main output. -/
def onMainKey (c : Console) (key : Key) (now : Moment) : Turn :=
  let scrolled (scroll : ScrollView) : Turn := { c with scroll }.quiet
  match key.code with
  | .up | .char 'k' => scrolled (c.scroll.up 1)
  | .down | .char 'j' => scrolled (c.scroll.down 1)
  | .pageUp => scrolled c.scroll.pageUp
  | .pageDown => scrolled c.scroll.pageDown
  | .home | .char 'g' => scrolled c.scroll.top
  | .«end» | .char 'G' => scrolled c.scroll.pin
  | .tab => c.cycle 1
  | .backTab => c.cycle (-1)
  | .char 'n' => c.openTaskFlow now.clock
  | .char 'f' => c.openFollowUp now.clock
  | .char 'x' => c.askToStop now.clock
  | .char 'w' => c.openPicker now.clock
  | .char 'b' => c.openBrowser now
  | .char 's' => c.openSettings
  | .char '?' => c.openHelp
  | .char 'y' => c.copyVisible now.clock
  | .char 'q' => c.requestQuit
  | .char d =>
    match quickIndex? d with
    | some index => c.quickSelect index now.clock
    | none => c.quiet
  | _ => c.quiet

/-! ### Keys of the other targets -/

/-- Reads a key in the editor of a follow-up. -/
def onFollowUpKey (c : Console) (session : SessionId) (key : Key) (time : Nat) : Turn :=
  let (editor, outcome) := c.followUpEditor.handle key
  let c := { c with followUpEditor := editor }
  match outcome with
  | .submit =>
    if editor.buffer.isBlank then c.toast "Nothing to send".toList .warning time
    else
      let prompt := Text.trim editor.buffer.text
      ({ c with followUpEditor := editor.reset }.closeFocus.note .info "follow-up".toList).ask
        (.followUp session prompt)
  | .cancel => { c with followUpEditor := editor.reset }.closeFocus
  | .quit => c.quit
  | .handled | .unhandled => c.quiet

/-- Reads a key while a worktree is picked for a new task. -/
def onTaskPickKey (c : Console) (key : Key) (time : Nat) : Turn :=
  let (picker, outcome) := c.picker.handle key
  let c := { c with picker }
  match outcome with
  | .confirm =>
    match picker.selectedId? with
    | some id =>
      ({ c with taskWorktree := some ⟨id⟩ }.replaceFocus (.taskFlow .writePrompt)).quiet
    | none => c.toast "No worktree selected".toList .warning time
  | .dismiss => { c with picker := picker.close, taskWorktree := none }.closeFocus
  | .handled | .unhandled => c.quiet

/-- Reads a key while the prompt of a new task is written. -/
def onTaskPromptKey (c : Console) (key : Key) (time : Nat) : Turn :=
  let (editor, outcome) := c.taskEditor.handle key
  let c := { c with taskEditor := editor }
  match outcome with
  | .submit =>
    if editor.buffer.isBlank then c.toast "Describe the task first".toList .warning time
    else
      match c.taskWorktree with
      | none =>
        (c.replaceFocus (.taskFlow .pickWorktree)).toast "No worktree selected".toList .warning
          time
      | some worktree =>
        let prompt := Text.trim editor.buffer.text
        let c :=
          { c with
            taskWorktree := none, taskEditor := editor.reset, picker := c.picker.close }
        (c.closeFocus.note .info "starting task".toList).ask (.startSession worktree prompt)
  | .cancel => (c.replaceFocus (.taskFlow .pickWorktree)).quiet
  | .quit => c.quit
  | .handled | .unhandled => c.quiet

/-- Reads a key in the picker of worktrees. -/
def onPickerKey (c : Console) (key : Key) (time : Nat) : Turn :=
  let (picker, outcome) := c.picker.handle key
  let c := { c with picker }
  match outcome with
  | .confirm =>
    match picker.selectedId? with
    | some id => { c with picker := picker.close }.closeFocus.andThen (·.view ⟨id⟩)
    | none => c.toast "No worktree selected".toList .warning time
  | .dismiss => { c with picker := picker.close }.closeFocus
  | .handled | .unhandled => c.quiet

/-- Reads a key in the browser of sessions. -/
def onBrowserKey (c : Console) (key : Key) (time : Nat) : Turn :=
  let (browser, outcome) := c.browser.handle key
  let c := { c with browser }
  match outcome with
  | .confirm =>
    match browser.selectedId?.bind fun id => c.snapshot.session? ⟨id⟩ with
    | some s => { c with browser := browser.close }.closeFocus.andThen (·.view s.worktree)
    | none => c.toast "No session selected".toList .warning time
  | .dismiss => { c with browser := browser.close }.closeFocus
  | .handled | .unhandled => c.quiet

/-- Reads a key in the settings. -/
def onSettingsKey (c : Console) (key : Key) (time : Nat) : Turn :=
  let (settings, outcome) := c.settings.handle key
  let c := { c with settings }
  match outcome with
  | .confirm =>
    match settings.selectedId? with
    | some name =>
      ({ c with settings := settings.close }.closeFocus.andThen (·.applyTheme name)).andThen
        fun c => c.toast ("Theme: ".toList ++ c.theme.name.toList) .success time
    | none => c.toast "No theme selected".toList .warning time
  | .dismiss => { c with settings := settings.close }.closeFocus
  | .handled | .unhandled => c.quiet

/-- Reads a key in the help. -/
def onHelpKey (c : Console) (key : Key) : Turn :=
  let last := c.helpMaxScroll
  let page := max (c.layout.modalHeight - 1) 1
  let scrolled (helpScroll : Nat) : Turn := { c with helpScroll }.quiet
  match key.code with
  | .escape | .enter | .function 1 | .char 'q' | .char '?' => c.closeFocus
  | .up | .char 'k' => scrolled (c.helpScroll - 1)
  | .down | .char 'j' => scrolled (min (c.helpScroll + 1) last)
  | .pageUp => scrolled (c.helpScroll - page)
  | .pageDown => scrolled (min (c.helpScroll + page) last)
  | .home => scrolled 0
  | .«end» => scrolled last
  | _ => c.quiet

/-- Does the key answer a question with yes? -/
def isYes (key : Key) : Bool := key.code = .char 'y' || key.code = .char 'Y'

/-- Reads a key that answers a question; whatever is not a yes is a no. -/
def onConfirmKey (c : Console) (question : Confirmation) (key : Key) : Turn :=
  let cancelled : Turn :=
    let turn := c.closeFocus
    { turn with notes := ⟨.debug, "confirmation cancelled".toList⟩ :: turn.notes }
  match question with
  | .quit _ =>
    if isYes key || key.code = .char 'q' then { c with focus := c.focus.reset }.quit
    else cancelled
  | .stopSession session =>
    if isYes key then
      (c.closeFocus.note .info "stopping session".toList).ask (.stopSession session)
    else cancelled

/-- Reads a key. -/
def onKey (c : Console) (key : Key) (now : Moment) : Turn :=
  if key.kind = .release then c.quiet
  else if key.code = .char 'c' ∧ key.control then
    let turn := c.quit
    { turn with notes := ⟨.info, "force quit".toList⟩ :: turn.notes }
  else if key.code = .function 1 ∧ c.focus.current ≠ .help then c.openHelp
  else
    match c.focus.current with
    | .mainOutput => c.onMainKey key now
    | .followUp session => c.onFollowUpKey session key now.clock
    | .worktreePicker => c.onPickerKey key now.clock
    | .taskFlow .pickWorktree => c.onTaskPickKey key now.clock
    | .taskFlow .writePrompt => c.onTaskPromptKey key now.clock
    | .help => c.onHelpKey key
    | .confirm question => c.onConfirmKey question key
    | .sessionBrowser => c.onBrowserKey key now.clock
    | .settings => c.onSettingsKey key now.clock

end AgentConsole.Console
