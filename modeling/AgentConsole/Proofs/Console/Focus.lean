import AgentConsole.Proofs.Console.Reach

/-!
# Where the focus can go

Nothing but a key moves the focus (`keepsCourse_handle`), and `Route` lists the ways in
which a key moves it: from the main output to a target that `Opens` admits, to the help
and back, from one step of a new task to the other, and shut.  `onKey_cases` says what
any key does to the focus and to the program: the keys that leave the program are those
of `QuitsOn`, and all others take a route and leave it running.

Two things follow for every reachable state.  A target is remembered while the help has
the focus, and only then (`Reachable.isNested`); and what is remembered had the focus when
the help was opened, which no key has closed since (`Reachable.covers`).
-/

namespace AgentConsole

/-! ### Turns that leave the program running -/

/-- The turn ends with that focus, is as far on the way out as that, and does not ask to
leave the program. -/
structure Turn.MovesTo (t : Turn) (f : Focus) (quitting : Bool) : Prop where
  focus : t.console.focus = f
  quitting : t.console.quitting = quitting
  requests : .quit ∉ t.requests

namespace Turn.MovesTo

variable {f : Focus} {q : Bool} {t : Turn} {r : Request} {level : Level} {message : Text}
  {notes : List Note} {next : Console → Turn}

theorem quiet {d : Console} (hf : d.focus = f) (hq : d.quitting = q) : d.quiet.MovesTo f q :=
  ⟨hf, hq, List.not_mem_nil⟩

theorem note (h : t.MovesTo f q) : (t.note level message).MovesTo f q :=
  ⟨h.focus, h.quitting, h.requests⟩

theorem noted (h : t.MovesTo f q) : Turn.MovesTo { t with notes } f q :=
  ⟨h.focus, h.quitting, h.requests⟩

/-- Asking for anything but the end leads nowhere else. -/
theorem ask (h : t.MovesTo f q) (hr : r ≠ .quit) : (t.ask r).MovesTo f q := by
  refine ⟨h.focus, h.quitting, fun hmem => ?_⟩
  rcases List.mem_append.mp hmem with hmem | hmem
  · exact h.requests hmem
  · exact hr (List.mem_singleton.mp hmem).symm

theorem andThen (h : t.MovesTo f q)
    (hnext : ∀ d, (next d).MovesTo d.focus d.quitting) : (t.andThen next).MovesTo f q := by
  refine ⟨(hnext _).focus.trans h.focus, (hnext _).quitting.trans h.quitting, fun hmem => ?_⟩
  exact (List.mem_append.mp hmem).elim h.requests (hnext _).requests

end Turn.MovesTo

theorem Turn.KeepsCourse.movesTo {c : Console} {t : Turn} (h : t.KeepsCourse c) :
    t.MovesTo c.focus c.quitting :=
  ⟨h.focus, h.quitting, fun hquit => Bool.false_ne_true (h.requests _ hquit)⟩

namespace Console

theorem movesTo_toast (c : Console) (message : Text) (severity : Severity) (time : Nat) :
    (c.toast message severity time).MovesTo c.focus c.quitting :=
  (c.keepsCourse_toast message severity time).movesTo

theorem movesTo_start (c : Console) : c.start.MovesTo c.focus c.quitting :=
  c.keepsCourse_start.movesTo

theorem movesTo_applyTheme (c : Console) (name : String) :
    (c.applyTheme name).MovesTo c.focus c.quitting := (c.keepsCourse_applyTheme name).movesTo

theorem movesTo_view (c : Console) (id : WorktreeId) : (c.view id).MovesTo c.focus c.quitting :=
  (c.keepsCourse_view id).movesTo

/-! ### Keys that leave the program -/

end Console

/-- The key that leaves the program from anywhere. -/
def Key.IsInterrupt (key : Key) : Prop := key.code = .char 'c' ∧ key.control

/-- Does the key say yes when the question is whether to leave the program? -/
def Key.confirmsQuit (key : Key) : Bool := key.code ∈ [.char 'y', .char 'Y', .char 'q']

/-- Does the key close the help? -/
def Key.closesHelp (key : Key) : Bool :=
  key.code ∈ [.escape, .enter, .function 1, .char 'q', .char '?']

namespace Editor

/-- An editor asks to leave the program on Ctrl-C only. -/
theorem handle_ne_quit (e : Editor) {key : Key} (hkey : ¬ key.IsInterrupt) :
    (e.handle key).2 ≠ .quit := by
  intro hquit
  have hreads := e.reads_handle key
  rw [hquit] at hreads
  exact hkey hreads.interrupts

end Editor

namespace Console

/-- Is the question whether to leave the program? -/
def AsksToQuit (c : Console) : Prop := ∃ n, c.focus.current = .confirm (.quit n)

/-- Do the main output and the snapshot let a single key leave the program? -/
def IsIdle (c : Console) : Prop :=
  c.focus.current = .mainOutput ∧ ∀ s ∈ c.snapshot.sessions, s.status.isTerminal

/-- The key leaves the program if it is pressed or held. -/
def QuitsOn (c : Console) (key : Key) : Prop :=
  key.IsInterrupt ∨ c.IsIdle ∧ key.code = .char 'q' ∨ c.AsksToQuit ∧ key.confirmsQuit

/-- No session is active if all have ended. -/
theorem activeCount_eq_zero_iff (s : Snapshot) :
    s.activeCount = 0 ↔ ∀ x ∈ s.sessions, x.status.isTerminal := by
  unfold Snapshot.activeCount
  rw [List.countP_eq_zero]
  simp [Session.isLive]

/-! ### Routes -/

/-- The key opens the help over what has the focus. -/
def OpensHelp (c : Console) (key : Key) : Prop :=
  key.code = .function 1 ∨ c.focus.current = .mainOutput ∧ key.code = .char '?'

/-- What a key opens from the main output. -/
inductive Opens (c : Console) : KeyCode → Target → Prop where
  | task : Opens c (.char 'n') (.taskFlow .pickWorktree)
  | followUp {s : Session} (hs : c.viewedSession? = some s) (hlive : s.isLive) :
    Opens c (.char 'f') (.followUp s.id)
  | stop {s : Session} (hs : c.viewedSession? = some s) (hlive : s.isLive) :
    Opens c (.char 'x') (.confirm (.stopSession s.id))
  | picker : Opens c (.char 'w') .worktreePicker
  | browser : Opens c (.char 'b') .sessionBrowser
  | settings : Opens c (.char 's') .settings
  | quit (hlive : 0 < c.snapshot.activeCount) :
    Opens c (.char 'q') (.confirm (.quit c.snapshot.activeCount))

/-- Where a key that is pressed or held can move the focus. -/
inductive Route (c : Console) (key : Key) : Focus → Prop where
  /-- Two targets do not keep the focus for long: a key closes the help or scrolls it, and
  any key answers a question. -/
  | stay (hhelp : c.focus.current = .help → ¬ key.closesHelp)
    (hconfirm : ∀ question, c.focus.current = .confirm question → key.IsInterrupt) :
    Route c key c.focus
  | opened {target : Target} (hmain : c.focus.current = .mainOutput)
    (hopens : c.Opens key.code target) : Route c key { c.focus with current := target }
  | help (hcurrent : c.focus.current ≠ .help) (hopens : c.OpensHelp key) :
    Route c key ⟨.help, some c.focus.current⟩
  | write (hpick : c.focus.current = .taskFlow .pickWorktree) :
    Route c key (c.focus.replace (.taskFlow .writePrompt))
  | pick (hwrite : c.focus.current = .taskFlow .writePrompt) :
    Route c key (c.focus.replace (.taskFlow .pickWorktree))
  | closed (hmain : c.focus.current ≠ .mainOutput)
    (hhelp : c.focus.current = .help → key.closesHelp) : Route c key c.focus.close
  | reset (hasks : c.AsksToQuit) (hyes : key.confirmsQuit) : Route c key {}

end Console

/-- The turn takes a route and leaves the program running. -/
def Turn.Follows (t : Turn) (c : Console) (key : Key) : Prop :=
  ∃ f, c.Route key f ∧ t.MovesTo f c.quitting

/-- The turn takes a route and leaves the program. -/
structure Turn.Leaves (t : Turn) (c : Console) (key : Key) : Prop where
  route : c.Route key t.console.focus
  quitting : t.console.quitting
  requests : .quit ∈ t.requests

namespace Console

variable {c d : Console} {key : Key}

/-! ### Keys in the main output -/

/-- What opens over the output is opened by its key. -/
theorem follows_openFocus (hmain : c.focus.current = .mainOutput) {target : Target}
    (hopens : c.Opens key.code target) (hf : d.focus = c.focus) (hq : d.quitting = c.quitting) :
    (d.openFocus target).Follows c key := by
  have hopen : d.focus.open target = some { d.focus with current := target } := by
    rw [hf]
    exact if_pos (decide_eq_true hmain)
  refine ⟨_, .opened hmain hopens, ?_⟩
  unfold openFocus
  rw [hopen, hf]
  exact .note (.quiet rfl hq)

theorem movesTo_cycle (c : Console) (steps : Int) :
    (c.cycle steps).MovesTo c.focus c.quitting := by
  unfold cycle
  dsimp only
  split
  · exact c.movesTo_view _
  · exact .quiet rfl rfl

theorem movesTo_quickSelect (c : Console) (index time : Nat) :
    (c.quickSelect index time).MovesTo c.focus c.quitting := by
  unfold quickSelect
  split
  · exact c.movesTo_view _
  · exact c.movesTo_toast _ _ _

theorem movesTo_copyVisible (c : Console) (time : Nat) :
    (c.copyVisible time).MovesTo c.focus c.quitting := by
  unfold copyVisible
  dsimp only
  split
  · exact c.movesTo_toast _ _ _
  · exact .ask (.quiet rfl rfl) Request.noConfusion

theorem movesTo_openHelp (hcurrent : c.focus.current ≠ .help) :
    c.openHelp.MovesTo ⟨.help, some c.focus.current⟩ c.quitting :=
  .quiet (if_neg hcurrent) rfl

section

variable (hmain : c.focus.current = .mainOutput) (hstay : c.Route key c.focus)

include hmain hstay

/-- The key `n` begins a task. -/
theorem follows_openTaskFlow (hkey : key.code = .char 'n') (time : Nat) :
    (c.openTaskFlow time).Follows c key := by
  unfold openTaskFlow
  split
  · exact ⟨_, hstay, c.movesTo_toast _ _ _⟩
  · exact follows_openFocus hmain (hkey ▸ .task) rfl rfl

/-- The key `f` opens a follow-up. -/
theorem follows_openFollowUp (hkey : key.code = .char 'f') (time : Nat) :
    (c.openFollowUp time).Follows c key := by
  unfold openFollowUp
  split
  · exact ⟨_, hstay, c.movesTo_toast _ _ _⟩
  · rename_i s hs
    split
    · exact ⟨_, hstay, c.movesTo_toast _ _ _⟩
    · rename_i hlive
      have hlive : s.isLive := by simpa [Session.isLive] using hlive
      exact follows_openFocus hmain (hkey ▸ .followUp hs hlive) rfl rfl

/-- The key `x` asks about a session. -/
theorem follows_askToStop (hkey : key.code = .char 'x') (time : Nat) :
    (c.askToStop time).Follows c key := by
  unfold askToStop
  split
  · rename_i s hs
    obtain ⟨hs, hlive⟩ := Option.filter_eq_some_iff.mp hs
    exact follows_openFocus hmain (hkey ▸ .stop hs hlive) rfl rfl
  · exact ⟨_, hstay, c.movesTo_toast _ _ _⟩

/-- The key `w` opens the list of worktrees. -/
theorem follows_openPicker (hkey : key.code = .char 'w') (time : Nat) :
    (c.openPicker time).Follows c key := by
  unfold openPicker
  split
  · exact ⟨_, hstay, c.movesTo_toast _ _ _⟩
  · exact follows_openFocus hmain (hkey ▸ .picker) rfl rfl

/-- The key `b` opens the list of sessions. -/
theorem follows_openBrowser (hkey : key.code = .char 'b') (now : Moment) :
    (c.openBrowser now).Follows c key := by
  unfold openBrowser
  split
  · exact ⟨_, hstay, c.movesTo_toast _ _ _⟩
  · exact follows_openFocus hmain (hkey ▸ .browser) rfl rfl

omit hstay in
/-- The key `q` asks first, while a session is live. -/
theorem follows_requestQuit (hkey : key.code = .char 'q') (hlive : c.snapshot.activeCount ≠ 0) :
    c.requestQuit.Follows c key := by
  have hopens : c.Opens key.code (.confirm (.quit c.snapshot.activeCount)) :=
    hkey ▸ .quit (Nat.pos_of_ne_zero hlive)
  obtain ⟨f, hroute, hmoves⟩ := follows_openFocus hmain hopens rfl rfl
  unfold requestQuit
  rw [if_neg hlive]
  exact ⟨f, hroute, hmoves.noted⟩

/-- A key in the main output takes a route, unless it leaves the program at once. -/
theorem follows_onMainKey (hlive : key.code = .char 'q' → c.snapshot.activeCount ≠ 0)
    (now : Moment) : (c.onMainKey key now).Follows c key := by
  have hscrolled (scroll : ScrollView) : Turn.Follows { c with scroll }.quiet c key :=
    ⟨_, hstay, .quiet rfl rfl⟩
  have hhelp (hkey : key.code = .char '?') : c.openHelp.Follows c key := by
    have hcurrent : c.focus.current ≠ .help := by
      rw [hmain]
      decide
    exact ⟨_, .help hcurrent (.inr ⟨hmain, hkey⟩), movesTo_openHelp hcurrent⟩
  unfold onMainKey
  dsimp only
  split
  -- ten keys scroll, two go from worktree to worktree, the others open something
  iterate 10 exact hscrolled _
  iterate 2 exact ⟨_, hstay, c.movesTo_cycle _⟩
  · exact follows_openTaskFlow hmain hstay ‹_› _
  · exact follows_openFollowUp hmain hstay ‹_› _
  · exact follows_askToStop hmain hstay ‹_› _
  · exact follows_openPicker hmain hstay ‹_› _
  · exact follows_openBrowser hmain hstay ‹_› _
  · exact follows_openFocus hmain (‹key.code = .char 's'› ▸ .settings) rfl rfl
  · exact hhelp ‹_›
  · exact ⟨_, hstay, c.movesTo_copyVisible _⟩
  · exact follows_requestQuit hmain ‹_› (hlive ‹_›)
  · split
    · exact ⟨_, hstay, c.movesTo_quickSelect _ _⟩
    · exact ⟨_, hstay, .quiet rfl rfl⟩
  · exact ⟨_, hstay, .quiet rfl rfl⟩

end

/-! ### Keys of the other targets -/

theorem movesTo_closeFocus (c : Console) : c.closeFocus.MovesTo c.focus.close c.quitting :=
  .note (.quiet rfl rfl)

section

variable (hstay : c.Route key c.focus) (hclosed : c.Route key c.focus.close)

include hstay hclosed

/-- Keys in a follow-up stay or close it. -/
theorem follows_onFollowUpKey (hkey : ¬ key.IsInterrupt) (session : SessionId) (time : Nat) :
    (c.onFollowUpKey session key time).Follows c key := by
  have hquit := c.followUpEditor.handle_ne_quit hkey
  unfold onFollowUpKey
  generalize c.followUpEditor.handle key = read at hquit ⊢
  obtain ⟨editor, outcome⟩ := read
  cases outcome with
  | submit =>
    dsimp only
    split
    · exact ⟨_, hstay, movesTo_toast _ _ _ _⟩
    · exact ⟨_, hclosed, .ask (.note (movesTo_closeFocus _)) Request.noConfusion⟩
  | cancel => exact ⟨_, hclosed, movesTo_closeFocus _⟩
  | quit => exact absurd rfl hquit
  | handled => exact ⟨_, hstay, .quiet rfl rfl⟩
  | unhandled => exact ⟨_, hstay, .quiet rfl rfl⟩

/-- Keys in the choice of a worktree stay, go on to the prompt or close it. -/
theorem follows_onTaskPickKey (hpick : c.focus.current = .taskFlow .pickWorktree) (time : Nat) :
    (c.onTaskPickKey key time).Follows c key := by
  have hyields := c.yields_onTaskPickKey key time
  generalize c.onTaskPickKey key time = t at hyields ⊢
  cases hyields with
  | take => exact ⟨_, .write hpick, .quiet rfl rfl⟩
  | miss => exact ⟨_, hstay, c.movesTo_toast _ _ _⟩
  | close => exact ⟨_, hclosed, movesTo_closeFocus _⟩
  | stay => exact ⟨_, hstay, .quiet rfl rfl⟩

/-- Keys in the prompt stay, go back to the choice or close it. -/
theorem follows_onTaskPromptKey (hkey : ¬ key.IsInterrupt)
    (hwrite : c.focus.current = .taskFlow .writePrompt) (time : Nat) :
    (c.onTaskPromptKey key time).Follows c key := by
  have hquit := c.taskEditor.handle_ne_quit hkey
  unfold onTaskPromptKey
  generalize c.taskEditor.handle key = read at hquit ⊢
  obtain ⟨editor, outcome⟩ := read
  -- only a prompt that is sent closes the flow
  cases outcome with
  | submit =>
    dsimp only
    split
    · exact ⟨_, hstay, movesTo_toast _ _ _ _⟩
    · split
      · exact ⟨_, .pick hwrite, movesTo_toast _ _ _ _⟩
      · exact ⟨_, hclosed, .ask (.note (movesTo_closeFocus _)) Request.noConfusion⟩
  | cancel => exact ⟨_, .pick hwrite, .quiet rfl rfl⟩
  | quit => exact absurd rfl hquit
  | handled => exact ⟨_, hstay, .quiet rfl rfl⟩
  | unhandled => exact ⟨_, hstay, .quiet rfl rfl⟩

/-- Keys in a list stay or close it. -/
theorem follows_onPickerKey (time : Nat) : (c.onPickerKey key time).Follows c key := by
  have hyields := c.yields_onPickerKey key time
  generalize c.onPickerKey key time = t at hyields ⊢
  cases hyields with
  | take => exact ⟨_, hclosed, .andThen (movesTo_closeFocus _) fun d => d.movesTo_view _⟩
  | miss => exact ⟨_, hstay, c.movesTo_toast _ _ _⟩
  | close => exact ⟨_, hclosed, movesTo_closeFocus _⟩
  | stay => exact ⟨_, hstay, .quiet rfl rfl⟩

theorem follows_onBrowserKey (time : Nat) : (c.onBrowserKey key time).Follows c key := by
  have hyields := c.yields_onBrowserKey key time
  generalize c.onBrowserKey key time = t at hyields ⊢
  cases hyields with
  | take => exact ⟨_, hclosed, .andThen (movesTo_closeFocus _) fun d => d.movesTo_view _⟩
  | miss => exact ⟨_, hstay, c.movesTo_toast _ _ _⟩
  | close => exact ⟨_, hclosed, movesTo_closeFocus _⟩
  | stay => exact ⟨_, hstay, .quiet rfl rfl⟩

theorem follows_onSettingsKey (time : Nat) : (c.onSettingsKey key time).Follows c key := by
  have hyields := c.yields_onSettingsKey key time
  generalize c.onSettingsKey key time = t at hyields ⊢
  cases hyields with
  | take =>
    -- the settings are closed, the theme is chosen, and a toast says so
    refine ⟨_, hclosed, .andThen (.andThen (movesTo_closeFocus _) ?_) ?_⟩
    · exact fun d => d.movesTo_applyTheme _
    · exact fun d => d.movesTo_toast _ _ _
  | miss => exact ⟨_, hstay, c.movesTo_toast _ _ _⟩
  | close => exact ⟨_, hclosed, movesTo_closeFocus _⟩
  | stay => exact ⟨_, hstay, .quiet rfl rfl⟩

end

/-- Keys in the help stay or close it. -/
theorem follows_onHelpKey (hhelp : c.focus.current = .help) : (c.onHelpKey key).Follows c key := by
  have hmain : c.focus.current ≠ .mainOutput := by
    rw [hhelp]
    decide
  have hclose (hkey : key.closesHelp) : c.closeFocus.Follows c key :=
    ⟨_, .closed hmain fun _ => hkey, c.movesTo_closeFocus⟩
  have hscrolled (hkey : ¬ key.closesHelp) (helpScroll : Nat) :
      Turn.Follows { c with helpScroll }.quiet c key := by
    refine ⟨_, .stay (fun _ => hkey) fun question hquestion => ?_, .quiet rfl rfl⟩
    exact absurd (hhelp.symm.trans hquestion) Target.noConfusion
  unfold onHelpKey
  dsimp only
  split
  -- five keys close the help, eight scroll it
  iterate 5 exact hclose (by simp [Key.closesHelp, *])
  iterate 8 exact hscrolled (by simp [Key.closesHelp, *]) _
  have hkey : ¬ key.closesHelp := by
    simpa [Key.closesHelp] using ⟨‹_›, ‹_›, ‹_›, ‹_›, ‹_›⟩
  exact hscrolled hkey c.helpScroll

/-- A question closes on any key that does not end the program. -/
theorem movesTo_onConfirmKey {question : Confirmation}
    (hkey : ∀ n, question = .quit n → ¬ key.confirmsQuit) :
    (c.onConfirmKey question key).MovesTo c.focus.close c.quitting := by
  cases question with
  | quit n =>
    have hno : ¬ (isYes key || key.code = .char 'q') := by
      simpa [Key.confirmsQuit, isYes, or_assoc] using hkey n rfl
    unfold onConfirmKey
    dsimp only
    rw [if_neg hno]
    exact .noted c.movesTo_closeFocus
  | stopSession session =>
    unfold onConfirmKey
    dsimp only
    split
    · exact .ask (.note c.movesTo_closeFocus) Request.noConfusion
    · exact .noted c.movesTo_closeFocus

/-! ### Every key -/

/-- A key that does not leave the program takes a route. -/
theorem follows_onKey (hkind : key.kind ≠ .release) (hquits : ¬ c.QuitsOn key) (now : Moment) :
    (c.onKey key now).Follows c key := by
  have hkey : ¬ (key.code = .char 'c' ∧ key.control) := fun h => hquits (.inl h)
  -- only the help and the questions do not let the focus stay as it is
  have hstay (hhelp : c.focus.current ≠ .help)
      (hconfirm : ∀ question, c.focus.current ≠ .confirm question) : c.Route key c.focus :=
    .stay (fun h => absurd h hhelp) fun question h => absurd h (hconfirm question)
  have hclosed (hmain : c.focus.current ≠ .mainOutput) (hhelp : c.focus.current ≠ .help) :
      c.Route key c.focus.close := .closed hmain fun h => absurd h hhelp
  unfold onKey
  rw [if_neg hkind, if_neg hkey]
  split
  · rename_i hf1
    exact ⟨_, .help hf1.2 (.inl hf1.1), movesTo_openHelp hf1.2⟩
  · -- the key goes to what has the focus
    split
    all_goals
      rename_i hcurrent
      simp only [hcurrent] at hstay hclosed
    · refine follows_onMainKey hcurrent (hstay nofun nofun) (fun hq hzero => ?_) now
      have hidle : c.IsIdle := ⟨hcurrent, (activeCount_eq_zero_iff _).mp hzero⟩
      exact hquits (.inr (.inl ⟨hidle, hq⟩))
    · exact follows_onFollowUpKey (hstay nofun nofun) (hclosed nofun nofun) hkey _ _
    · exact follows_onPickerKey (hstay nofun nofun) (hclosed nofun nofun) _
    · exact follows_onTaskPickKey (hstay nofun nofun) (hclosed nofun nofun) hcurrent _
    · exact follows_onTaskPromptKey (hstay nofun nofun) (hclosed nofun nofun) hkey
        hcurrent _
    · exact follows_onHelpKey hcurrent
    · refine ⟨_, hclosed nofun nofun, movesTo_onConfirmKey fun n hn hyes => ?_⟩
      exact hquits (.inr (.inr ⟨⟨n, hn ▸ hcurrent⟩, hyes⟩))
    · exact follows_onBrowserKey (hstay nofun nofun) (hclosed nofun nofun) _
    · exact follows_onSettingsKey (hstay nofun nofun) (hclosed nofun nofun) _

/-- A key that is to leave the program leaves it. -/
theorem leaves_onKey (hkind : key.kind ≠ .release) (hquits : c.QuitsOn key) (now : Moment) :
    (c.onKey key now).Leaves c key := by
  by_cases hinterrupt : key.IsInterrupt
  · -- Ctrl-C leaves the focus where it is, and no question is answered
    have hhelp : ¬ key.closesHelp := by simp [Key.closesHelp, hinterrupt.1]
    unfold onKey
    rw [if_neg hkind, if_pos (And.intro hinterrupt.1 hinterrupt.2)]
    exact ⟨.stay (fun _ => hhelp) fun _ _ => hinterrupt, rfl, List.mem_singleton_self _⟩
  have hno : ¬ (key.code = .char 'c' ∧ key.control) := hinterrupt
  -- the interrupt was dealt with, so it is `q` over ended sessions, or the question that is
  -- affirmed
  rcases id hquits with hkey | ⟨⟨hmain, hended⟩, hq⟩ | ⟨⟨n, hconfirm⟩, hyes⟩
  · exact absurd hkey hinterrupt
  · have hquit : c.onKey key now = c.quit := by
      unfold onKey
      rw [if_neg hkind, if_neg hno, if_neg (by simp [hq]), hmain]
      show c.onMainKey key now = c.quit
      unfold onMainKey
      rw [hq]
      exact if_pos ((activeCount_eq_zero_iff _).mpr hended)
    rw [hquit]
    refine ⟨.stay (fun h => ?_) (fun _ h => ?_), rfl, List.mem_singleton_self _⟩
    · exact absurd (hmain.symm.trans h) Target.noConfusion
    · exact absurd (hmain.symm.trans h) Target.noConfusion
  · have hf1 : ¬ (key.code = .function 1 ∧ c.focus.current ≠ .help) := by
      rintro ⟨hcode, -⟩
      simp [Key.confirmsQuit, hcode] at hyes
    have haffirms : isYes key || key.code = .char 'q' := by
      simpa [Key.confirmsQuit, isYes, or_assoc] using hyes
    have hquit : c.onKey key now = { c with focus := c.focus.reset }.quit := by
      unfold onKey
      rw [if_neg hkind, if_neg hno, if_neg hf1, hconfirm]
      exact if_pos haffirms
    rw [hquit]
    exact ⟨.reset ⟨n, hconfirm⟩ hyes, rfl, List.mem_singleton_self _⟩

/-- A key that is released does nothing. -/
theorem onKey_of_release (hkind : key.kind = .release) (now : Moment) : c.onKey key now = c.quiet :=
  if_pos hkind

/-- What a key that is pressed or held does to the focus and to the program. -/
theorem onKey_cases (c : Console) (hkind : key.kind ≠ .release) (now : Moment) :
    c.QuitsOn key ∧ (c.onKey key now).Leaves c key ∨
      ¬ c.QuitsOn key ∧ (c.onKey key now).Follows c key := by
  by_cases hquits : c.QuitsOn key
  · exact .inl ⟨hquits, leaves_onKey hkind hquits now⟩
  · exact .inr ⟨hquits, follows_onKey hkind hquits now⟩

end Console

/-! ### Every event -/

/-- A key of which `p` holds is pressed or held. -/
def Event.Strikes (p : Key → Prop) (event : Event) : Prop :=
  ∃ key, event = .key key ∧ key.kind ≠ .release ∧ p key

theorem Event.strikes_key_iff {p : Key → Prop} (key : Key) :
    (Event.key key).Strikes p ↔ key.kind ≠ .release ∧ p key := by
  refine ⟨?_, fun h => ⟨key, rfl, h⟩⟩
  rintro ⟨_, ⟨rfl⟩, h⟩
  exact h

/-- A key that is struck decides what is struck. -/
theorem Event.strikes_iff {event : Event} {key : Key} (h : event.Strikes (· = key))
    (p : Key → Prop) : event.Strikes p ↔ p key := by
  obtain ⟨key, rfl, hkind, rfl⟩ := h
  rw [strikes_key_iff]
  exact and_iff_right hkind

namespace Console

/-- An event is a key that leaves the program, a key that takes a route, or nothing to
the focus and the program. -/
theorem handle_cases (c : Console) (event : Event) (now : Moment) :
    (∃ key, event.Strikes (· = key) ∧ c.QuitsOn key ∧ (c.handle event now).Leaves c key) ∨
      (∃ key, event.Strikes (· = key) ∧ ¬ c.QuitsOn key ∧ (c.handle event now).Follows c key) ∨
      (∀ p, ¬ event.Strikes p) ∧ (c.handle event now).MovesTo c.focus c.quitting := by
  cases event with
  | key key =>
    -- a key that is released strikes nothing
    by_cases hkind : key.kind = .release
    · refine .inr (.inr ⟨fun p hp => ?_, ?_⟩)
      · exact ((Event.strikes_key_iff key).mp hp).1 hkind
      · show (c.onKey key now).MovesTo c.focus c.quitting
        rw [onKey_of_release hkind]
        exact .quiet rfl rfl
    · rcases c.onKey_cases hkind now with ⟨hquits, hleaves⟩ | ⟨hquits, hfollows⟩
      · exact .inl ⟨key, ⟨key, rfl, hkind, rfl⟩, hquits, hleaves⟩
      · exact .inr (.inl ⟨key, ⟨key, rfl, hkind, rfl⟩, hquits, hfollows⟩)
  | _ =>
    refine .inr (.inr ⟨?_, (c.keepsCourse_handle (fun _ => Event.noConfusion) now).movesTo⟩)
    rintro p ⟨key, hkey, -⟩
    exact Event.noConfusion hkey

/-- An event moves the focus along a route of its key, or leaves it alone. -/
theorem focus_handle_cases (c : Console) (event : Event) (now : Moment) :
    (∃ key, event.Strikes (· = key) ∧ c.Route key (c.handle event now).console.focus) ∨
      (∀ p, ¬ event.Strikes p) ∧ (c.handle event now).console.focus = c.focus := by
  rcases c.handle_cases event now with ⟨key, hkey, -, hleaves⟩ | ⟨key, hkey, -, f, hroute, hmoves⟩ |
    ⟨hnone, hmoves⟩
  · exact .inl ⟨key, hkey, hleaves.route⟩
  · exact .inl ⟨key, hkey, hmoves.focus ▸ hroute⟩
  · exact .inr ⟨hnone, hmoves.focus⟩

end Console

/-! ### The target that is remembered -/

/-- A target is remembered while the help has the focus, and only then. -/
structure Focus.IsNested (f : Focus) : Prop where
  remembered : f.remembered.isSome ↔ f.current = .help
  ne_help : f.remembered ≠ some .help

namespace Focus.IsNested

variable {f : Focus}

theorem eq_none (h : f.IsNested) (hf : f.current ≠ .help) : f.remembered = none := by
  rw [← Option.not_isSome_iff_eq_none, h.remembered]
  exact hf

theorem of_eq_none (hf : f.current ≠ .help) (hr : f.remembered = none) : f.IsNested := by
  refine ⟨?_, ?_⟩
  · rw [hr]
    exact ⟨fun h => absurd h Bool.false_ne_true, fun h => absurd h hf⟩
  · rw [hr]
    exact nofun

/-- Closing keeps the nesting. -/
theorem close (h : f.IsNested) : f.close.IsNested := by
  refine of_eq_none ?_ rfl
  show f.remembered.getD .mainOutput ≠ .help
  rcases hr : f.remembered with - | target
  · exact Target.noConfusion
  · rintro rfl
    exact h.ne_help hr

end Focus.IsNested

namespace Console

variable {c : Console} {key : Key}

theorem Opens.ne_help {code : KeyCode} {target : Target} (h : c.Opens code target) :
    target ≠ .help := by
  cases h <;> exact Target.noConfusion

/-- Along every edge the nesting is kept. -/
theorem Route.isNested {f : Focus} (hroute : c.Route key f) (h : c.focus.IsNested) : f.IsNested := by
  cases hroute with
  | stay => exact h
  | opened hmain hopens =>
    refine .of_eq_none hopens.ne_help (h.eq_none ?_)
    rw [hmain]
    exact Target.noConfusion
  | help hcurrent => exact ⟨by simp, fun heq => hcurrent (Option.some.inj heq)⟩
  | write hstep | pick hstep =>
    refine .of_eq_none Target.noConfusion (h.eq_none ?_)
    rw [hstep]
    exact Target.noConfusion
  | closed => exact h.close
  | reset => exact .of_eq_none Target.noConfusion rfl

theorem Reachable.isNested (h : c.Reachable) : c.focus.IsNested := by
  induction h with
  | ofTuning => exact .of_eq_none Target.noConfusion rfl
  | @start c _ ih => exact c.movesTo_start.focus ▸ ih
  | @handle c _ event now ih =>
    rcases c.focus_handle_cases event now with ⟨key, -, hroute⟩ | ⟨-, hfocus⟩
    · exact hroute.isNested ih
    · exact hfocus ▸ ih
  | @applyTheme c _ name ih => exact (c.movesTo_applyTheme name).focus ▸ ih

/-- The help was opened over that target, and no key has closed it since. -/
def Covers (c : Console) (target : Target) : Prop :=
  ∃ (d : Console) (key : Key) (now : Moment), d.Reachable ∧ d.focus.current = target ∧
    key.kind ≠ .release ∧ d.OpensHelp key ∧
    Later (fun _ event => ¬ event.Strikes (·.closesHelp)) (d.handle (.key key) now).console c

/-- Only help that was opened over a target remembers it. -/
theorem Reachable.covers (h : c.Reachable) {target : Target}
    (hc : c.focus.remembered = some target) : c.Covers target := by
  have hsince : Since (fun _ event => ¬ event.Strikes (·.closesHelp))
      (fun d event => d.focus.current = target ∧ event.Strikes d.OpensHelp) c := by
    refine h.since (fun d => d.focus.remembered = some target) (fun _ _ _ _ => nofun)
      (fun d hd => ?_) (fun d name hd => ?_) (fun d event now hreach hd => ?_) hc
    · rwa [d.movesTo_start.focus] at hd
    · rwa [(d.movesTo_applyTheme name).focus] at hd
    rcases d.focus_handle_cases event now with ⟨key, hkey, hroute⟩ | ⟨hnone, hfocus⟩
    · have hnested := hreach.isNested
      simp only [Event.strikes_iff hkey]
      generalize (d.handle event now).console.focus = f at hroute hd
      cases hroute with
      | stay hhelp =>
        -- the help has the focus, since something is remembered, and the key left it there
        exact .inl ⟨hd, hhelp (hnested.remembered.mp (by rw [hd]; rfl))⟩
      | help hcurrent hopens => exact .inr ⟨Option.some.inj hd, hopens⟩
      -- nothing was remembered in the main output or in a step of a task
      | opened hmain =>
        have hremembered := hnested.eq_none (hmain ▸ Target.noConfusion)
        exact absurd (hremembered.symm.trans hd) nofun
      | write hstep | pick hstep =>
        have hremembered := hnested.eq_none (hstep ▸ Target.noConfusion)
        exact absurd (hremembered.symm.trans hd) nofun
      | closed | reset => exact absurd hd nofun
    · exact .inl ⟨hfocus ▸ hd, hnone _⟩
  obtain ⟨d, event, now, hd, ⟨hcurrent, key, rfl, hkind, hkey⟩, hlater⟩ := hsince
  exact ⟨d, key, now, hd, hcurrent, hkind, hkey, hlater⟩

end Console

end AgentConsole
