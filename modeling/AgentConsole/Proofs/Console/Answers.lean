import AgentConsole.Proofs.Console.Quit
import AgentConsole.Proofs.Console.Sight

/-!
# What a key is answered with

Three requests tell the agents to do something, and `Console.Gives` says on which key each
of them goes out.  Such a key is answered with that request alone, and with the main
output (`gave_onKey`).  Every other key gets one of the answers in `Console.Answers`: a
plain one, a toast because the user has made a mistake, a toast because a theme was
chosen, or one that concerns the worktree that is picked for a new task.  Whatever is not
a key gives no command and keeps that worktree (`keepsCourse_handle`).

`answer_handle` puts this together for any event.  What commands carry and what mistakes
change follows by cases.
-/

namespace AgentConsole

/-- Does the request tell the agents to do something? -/
def Request.isCommand : Request → Bool
  | .startSession .. | .stopSession _ | .followUp .. => true
  | .schedule _ | .fetchSnapshot | .fetchRemoteStatus _ | .fetchHistory _ | .nextSessionEvent
  | .copy _ | .quit => false

theorem Request.not_isCommand_of_isRoutine {r : Request} (h : r.isRoutine) : ¬ r.isCommand := by
  cases r with
  | startSession | stopSession | followUp => exact absurd h Bool.false_ne_true
  | _ => exact Bool.false_ne_true

/-- Does the note tell of a toast? -/
def Note.tellsToast (n : Note) : Bool := "toast: ".toList.isPrefixOf n.message

/-- Does the target have the focus, or does it come back when the help closes? -/
def Focus.Holds (f : Focus) (target : Target) : Prop :=
  f.current = target ∨ f.remembered = some target

/-- What a closed focus holds, it held behind the one that was closed. -/
theorem Focus.holds_of_close {f : Focus} {target : Target} (hmain : target ≠ .mainOutput)
    (h : f.close.Holds target) : f.remembered = some target := by
  rcases h with h | h
  · rcases hr : f.remembered with - | other
    · have heq : Target.mainOutput = target := by simpa [Focus.close, hr] using h
      exact absurd heq.symm hmain
    · simpa [Focus.close, hr] using h
  · exact absurd h.symm (Option.some_ne_none target)

/-! ### Turns that give no command -/

/-- The turn gives no command, and it keeps the worktree that is picked for a new task and
how many toasts there is room for.  The prompt of a new task does not come into the focus. -/
structure Turn.KeepsTask (c : Console) (t : Turn) : Prop where
  requests : ∀ r ∈ t.requests, ¬ r.isCommand
  task : t.console.taskWorktree = c.taskWorktree
  held : t.console.focus.Holds (.taskFlow .writePrompt) → c.focus.Holds (.taskFlow .writePrompt)
  limit : t.console.toasts.limit = c.toasts.limit

namespace Turn.KeepsTask

variable {c d : Console} {t : Turn} {r : Request} {level : Level} {message : Text}
  {next : Console → Turn}

theorem quiet
    (hheld : d.focus.Holds (.taskFlow .writePrompt) → c.focus.Holds (.taskFlow .writePrompt))
    (htask : d.taskWorktree = c.taskWorktree) (hlimit : d.toasts.limit = c.toasts.limit) :
    d.quiet.KeepsTask c := ⟨fun _ hr => absurd hr List.not_mem_nil, htask, hheld, hlimit⟩

theorem note (h : t.KeepsTask c) : (t.note level message).KeepsTask c :=
  ⟨h.requests, h.task, h.held, h.limit⟩

theorem ask (h : t.KeepsTask c) (hr : ¬ r.isCommand) : (t.ask r).KeepsTask c where
  requests := List.forall_mem_append.mpr ⟨h.requests, List.forall_mem_singleton.mpr hr⟩
  task := h.task
  held := h.held
  limit := h.limit

theorem andThen (h : t.KeepsTask c) (hnext : ∀ d, (next d).KeepsTask d) :
    (t.andThen next).KeepsTask c where
  requests := List.forall_mem_append.mpr ⟨h.requests, (hnext _).requests⟩
  task := (hnext _).task.trans h.task
  held hf := h.held ((hnext _).held hf)
  limit := (hnext _).limit.trans h.limit

end Turn.KeepsTask

/-- On the same course, the task is the same. -/
theorem Turn.KeepsCourse.keepsTask {c : Console} {t : Turn} (h : t.KeepsCourse c) :
    t.KeepsTask c where
  requests r hr := Request.not_isCommand_of_isRoutine (h.requests r hr)
  task := h.task
  held hheld := h.focus ▸ hheld
  limit := h.limit

/-- The turn raises no toast. -/
structure Turn.Silent (c : Console) (t : Turn) : Prop where
  toasts : t.console.toasts = c.toasts
  notes : ∀ n ∈ t.notes, ¬ n.tellsToast

/-- The turn gives no command, raises no toast and keeps the task. -/
structure Turn.Plain (c : Console) (t : Turn) : Prop extends t.KeepsTask c, t.Silent c

namespace Turn.Silent

variable {c d : Console} {t : Turn} {r : Request} {n : Note} {level : Level} {message : Text}
  {next : Console → Turn}

theorem quiet (h : d.toasts = c.toasts) : d.quiet.Silent c :=
  ⟨h, fun _ hn => absurd hn List.not_mem_nil⟩

theorem ask (h : t.Silent c) : (t.ask r).Silent c := ⟨h.toasts, h.notes⟩

theorem note (h : t.Silent c) (hn : ¬ (Note.mk level message).tellsToast) :
    (t.note level message).Silent c where
  toasts := h.toasts
  notes := List.forall_mem_append.mpr ⟨h.notes, List.forall_mem_singleton.mpr hn⟩

theorem noteFirst (h : t.Silent c) (hn : ¬ n.tellsToast) :
    Turn.Silent c { t with notes := n :: t.notes } :=
  ⟨h.toasts, List.forall_mem_cons.mpr ⟨hn, h.notes⟩⟩

theorem andThen (h : t.Silent c) (hnext : ∀ d, (next d).Silent d) : (t.andThen next).Silent c where
  toasts := (hnext _).toasts.trans h.toasts
  notes := List.forall_mem_append.mpr ⟨h.notes, (hnext _).notes⟩

end Turn.Silent

namespace Turn.Plain

variable {c d : Console} {t : Turn} {r : Request} {n : Note} {level : Level} {message : Text}
  {next : Console → Turn}

theorem quiet
    (hheld : d.focus.Holds (.taskFlow .writePrompt) → c.focus.Holds (.taskFlow .writePrompt))
    (htask : d.taskWorktree = c.taskWorktree) (htoasts : d.toasts = c.toasts) : d.quiet.Plain c :=
  ⟨.quiet hheld htask (congrArg ToastQueue.limit htoasts), .quiet htoasts⟩

theorem note (h : t.Plain c) (hn : ¬ (Note.mk level message).tellsToast) :
    (t.note level message).Plain c := ⟨h.toKeepsTask.note, h.toSilent.note hn⟩

theorem noteFirst (h : t.Plain c) (hn : ¬ n.tellsToast) :
    Turn.Plain c { t with notes := n :: t.notes } :=
  ⟨⟨h.requests, h.task, h.held, h.limit⟩, h.toSilent.noteFirst hn⟩

theorem ask (h : t.Plain c) (hr : ¬ r.isCommand) : (t.ask r).Plain c :=
  ⟨h.toKeepsTask.ask hr, h.toSilent.ask⟩

theorem andThen (h : t.Plain c) (hnext : ∀ d, (next d).Plain d) : (t.andThen next).Plain c :=
  ⟨h.toKeepsTask.andThen fun d => (hnext d).toKeepsTask,
    h.toSilent.andThen fun d => (hnext d).toSilent⟩

end Turn.Plain

namespace Console

variable {c d : Console} {key : Key}

theorem keepsTask_toast (c : Console) (message : Text) (severity : Severity) (time : Nat) :
    (c.toast message severity time).KeepsTask c :=
  (c.keepsCourse_toast message severity time).keepsTask

theorem plain_view (c : Console) (worktree : WorktreeId) : (c.view worktree).Plain c := by
  refine ⟨(c.keepsCourse_view worktree).keepsTask, ?_⟩
  have hnote : ¬ (Note.mk .debug "switch source".toList).tellsToast := by decide
  unfold view
  split
  · exact .quiet rfl
  · dsimp only
    split
    · exact .noteFirst (.quiet rfl) hnote
    · exact .noteFirst (.ask (.quiet rfl)) hnote

end Console

/-! ### Keys that give a command -/

namespace Editor

/-- An editor submits on Ctrl-S or on Enter only, and then the text that it has. -/
theorem of_handle_submit {e : Editor} {key : Key} (h : (e.handle key).2 = .submit) :
    (e.handle key).1 = e ∧ (key.code = .enter ∨ key.code = .char 's') := by
  have hreads := e.reads_handle key
  rw [h] at hreads
  refine ⟨hreads.eq_of_ne_handled Outcome.noConfusion, ?_⟩
  obtain ⟨-, ⟨hcode, -⟩ | ⟨hcode, -⟩ | ⟨hcode, -⟩⟩ := hreads.sends
  · exact .inr hcode
  · exact .inl hcode
  · exact .inl hcode

/-- The key sends the text of the editor, which says something. -/
def Submits (e : Editor) (key : Key) : Prop := (e.handle key).2 = .submit ∧ ¬ e.buffer.isBlank

theorem Submits.handle_eq {e : Editor} {key : Key} (h : e.Submits key) :
    e.handle key = (e, .submit) := Prod.ext (of_handle_submit h.1).1 h.1

end Editor

namespace Console

variable {c d : Console} {key : Key}

/-- The command that a key gives if it is pressed or held. -/
inductive Gives (c : Console) (key : Key) : Request → Prop where
  | start {worktree : WorktreeId} (hwrite : c.focus.current = .taskFlow .writePrompt)
    (hpicked : c.taskWorktree = some worktree) (hkey : c.taskEditor.Submits key) :
    Gives c key (.startSession worktree (Text.trim c.taskEditor.buffer.text))
  | followUp {session : SessionId} (hfocus : c.focus.current = .followUp session)
    (hkey : c.followUpEditor.Submits key) :
    Gives c key (.followUp session (Text.trim c.followUpEditor.buffer.text))
  | stop {session : SessionId} (hasks : c.focus.current = .confirm (.stopSession session))
    (hkey : isYes key) : Gives c key (.stopSession session)

/-- The editor in which a command was written. -/
def editorOf? (c : Console) : Request → Option Editor
  | .startSession .. => some c.taskEditor
  | .followUp .. => some c.followUpEditor
  | _ => none

end Console

/-- The turn gives that command and nothing else, closes the target in force and empties the
editor in which the command was written. -/
structure Turn.Gave (c : Console) (r : Request) (t : Turn) : Prop extends t.Silent c where
  requests : t.requests = [r]
  focus : t.console.focus = c.focus.close
  editor : ∀ e ∈ t.console.editorOf? r, e.buffer = {}

namespace Console

variable {c d : Console} {key : Key}

/-- A key that gives a command neither leaves the program nor opens the help. -/
theorem Gives.passes {r : Request} (h : c.Gives key r) :
    ¬ (key.code = .char 'c' ∧ key.control) ∧ ¬ (key.code = .function 1 ∧ c.focus.current ≠ .help) := by
  have hsend {e : Editor} (hkey : e.Submits key) :
      ¬ (key.code = .char 'c' ∧ key.control) ∧
        ¬ (key.code = .function 1 ∧ c.focus.current ≠ .help) := by
    rcases (Editor.of_handle_submit hkey.1).2 with hcode | hcode <;> simp [hcode]
  cases h with
  | start _ _ hkey => exact hsend hkey
  | followUp _ hkey => exact hsend hkey
  | stop _ hkey =>
    unfold isYes at hkey
    rcases Bool.or_eq_true_iff.mp hkey with hcode | hcode <;> simp [of_decide_eq_true hcode]

theorem silent_closeFocus (h : d.toasts = c.toasts) : d.closeFocus.Silent c :=
  .note (.quiet h) (by decide)

/-- A focus that is closed with a command has given it. -/
theorem gave_closeFocus {r : Request} {message : Text} (hfocus : d.focus = c.focus)
    (htoasts : d.toasts = c.toasts) (hmessage : ¬ (Note.mk .info message).tellsToast)
    (heditor : ∀ e ∈ d.editorOf? r, e.buffer = {}) :
    ((d.closeFocus.note .info message).ask r).Gave c r where
  toSilent := ((silent_closeFocus htoasts).note hmessage).ask
  requests := rfl
  focus := congrArg Focus.close hfocus
  editor := by
    -- to close the target exchanges no editor
    have hsame : ((d.closeFocus.note .info message).ask r).console.editorOf? r = d.editorOf? r := by
      cases r <;> rfl
    rw [hsame]
    exact heditor

/-- **The answer to a command.** -/
theorem gave_onKey (hkind : key.kind ≠ .release) {r : Request} (h : c.Gives key r) (now : Moment) :
    (c.onKey key now).Gave c r := by
  obtain ⟨hinterrupt, hf1⟩ := h.passes
  unfold onKey
  rw [if_neg hkind, if_neg hinterrupt, if_neg hf1]
  -- the console is in a prompt, in a follow-up or at a question, and the key ends it
  cases h with
  | start hwrite hpicked hkey =>
    rw [hwrite]
    show (c.onTaskPromptKey key now.clock).Gave c _
    unfold onTaskPromptKey
    rw [hkey.handle_eq]
    dsimp only
    rw [if_neg hkey.2, hpicked]
    refine gave_closeFocus rfl rfl (by decide) fun e he => ?_
    obtain rfl := Option.some.inj he
    rfl
  | followUp hfocus hkey =>
    rw [hfocus]
    show (c.onFollowUpKey _ key now.clock).Gave c _
    unfold onFollowUpKey
    rw [hkey.handle_eq]
    dsimp only
    rw [if_neg hkey.2]
    refine gave_closeFocus rfl rfl (by decide) fun e he => ?_
    obtain rfl := Option.some.inj he
    rfl
  | stop hasks hkey =>
    rw [hasks]
    show (c.onConfirmKey _ key).Gave c _
    unfold onConfirmKey
    dsimp only
    rw [if_pos hkey]
    exact gave_closeFocus rfl rfl (by decide) nofun

/-! ### Keys that give no command -/

/-- What a key is answered with if it gives no command. -/
inductive Answers (c : Console) (key : Key) (time : Nat) : Turn → Prop where
  | plain {t : Turn} (h : t.Plain c) : Answers c key time t
  /-- The user has made a mistake, and a toast says so. -/
  | mistaken (message : Text) {severity : Severity}
    (hseverity : severity = .warning ∨ severity = .info) :
    Answers c key time (c.toast message severity time)
  /-- A theme is chosen, and a toast says so. -/
  | themed {t : Turn} (message : Text) (h : t.KeepsTask c)
    (htoasts : t.console.toasts = (c.toasts.push message .success time).1) : Answers c key time t
  /-- A worktree is picked for a new task. -/
  | picked {id : String} (hpick : c.focus.current = .taskFlow .pickWorktree)
    (henter : key.code = .enter) (hid : c.picker.selectedId? = some id) :
    Answers c key time
      ({ c with taskWorktree := some ⟨id⟩ }.replaceFocus (.taskFlow .writePrompt)).quiet
  /-- A new task is begun or given up, and no worktree is picked for it. -/
  | unset {t : Turn} (hrequests : ∀ r ∈ t.requests, ¬ r.isCommand)
    (hfree : ¬ t.console.focus.Holds (.taskFlow .writePrompt)) (h : t.Silent c) :
    Answers c key time t
  /-- A prompt is sent although no worktree was picked for it. -/
  | strayed (message : Text) (hwrite : c.focus.current = .taskFlow .writePrompt)
    (hnone : c.taskWorktree = none) :
    Answers c key time
      ((c.replaceFocus (.taskFlow .pickWorktree)).toast message .warning time)

/-- Opening a focus, except the prompt of a task. -/
theorem plain_openFocus {target : Target} (htarget : target ≠ .taskFlow .writePrompt)
    (hfocus : d.focus = c.focus) (htask : d.taskWorktree = c.taskWorktree)
    (htoasts : d.toasts = c.toasts) : (d.openFocus target).Plain c := by
  unfold openFocus Focus.open
  rw [hfocus]
  split
  · rename_i focus hopen
    split at hopen
    · obtain rfl := Option.some.inj hopen
      refine .note (.quiet (fun hheld => ?_) htask htoasts) (by decide)
      exact hheld.elim (fun heq => absurd heq htarget) .inr
    · exact absurd hopen nofun
  · exact .quiet (fun hheld => hfocus ▸ hheld) htask htoasts

theorem plain_closeFocus (hfocus : d.focus = c.focus) (htask : d.taskWorktree = c.taskWorktree)
    (htoasts : d.toasts = c.toasts) : d.closeFocus.Plain c := by
  refine .note (.quiet (fun hheld => .inr ?_) htask htoasts) (by decide)
  exact hfocus ▸ Focus.holds_of_close Target.noConfusion hheld

theorem plain_openHelp (c : Console) : c.openHelp.Plain c := by
  refine .quiet (fun hheld => ?_) rfl rfl
  have hcover : (c.focus.cover .help).Holds (.taskFlow .writePrompt) := hheld
  unfold Focus.cover at hcover
  split at hcover
  · exact hcover
  · exact .inl (hcover.elim nofun fun heq => Option.some.inj heq)

theorem plain_quit (c : Console) : c.quit.Plain c := .ask (.quiet id rfl rfl) Bool.false_ne_true

/-! ### Keys in the main output -/

section

variable {time : Nat}

/-- A new task begins with the choice of a worktree, or with a warning. -/
theorem answers_openTaskFlow (h : c.focus.IsNested) (hmain : c.focus.current = .mainOutput) :
    c.Answers key time (c.openTaskFlow time) := by
  unfold openTaskFlow
  split
  · exact .mistaken _ (.inl rfl)
  · have hremembered : c.focus.remembered = none := h.eq_none (hmain ▸ Target.noConfusion)
    -- no worktree is picked for the new task, and its prompt is not in the focus
    have hopen : c.focus.open (.taskFlow .pickWorktree) = some ⟨.taskFlow .pickWorktree, none⟩ := by
      unfold Focus.open Focus.isMain
      rw [if_pos (decide_eq_true hmain), hremembered]
    unfold openFocus
    dsimp only
    rw [hopen]
    refine .unset (fun _ hr => absurd hr List.not_mem_nil) (fun hheld => ?_)
      (.note (.quiet rfl) (by decide))
    exact hheld.elim nofun nofun

/-- A follow-up opens, or there is a warning. -/
theorem answers_openFollowUp (c : Console) : c.Answers key time (c.openFollowUp time) := by
  unfold openFollowUp
  split
  · exact .mistaken _ (.inl rfl)
  · split
    · exact .mistaken _ (.inl rfl)
    · exact .plain (plain_openFocus Target.noConfusion rfl rfl rfl)

/-- The question about a session opens, or there is a warning. -/
theorem answers_askToStop (c : Console) : c.Answers key time (c.askToStop time) := by
  unfold askToStop
  split
  · exact .plain (plain_openFocus Target.noConfusion rfl rfl rfl)
  · exact .mistaken _ (.inl rfl)

/-- The list of worktrees opens, or there is a notice. -/
theorem answers_openPicker (c : Console) : c.Answers key time (c.openPicker time) := by
  unfold openPicker
  split
  · exact .mistaken _ (.inr rfl)
  · exact .plain (plain_openFocus Target.noConfusion rfl rfl rfl)

/-- The list of sessions opens, or there is a notice. -/
theorem answers_openBrowser (c : Console) (now : Moment) :
    c.Answers key now.clock (c.openBrowser now) := by
  unfold openBrowser
  split
  · exact .mistaken _ (.inr rfl)
  · exact .plain (plain_openFocus Target.noConfusion rfl rfl rfl)

/-- Rows are copied, or there is a notice. -/
theorem answers_copyVisible (c : Console) : c.Answers key time (c.copyVisible time) := by
  unfold copyVisible
  dsimp only
  split
  · exact .mistaken _ (.inr rfl)
  · exact .plain (.ask (.quiet id rfl rfl) Bool.false_ne_true)

/-- A number selects a worktree, or there is a warning. -/
theorem answers_quickSelect (c : Console) (index : Nat) :
    c.Answers key time (c.quickSelect index time) := by
  unfold quickSelect
  split
  · exact .plain (c.plain_view _)
  · exact .mistaken _ (.inl rfl)

theorem plain_cycle (c : Console) (steps : Int) : (c.cycle steps).Plain c := by
  unfold cycle
  dsimp only
  split
  · exact c.plain_view _
  · exact .quiet id rfl rfl

theorem plain_requestQuit (c : Console) : c.requestQuit.Plain c := by
  unfold requestQuit
  dsimp only
  split
  · exact c.plain_quit
  · exact .noteFirst (plain_openFocus Target.noConfusion rfl rfl rfl) (by decide)

/-- Each key over the output is answered. -/
theorem answers_onMainKey (h : c.focus.IsNested) (hmain : c.focus.current = .mainOutput)
    (now : Moment) : c.Answers key now.clock (c.onMainKey key now) := by
  have hscrolled (scroll : ScrollView) : Turn.Plain c { c with scroll }.quiet := .quiet id rfl rfl
  unfold onMainKey
  dsimp only
  split
  -- ten keys scroll, two go from worktree to worktree, the others open something
  iterate 10 exact .plain (hscrolled _)
  iterate 2 exact .plain (c.plain_cycle _)
  · exact answers_openTaskFlow h hmain
  · exact c.answers_openFollowUp
  · exact c.answers_askToStop
  · exact c.answers_openPicker
  · exact c.answers_openBrowser now
  · exact .plain (plain_openFocus Target.noConfusion rfl rfl rfl)
  · exact .plain c.plain_openHelp
  · exact c.answers_copyVisible
  · exact .plain c.plain_requestQuit
  · split
    · exact c.answers_quickSelect _
    · exact .plain (hscrolled c.scroll)
  · exact .plain (hscrolled c.scroll)

/-! ### Keys of the other targets -/

theorem answers_onFollowUpKey {session : SessionId} (hcurrent : c.focus.current = .followUp session)
    (hnone : ∀ r, ¬ c.Gives key r) : c.Answers key time (c.onFollowUpKey session key time) := by
  have hsubmit := @Editor.of_handle_submit c.followUpEditor key
  have hgives : ¬ c.followUpEditor.Submits key := fun hkey => hnone _ (.followUp hcurrent hkey)
  unfold onFollowUpKey
  unfold Editor.Submits at hgives
  generalize c.followUpEditor.handle key = read at hsubmit hgives ⊢
  obtain ⟨editor, outcome⟩ := read
  cases outcome with
  | submit =>
    -- what is submitted and gives no command is blank
    obtain rfl := (hsubmit rfl).1
    dsimp only
    rw [if_pos (Decidable.of_not_not fun hblank => hgives ⟨rfl, hblank⟩)]
    exact .mistaken _ (.inl rfl)
  | cancel => exact .plain (plain_closeFocus rfl rfl rfl)
  | quit => exact .plain (.ask (.quiet id rfl rfl) Bool.false_ne_true)
  | handled => exact .plain (.quiet id rfl rfl)
  | unhandled => exact .plain (.quiet id rfl rfl)

theorem answers_onTaskPickKey (h : c.focus.IsNested)
    (hpick : c.focus.current = .taskFlow .pickWorktree) :
    c.Answers key time (c.onTaskPickKey key time) := by
  have hyields := c.yields_onTaskPickKey key time
  generalize c.onTaskPickKey key time = t at hyields ⊢
  cases hyields with
  | take hkey hrow => exact .picked hpick hkey hrow
  | miss => exact .mistaken _ (.inl rfl)
  | close =>
    have hremembered : c.focus.remembered = none := h.eq_none (hpick ▸ Target.noConfusion)
    refine .unset (fun _ hr => absurd hr List.not_mem_nil) (fun hheld => ?_)
      (silent_closeFocus rfl)
    exact absurd (hremembered.symm.trans (Focus.holds_of_close Target.noConfusion hheld)) nofun
  | stay => exact .plain (.quiet id rfl rfl)

theorem answers_onTaskPromptKey (hwrite : c.focus.current = .taskFlow .writePrompt)
    (hnone : ∀ r, ¬ c.Gives key r) : c.Answers key time (c.onTaskPromptKey key time) := by
  have hsubmit := @Editor.of_handle_submit c.taskEditor key
  have hgives {worktree : WorktreeId} (hpicked : c.taskWorktree = some worktree) :
      ¬ c.taskEditor.Submits key := fun hkey => hnone _ (.start hwrite hpicked hkey)
  unfold onTaskPromptKey
  unfold Editor.Submits at hgives
  generalize c.taskEditor.handle key = read at hsubmit hgives ⊢
  obtain ⟨editor, outcome⟩ := read
  -- a prompt that is submitted is blank, has no worktree, or is one that `Gives` excludes
  cases outcome with
  | submit =>
    obtain rfl := (hsubmit rfl).1
    dsimp only
    split
    · exact .mistaken _ (.inl rfl)
    · rename_i hblank
      split
      · exact .strayed _ hwrite ‹_›
      · exact absurd ⟨rfl, hblank⟩ (hgives ‹_›)
  | cancel => exact .plain (.quiet (fun _ => .inl hwrite) rfl rfl)
  | quit => exact .plain (.ask (.quiet id rfl rfl) Bool.false_ne_true)
  | handled => exact .plain (.quiet id rfl rfl)
  | unhandled => exact .plain (.quiet id rfl rfl)

/-- Keys in the list of worktrees. -/
theorem answers_onPickerKey (c : Console) : c.Answers key time (c.onPickerKey key time) := by
  have hyields := c.yields_onPickerKey key time
  generalize c.onPickerKey key time = t at hyields ⊢
  cases hyields with
  | take => exact .plain (.andThen (plain_closeFocus rfl rfl rfl) fun d => d.plain_view _)
  | miss => exact .mistaken _ (.inl rfl)
  | close => exact .plain (plain_closeFocus rfl rfl rfl)
  | stay => exact .plain (.quiet id rfl rfl)

/-- Keys in the list of sessions. -/
theorem answers_onBrowserKey (c : Console) : c.Answers key time (c.onBrowserKey key time) := by
  have hyields := c.yields_onBrowserKey key time
  generalize c.onBrowserKey key time = t at hyields ⊢
  cases hyields with
  | take => exact .plain (.andThen (plain_closeFocus rfl rfl rfl) fun d => d.plain_view _)
  | miss => exact .mistaken _ (.inl rfl)
  | close => exact .plain (plain_closeFocus rfl rfl rfl)
  | stay => exact .plain (.quiet id rfl rfl)

/-- Keys in the settings. -/
theorem answers_onSettingsKey (c : Console) : c.Answers key time (c.onSettingsKey key time) := by
  have hyields := c.yields_onSettingsKey key time
  generalize c.onSettingsKey key time = t at hyields ⊢
  cases hyields with
  | take =>
    -- the settings are closed, the theme is chosen, and a toast says so
    have hclose : Turn.Plain c { c with settings := c.settings.close }.closeFocus :=
      plain_closeFocus rfl rfl rfl
    refine .themed _ (.andThen (.andThen hclose.toKeepsTask ?_) ?_) rfl
    · exact fun d => (d.keepsCourse_applyTheme _).keepsTask
    · exact fun d => d.keepsTask_toast _ _ _
  | miss => exact .mistaken _ (.inl rfl)
  | close => exact .plain (plain_closeFocus rfl rfl rfl)
  | stay => exact .plain (.quiet id rfl rfl)

theorem plain_onHelpKey (c : Console) (key : Key) : (c.onHelpKey key).Plain c := by
  have hscrolled (helpScroll : Nat) : Turn.Plain c { c with helpScroll }.quiet := .quiet id rfl rfl
  unfold onHelpKey
  dsimp only
  split
  -- five keys close the help, eight scroll it
  iterate 5 exact plain_closeFocus rfl rfl rfl
  iterate 8 exact hscrolled _
  exact hscrolled c.helpScroll

/-- Keys at a question that is not affirmed. -/
theorem plain_onConfirmKey {question : Confirmation} (hcurrent : c.focus.current = .confirm question)
    (hnone : ∀ r, ¬ c.Gives key r) : (c.onConfirmKey question key).Plain c := by
  have hcancelled : Turn.Plain c
      { c.closeFocus with
        notes := ⟨.debug, "confirmation cancelled".toList⟩ :: c.closeFocus.notes } :=
    .noteFirst (plain_closeFocus rfl rfl rfl) (by decide)
  -- quitting is no command, and a session that is stopped by this key is excluded
  cases question with
  | quit n =>
    unfold onConfirmKey
    dsimp only
    split
    · refine .ask (.quiet (fun hheld => ?_) rfl rfl) Bool.false_ne_true
      exact hheld.elim nofun nofun
    · exact hcancelled
  | stopSession session =>
    unfold onConfirmKey
    dsimp only
    split
    · exact absurd (.stop hcurrent ‹_›) (hnone _)
    · exact hcancelled

end

/-- **The answer to any other key.** -/
theorem answers_onKey (h : c.focus.IsNested) (hkind : key.kind ≠ .release)
    (hnone : ∀ r, ¬ c.Gives key r) (now : Moment) :
    c.Answers key now.clock (c.onKey key now) := by
  unfold onKey
  rw [if_neg hkind]
  split
  · exact .plain (.noteFirst c.plain_quit (by decide))
  · split
    · exact .plain c.plain_openHelp
    · -- the key goes to what has the focus
      split
      all_goals rename_i hcurrent
      · exact answers_onMainKey h hcurrent now
      · exact answers_onFollowUpKey hcurrent hnone
      · exact c.answers_onPickerKey
      · exact answers_onTaskPickKey h hcurrent
      · exact answers_onTaskPromptKey hcurrent hnone
      · exact .plain (c.plain_onHelpKey key)
      · exact .plain (plain_onConfirmKey hcurrent hnone)
      · exact c.answers_onBrowserKey
      · exact c.answers_onSettingsKey

/-- An event is a key that gives a command, a key that is answered in another way, or
neither, and then it gives no command and keeps the task. -/
theorem answer_handle (h : c.focus.IsNested) (event : Event) (now : Moment) :
    (∃ key r, event.Strikes (· = key) ∧ c.Gives key r ∧ (c.handle event now).Gave c r) ∨
      (∃ key, event.Strikes (· = key) ∧ (∀ r, ¬ c.Gives key r) ∧
        c.Answers key now.clock (c.handle event now)) ∨
      (∀ p, ¬ event.Strikes p) ∧ (c.handle event now).KeepsTask c := by
  cases event with
  | key key =>
    by_cases hkind : key.kind = .release
    · refine .inr (.inr ⟨fun p hp => ?_, ?_⟩)
      · exact ((Event.strikes_key_iff key).mp hp).1 hkind
      · show (c.onKey key now).KeepsTask c
        rw [onKey_of_release hkind]
        exact .quiet id rfl rfl
    · have hkey : (Event.key key).Strikes (· = key) := ⟨key, rfl, hkind, rfl⟩
      -- either this key gives a command in this state, or no command is at stake
      by_cases hgives : ∃ r, c.Gives key r
      · obtain ⟨r, hr⟩ := hgives
        exact .inl ⟨key, r, hkey, hr, gave_onKey hkind hr now⟩
      · have hnone : ∀ r, ¬ c.Gives key r := fun r hr => hgives ⟨r, hr⟩
        exact .inr (.inl ⟨key, hkey, hnone, answers_onKey h hkind hnone now⟩)
  | _ =>
    refine .inr (.inr ⟨?_, (c.keepsCourse_handle (fun _ => Event.noConfusion) now).keepsTask⟩)
    rintro p ⟨key, hkey, -⟩
    exact Event.noConfusion hkey

end Console

end AgentConsole
