import AgentConsole.Proofs.Console.Keys

/-!
# What an event can do

Keys apart, an event does one of few things.  It stays aside of the world
(`aside_handle`); it only fetches (`Turn.Fetches`); it tells of the life of a
session, which changes the snapshot and stays aside otherwise
(`onSession_cases`); or it brings a snapshot, lines or a history.  What
holds of the first kinds is said here once, for whatever is to be shown of an event.

Whatever it is, it leaves the user on the same course and asks for nothing but routine
(`keepsCourse_handle`).
-/

namespace AgentConsole

/-! ### Events that stay aside of the world -/

/-- Does the event concern the editors, the toasts and the notes only? -/
def Event.isAside : Event → Bool
  | .timer purpose _ => purpose = .toasts
  | .paste _ | .sessionsClosed | .commandFailed .. | .copied _ | .copyFailed _ => true
  | _ => false

namespace Console

/-- A pasted text goes into an editor, and nowhere else. -/
theorem beside_paste (c : Console) (t : Text) : c.Beside (c.paste t) := by
  unfold paste
  split
  · exact (Beside.refl c).withFollowUpEditor (Editor.frame_paste _ t)
  · exact (Beside.refl c).withTaskEditor (Editor.frame_paste _ t)
  · exact .refl c

/-- Such an event does stay aside of the world. -/
theorem aside_handle (c : Console) {event : Event} (he : event.isAside) (now : Moment) :
    (c.handle event now).Aside c := by
  -- the events that change an editor or the toasts, and nothing else
  cases event with
  | paste t => exact .quiet (beside_paste c t)
  | timer purpose generation =>
    obtain rfl := of_decide_eq_true he
    refine ⟨.of_furniture rfl rfl, fun r hr => ?_⟩
    obtain ⟨order, horder, rfl⟩ := List.mem_map.mp hr
    exact decide_eq_true (ToastQueue.purpose_of_onTimer (Option.mem_toList.mp horder))
  | sessionsClosed => exact (Turn.Aside.quiet (.refl c)).note _ _
  | commandFailed command error =>
    have hnote : Turn.Aside c (c.quiet.note .warn ("command failed: ".toList ++ error)) :=
      (Turn.Aside.quiet (.refl c)).note _ _
    show (c.onCommandFailed command error now.clock).Aside c
    unfold onCommandFailed
    exact hnote.andThen (aside_toast (.refl c) _ _ _)
  | copied rows => exact aside_toast (.refl c) _ _ _
  | copyFailed error => exact aside_toast (.refl c) _ _ _
  | _ => exact absurd he Bool.false_ne_true

/-- An exit changes the snapshot and may raise a toast. -/
theorem exists_snapshot_onExit (c : Console) (session : SessionId) (code : Option Int)
    (time : Nat) : ∃ snapshot : Snapshot, (c.onExit session code time).Aside { c with snapshot } := by
  unfold onExit
  split
  · exact ⟨c.snapshot, .quiet (.refl c)⟩
  · split
    · exact ⟨c.snapshot, .quiet (.refl c)⟩
    · dsimp only
      -- a toast says so if the agent failed
      split
      · exact ⟨_, ((Turn.Aside.quiet (.refl _)).note _ _).andThen (aside_toast (.refl _) _ _ _)⟩
      · exact ⟨_, (Turn.Aside.quiet (.refl _)).note _ _⟩

/-- Whatever happens in the life of a session changes the snapshot and stays aside of
everything else, unless it is a line of output. -/
theorem onSession_cases (c : Console) (event : SessionEvent) (time : Nat) :
    (∃ snapshot : Snapshot, (c.onSession event time).Aside { c with snapshot }) ∨
      ∃ session worktree line, event = .output session worktree line := by
  cases event with
  | started session => exact .inl ⟨_, (Turn.Aside.quiet (.refl _)).note _ _⟩
  | statusChanged session status => exact .inl ⟨_, .quiet (.refl _)⟩
  | output session worktree line => exact .inr ⟨session, worktree, line, rfl⟩
  | exited session code => exact .inl (exists_snapshot_onExit c session code time)

end Console

/-! ### Turns that only fetch -/

/-- A turn that changes the cadences only, and asks for no history. -/
structure Turn.Fetches (c : Console) (t : Turn) : Prop where
  console : ∃ refresh remoteStarted, t.console = { c with refresh, remoteStarted }
  requests : ∀ r ∈ t.requests, ∀ w, r ≠ .fetchHistory w

namespace Turn.Fetches

theorem quiet {c d : Console}
    (h : ∃ refresh remoteStarted, d = { c with refresh, remoteStarted }) : d.quiet.Fetches c :=
  ⟨h, fun _ hr => absurd hr List.not_mem_nil⟩

theorem ask {c : Console} {t : Turn} (h : t.Fetches c) {r : Request}
    (hr : ∀ w, r ≠ .fetchHistory w) : (t.ask r).Fetches c where
  console := h.console
  requests := List.forall_mem_append.mpr ⟨h.requests, List.forall_mem_singleton.mpr hr⟩

end Turn.Fetches

namespace Console

/-- Asking for the status at once. -/
theorem fetches_fetchNow (c : Console) : c.fetchNow.Fetches c := by
  unfold fetchNow
  split
  · exact (Turn.Fetches.quiet ⟨_, c.remoteStarted, rfl⟩).ask fun _ => Request.noConfusion
  · exact .quiet ⟨c.refresh, c.remoteStarted, rfl⟩

/-- The end of a fetch. -/
theorem fetches_completed (c : Console) (purpose : Purpose) (time : Nat) :
    (c.completed purpose time).Fetches c := by
  refine ⟨⟨_, c.remoteStarted, rfl⟩, fun r hr w => ?_⟩
  obtain ⟨order, -, rfl⟩ := List.mem_map.mp hr
  exact Request.noConfusion

/-- A timer that goes off. -/
theorem fetches_onTimer (c : Console) {purpose : Purpose} (hp : purpose ≠ .toasts)
    (generation time : Nat) : (c.onTimer purpose generation time).Fetches c := by
  cases purpose with
  | toasts => exact absurd rfl hp
  | localStatus | remoteStatus =>
    unfold onTimer
    dsimp only
    split
    · exact (Turn.Fetches.quiet ⟨_, c.remoteStarted, rfl⟩).ask fun _ => Request.noConfusion
    · exact .quiet ⟨_, c.remoteStarted, rfl⟩

/-- The first question about pull requests. -/
theorem fetches_startRemote (c : Console) : c.startRemote.Fetches c := by
  unfold startRemote
  split
  · exact .quiet ⟨c.refresh, c.remoteStarted, rfl⟩
  · dsimp only
    split
    · exact (Turn.Fetches.quiet ⟨_, true, rfl⟩).ask fun _ => Request.noConfusion
    · exact .quiet ⟨c.refresh, true, rfl⟩

/-! ### The viewed worktree -/

/-- What holds of turns aside of the world, of viewing a worktree, and of turns in
sequence holds where the viewed worktree may be gone. -/
theorem ensureViewed_induction {P : Console → Turn → Prop}
    (aside : ∀ {c : Console} {t : Turn}, t.Aside c → P c t)
    (view : ∀ (c : Console) (id : WorktreeId), P c (c.view id))
    (andThen : ∀ {c : Console} {t : Turn} {next : Console → Turn},
      P c t → P t.console (next t.console) → P c (t.andThen next))
    (c : Console) : P c c.ensureViewed := by
  have hnone : c.Beside { c with selected := none, scroll := {} } := .of_furniture rfl rfl
  unfold ensureViewed
  -- what is viewed is still there, or nothing is, or the first worktree is viewed
  split
  · exact aside (.quiet (.refl c))
  · dsimp only
    split
    · exact aside (.quiet hnone)
    · rename_i first _ _
      have hfirst : P c (Turn.andThen { c with selected := none, scroll := {} }.quiet (·.view first)) :=
        andThen (aside (.quiet hnone)) (view _ first)
      exact hfirst

end Console

/-! ### What only keys change -/

/-- Does the console ask for it of its own accord, whatever the user does? -/
def Request.isRoutine : Request → Bool
  | .schedule _ | .fetchSnapshot | .fetchRemoteStatus _ | .fetchHistory _ | .nextSessionEvent => true
  | .startSession .. | .stopSession _ | .followUp .. | .copy _ | .quit => false

/-- The course that the user is on: the focus, whether the program is being left, and the
worktree that is picked for a new task.  How many toasts there is room for never changes. -/
def Console.course (c : Console) : Focus × Bool × Option WorktreeId × Nat :=
  (c.focus, c.quitting, c.taskWorktree, c.toasts.limit)

/-- The turn leaves the user on the same course, and asks for nothing in the user's name. -/
structure Turn.KeepsCourse (c : Console) (t : Turn) : Prop where
  course : t.console.course = c.course
  requests : ∀ r ∈ t.requests, r.isRoutine

namespace Turn.KeepsCourse

variable {c d : Console} {t : Turn} {r : Request} {level : Level} {message : Text}
  {notes : List Note} {next : Console → Turn}

theorem quiet (h : d.course = c.course) : d.quiet.KeepsCourse c :=
  ⟨h, fun _ hr => absurd hr List.not_mem_nil⟩

theorem note (h : t.KeepsCourse c) : (t.note level message).KeepsCourse c := ⟨h.course, h.requests⟩

theorem noted (h : t.KeepsCourse c) : Turn.KeepsCourse c { t with notes } := ⟨h.course, h.requests⟩

theorem ask (h : t.KeepsCourse c) (hr : r.isRoutine) : (t.ask r).KeepsCourse c where
  course := h.course
  requests := List.forall_mem_append.mpr ⟨h.requests, List.forall_mem_singleton.mpr hr⟩

theorem andThen (h : t.KeepsCourse c) (hnext : ∀ d, (next d).KeepsCourse d) :
    (t.andThen next).KeepsCourse c where
  course := (hnext _).course.trans h.course
  requests := List.forall_mem_append.mpr ⟨h.requests, (hnext _).requests⟩

/-- Nothing else of the console matters. -/
theorem of_eq (h : t.KeepsCourse d) (hd : d.course = c.course) : t.KeepsCourse c :=
  ⟨h.course.trans hd, h.requests⟩

theorem focus (h : t.KeepsCourse c) : t.console.focus = c.focus := congrArg (·.1) h.course

theorem quitting (h : t.KeepsCourse c) : t.console.quitting = c.quitting :=
  congrArg (·.2.1) h.course

theorem task (h : t.KeepsCourse c) : t.console.taskWorktree = c.taskWorktree :=
  congrArg (·.2.2.1) h.course

theorem limit (h : t.KeepsCourse c) : t.console.toasts.limit = c.toasts.limit :=
  congrArg (·.2.2.2) h.course

end Turn.KeepsCourse

namespace Console

/-- Schedules are routine. -/
theorem isRoutine_schedule {orders : List Schedule} :
    ∀ r ∈ orders.map Request.schedule, r.isRoutine := by
  intro r hr
  obtain ⟨order, -, rfl⟩ := List.mem_map.mp hr
  rfl

/-- A toast does not change the course. -/
theorem keepsCourse_toast (c : Console) (message : Text) (severity : Severity) (time : Nat) :
    (c.toast message severity time).KeepsCourse c := by
  refine ⟨?_, isRoutine_schedule⟩
  show (c.focus, c.quitting, c.taskWorktree, (c.toasts.push message severity time).1.limit) = c.course
  rw [ToastQueue.limit_push]
  rfl

theorem keepsCourse_fetchNow (c : Console) : c.fetchNow.KeepsCourse c := by
  unfold fetchNow
  split
  · exact .ask (.quiet rfl) rfl
  · exact .quiet rfl

theorem keepsCourse_start (c : Console) : c.start.KeepsCourse c := c.keepsCourse_fetchNow.ask rfl

theorem keepsCourse_completed (c : Console) (purpose : Purpose) (time : Nat) :
    (c.completed purpose time).KeepsCourse c := ⟨rfl, isRoutine_schedule⟩

theorem keepsCourse_applyTheme (c : Console) (name : String) :
    (c.applyTheme name).KeepsCourse c := ⟨rfl, fun _ hr => absurd hr List.not_mem_nil⟩

theorem keepsCourse_view (c : Console) (id : WorktreeId) : (c.view id).KeepsCourse c := by
  unfold view
  split
  · exact .quiet rfl
  · dsimp only
    split
    · exact .noted (.quiet rfl)
    · exact .noted (.ask (.quiet rfl) rfl)

theorem keepsCourse_onTimer (c : Console) (purpose : Purpose) (generation time : Nat) :
    (c.onTimer purpose generation time).KeepsCourse c := by
  cases purpose with
  | toasts =>
    refine ⟨?_, isRoutine_schedule⟩
    show (c.focus, c.quitting, c.taskWorktree, (c.toasts.onTimer generation time).1.limit) = c.course
    rw [ToastQueue.limit_onTimer]
    rfl
  | localStatus | remoteStatus =>
    unfold onTimer
    dsimp only
    split
    · exact .ask (.quiet rfl) rfl
    · exact .quiet rfl

theorem keepsCourse_ensureViewed (c : Console) : c.ensureViewed.KeepsCourse c := by
  unfold ensureViewed
  split
  · exact .quiet rfl
  · dsimp only
    split
    · exact .quiet rfl
    · exact (keepsCourse_view { c with selected := none, scroll := {} } _).of_eq rfl

theorem keepsCourse_startRemote (c : Console) : c.startRemote.KeepsCourse c := by
  unfold startRemote
  split
  · exact .quiet rfl
  · dsimp only
    split
    · exact .ask (.quiet rfl) rfl
    · exact .quiet rfl

theorem keepsCourse_onSnapshot (c : Console) (snapshot : Snapshot) (time : Nat) :
    (c.onSnapshot snapshot time).KeepsCourse c := by
  have hcompleted := keepsCourse_completed { c with snapshot } .localStatus time
  have hviewed := hcompleted.andThen fun d =>
    d.forgetGone.keepsCourse_ensureViewed.of_eq (c := d) rfl
  exact (hviewed.andThen keepsCourse_startRemote).of_eq rfl

theorem keepsCourse_onSession (c : Console) (event : SessionEvent) (time : Nat) :
    (c.onSession event time).KeepsCourse c := by
  cases event with
  | started session => exact .note (.quiet rfl)
  | statusChanged session status => exact .quiet rfl
  | output session worktree line =>
    show (c.onOutput worktree line).quiet.KeepsCourse c
    unfold onOutput
    dsimp only
    split
    · exact .quiet rfl
    · exact .quiet rfl
  | exited session code =>
    show (c.onExit session code time).KeepsCourse c
    unfold onExit
    split
    · exact .quiet rfl
    · split
      · exact .quiet rfl
      · dsimp only
        -- a toast says so if the agent failed
        split
        · exact .andThen (.note (.quiet rfl)) fun d => d.keepsCourse_toast _ _ _
        · exact .note (.quiet rfl)

/-- **Nothing but a key changes the course or acts in the user's name.** -/
theorem keepsCourse_handle (c : Console) {event : Event} (he : ∀ key, event ≠ .key key)
    (now : Moment) : (c.handle event now).KeepsCourse c := by
  -- the handler of each event has its lemma; the rest answer at once
  cases event with
  | key key => exact absurd rfl (he key)
  | paste t =>
    show (c.paste t).quiet.KeepsCourse c
    unfold paste
    split
    · exact .quiet rfl
    · exact .quiet rfl
    · exact .quiet rfl
  | resize width height => exact .quiet rfl
  | timer purpose generation => exact c.keepsCourse_onTimer purpose generation _
  | snapshot snapshot => exact c.keepsCourse_onSnapshot snapshot _
  | snapshotFailed error =>
    exact .andThen (.note (.quiet rfl)) fun d => d.keepsCourse_completed _ _
  | remoteStatus statuses =>
    refine .andThen ?_ fun d => d.keepsCourse_completed _ _
    exact .note (.quiet rfl)
  | history worktree lines =>
    show (c.onHistory worktree lines).quiet.KeepsCourse c
    unfold onHistory
    dsimp only
    split
    · exact .quiet rfl
    · exact .quiet rfl
  | historyFailed worktree error => exact .note (.quiet rfl)
  | session event => exact (c.keepsCourse_onSession event _).ask rfl
  | sessionsClosed => exact .note (.quiet rfl)
  | commandDone command => exact (c.keepsCourse_toast _ _ _).andThen keepsCourse_fetchNow
  | commandFailed command error =>
    exact .andThen (.note (.quiet rfl)) fun d => d.keepsCourse_toast _ _ _
  | copied rows => exact c.keepsCourse_toast _ _ _
  | copyFailed error => exact c.keepsCourse_toast _ _ _

end Console

end AgentConsole
