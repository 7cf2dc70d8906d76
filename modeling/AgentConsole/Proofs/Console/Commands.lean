import AgentConsole.Proofs.Console.Answers
import Mathlib.Data.List.DropRight

/-!
# Commands and where they come from

Starting a session, stopping one and following up on one are what the console asks others
to do to the agents.  Each of these commands goes out on one key in one target
(`Console.Gives`), so that what it carries is decided by the target, by the editor and by
the worktree that is picked for a new task.

Where these come from is a matter of the past.  A target that is opened from the main
output has been in the focus or under the help ever since (`Reachable.opened`), and so the
session that it is about was the live one of the viewed worktree at that time
(`OpenedFor`).  The worktree of a new task was picked when its prompt came into the
focus, and was not exchanged since (`Reachable.isPicked`); in particular there is one
whenever the prompt can be sent (`Reachable.exists_task`).
-/

namespace AgentConsole

namespace Text

/-- Nothing is left of a text if and only if it is blank. -/
theorem trim_eq_nil_iff (t : Text) : t.trim = [] ↔ t.isBlank := by
  have hstart : t.trimStart = [] ↔ t.isBlank := by
    unfold trimStart isBlank
    rw [List.dropWhile_eq_nil_iff, List.all_eq_true]
  rw [← hstart]
  refine ⟨fun hnil => ?_, fun hnil => ?_⟩
  · -- what does not begin with a blank is blank only if it is empty
    have hblank : ∀ c ∈ t.trimStart, Unicode.isBlank c := List.rdropWhile_eq_nil_iff.mp hnil
    have hidem : t.trimStart.trimStart = t.trimStart := List.dropWhile_idempotent _ _
    rw [← hidem]
    exact List.dropWhile_eq_nil_iff.mpr hblank
  · unfold trim
    rw [hnil]
    rfl

/-- There is nothing to take off a text that was trimmed. -/
theorem trim_trim (t : Text) : t.trim.trim = t.trim := by
  have hprefix : t.trim <+: t.trimStart := List.rdropWhile_prefix _ _
  have hidem : t.trimStart.trimStart = t.trimStart := List.dropWhile_idempotent _ _
  have hstart : t.trim.trimStart = t.trim := by
    refine List.dropWhile_eq_self_iff.mpr fun hlength => ?_
    have hfirst := List.dropWhile_eq_self_iff.mp hidem (Nat.lt_of_lt_of_le hlength hprefix.length_le)
    have hsame := hprefix.getElem hlength
    rwa [hsame]
  calc t.trim.trim = t.trim.trimEnd := congrArg trimEnd hstart
    _ = t.trim := List.rdropWhile_idempotent _ _

end Text

/-- What a command tells the agent. -/
def Request.prompt? : Request → Option Text
  | .startSession _ prompt | .followUp _ prompt => some prompt
  | _ => none

/-- Only commands carry a prompt. -/
theorem Request.isCommand_of_prompt? {r : Request} {prompt : Text} (h : r.prompt? = some prompt) :
    r.isCommand := by
  cases r with
  | startSession | followUp => rfl
  | _ => exact absurd h nofun

namespace Console

variable {c d : Console} {key : Key} {event : Event} {now : Moment} {r : Request}

/-! ### Which commands go out -/

/-- What a command tells the agent says something, and has no blanks around it. -/
theorem Gives.prompt (h : c.Gives key r) {prompt : Text} (hr : r.prompt? = some prompt) :
    prompt ≠ [] ∧ prompt.trim = prompt := by
  have hsent {e : Editor} (hkey : e.Submits key) (heq : e.buffer.text.trim = prompt) :
      prompt ≠ [] ∧ prompt.trim = prompt := by
    subst heq
    exact ⟨fun hnil => hkey.2 ((Text.trim_eq_nil_iff _).mp hnil), Text.trim_trim _⟩
  cases h with
  | start _ _ hkey => exact hsent hkey (Option.some.inj hr)
  | followUp _ hkey => exact hsent hkey (Option.some.inj hr)
  | stop => exact absurd hr nofun

/-- A key that gives no command is answered without one. -/
theorem Answers.not_isCommand {time : Nat} {t : Turn} (h : c.Answers key time t) :
    ∀ r ∈ t.requests, ¬ r.isCommand := by
  cases h with
  | plain h => exact h.requests
  | mistaken => exact (c.keepsTask_toast _ _ _).requests
  | strayed => exact (keepsTask_toast _ _ _ _).requests
  | themed _ h => exact h.requests
  | picked => exact fun _ hr => absurd hr List.not_mem_nil
  | unset hrequests => exact hrequests

/-- A command that goes out was given by a key, and the answer is the one to that command. -/
theorem command_mem_requests (h : c.focus.IsNested)
    (hr : r ∈ (c.handle event now).requests) (hcommand : r.isCommand) :
    ∃ key, event.Strikes (· = key) ∧ c.Gives key r ∧ (c.handle event now).Gave c r := by
  rcases c.answer_handle h event now with ⟨key, s, hkey, hgives, hgave⟩ | ⟨key, hkey, -, hanswer⟩ |
    ⟨-, hkeeps⟩
  · rw [hgave.requests] at hr
    obtain rfl := List.mem_singleton.mp hr
    exact ⟨key, hkey, hgives, hgave⟩
  · exact absurd hcommand (hanswer.not_isCommand r hr)
  · exact absurd hcommand (hkeeps.requests r hr)

/-- **A command goes out on the key that is there for it, and on nothing else.** -/
theorem command_mem_requests_iff (h : c.focus.IsNested) (hcommand : r.isCommand) :
    r ∈ (c.handle event now).requests ↔ event.Strikes (c.Gives · r) := by
  refine ⟨fun hr => ?_, ?_⟩
  · obtain ⟨key, hkey, hgives, -⟩ := command_mem_requests h hr hcommand
    exact (Event.strikes_iff hkey _).mpr hgives
  · rintro ⟨key, rfl, hkind, hgives⟩
    show r ∈ (c.onKey key now).requests
    rw [(gave_onKey hkind hgives now).requests]
    exact List.mem_singleton_self r

/-- A key gives a command in a target that covers nothing, so that the main output comes
next. -/
theorem Gives.focus_close (hgives : c.Gives key r) (h : c.focus.IsNested) : c.focus.close = {} := by
  have hhelp : c.focus.current ≠ .help := by
    cases hgives with
    | start hcurrent | followUp hcurrent | stop hcurrent =>
      rw [hcurrent]
      exact Target.noConfusion
  unfold Focus.close
  rw [h.eq_none hhelp]
  rfl

/-! ### Where a target was opened -/

/-- A target that is neither the help nor a step of a new task comes into the focus when it
is opened from the main output, or it was under the help. -/
theorem Route.holds {f : Focus} (hroute : c.Route key f) {target : Target}
    (hmain : target ≠ .mainOutput) (hhelp : target ≠ .help)
    (htask : ∀ step, target ≠ .taskFlow step) (hf : f.Holds target) :
    c.focus.Holds target ∨ c.focus.current = .mainOutput ∧ c.Opens key.code target := by
  -- along each edge: where does a focus come from that is held afterwards
  cases hroute with
  | stay => exact .inl hf
  | opened hcurrent hopens =>
    rcases hf with rfl | hremembered
    · exact .inr ⟨hcurrent, hopens⟩
    · exact .inl (.inr hremembered)
  | help =>
    rcases hf with rfl | hremembered
    · exact absurd rfl hhelp
    · exact .inl (.inl (Option.some.inj hremembered))
  | write | pick =>
    rcases hf with rfl | hremembered
    · exact absurd rfl (htask _)
    · exact .inl (.inr hremembered)
  | closed => exact .inl (.inr (Focus.holds_of_close hmain hf))
  | reset =>
    rcases hf with rfl | hremembered
    · exact absurd rfl hmain
    · exact absurd hremembered nofun

/-- Such a target was opened from the main output, and it has been in the focus or under
the help ever since. -/
theorem Reachable.opened (h : c.Reachable) {target : Target} (hmain : target ≠ .mainOutput)
    (hhelp : target ≠ .help) (htask : ∀ step, target ≠ .taskFlow step)
    (hc : c.focus.Holds target) :
    Since (fun d _ => d.focus.Holds target)
      (fun d event => d.focus.current = .mainOutput ∧ event.Strikes (d.Opens ·.code target)) c := by
  -- by induction along the run: only a key moves the focus, and its edge says where to
  refine h.since (·.focus.Holds target) (fun _ _ _ _ hd => ?_) (fun d hd => ?_)
    (fun d name hd => ?_) (fun d event now hreach hd => ?_) hc
  · exact hd.elim (fun hcurrent => hmain hcurrent.symm) nofun
  · rwa [d.movesTo_start.focus] at hd
  · rwa [(d.movesTo_applyTheme name).focus] at hd
  · rcases d.focus_handle_cases event now with ⟨key, hkey, hroute⟩ | ⟨-, hfocus⟩
    · rw [Event.strikes_iff hkey]
      rcases hroute.holds hmain hhelp htask hd with hheld | hopened
      · exact .inl ⟨hheld, hheld⟩
      · exact .inr hopened
    · rw [hfocus] at hd
      exact .inl ⟨hd, hd⟩

/-- The worktree that is viewed has that session, and it is live. -/
def ViewsLive (c : Console) (session : SessionId) : Prop :=
  ∃ s ∈ c.snapshot.sessions, s.id = session ∧ s.isLive ∧ c.selected = some s.worktree

/-- A key opened the target from the main output while the worktree that was viewed had that
session and it was live, and the target has been in the focus or under the help ever since. -/
def OpenedFor (session : SessionId) (code : KeyCode) (target : Target) : Console → Prop :=
  Since (fun d _ => d.focus.Holds target) fun d event =>
    d.focus.current = .mainOutput ∧ event.Strikes (·.code = code) ∧ d.ViewsLive session

/-- The session that stands for the viewed worktree is viewed. -/
theorem viewsLive_of_viewedSession? {s : Session} (hs : c.viewedSession? = some s)
    (hlive : s.isLive) : c.ViewsLive s.id := by
  obtain ⟨worktree, hselected, hfor⟩ := Option.bind_eq_some_iff.mp hs
  have hof := List.mem_filter.mp (Snapshot.mem_sessionsOf hfor)
  exact ⟨s, hof.1, rfl, hlive, hselected.trans (congrArg some (of_decide_eq_true hof.2).symm)⟩

theorem Opens.of_followUp {code : KeyCode} {session : SessionId}
    (h : c.Opens code (.followUp session)) : code = .char 'f' ∧ c.ViewsLive session := by
  cases h with
  | followUp hs hlive => exact ⟨rfl, viewsLive_of_viewedSession? hs hlive⟩

/-- The question about a session is opened by `x`, on a live session in view. -/
theorem Opens.of_stop {code : KeyCode} {session : SessionId}
    (h : c.Opens code (.confirm (.stopSession session))) :
    code = .char 'x' ∧ c.ViewsLive session := by
  cases h with
  | stop hs hlive => exact ⟨rfl, viewsLive_of_viewedSession? hs hlive⟩

/-- What is held about a session was opened when it was live and in view. -/
theorem Reachable.openedFor (h : c.Reachable) {target : Target} (hmain : target ≠ .mainOutput)
    (hhelp : target ≠ .help) (htask : ∀ step, target ≠ .taskFlow step)
    {session : SessionId} {code : KeyCode}
    (hopens : ∀ (d : Console) (other : KeyCode), d.Opens other target →
      other = code ∧ d.ViewsLive session)
    (hc : c.focus.current = target) : OpenedFor session code target c := by
  refine (h.opened hmain hhelp htask (.inl hc)).mono (fun d event hbegan => ?_) fun _ _ => id
  obtain ⟨hcurrent, key, hkey, hkind, hopened⟩ := hbegan
  obtain ⟨hcode, hviews⟩ := hopens d _ hopened
  exact ⟨hcurrent, ⟨key, hkey, hkind, hcode⟩, hviews⟩

/-! ### The worktree of a new task -/

/-- When the prompt of a new task is in the focus or under the help, then it was so before and
the worktree is the same, or the worktree has just been picked. -/
theorem task_handle (h : c.focus.IsNested)
    (hheld : (c.handle event now).console.focus.Holds (.taskFlow .writePrompt)) :
    (c.focus.Holds (.taskFlow .writePrompt) ∧
        (c.handle event now).console.taskWorktree = c.taskWorktree) ∨
      ∃ id, c.focus.current = .taskFlow .pickWorktree ∧ event.Strikes (·.code = .enter) ∧
        c.picker.selectedId? = some id ∧
        (c.handle event now).console.taskWorktree = some ⟨id⟩ := by
  have hkept {t : Turn} (ht : t.KeepsTask c) (hheld : t.console.focus.Holds (.taskFlow .writePrompt)) :
      c.focus.Holds (.taskFlow .writePrompt) ∧ t.console.taskWorktree = c.taskWorktree :=
    ⟨ht.held hheld, ht.task⟩
  rcases c.answer_handle h event now with ⟨key, r, -, hgives, hgave⟩ | ⟨key, hkey, -, hanswer⟩ |
    ⟨-, hkeeps⟩
  · rw [hgave.focus, hgives.focus_close h] at hheld
    exact absurd hheld (fun hmain => hmain.elim nofun nofun)
  · simp only [Event.strikes_iff hkey]
    generalize c.handle event now = t at hanswer hheld
    cases hanswer with
    | plain ht => exact .inl (hkept ht.toKeepsTask hheld)
    | mistaken => exact .inl (hkept (c.keepsTask_toast _ _ _) hheld)
    | themed _ ht => exact .inl (hkept ht hheld)
    | picked hpick henter hid => exact .inr ⟨_, hpick, henter, hid, rfl⟩
    | unset _ hfree => exact absurd hheld hfree
    | strayed _ hwrite =>
      -- the prompt has left the focus, and it is not under the help
      have hremembered : c.focus.remembered = none := h.eq_none (hwrite ▸ Target.noConfusion)
      exact absurd hheld (fun hpick => hpick.elim nofun fun heq => nomatch hremembered.symm.trans heq)
  · exact .inl (hkept hkeeps hheld)

/-- There is a worktree whenever the prompt of a new task is in the focus or under the help,
so that sending it never fails for want of one. -/
theorem Reachable.exists_task (h : c.Reachable)
    (hheld : c.focus.Holds (.taskFlow .writePrompt)) : ∃ worktree, c.taskWorktree = some worktree := by
  induction h with
  | ofTuning => exact hheld.elim nofun nofun
  | @start c _ ih =>
    rw [c.keepsCourse_start.focus] at hheld
    rw [c.keepsCourse_start.task]
    exact ih hheld
  | @applyTheme c _ name ih => exact ih hheld
  | @handle c hreach event now ih =>
    rcases task_handle hreach.isNested hheld with ⟨hbefore, htask⟩ | ⟨id, -, -, -, htask⟩
    · rw [htask]
      exact ih hbefore
    · exact ⟨_, htask⟩

/-- The worktree was picked, and the prompt of the new task has been in the focus or under the
help ever since. -/
def IsPicked (worktree : WorktreeId) : Console → Prop :=
  Since (fun d _ => d.focus.Holds (.taskFlow .writePrompt) ∧ d.taskWorktree = some worktree)
    fun d event => d.focus.current = .taskFlow .pickWorktree ∧ event.Strikes (·.code = .enter) ∧
      d.picker.selectedId? = some worktree.name

/-- The worktree of a task was picked when the task began. -/
theorem Reachable.isPicked (h : c.Reachable) {worktree : WorktreeId}
    (hheld : c.focus.Holds (.taskFlow .writePrompt)) (htask : c.taskWorktree = some worktree) :
    IsPicked worktree c := by
  refine h.since
    (fun d => d.focus.Holds (.taskFlow .writePrompt) ∧ d.taskWorktree = some worktree)
    (fun _ _ _ _ hd => ?_) (fun d hd => ?_) (fun d name hd => hd)
    (fun d event now hreach hd => ?_) ⟨hheld, htask⟩
  · exact hd.1.elim nofun nofun
  · rwa [d.keepsCourse_start.focus, d.keepsCourse_start.task] at hd
  · rcases task_handle hreach.isNested hd.1 with ⟨hbefore, hsame⟩ | ⟨id, hpick, henter, hid, hnew⟩
    · have hprompt := And.intro hbefore (hsame.symm.trans hd.2)
      exact .inl ⟨hprompt, hprompt⟩
    · obtain rfl := Option.some.inj (hnew.symm.trans hd.2)
      exact .inr ⟨hpick, henter, hid⟩

/-! ### Every run -/

/-- Commands go out where they belong, and carry what belongs to them. -/
structure IsCommandSafe (c : Console) : Prop where
  /-- A command goes out on the key that is there for it, and on nothing else. -/
  gives : ∀ event now r, r.isCommand →
    (r ∈ (c.handle event now).requests ↔ event.Strikes (c.Gives · r))
  /-- Its prompt says something, and has no blanks around it. -/
  prompt : ∀ event now r prompt, r ∈ (c.handle event now).requests → r.prompt? = some prompt →
    prompt ≠ [] ∧ prompt.trim = prompt
  /-- There is a worktree whenever the prompt of a new task is in the focus or under the help. -/
  task : c.focus.Holds (.taskFlow .writePrompt) →
    ∃ worktree, c.taskWorktree = some worktree ∧ IsPicked worktree c
  /-- A session starts in the worktree that was picked for it. -/
  start : ∀ event now worktree prompt,
    .startSession worktree prompt ∈ (c.handle event now).requests → IsPicked worktree c
  /-- A follow-up goes to the session whose editor was opened. -/
  followUp : ∀ event now session prompt,
    .followUp session prompt ∈ (c.handle event now).requests →
      c.focus.current = .followUp session ∧
        OpenedFor session (.char 'f') (.followUp session) c
  /-- A session is stopped by a yes to the question whether to stop it. -/
  stop : ∀ event now session, .stopSession session ∈ (c.handle event now).requests ↔
    c.focus.current = .confirm (.stopSession session) ∧ event.Strikes (isYes ·)
  /-- The question was put about a live session of the worktree that was viewed. -/
  asked : ∀ session, c.focus.current = .confirm (.stopSession session) →
    OpenedFor session (.char 'x') (.confirm (.stopSession session)) c
  /-- Afterwards the main output has the focus, and the editor is empty. -/
  after : ∀ event now r, r.isCommand → r ∈ (c.handle event now).requests →
    (c.handle event now).console.focus = {} ∧
      ∀ e ∈ (c.handle event now).console.editorOf? r, e.buffer = {}
  /-- Neither the start nor a theme that is chosen gives a command. -/
  begins : ∀ r ∈ c.start.requests, ¬ r.isCommand
  applyTheme : ∀ name, ∀ r ∈ (c.applyTheme name).requests, ¬ r.isCommand

/-- **Commands leave the console only where they belong.** -/
theorem Reachable.isCommandSafe (h : c.Reachable) : c.IsCommandSafe where
  gives _ _ _ hcommand := command_mem_requests_iff h.isNested hcommand
  prompt event now r prompt hr hprompt := by
    have hcommand := Request.isCommand_of_prompt? hprompt
    obtain ⟨key, -, hgives, -⟩ := command_mem_requests h.isNested hr hcommand
    exact hgives.prompt hprompt
  task hheld := by
    obtain ⟨worktree, htask⟩ := h.exists_task hheld
    exact ⟨worktree, htask, h.isPicked hheld htask⟩
  start event now worktree prompt hr := by
    obtain ⟨key, -, hgives, -⟩ := command_mem_requests h.isNested hr rfl
    cases hgives with
    | start hwrite hpicked => exact h.isPicked (.inl hwrite) hpicked
  followUp event now session prompt hr := by
    obtain ⟨key, -, hgives, -⟩ := command_mem_requests h.isNested hr rfl
    cases hgives with
    | followUp hcurrent =>
      refine ⟨hcurrent, h.openedFor Target.noConfusion Target.noConfusion
        (fun _ => Target.noConfusion) (fun _ _ => Opens.of_followUp) hcurrent⟩
  -- both directions go through the only way to give the command
  stop event now session := by
    rw [command_mem_requests_iff h.isNested rfl]
    refine ⟨?_, ?_⟩
    · rintro ⟨key, hkey, hkind, hgives⟩
      cases hgives with
      | stop hasks hyes => exact ⟨hasks, key, hkey, hkind, hyes⟩
    · rintro ⟨hasks, key, hkey, hkind, hyes⟩
      exact ⟨key, hkey, hkind, .stop hasks hyes⟩
  asked session hcurrent := h.openedFor Target.noConfusion Target.noConfusion
    (fun _ => Target.noConfusion) (fun _ _ => Opens.of_stop) hcurrent
  after event now r hcommand hr := by
    obtain ⟨key, -, hgives, hgave⟩ := command_mem_requests h.isNested hr hcommand
    exact ⟨hgave.focus.trans (hgives.focus_close h.isNested), hgave.editor⟩
  begins := c.keepsCourse_start.keepsTask.requests
  applyTheme name := (c.keepsCourse_applyTheme name).keepsTask.requests

/-- A new task is begun, its prompt is pasted with blanks around it, the help is opened and
closed, and the prompt is sent; and a session is stopped. -/
theorem isCommandSafe_atWork :
    let prompted := atWork.after
      [.key { code := .char 'n' }, .key { code := .enter }, .paste " fix it\n".toList,
        .key { code := .function 1 }, .key { code := .escape }]
    let sent := prompted.handle (.key { code := .char 's', control := true }) ⟨0, 0⟩
    let asked := atWork.after [.key { code := .char 'x' }]
    let stopped := asked.handle (.key { code := .char 'Y' }) ⟨0, 0⟩
    prompted.Reachable ∧ IsPicked ⟨"w1"⟩ prompted ∧
      .startSession ⟨"w1"⟩ "fix it".toList ∈ sent.requests ∧ sent.console.focus = {} ∧
      sent.console.taskEditor.buffer = {} ∧
      asked.Reachable ∧ .stopSession ⟨"s1"⟩ ∈ stopped.requests ∧
      OpenedFor ⟨"s1"⟩ (.char 'x') (.confirm (.stopSession ⟨"s1"⟩)) asked := by
  intro prompted sent asked stopped
  -- both runs are evaluated once; the rest is read off the theorem
  have hsent : .startSession ⟨"w1"⟩ "fix it".toList ∈ sent.requests := by
    decide +kernel +revert
  have hasked : asked.focus.current = .confirm (.stopSession ⟨"s1"⟩) := by decide +kernel +revert
  have hprompted : prompted.Reachable := reachable_atWork.after _
  have hreachable : asked.Reachable := reachable_atWork.after _
  have hstart := hprompted.isCommandSafe
  have hstop := hreachable.isCommandSafe
  obtain ⟨hfocus, heditor⟩ := hstart.after _ _ _ rfl hsent
  refine ⟨hprompted, hstart.start _ _ _ _ hsent, hsent, hfocus, heditor _ rfl, hreachable, ?_,
    hstop.asked _ hasked⟩
  exact (hstop.stop _ _ _).mpr ⟨hasked, _, rfl, KeyKind.noConfusion, rfl⟩

end Console

end AgentConsole
