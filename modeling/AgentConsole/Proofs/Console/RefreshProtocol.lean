import AgentConsole.Proofs.Console.Events
import AgentConsole.Proofs.Schedule.Refresh

/-!
# The refresh protocol

An `Exchange` is a console together with the requests it has made that have not
been answered.  A snapshot, or the news that it failed, answers a request for one;
so does the forge's answer; and a timer hands a schedule back.  Each request is
answered at most once, in any order, and anything else may happen at any moment
(`Exchange.Step`).

The invariant (`Exchange.InStep`) is that both cadences are in step with the
requests that are out.  Almost every turn is calm (`Turn.Calm`): it touches no
cadence and asks for nothing that concerns one.  The few that are not are a timer,
a snapshot, the forge's answer, and a command that was carried out.
-/

namespace AgentConsole

/-! ### Requests that concern a cadence -/

namespace Request

/-- Does the request fetch for this purpose? -/
def isFetch (p : Purpose) : Request → Bool
  | .fetchSnapshot => p = .localStatus
  | .fetchRemoteStatus _ => p = .remoteStatus
  | _ => false

/-- The generation to hand back, if the request is a schedule for this purpose. -/
def generation? (p : Purpose) : Request → Option Nat
  | .schedule order => if order.purpose = p then some order.generation else none
  | _ => none

/-- How many of the requests fetch for this purpose. -/
def fetches (p : Purpose) (requests : List Request) : Nat := requests.countP (isFetch p)

/-- The generations that the requests want handed back for this purpose. -/
def generations (p : Purpose) (requests : List Request) : List Nat :=
  requests.filterMap (generation? p)

@[simp] theorem fetches_append (p : Purpose) (rs ss : List Request) :
    fetches p (rs ++ ss) = fetches p rs + fetches p ss := List.countP_append

@[simp] theorem generations_append (p : Purpose) (rs ss : List Request) :
    generations p (rs ++ ss) = generations p rs ++ generations p ss := List.filterMap_append

@[simp] theorem fetches_nil (p : Purpose) : fetches p [] = 0 := rfl

@[simp] theorem generations_nil (p : Purpose) : generations p [] = [] := rfl

@[simp] theorem fetches_cons (p : Purpose) (r : Request) (rs : List Request) :
    fetches p (r :: rs) = fetches p rs + (r.isFetch p).toNat := by
  unfold fetches
  cases h : r.isFetch p with
  | true => rw [List.countP_cons_of_pos h]; rfl
  | false => rw [List.countP_cons_of_neg (by simp [h])]; rfl

@[simp] theorem generations_cons (p : Purpose) (r : Request) (rs : List Request) :
    generations p (r :: rs) = (r.generation? p).toList ++ generations p rs := by
  unfold generations
  cases h : r.generation? p with
  | none => rw [List.filterMap_cons_none h]; rfl
  | some g => rw [List.filterMap_cons_some h]; rfl

/-- The request concerns no cadence. -/
def IsCalm (r : Request) : Prop := ∀ p, p ≠ .toasts → r.isFetch p = false ∧ r.generation? p = none

/-- What nothing waits for is calm. -/
theorem isCalm_of_isAside {r : Request} (h : r.isAside) : r.IsCalm := by
  intro p hp
  cases r with
  | schedule order =>
    have horder : order.purpose = .toasts := of_decide_eq_true h
    refine ⟨rfl, ?_⟩
    simp [generation?, horder, hp.symm]
  | fetchSnapshot | fetchRemoteStatus | fetchHistory | nextSessionEvent =>
    exact absurd h Bool.false_ne_true
  | startSession | stopSession | followUp | copy | quit => exact ⟨rfl, rfl⟩

/-- The request concerns no cadence but the one for this purpose. -/
def Concerns (r : Request) (p : Purpose) : Prop :=
  ∀ q, q ≠ .toasts → q ≠ p → r.isFetch q = false ∧ r.generation? q = none

theorem concerns_schedule (order : Schedule) : (schedule order).Concerns order.purpose := by
  intro q _ hqp
  refine ⟨rfl, ?_⟩
  simp [generation?, hqp.symm]

/-- A fetch for a purpose concerns no other cadence, and no timer at all. -/
theorem concerns_of_isFetch {r : Request} {p : Purpose} (h : r.isFetch p = true) :
    r.Concerns p ∧ ∀ q, r.generation? q = none := by
  cases r with
  | fetchSnapshot | fetchRemoteStatus =>
    obtain rfl := of_decide_eq_true h
    refine ⟨fun q _ hqp => ⟨?_, rfl⟩, fun _ => rfl⟩
    exact decide_eq_false hqp
  | _ => exact absurd h Bool.false_ne_true

theorem fetches_eq_zero {p : Purpose} {rs : List Request} (h : ∀ r ∈ rs, r.isFetch p = false) :
    fetches p rs = 0 :=
  List.countP_eq_zero.mpr fun r hr => by simp [h r hr]

theorem generations_eq_nil {p : Purpose} {rs : List Request}
    (h : ∀ r ∈ rs, r.generation? p = none) : generations p rs = [] :=
  List.filterMap_eq_nil_iff.mpr h

end Request

/-! ### Calm turns -/

/-- A turn that touches no cadence and asks for nothing that concerns one. -/
structure Turn.Calm (c : Console) (t : Turn) : Prop where
  refresh : t.console.refresh = c.refresh
  remoteStarted : t.console.remoteStarted = c.remoteStarted
  requests : ∀ r ∈ t.requests, r.IsCalm

namespace Turn

theorem Aside.calm {c : Console} {t : Turn} (h : t.Aside c) : t.Calm c where
  refresh := congrArg (·.2.1) h.beside.world
  remoteStarted := congrArg (·.2.2.1) h.beside.world
  requests := fun r hr => Request.isCalm_of_isAside (h.requests r hr)

/-- Two calm turns are one. -/
theorem Calm.andThen {c : Console} {t : Turn} {next : Console → Turn} (h : t.Calm c)
    (hnext : (next t.console).Calm t.console) : (t.andThen next).Calm c where
  refresh := hnext.refresh.trans h.refresh
  remoteStarted := hnext.remoteStarted.trans h.remoteStarted
  requests := fun r hr => (List.mem_append.mp hr).elim (h.requests r) (hnext.requests r)

theorem Calm.ask {c : Console} {t : Turn} (h : t.Calm c) {r : Request} (hr : r.IsCalm) :
    (t.ask r).Calm c where
  refresh := h.refresh
  remoteStarted := h.remoteStarted
  requests := fun s hs =>
    (List.mem_append.mp hs).elim (h.requests s) fun hs => List.mem_singleton.mp hs ▸ hr

end Turn

namespace Console

theorem calm_quiet {c d : Console} (hr : d.refresh = c.refresh)
    (hs : d.remoteStarted = c.remoteStarted) : d.quiet.Calm c :=
  ⟨hr, hs, fun _ hr => absurd hr List.not_mem_nil⟩

theorem calm_view (c : Console) (id : WorktreeId) : (c.view id).Calm c := by
  unfold view
  split
  · exact calm_quiet rfl rfl
  · dsimp only
    split
    · exact ⟨rfl, rfl, fun _ hr => absurd hr List.not_mem_nil⟩
    · refine ⟨rfl, rfl, fun r hr => ?_⟩
      obtain rfl := List.mem_singleton.mp hr
      exact fun _ _ => ⟨rfl, rfl⟩

theorem calm_applyTheme (c : Console) (name : String) : (c.applyTheme name).Calm c :=
  ⟨rfl, rfl, fun _ hr => absurd hr List.not_mem_nil⟩

theorem calm_onKey (c : Console) (key : Key) (now : Moment) : (c.onKey key now).Calm c :=
  onKey_induction (P := fun c t => t.Calm c) Turn.Aside.calm calm_view calm_applyTheme Turn.Calm.andThen
    c key now

theorem calm_ensureViewed (c : Console) : c.ensureViewed.Calm c :=
  ensureViewed_induction (P := fun c t => t.Calm c) Turn.Aside.calm calm_view Turn.Calm.andThen c

theorem snapshot_view (c : Console) (id : WorktreeId) :
    (c.view id).console.snapshot = c.snapshot := by
  unfold view
  split
  · rfl
  · dsimp only
    split <;> rfl

/-- Choosing what is viewed leaves the snapshot. -/
theorem snapshot_ensureViewed (c : Console) : c.ensureViewed.console.snapshot = c.snapshot := by
  refine ensureViewed_induction (P := fun c t => t.console.snapshot = c.snapshot) ?_ snapshot_view
    ?_ c
  · exact fun haside => congrArg (·.1) haside.beside.world
  · exact fun h hnext => hnext.trans h

theorem calm_onSession (c : Console) (event : SessionEvent) (time : Nat) :
    (c.onSession event time).Calm c := by
  rcases onSession_cases c event time with ⟨snapshot, haside⟩ | ⟨session, worktree, line, rfl⟩
  · exact ⟨haside.calm.refresh, haside.calm.remoteStarted, haside.calm.requests⟩
  · refine calm_quiet ?_ ?_
    all_goals
      unfold onOutput
      dsimp only
      split <;> rfl

/-! ### Cadences in step with the requests that are out -/

/-- Both cadences are in step with the requests that have not been answered; the
cadence of the forge has started once a snapshot with a worktree was seen. -/
structure InStep (c : Console) (seen : Bool) (pending : List Request) : Prop where
  «local» : c.refresh.local.InStep true (Request.fetches .localStatus pending)
    (Request.generations .localStatus pending)
  remote : c.refresh.remote.InStep seen (Request.fetches .remoteStatus pending)
    (Request.generations .remoteStatus pending)
  started : c.remoteStarted = seen

namespace InStep

variable {c : Console} {seen : Bool} {pending : List Request}

/-- The order of what is pending does not matter. -/
theorem perm (h : c.InStep seen pending) {others : List Request} (ho : pending.Perm others) :
    c.InStep seen others := by
  have hfetches (p : Purpose) : Request.fetches p pending = Request.fetches p others :=
    ho.countP_eq _
  have hgenerations (p : Purpose) :
      (Request.generations p pending).Perm (Request.generations p others) := ho.filterMap _
  refine ⟨?_, ?_, h.started⟩
  · rw [← hfetches]
    exact h.local.perm (hgenerations _)
  · rw [← hfetches]
    exact h.remote.perm (hgenerations _)

/-- Calm turns change nothing about it. -/
theorem calm (h : c.InStep seen pending) {t : Turn} (ht : t.Calm c) :
    t.console.InStep seen (pending ++ t.requests) := by
  have hfetches {p : Purpose} (hp : p ≠ .toasts) : Request.fetches p t.requests = 0 :=
    Request.fetches_eq_zero fun r hr => (ht.requests r hr p hp).1
  have hgenerations {p : Purpose} (hp : p ≠ .toasts) : Request.generations p t.requests = [] :=
    Request.generations_eq_nil fun r hr => (ht.requests r hr p hp).2
  refine ⟨?_, ?_, ht.remoteStarted.trans h.started⟩
  · simpa [ht.refresh, hfetches, hgenerations] using h.local
  · simpa [ht.refresh, hfetches, hgenerations] using h.remote

/-- One turn after the other. -/
theorem andThen {t : Turn} {next : Console → Turn} {seen' : Bool}
    (h : (next t.console).console.InStep seen' (pending ++ t.requests ++ (next t.console).requests)) :
    (t.andThen next).console.InStep seen' (pending ++ (t.andThen next).requests) := by
  rw [List.append_assoc] at h
  exact h

/-- The cadence for a purpose is in step with the requests that concern it. -/
theorem cadence (h : c.InStep seen pending) {p : Purpose} {d : Cadence}
    (hd : c.refresh.cadence? p = some d) :
    d.InStep (p = .localStatus || seen) (Request.fetches p pending)
      (Request.generations p pending) := by
  cases p with
  | toasts => exact absurd hd (by simp [Refresh.cadence?])
  | localStatus => exact Option.some.inj hd ▸ h.local
  | remoteStatus => exact Option.some.inj hd ▸ h.remote

/-- A cadence is exchanged.  The other one need not be looked at where nothing that
is answered or asked for concerns it. -/
theorem exchange {answered asked : List Request} {p : Purpose} {d : Cadence}
    (h : c.InStep seen (answered ++ pending)) (hanswered : ∀ r ∈ answered, r.Concerns p)
    (hasked : ∀ r ∈ asked, r.Concerns p)
    (hd : d.InStep (p = .localStatus || seen) (Request.fetches p (pending ++ asked))
      (Request.generations p (pending ++ asked))) :
    Console.InStep { c with refresh := c.refresh.set p d } seen (pending ++ asked) := by
  have hother {q : Purpose} {e : Cadence} (he : c.refresh.cadence? q = some e) (hqp : q ≠ p) :
      e.InStep (q = .localStatus || seen) (Request.fetches q (pending ++ asked))
        (Request.generations q (pending ++ asked)) := by
    have hq : q ≠ .toasts := by
      rintro rfl
      exact absurd he (by simp [Refresh.cadence?])
    have hcadence := h.cadence he
    rw [Request.fetches_append, Request.generations_append,
      Request.fetches_eq_zero fun r hr => (hanswered r hr q hq hqp).1,
      Request.generations_eq_nil fun r hr => (hanswered r hr q hq hqp).2, Nat.zero_add,
      List.nil_append] at hcadence
    rw [Request.fetches_append, Request.generations_append,
      Request.fetches_eq_zero fun r hr => (hasked r hr q hq hqp).1,
      Request.generations_eq_nil fun r hr => (hasked r hr q hq hqp).2, Nat.add_zero,
      List.append_nil]
    exact hcadence
  -- the timer in question has the new cadence, and `hother` is about the other one
  cases p with
  | toasts =>
    exact ⟨hother (q := .localStatus) rfl Purpose.noConfusion,
      hother (q := .remoteStatus) rfl Purpose.noConfusion, h.started⟩
  | localStatus => exact ⟨hd, hother (q := .remoteStatus) rfl Purpose.noConfusion, h.started⟩
  | remoteStatus => exact ⟨hother (q := .localStatus) rfl Purpose.noConfusion, hd, h.started⟩

/-- The answer to a fetch has come. -/
theorem completed {r : Request} (h : c.InStep seen (r :: pending)) {p : Purpose}
    (hr : r.isFetch p = true) {d : Cadence} (hd : c.refresh.cadence? p = some d) (time : Nat) :
    (c.completed p time).console.InStep seen (pending ++ (c.completed p time).requests) := by
  obtain ⟨hconcerns, htimer⟩ := Request.concerns_of_isFetch hr
  have hcadence := h.cadence hd
  rw [Request.fetches_cons, Request.generations_cons, hr, htimer] at hcadence
  obtain ⟨e, he, hstep⟩ := hcadence.complete time
  have hcompleted : c.refresh.complete p time
      = (c.refresh.set p e, some ⟨p, e.every, e.timer.generation⟩) := by
    simp [Refresh.complete, hd, he]
  simp only [Console.completed, hcompleted]
  -- the fetch is exchanged for a schedule
  refine exchange (show c.InStep seen ([r] ++ pending) from h) ?_ ?_ ?_
  · rintro s hs
    exact List.mem_singleton.mp hs ▸ hconcerns
  · rintro s hs
    exact List.mem_singleton.mp hs ▸ Request.concerns_schedule _
  · simpa [Request.isFetch, Request.generation?] using hstep

/-- The sessions are fetched at once, unless that is under way. -/
theorem fetchNow (h : c.InStep seen pending) :
    c.fetchNow.console.InStep seen (pending ++ c.fetchNow.requests) := by
  unfold Console.fetchNow
  -- a fetch is under way, or one begins now
  rcases hd : c.refresh.local.now? with - | d
  · have hnow : c.refresh.now? .localStatus = none := by
      simp [Refresh.now?, Refresh.cadence?, hd]
    rw [hnow]
    exact h.calm (calm_quiet rfl rfl)
  · have hnow : c.refresh.now? .localStatus = some (c.refresh.set .localStatus d) := by
      simp [Refresh.now?, Refresh.cadence?, hd]
    have hstep := h.local.now hd
    rw [hnow]
    refine exchange (show c.InStep seen ([] ++ pending) from h) ?_ ?_ ?_
    · exact fun _ hr => absurd hr List.not_mem_nil
    · rintro r hr
      exact List.mem_singleton.mp hr ▸ (Request.concerns_of_isFetch rfl).1
    · simpa [Turn.ask, quiet, Request.isFetch, Request.generation?] using hstep

/-- The forge is asked once there is a worktree. -/
theorem startRemote (h : c.InStep seen pending) :
    c.startRemote.console.InStep (seen || !c.worktreeIds.isEmpty)
      (pending ++ c.startRemote.requests) := by
  have hstarted := h.started
  unfold Console.startRemote
  -- the question was asked before, or there is no worktree, or it is asked now
  split
  · rename_i hskip
    have hseen : (seen || !c.worktreeIds.isEmpty) = seen := by
      cases seen <;> simp_all
    rw [hseen]
    exact h.calm (calm_quiet rfl rfl)
  · rename_i hgo
    have hseen : (seen || !c.worktreeIds.isEmpty) = true := by simp_all
    rw [hseen]
    dsimp only
    rcases hd : c.refresh.remote.now? with - | d
    · -- a fetch is under way only where the cadence has started
      have := h.remote.of_now?_eq_none hd
      simp_all
    · have hnow : c.refresh.now? .remoteStatus = some { c.refresh with remote := d } := by
        simp [Refresh.now?, Refresh.cadence?, Refresh.set, hd]
      have hstep := h.remote.now hd
      rw [hnow]
      refine ⟨?_, ?_, rfl⟩
      · simpa [Turn.ask, quiet, Request.isFetch, Request.generation?] using h.local
      · simpa [Turn.ask, quiet, Request.isFetch, Request.generation?] using hstep

/-- A timer goes off, and the console asks for `r` if it is to fetch now. -/
theorem fire {p : Purpose} {delay g : Nat} (h : c.InStep seen (.schedule ⟨p, delay, g⟩ :: pending))
    {d : Cadence} (hd : c.refresh.cadence? p = some d) {r : Request} (hr : r.isFetch p = true) :
    Console.InStep { c with refresh := (c.refresh.onTimer p g).1 } seen
      (pending ++ if (c.refresh.onTimer p g).2 then [r] else []) := by
  obtain ⟨hconcerns, htimer⟩ := Request.concerns_of_isFetch hr
  have hcadence := h.cadence hd
  have hstep := Cadence.InStep.onTimer (g := g)
    (by simpa [Request.isFetch, Request.generation?] using hcadence)
  have hfired : c.refresh.onTimer p g = (c.refresh.set p (d.onTimer g).1, (d.onTimer g).2) := by
    simp [Refresh.onTimer, hd]
  rw [hfired]
  generalize d.onTimer g = fired at hstep ⊢
  obtain ⟨e, fetch⟩ := fired
  -- the schedule is used up, and exchanged for a fetch if the timer waits for it
  refine exchange (show c.InStep seen ([.schedule ⟨p, delay, g⟩] ++ pending) from h) ?_ ?_ ?_
  · rintro s hs
    exact List.mem_singleton.mp hs ▸ Request.concerns_schedule _
  · rintro s hs
    cases fetch with
    | true => exact List.mem_singleton.mp hs ▸ hconcerns
    | false => exact absurd hs List.not_mem_nil
  · cases fetch <;> simpa [hr, htimer] using hstep

/-- A schedule is handed back. -/
theorem onTimer {order : Schedule} (h : c.InStep seen (.schedule order :: pending)) (time : Nat) :
    (c.onTimer order.purpose order.generation time).console.InStep seen
      (pending ++ (c.onTimer order.purpose order.generation time).requests) := by
  obtain ⟨purpose, delay, generation⟩ := order
  cases purpose with
  | toasts =>
    have haside : (c.handle (.timer .toasts generation) ⟨time, 0⟩).Aside c := aside_handle c rfl _
    have hrest : c.InStep seen pending := by
      refine ⟨?_, ?_, h.started⟩
      · simpa [Request.isFetch, Request.generation?] using h.local
      · simpa [Request.isFetch, Request.generation?] using h.remote
    exact hrest.calm haside.calm
  | localStatus =>
    have hfired := h.fire (r := .fetchSnapshot) rfl rfl
    simp only [Console.onTimer]
    split at hfired <;> simp_all [Turn.ask, quiet]
  | remoteStatus =>
    have hfired := h.fire (r := .fetchRemoteStatus c.worktreeIds) rfl rfl
    simp only [Console.onTimer]
    split at hfired <;> simp_all [Turn.ask, quiet]

end InStep

end Console

/-! ### Runs -/

/-- The event answers the request. -/
inductive Event.Answers : Event → Request → Prop where
  | snapshot (s : Snapshot) : Answers (.snapshot s) .fetchSnapshot
  | snapshotFailed (error : Text) : Answers (.snapshotFailed error) .fetchSnapshot
  | remoteStatus (statuses : Table WorktreeId RemoteStatus) (worktrees : List WorktreeId) :
    Answers (.remoteStatus statuses) (.fetchRemoteStatus worktrees)
  | timer (order : Schedule) : Answers (.timer order.purpose order.generation) (.schedule order)

/-- Does the event come by itself, and not as the answer to a fetch or a schedule? -/
def Event.isFree : Event → Bool
  | .snapshot _ | .snapshotFailed _ | .remoteStatus _ | .timer .. => false
  | _ => true

/-- Does the event tell of a worktree? -/
def Event.showsWorktree : Event → Bool
  | .snapshot s => !s.worktrees.isEmpty
  | _ => false

/-- A console and the requests it has made that have not been answered. -/
structure Exchange where
  console : Console
  pending : List Request
  /-- Has there been a snapshot with a worktree? -/
  seen : Bool := false

namespace Exchange

/-- The exchange after an event, where `rest` are the requests that are still out. -/
def react (x : Exchange) (event : Event) (now : Moment) (rest : List Request) : Exchange where
  console := (x.console.handle event now).console
  pending := rest ++ (x.console.handle event now).requests
  seen := x.seen || event.showsWorktree

/-- One thing happens: an answer to a request that is out, any other event, or the
choice of a theme. -/
inductive Step (x : Exchange) : Exchange → Prop where
  | answer {event : Event} {request : Request} (now : Moment) (h : event.Answers request)
    (hout : request ∈ x.pending) : Step x (x.react event now (x.pending.erase request))
  | free {event : Event} (now : Moment) (h : event.isFree) : Step x (x.react event now x.pending)
  | theme (name : String) :
    Step x
      { x with
        console := (x.console.applyTheme name).console
        pending := x.pending ++ (x.console.applyTheme name).requests }

/-- The exchange after the console has started. -/
def ofTuning (tuning : Tuning) (theme : Theme) (themes : String → Theme × List Note)
    (renderer : Transcript.Renderer) : Exchange where
  console := (Console.ofTuning tuning theme themes renderer).start.console
  pending := (Console.ofTuning tuning theme themes renderer).start.requests

/-- What can come about from a console that has started. -/
inductive Reachable : Exchange → Prop where
  | start (tuning : Tuning) (theme : Theme) (themes : String → Theme × List Note)
    (renderer : Transcript.Renderer) : Reachable (ofTuning tuning theme themes renderer)
  | step {x y : Exchange} (hx : Reachable x) (h : Step x y) : Reachable y

/-- Both cadences are in step with the requests that are out. -/
def InStep (x : Exchange) : Prop := x.console.InStep x.seen x.pending

theorem inStep_ofTuning (tuning : Tuning) (theme : Theme) (themes : String → Theme × List Note)
    (renderer : Transcript.Renderer) : (ofTuning tuning theme themes renderer).InStep := by
  have hlocal := Cadence.InStep.now (Cadence.InStep.initial tuning.localEvery) rfl
  exact ⟨hlocal, Cadence.InStep.initial tuning.remoteEvery, rfl⟩

/-- Whatever comes by itself keeps the cadences in step. -/
theorem InStep.free {x : Exchange} (h : x.InStep) {event : Event} (he : event.isFree)
    (now : Moment) : (x.react event now x.pending).InStep := by
  have hseen : x.seen = (x.seen || event.showsWorktree) := by
    cases event <;> simp_all [Event.isFree, Event.showsWorktree]
  have hcalm (hturn : (x.console.handle event now).Calm x.console) :
      (x.react event now x.pending).InStep := by
    unfold InStep react
    rw [← hseen]
    exact Console.InStep.calm h hturn
  -- what anyone may send at any time leaves the cadences, but for a command that is done
  cases event with
  | key key => exact hcalm (Console.calm_onKey _ _ _)
  | resize width height => exact hcalm (Console.calm_quiet rfl rfl)
  | history worktree lines =>
    refine hcalm (Console.calm_quiet ?_ ?_)
    all_goals
      unfold Console.onHistory
      dsimp only
      split <;> rfl
  | historyFailed worktree error =>
    exact hcalm ⟨rfl, rfl, fun _ hr => absurd hr List.not_mem_nil⟩
  | session event =>
    exact hcalm ((Console.calm_onSession _ _ _).ask fun _ _ => ⟨rfl, rfl⟩)
  | commandDone command =>
    unfold InStep react
    rw [← hseen]
    exact Console.InStep.andThen
      (Console.InStep.fetchNow
        (Console.InStep.calm h (Console.aside_toast (.refl _) _ _ _).calm))
  | paste | sessionsClosed | commandFailed | copied | copyFailed =>
    exact hcalm (Console.aside_handle x.console rfl now).calm
  | snapshot | snapshotFailed | remoteStatus | timer => exact absurd he Bool.false_ne_true

/-- So does an answer to a request that is out. -/
theorem InStep.answer {x : Exchange} (h : x.InStep) {event : Event} {request : Request}
    (he : event.Answers request) (hout : request ∈ x.pending) (now : Moment) :
    (x.react event now (x.pending.erase request)).InStep := by
  have hperm : x.console.InStep x.seen (request :: x.pending.erase request) :=
    Console.InStep.perm h (List.perm_cons_erase hout)
  cases he with
  | snapshot s =>
    have hnew : Console.InStep { x.console with snapshot := s } x.seen
        (.fetchSnapshot :: x.pending.erase .fetchSnapshot) :=
      ⟨hperm.local, hperm.remote, hperm.started⟩
    -- the fetch ends, what is gone is forgotten, and the forge may be asked
    have hcompleted := hnew.completed (p := .localStatus) rfl rfl now.clock
    have hcalm := Console.calm_ensureViewed
      (Console.completed { x.console with snapshot := s } .localStatus now.clock).console.forgetGone
    have hviewed := hcompleted.calm ⟨hcalm.refresh, hcalm.remoteStarted, hcalm.requests⟩
    have hstarted := hviewed.startRemote
    have hworktrees : (Console.ensureViewed (Console.forgetGone (Console.completed
        { x.console with snapshot := s } .localStatus now.clock).console)).console.worktreeIds.isEmpty
        = s.worktrees.isEmpty := by
      unfold Console.worktreeIds
      rw [Console.snapshot_ensureViewed]
      exact List.isEmpty_map
    rw [hworktrees] at hstarted
    simp only [InStep, react, Console.handle, Console.onSnapshot, Turn.andThen,
      ← List.append_assoc]
    exact hstarted
  | snapshotFailed error =>
    have hcompleted := hperm.completed (p := .localStatus) rfl rfl now.clock
    rw [← Bool.or_false x.seen] at hcompleted
    exact hcompleted
  | remoteStatus statuses worktrees =>
    have hnew : Console.InStep { x.console with remote := x.console.remote.merge statuses } x.seen
        (.fetchRemoteStatus worktrees :: x.pending.erase (.fetchRemoteStatus worktrees)) :=
      ⟨hperm.local, hperm.remote, hperm.started⟩
    have hcompleted := hnew.completed (p := .remoteStatus) rfl rfl now.clock
    rw [← Bool.or_false x.seen] at hcompleted
    exact hcompleted
  | timer order =>
    have hfired := hperm.onTimer now.clock
    rw [← Bool.or_false x.seen] at hfired
    exact hfired

/-- Each step of the exchange keeps both sides in step. -/
theorem InStep.step {x y : Exchange} (h : x.InStep) (hs : Step x y) : y.InStep := by
  cases hs with
  | answer now he hout => exact h.answer he hout now
  | free now he => exact h.free he now
  | theme name => exact Console.InStep.calm h (Console.calm_applyTheme _ _)

/-- Whatever happens, the cadences stay in step. -/
theorem Reachable.inStep {x : Exchange} (h : x.Reachable) : x.InStep := by
  induction h with
  | start tuning theme themes renderer => exact inStep_ofTuning tuning theme themes renderer
  | step _ hs ih => exact ih.step hs

/-! ### What that means for the requests -/

/-- How many fetches for a purpose have not been answered. -/
def outstanding (x : Exchange) (p : Purpose) : Nat := Request.fetches p x.pending

/-- The generations that have not been handed back to the timer of a purpose. -/
def undelivered (x : Exchange) (p : Purpose) : List Nat := Request.generations p x.pending

/-- Does the console take a fetch to be under way? -/
def IsFetching (x : Exchange) (p : Purpose) : Prop :=
  ∃ c ∈ x.console.refresh.cadence? p, c.inFlight = true

/-- Is the timer armed, and its generation yet to be handed back? -/
def IsArmed (x : Exchange) (p : Purpose) : Prop :=
  ∃ c ∈ x.console.refresh.cadence? p,
    c.timer.deadline.isSome = true ∧ c.timer.generation ∈ x.undelivered p

/-- **The refresh protocol.**  In every state that can come about after the start,
at most one fetch of the sessions and at most one of the forge is outstanding, and
the console knows of it.  The cadence of the sessions is neither dead nor doubled:
either a fetch is under way, or its timer is armed and exactly one schedule of the
generation in force is yet to be handed back.  So is the cadence of the forge from
the first snapshot with a worktree on. -/
theorem refresh_protocol {x : Exchange} (h : x.Reachable) :
    (x.outstanding .localStatus ≤ 1 ∧ x.outstanding .remoteStatus ≤ 1)
      ∧ (x.IsFetching .localStatus ↔ ¬x.IsArmed .localStatus)
      ∧ (x.seen = true → (x.IsFetching .remoteStatus ↔ ¬x.IsArmed .remoteStatus))
      ∧ ∀ p, ∀ c ∈ x.console.refresh.cadence? p,
        (c.inFlight = true ↔ x.outstanding p = 1)
          ∧ (x.undelivered p).count c.timer.generation ≤ 1 := by
  obtain ⟨hlocal, hremote, -⟩ := h.inStep
  refine ⟨⟨hlocal.fetches_le, hremote.fetches_le⟩, ?_, ?_, ?_⟩
  · simpa [IsFetching, IsArmed, undelivered, Refresh.cadence?] using hlocal.alive
  · intro hseen
    rw [hseen] at hremote
    simpa [IsFetching, IsArmed, undelivered, Refresh.cadence?] using hremote.alive
  · intro p c hc
    cases p with
    | toasts => exact absurd hc (by simp [Refresh.cadence?])
    | localStatus =>
      obtain rfl := Option.some.inj hc
      exact ⟨hlocal.inFlight_iff, hlocal.count_le⟩
    | remoteStatus =>
      obtain rfl := Option.some.inj hc
      exact ⟨hremote.inFlight_iff, hremote.count_le⟩

/-- After a first snapshot with a worktree the sessions wait for their timer, and
the forge is being asked. -/
theorem refresh_protocol_after_first_snapshot :
    let x := ofTuning {} Theme.fallback (fun name => (Theme.named name, [])) Transcript.markup
    let y := x.react (.snapshot ⟨[⟨⟨"w1"⟩, "api", "main", "/src/api"⟩], []⟩) ⟨0, 0⟩
      (x.pending.erase .fetchSnapshot)
    y.Reachable ∧ y.seen = true ∧ y.IsArmed .localStatus ∧ y.IsFetching .remoteStatus
      ∧ ¬y.IsFetching .localStatus ∧ ¬y.IsArmed .remoteStatus := by
  intro x y
  have hy : y.Reachable :=
    (Reachable.start _ _ _ _).step (.answer _ (.snapshot _) List.mem_cons_self)
  have hfetching : y.IsFetching .remoteStatus := ⟨_, rfl, rfl⟩
  have harmed : y.IsArmed .localStatus := ⟨_, rfl, rfl, List.mem_cons_self⟩
  obtain ⟨-, hlocal, hremote, -⟩ := refresh_protocol hy
  exact ⟨hy, rfl, harmed, hfetching, fun h => hlocal.mp h harmed, (hremote rfl).mp hfetching⟩

end Exchange

end AgentConsole
