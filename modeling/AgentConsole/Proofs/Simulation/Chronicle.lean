import AgentConsole.Host.Rehearsal
import AgentConsole.Proofs.Simulation.Refusal
import AgentConsole.Proofs.Simulation.Turn
import Mathlib.Logic.Relation

/-!
# Commands and agents, one after another

A `Chronicle` is a simulation together with all that was put down so far: for which session, where,
and whether it was a prompt or a line of an agent.  Commands and steps of agents come in any order
(`Chronicle.Step`).  Whatever looks at the workspace and changes it in one go is one step.  An agent
acts as late as it likes and may be gone before it does, so it makes no difference when it is set to
work.

Every step is a turn of each session, or leaves it alone (`Step.turn`).  This needs no more than
that no session has the identity of another, and identities count upwards (`Numbered`).  The run
lemmas follow from the turns, and the histories are read off what was put down (`Step.records`).
-/

namespace AgentConsole.Simulation

/-- Something that was put down. -/
structure Utterance where
  session : SessionId
  worktree : WorktreeId
  words : Words
  deriving DecidableEq, Repr

/-- The words put down for a session. -/
def wordsFor (id : SessionId) (us : List Utterance) : List Words :=
  us.filterMap fun u => if u.session = id then some u.words else none

/-- The lines put down in a worktree. -/
def linesIn (id : WorktreeId) (us : List Utterance) : List Text :=
  us.filterMap fun u => if u.worktree = id then some u.words.line else none

/-- The tasks of the agents that work on a session. -/
def tasksFor (id : SessionId) (agents : List (Nat × Agent)) : List Task :=
  agents.filterMap fun (_, a) => if a.session = id then some a.task else none

section
variable {id : SessionId}

/-- One more utterance counts for its own session. -/
theorem wordsFor_concat (us : List Utterance) (u : Utterance) :
    wordsFor id (us ++ [u]) = wordsFor id us ++ if u.session = id then [u.words] else [] := by
  unfold wordsFor
  rw [List.filterMap_append]
  split <;> simp [*]

theorem linesIn_append (worktree : WorktreeId) (us vs : List Utterance) :
    linesIn worktree (us ++ vs) = linesIn worktree us ++ linesIn worktree vs :=
  List.filterMap_append

theorem linesIn_singleton (worktree : WorktreeId) (u : Utterance) :
    linesIn worktree [u] = if u.worktree = worktree then [u.words.line] else [] := by
  unfold linesIn
  split <;> simp [*]

@[simp] theorem tasksFor_nil : tasksFor id [] = [] := rfl

@[simp] theorem tasksFor_append (l r : List (Nat × Agent)) :
    tasksFor id (l ++ r) = tasksFor id l ++ tasksFor id r :=
  List.filterMap_append

@[simp] theorem tasksFor_cons (entry : Nat × Agent) (r : List (Nat × Agent)) :
    tasksFor id (entry :: r)
      = (if entry.2.session = id then [entry.2.task] else []) ++ tasksFor id r := by
  unfold tasksFor
  rw [List.filterMap_cons]
  split <;> simp_all

end

/-! ### What commands leave -/

theorem exists_of_map_eq_ok {ε α β : Type} {f : α → β} {result : Except ε α} {b : β}
    (h : result.map f = .ok b) : ∃ a, result = .ok a ∧ f a = b := by
  cases result with
  | error => exact absurd h (by simp [Except.map])
  | ok a => exact ⟨a, rfl, Except.ok.inj h⟩

section
variable {s s' : AgentConsole.Simulation} {id : SessionId} {worktree : WorktreeId} {prompt : Text}

/-- What a start that is accepted does: a new session, its first line, and an agent that will wake.
-/
theorem start_eq_ok (h : s.start worktree prompt = .ok (s', id)) :
    id = (s.workspace.nextSession worktree prompt s.calendar).id ∧
      s'.workspace = (s.workspace.withSession
        (s.workspace.nextSession worktree prompt s.calendar)).record worktree
          (Workspace.promptLine prompt) ∧
      s'.agents = s.agents ++ [(s.clock + s.delay, ⟨id, worktree, .wake (reply prompt)⟩)] := by
  obtain ⟨⟨w, a⟩, hw, hmap⟩ := exists_of_map_eq_ok h
  obtain ⟨rfl, rfl⟩ := Workspace.start_eq_ok hw
  obtain ⟨rfl, rfl⟩ := Prod.mk.inj hmap
  exact ⟨rfl, rfl, rfl⟩

/-- What a stop that is accepted does: the session is set to stopped, and its agents are left as
they are. -/
theorem stop_eq_ok (h : s.stop id = .ok s') :
    ∃ a, s.workspace.session? id = some a ∧ a.status.isTerminal = false ∧
      s'.workspace = s.workspace.setStatus id .stopped ∧ s'.agents = s.agents := by
  obtain ⟨w, hw, rfl⟩ := exists_of_map_eq_ok h
  obtain ⟨a, ha, hlive, rfl⟩ := Workspace.stop_eq_ok hw
  exact ⟨a, ha, hlive, rfl, rfl⟩

/-- What a follow-up that is accepted does: an idle session waits, and an agent will wake for it. -/
theorem followUp_eq_ok (h : s.followUp id prompt = .ok s') :
    ∃ a, s.workspace.session? id = some a ∧ a.status = .idle ∧
      s'.workspace = (s.workspace.setStatus id .pending).record a.worktree
        (Workspace.promptLine prompt) ∧
      s'.agents = s.agents ++ [(s.clock + s.delay, ⟨id, a.worktree, .wake (reply prompt)⟩)] := by
  obtain ⟨⟨w, worktree⟩, hw, rfl⟩ := exists_of_map_eq_ok h
  obtain ⟨a, ha, hidle, rfl, rfl⟩ := Workspace.followUp_eq_ok hw
  exact ⟨a, ha, hidle, rfl, rfl⟩

/-- An agent that acts does one of the things that it can do, and is replaced by what it becomes. -/
theorem act_does {l r : List (Nat × Agent)} {time : Nat} {a : Agent}
    (h : s.agents = l ++ (time, a) :: r) (hids : s.workspace.ids.Nodup) :
    ∃ next line time', a.Does s.workspace (s.act l.length).workspace next line ∧
      a.line? s.workspace = line ∧
      (s.act l.length).agents = l ++ (next.toList.map fun b => (time', b)) ++ r := by
  have hget : s.agents[l.length]? = some (time, a) := by simp [h]
  have hworkspace : (s.act l.length).workspace = (a.step s.stream.isSome s.workspace).workspace := by
    unfold act
    rw [hget]
    rfl
  rw [hworkspace]
  refine ⟨_, _, time + a.task.pause s.delay, a.does s.stream.isSome hids, rfl, ?_⟩
  unfold act
  rw [hget]
  -- the agent has ended, or goes on after a pause
  rcases hnext : (a.step s.stream.isSome s.workspace).next with - | b
  · simp [hnext, emit, h, List.eraseIdx_append_of_length_le]
  · simp [hnext, emit, h]

end

/-! ### Chronicles -/

/-- A simulation with all that was put down so far. -/
structure Chronicle where
  simulation : AgentConsole.Simulation
  spoken : List Utterance := []

namespace Chronicle

/-- The simulation to begin with; nothing has been put down. -/
def begin (home : String) (delay : Nat) : Chronicle :=
  { simulation := Simulation.begin home delay }

/-- All that there is to know of a session. -/
def place (x : Chronicle) (id : SessionId) : Place where
  session? := x.simulation.workspace.session? id
  words := wordsFor id x.spoken
  tasks := tasksFor id x.simulation.agents

/-- A command is carried out, an agent acts, or something else goes on. -/
inductive Step (x : Chronicle) : Chronicle → Prop where
  | start {worktree : WorktreeId} {prompt : Text} {s : AgentConsole.Simulation} {id : SessionId}
    (h : x.simulation.start worktree prompt = .ok (s, id)) :
    Step x { simulation := s, spoken := x.spoken ++ [⟨id, worktree, .asked prompt⟩] }
  | stop {id : SessionId} {s : AgentConsole.Simulation} (h : x.simulation.stop id = .ok s) :
    Step x { x with simulation := s }
  | followUp {id : SessionId} {prompt : Text} {s : AgentConsole.Simulation} {a : Session}
    (ha : x.simulation.workspace.session? id = some a)
    (h : x.simulation.followUp id prompt = .ok s) :
    Step x { simulation := s, spoken := x.spoken ++ [⟨id, a.worktree, .asked prompt⟩] }
  /-- An agent acts, whatever the time. -/
  | act {l r : List (Nat × Agent)} {time : Nat} {a : Agent}
    (h : x.simulation.agents = l ++ (time, a) :: r) :
    Step x
      { simulation := x.simulation.act l.length
        spoken := x.spoken ++ (a.line? x.simulation.workspace).toList.map fun line =>
          ⟨a.session, a.worktree, .said line⟩ }
  /-- An agent is gone before it is done. -/
  | leave {l r : List (Nat × Agent)} {entry : Nat × Agent}
    (h : x.simulation.agents = l ++ entry :: r) :
    Step x { x with simulation := { x.simulation with agents := l ++ r } }
  /-- Time passes, or the listener does something. -/
  | elsewhere {s : AgentConsole.Simulation} (hworkspace : s.workspace = x.simulation.workspace)
    (hagents : s.agents = x.simulation.agents) : Step x { x with simulation := s }

/-- Some steps later. -/
abbrev Later : Chronicle → Chronicle → Prop := Relation.ReflTransGen Step

variable {x y : Chronicle}

/-! ### One step -/

/-- **A step is at most one turn of every session.** -/
theorem Step.turn (h : x.Step y) (hx : x.simulation.workspace.Numbered) (id : SessionId) :
    Relation.ReflGen Place.Turn (x.place id) (y.place id) := by
  -- every step concerns one session, and is no turn of any other
  unfold place
  cases h with
  | @start worktree prompt s new h =>
    obtain ⟨rfl, hworkspace, hagents⟩ := start_eq_ok h
    rw [hworkspace, hagents, wordsFor_concat, Workspace.session?_record,
      Workspace.session?_withSession]
    by_cases hid : (x.simulation.workspace.nextSession worktree prompt x.simulation.calendar).id = id
    · -- the identity was free, so nothing was known of the session
      subst hid
      simpa [hx.session?_nextSession] using .single (.start prompt rfl)
    · simpa [hid] using .refl
  | @stop other s h =>
    obtain ⟨a, ha, hlive, hworkspace, hagents⟩ := stop_eq_ok h
    rw [hworkspace, hagents, Workspace.session?_setStatus]
    by_cases hid : id = other
    · subst hid
      simpa [ha] using .single (.stop hlive)
    · simpa [hid] using .refl
  | @followUp other prompt s a ha h =>
    obtain ⟨b, hb, hidle, hworkspace, hagents⟩ := followUp_eq_ok h
    obtain rfl := Option.some.inj (ha.symm.trans hb)
    rw [hworkspace, hagents, wordsFor_concat, Workspace.session?_record,
      Workspace.session?_setStatus]
    by_cases hid : id = other
    · subst hid
      simpa [ha] using .single (.followUp prompt hidle)
    · simpa [hid, Ne.symm hid] using .refl
  | @act l r time a h =>
    obtain ⟨next, line, time', hdoes, hline, hagents⟩ := act_does h hx.nodup
    rw [hagents, h, hline]
    generalize (x.simulation.act l.length).workspace = w at hdoes ⊢
    by_cases hid : id = a.session
    · subst hid
      cases hdoes with
      | leaves => simpa using .single (.leave a.task)
      | @wakes reply b htask hb hlive =>
        simpa [htask, hb, Workspace.session?_setStatus] using .single (.wake reply hlive)
      | @speaks line more b next htask hb hrunning hnext =>
        rw [Workspace.session?_record, Option.toList_some, List.map_singleton, wordsFor_concat]
        rcases hnext with rfl | rfl
        · simpa [htask, hb] using .single (.say line more hrunning (.inl rfl))
        · simpa [htask, hb] using .single (.say line more hrunning (.inr rfl))
      | @rests b htask hb hlive =>
        simpa [htask, hb, Workspace.session?_setStatus] using .single (.rest hlive)
    · -- the agent is at work on another session
      cases hdoes with
      | leaves => simpa [Ne.symm hid] using .refl
      | wakes | rests => simpa [hid, Ne.symm hid, Workspace.session?_setStatus] using .refl
      | speaks _ _ _ hnext =>
        rw [Workspace.session?_record, Option.toList_some, List.map_singleton, wordsFor_concat]
        rcases hnext with rfl | rfl
        · simpa [Ne.symm hid] using .refl
        · simpa [Ne.symm hid] using .refl
  | @leave l r entry h =>
    by_cases hid : entry.2.session = id
    · simpa [h, hid] using .single (.leave entry.2.task)
    · simpa [h, hid] using .refl
  | elsewhere hworkspace hagents => rw [hworkspace, hagents]

/-- The step: identities stay apart, and new ones have higher numbers. -/
theorem Step.numbered (h : x.Step y) (hx : x.simulation.workspace.Numbered) :
    y.simulation.workspace.Numbered := by
  -- only a start brings in an identity
  cases h with
  | @start worktree prompt s id h =>
    obtain ⟨-, hworkspace, -⟩ := start_eq_ok h
    rw [hworkspace]
    exact hx.withSession_nextSession.congr rfl rfl
  | stop h =>
    obtain ⟨a, -, -, hworkspace, -⟩ := stop_eq_ok h
    rw [hworkspace]
    exact hx.congr (Workspace.ids_setStatus _) rfl
  | followUp ha h =>
    obtain ⟨a, -, -, hworkspace, -⟩ := followUp_eq_ok h
    rw [hworkspace]
    exact hx.congr (Workspace.ids_setStatus _) rfl
  | @act l r time a h =>
    obtain ⟨next, line, time', hdoes, -, -⟩ := act_does h hx.nodup
    change Workspace.Numbered (x.simulation.act l.length).workspace
    generalize (x.simulation.act l.length).workspace = w at hdoes ⊢
    cases hdoes with
    | leaves => exact hx
    | wakes | rests => exact hx.congr (Workspace.ids_setStatus _) rfl
    | speaks => exact hx.congr rfl rfl
  | leave => exact hx
  | elsewhere hworkspace => rw [hworkspace]; exact hx

/-- What a step adds to the histories is what it puts down. -/
theorem Step.records (h : x.Step y) (hx : x.simulation.workspace.Numbered) :
    ∃ us, y.spoken = x.spoken ++ us ∧ ∀ worktree,
      y.simulation.workspace.historyOf worktree
        = x.simulation.workspace.historyOf worktree ++ linesIn worktree us := by
  -- what is spoken is what is put down, in the worktree of the session
  cases h with
  | @start other prompt s id h =>
    obtain ⟨-, hworkspace, -⟩ := start_eq_ok h
    refine ⟨_, rfl, fun worktree => ?_⟩
    rw [hworkspace, Workspace.historyOf_record, linesIn_singleton]
    rfl
  | stop h =>
    obtain ⟨a, -, -, hworkspace, -⟩ := stop_eq_ok h
    refine ⟨[], (List.append_nil _).symm, fun worktree => ?_⟩
    rw [hworkspace]
    exact (List.append_nil _).symm
  | followUp ha h =>
    obtain ⟨b, hb, -, hworkspace, -⟩ := followUp_eq_ok h
    obtain rfl := Option.some.inj (ha.symm.trans hb)
    refine ⟨_, rfl, fun worktree => ?_⟩
    rw [hworkspace, Workspace.historyOf_record, linesIn_singleton]
    rfl
  | @act l r time a h =>
    refine ⟨_, rfl, fun worktree => ?_⟩
    obtain ⟨next, line, time', hdoes, hline, -⟩ := act_does h hx.nodup
    rw [hline]
    change Workspace.historyOf (x.simulation.act l.length).workspace worktree = _
    generalize (x.simulation.act l.length).workspace = w at hdoes ⊢
    cases hdoes with
    | leaves | wakes | rests => exact (List.append_nil _).symm
    | speaks =>
      rw [Workspace.historyOf_record, Option.toList_some, List.map_singleton, linesIn_singleton]
      rfl
  | leave => exact ⟨[], (List.append_nil _).symm, fun _ => (List.append_nil _).symm⟩
  | elsewhere hworkspace =>
    refine ⟨[], (List.append_nil _).symm, fun worktree => ?_⟩
    rw [hworkspace]
    exact (List.append_nil _).symm

/-! ### Every run -/

/-- Every session stands somewhere, and the histories hold what was put down. -/
structure InStep (home : String) (x : Chronicle) : Prop where
  numbered : x.simulation.workspace.Numbered
  stands : ∀ id, (x.place id).Stands
  recorded : ∀ worktree, x.simulation.workspace.historyOf worktree
    = (Workspace.initial home 0).historyOf worktree ++ linesIn worktree x.spoken

namespace InStep

variable {home : String}

theorem begin (home : String) (delay : Nat) : (Chronicle.begin home delay).InStep home where
  numbered := Workspace.Numbered.initial home 0
  stands id := by
    show Standing [] [] (((Workspace.initial home 0).session? id).map Session.status)
    rcases hsession : (Workspace.initial home 0).session? id with _ | a
    · exact .unknown rfl rfl
    · rcases List.mem_pair.mp (List.mem_of_find?_eq_some hsession) with rfl | rfl
      · exact .idle [] rfl rfl
      · exact .ended [] rfl List.nil_prefix (Nat.zero_le 1)
  recorded _ := (List.append_nil _).symm

theorem step (hx : x.InStep home) (h : x.Step y) : y.InStep home where
  numbered := h.numbered hx.numbered
  stands id := by
    rcases (Relation.reflGen_iff _ _ _).mp (h.turn hx.numbered id) with hplace | hturn
    · rw [hplace]
      exact hx.stands id
    · exact hturn.stands (hx.stands id)
  recorded worktree := by
    obtain ⟨us, hspoken, hhistory⟩ := h.records hx.numbered
    rw [hhistory, hspoken, linesIn_append, hx.recorded, List.append_assoc]

theorem later (hx : x.InStep home) (h : x.Later y) : y.InStep home := by
  induction h with
  | refl => exact hx
  | tail _ hstep ih => exact ih.step hstep

end InStep

theorem Later.numbered (h : x.Later y) (hx : x.simulation.workspace.Numbered) :
    y.simulation.workspace.Numbered := by
  induction h with
  | refl => exact hx
  | tail _ hstep ih => exact hstep.numbered ih

/-- The run: histories grow by what was spoken. -/
theorem Later.records (h : x.Later y) (hx : x.simulation.workspace.Numbered) :
    ∃ us, y.spoken = x.spoken ++ us ∧ ∀ worktree,
      y.simulation.workspace.historyOf worktree
        = x.simulation.workspace.historyOf worktree ++ linesIn worktree us := by
  induction h with
  | refl => exact ⟨[], (List.append_nil _).symm, fun _ => (List.append_nil _).symm⟩
  | @tail y z hlater hstep ih =>
    obtain ⟨us, hspoken, hhistory⟩ := ih
    obtain ⟨vs, hspoken', hhistory'⟩ := hstep.records (Later.numbered hlater hx)
    refine ⟨us ++ vs, ?_, fun worktree => ?_⟩
    · rw [hspoken', hspoken, List.append_assoc]
    · rw [hhistory', hhistory, linesIn_append, List.append_assoc]

/-- A session that has ended stays as it is, and nothing more is put down for it. -/
theorem Later.of_ended {id : SessionId} {a : Session} (h : x.Later y)
    (hx : x.simulation.workspace.Numbered) (ha : x.simulation.workspace.session? id = some a)
    (hended : a.status.isTerminal = true) :
    y.simulation.workspace.session? id = some a ∧ wordsFor id y.spoken = wordsFor id x.spoken := by
  induction h with
  | refl => exact ⟨ha, rfl⟩
  | @tail y z hlater hstep ih =>
    obtain ⟨ha, hwords⟩ := ih
    rcases (Relation.reflGen_iff _ _ _).mp (hstep.turn (Later.numbered hlater hx) id)
      with hplace | hturn
    · exact ⟨(congrArg Place.session? hplace).trans ha, (congrArg Place.words hplace).trans hwords⟩
    · obtain ⟨hsession, hsame⟩ := hturn.of_ended ha hended
      exact ⟨hsession, hsame.trans hwords⟩

/-- The session stands as `a` for good: it never changes, and all that is put down later is for
others. -/
def IsOver (x : Chronicle) (id : SessionId) (a : Session) : Prop :=
  ∀ y, x.Later y → y.simulation.workspace.session? id = some a ∧
    ∃ us, y.spoken = x.spoken ++ us ∧ (∀ u ∈ us, u.session ≠ id) ∧ ∀ worktree,
      y.simulation.workspace.historyOf worktree
        = x.simulation.workspace.historyOf worktree ++ linesIn worktree us

/-- A session that has ended is over, whatever its agent was about to do. -/
theorem isOver_of_ended {id : SessionId} {a : Session} (hx : x.simulation.workspace.Numbered)
    (ha : x.simulation.workspace.session? id = some a) (hended : a.status.isTerminal = true) :
    x.IsOver id a := by
  intro y hlater
  obtain ⟨ha', hwords⟩ := Later.of_ended hlater hx ha hended
  obtain ⟨us, hspoken, hhistory⟩ := Later.records hlater hx
  refine ⟨ha', us, hspoken, fun u hu heq => ?_, hhistory⟩
  -- an utterance of that session would be one word more
  rw [hspoken, wordsFor, List.filterMap_append] at hwords
  have hnone := List.filterMap_eq_nil_iff.mp (List.append_right_eq_self.mp hwords) u hu
  rw [if_pos heq] at hnone
  exact absurd hnone (Option.some_ne_none _)

/-- A stop that is accepted finds a session that has not ended, and with it the session is over.
An agent that is still at work on it looks at the session before its next line, and leaves. -/
theorem isOver_of_stop {id : SessionId} {s : AgentConsole.Simulation}
    (hx : x.simulation.workspace.Numbered) (h : x.simulation.stop id = .ok s) :
    ∃ a, x.simulation.workspace.session? id = some a ∧ a.status.isTerminal = false ∧
      s.workspace.session? id = some { a with status := .stopped } ∧
        IsOver { x with simulation := s } id { a with status := .stopped } := by
  obtain ⟨a, ha, hlive, hworkspace, -⟩ := stop_eq_ok h
  have hstopped : s.workspace.session? id = some { a with status := .stopped } := by
    rw [hworkspace, Workspace.session?_setStatus, ha, Option.map_some, if_pos rfl]
  exact ⟨a, ha, hlive, hstopped, isOver_of_ended ((Step.stop h).numbered hx) hstopped rfl⟩

/-- Sessions live their lives side by side: each on its own, one reply after the other, and to
their end. -/
structure TakesTurns (home : String) (x : Chronicle) : Prop where
  /-- No session has the identity of another. -/
  unique : x.simulation.workspace.ids.Nodup
  /-- A history holds what it held at first and the lines put down since. -/
  recorded : ∀ worktree, x.simulation.workspace.historyOf worktree
    = (Workspace.initial home 0).historyOf worktree ++ linesIn worktree x.spoken
  /-- At most one agent is at work on a session. -/
  alone : ∀ id, (tasksFor id x.simulation.agents).length ≤ 1
  /-- What is put down for a session is prompt, reply, prompt, reply, as far as it got. -/
  turns : ∀ id, ∃ prompts, wordsFor id x.spoken <+: talk prompts
  /-- A session that has ended stays as it is, and all that is put down later is for others. -/
  ended : ∀ id a, x.simulation.workspace.session? id = some a → a.status.isTerminal = true →
    x.IsOver id a
  /-- A stop that is accepted leaves the session stopped, whatever state it was in and whether or
  not an agent is at work on it, and nothing is put down for it from then on. -/
  stopped : ∀ id s, x.simulation.stop id = .ok s →
    ∃ a, x.simulation.workspace.session? id = some a ∧ a.status.isTerminal = false ∧
      s.workspace.session? id = some { a with status := .stopped } ∧
        IsOver { x with simulation := s } id { a with status := .stopped }
  /-- A command that fails changes nothing at all, and fails for a reason. -/
  refused : ∀ request o command error,
    (Backend.simulated x.simulation).perform? request = some o →
    o.event = .commandFailed command error → o.backend = .simulated x.simulation ∧
      ∃ refusal, x.simulation.workspace.Refuses request refusal ∧ error = refusal.message
  /-- Where there is a reason, the command fails. -/
  refuses : ∀ request refusal, x.simulation.workspace.Refuses request refusal →
    ∃ command, (Backend.simulated x.simulation).perform? request = some
      { backend := .simulated x.simulation, event := .commandFailed command refusal.message }

/-- **The life of sessions.**  In whatever order commands come and agents act, sessions take turns,
a stop ends them at once, and they stay ended. -/
theorem takesTurns_of_later {home : String} {delay : Nat} (h : (Chronicle.begin home delay).Later x) :
    x.TakesTurns home := by
  have hx := (InStep.begin home delay).later h
  exact
    { unique := hx.numbered.nodup
      recorded := hx.recorded
      alone := fun id => (hx.stands id).alone
      turns := fun id => (hx.stands id).turns
      ended := fun _ _ => isOver_of_ended hx.numbered
      stopped := fun _ _ => isOver_of_stop hx.numbered
      refused := fun _ _ _ _ => Backend.refuses_of_perform?
      refuses := fun _ _ => Backend.perform?_of_refuses }

/-- One session is stopped while it runs, after a line of its agent.  Another one is stopped before
its agent wakes; then both agents act once more, put down nothing and are gone. -/
theorem takesTurns_of_stopped : ∃ x s y, (Chronicle.begin "/home/me" 120).Later x ∧
    (x.simulation.workspace.session? ⟨"s1"⟩).map Session.status = some .stopped ∧
    (x.simulation.workspace.session? ⟨"s2"⟩).map Session.status = some .pending ∧
    (tasksFor ⟨"s2"⟩ x.simulation.agents).length = 1 ∧ x.simulation.stop ⟨"s2"⟩ = .ok s ∧
    Later { x with simulation := s } y ∧
    (y.simulation.workspace.session? ⟨"s2"⟩).map Session.status = some .stopped ∧
    y.simulation.agents = [] ∧ y.spoken.map Utterance.words
      = [.asked "Fix it".toList, .said "Looking into **Fix it**.".toList, .asked "Go on".toList] ∧
    x.TakesTurns "/home/me" ∧ y.TakesTurns "/home/me" := by
  -- one session speaks and is stopped, another one is stopped before it speaks
  have hstart : (Chronicle.begin "/home/me" 120).Step _ :=
    @Step.start _ ⟨"main"⟩ "Fix it".toList _ _ rfl
  have hwake := (Relation.ReflTransGen.single hstart).tail (@Step.act _ [] [] _ _ rfl)
  have hsay := hwake.tail (@Step.act _ [] [] _ _ rfl)
  have hstop := hsay.tail (@Step.stop _ ⟨"s1"⟩ _ rfl)
  have hnext := hstop.tail (@Step.start _ ⟨"main"⟩ "Go on".toList _ _ rfl)
  have hover := hnext.tail (@Step.stop _ ⟨"s2"⟩ _ rfl)
  have hgone := (hover.tail (@Step.act _ [] _ _ _ rfl)).tail (@Step.act _ [] [] _ _ rfl)
  refine ⟨_, _, _, hnext, rfl, rfl, rfl, rfl, ?_, rfl, rfl, rfl, takesTurns_of_later hnext,
    takesTurns_of_later hgone⟩
  exact (Relation.ReflTransGen.single (@Step.act _ [] _ _ _ rfl)).tail (@Step.act _ [] [] _ _ rfl)

/-! ### What the program does is such a run -/

/-- Whatever the backend is asked for. -/
theorem exists_later_perform? {request : Request} {o : Backend.Outcome}
    (h : (Backend.simulated x.simulation).perform? request = some o) :
    ∃ y, x.Later y ∧ o.backend = .simulated y.simulation := by
  rcases hcommand : x.simulation.command? request with _ | ⟨command, result⟩
  · exact ⟨x, .refl, (Backend.perform?_of_not_command h hcommand).1⟩
  · obtain rfl := Option.some.inj ((Backend.perform?_of_command? hcommand).symm.trans h)
    cases result with
    | error refusal => exact ⟨x, .refl, rfl⟩
    | ok s =>
      -- each of the three commands is a step
      cases request with
      | startSession worktree prompt =>
        obtain ⟨-, hstart⟩ := Prod.mk.inj (Option.some.inj hcommand)
        obtain ⟨⟨s', id⟩, hok, rfl⟩ := exists_of_map_eq_ok hstart
        exact ⟨_, .single (.start hok), rfl⟩
      | stopSession id =>
        obtain ⟨-, hstop⟩ := Prod.mk.inj (Option.some.inj hcommand)
        exact ⟨_, .single (.stop hstop), rfl⟩
      | followUp id prompt =>
        obtain ⟨-, hfollowUp⟩ := Prod.mk.inj (Option.some.inj hcommand)
        obtain ⟨a, ha, -⟩ := followUp_eq_ok hfollowUp
        exact ⟨_, .single (.followUp ha hfollowUp), rfl⟩
      | _ => exact absurd hcommand (by simp [command?])

/-- An agent that is not there does nothing, and any other one takes a step. -/
theorem exists_later_act (x : Chronicle) (i : Nat) :
    ∃ y, x.Later y ∧ y.simulation = x.simulation.act i := by
  rcases hget : x.simulation.agents[i]? with _ | ⟨time, a⟩
  · refine ⟨x, .refl, ?_⟩
    unfold act
    rw [hget]
  · obtain ⟨hi, hget⟩ := List.getElem?_eq_some_iff.mp hget
    have hsplit : x.simulation.agents
        = x.simulation.agents.take i ++ (time, a) :: x.simulation.agents.drop (i + 1) := by
      rw [← hget, List.getElem_cons_drop, List.take_append_drop]
    have hlength : (x.simulation.agents.take i).length = i := List.length_take_of_le (Nat.le_of_lt hi)
    exact ⟨_, .single (.act hsplit), congrArg x.simulation.act hlength⟩

theorem exists_later_actUntil (time fuel : Nat) (x : Chronicle) :
    ∃ y, x.Later y ∧ y.simulation = actUntil time fuel x.simulation := by
  induction fuel generalizing x with
  | zero => exact ⟨x, .refl, rfl⟩
  | succ fuel ih =>
    unfold actUntil
    split
    · rename_i i t _
      split
      · obtain ⟨y, hy, hact⟩ := exists_later_act x i
        obtain ⟨z, hz, huntil⟩ := ih y
        exact ⟨z, hy.trans hz, huntil.trans (congrArg _ hact)⟩
      · exact ⟨x, .refl, rfl⟩
    · exact ⟨x, .refl, rfl⟩

/-- However much time passes. -/
theorem exists_later_advance (x : Chronicle) (duration : Nat) :
    ∃ y, x.Later y ∧ y.simulation = x.simulation.advance duration := by
  obtain ⟨y, hy, huntil⟩ :=
    exists_later_actUntil (x.simulation.clock + duration) x.simulation.steps x
  have hclock : y.Step { y with simulation := x.simulation.advance duration } := by
    refine .elsewhere ?_ ?_
    · rw [huntil]
      rfl
    · rw [huntil]
      rfl
  exact ⟨_, hy.tail hclock, rfl⟩

theorem exists_later_carryOut {rehearsal : Rehearsal} (request : Request)
    (h : rehearsal.backend = .simulated x.simulation) :
    ∃ y, x.Later y ∧ (rehearsal.carryOut request).backend = .simulated y.simulation := by
  unfold Rehearsal.carryOut
  rw [h]
  rcases ho : (Backend.simulated x.simulation).perform? request with _ | o
  · exact ⟨x, .refl, h⟩
  · exact exists_later_perform? ho

/-- Requests are carried out one after the other. -/
theorem exists_later_carryOut_foldl {rehearsal : Rehearsal} (requests : List Request)
    (h : rehearsal.backend = .simulated x.simulation) :
    ∃ y, x.Later y ∧ (requests.foldl Rehearsal.carryOut rehearsal).backend
      = .simulated y.simulation := by
  induction requests generalizing rehearsal x with
  | nil => exact ⟨x, .refl, h⟩
  | cons request requests ih =>
    obtain ⟨y, hy, hbackend⟩ := exists_later_carryOut request h
    obtain ⟨z, hz, hrest⟩ := ih hbackend
    exact ⟨z, hy.trans hz, hrest⟩

theorem exists_later_listen {rehearsal : Rehearsal} (pull : Bool)
    (h : rehearsal.backend = .simulated x.simulation) :
    ∃ y, x.Later y ∧ (rehearsal.listen pull).1.backend = .simulated y.simulation := by
  unfold Rehearsal.listen
  rw [h]
  have hstream (stream : Option (List SessionEvent)) :
      x.Step { x with simulation := { x.simulation with stream } } := .elsewhere rfl rfl
  exact ⟨_, .single (hstream _), rfl⟩

theorem backend_advance {rehearsal : Rehearsal} {s : AgentConsole.Simulation} (duration : Nat)
    (h : rehearsal.backend = .simulated s) :
    (rehearsal.advance duration).backend = .simulated (s.advance duration) := by
  unfold Rehearsal.advance
  rw [h]

/-- However long the host waits, with all that was asked for. -/
theorem exists_later_wait {rehearsal : Rehearsal} (duration : Nat) (pull : Bool)
    (h : rehearsal.backend = .simulated x.simulation) :
    ∃ y, x.Later y ∧ (rehearsal.wait duration pull).1.backend = .simulated y.simulation := by
  unfold Rehearsal.wait
  split
  · exact ⟨x, .refl, h⟩
  · obtain ⟨y, hy, hbegun⟩ : ∃ y, x.Later y ∧ rehearsal.beginOrders.backend
        = .simulated y.simulation := exists_later_carryOut_foldl _ h
    obtain ⟨z, hz, hadvanced⟩ := exists_later_advance y duration
    refine (exists_later_listen pull ?_).imp fun w hw => ⟨(hy.trans hz).trans hw.1, hw.2⟩
    rw [hadvanced]
    -- the agenda, which the host keeps, is not the backend's
    exact backend_advance duration hbegun

end Chronicle

end AgentConsole.Simulation
