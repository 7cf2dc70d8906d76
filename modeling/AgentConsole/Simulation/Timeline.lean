import AgentConsole.Simulation.Agent

/-!
# Simulated time

A simulation is a workspace, its agents with the time at which each acts next,
and the stream of events that a listener hears.  Commands take no time; when
time passes, the agents act in the order of their times.
-/

namespace AgentConsole

/-- A workspace with agents at work, at a moment. -/
structure Simulation where
  workspace : Simulation.Workspace
  /-- The agents, each with the time of its next step. -/
  agents : List (Nat × Simulation.Agent) := []
  /-- The events that the listener has not taken yet; `none` when nobody listens any more. -/
  stream : Option (List SessionEvent) := some []
  clock : Nat := 0
  /-- The time between two lines of an agent. -/
  delay : Nat := 120
  /-- The time that new sessions start at. -/
  calendar : Int := 0
  deriving Repr

namespace Simulation

/-- The simulation to begin with. -/
def begin (home : String) (delay : Nat) : Simulation :=
  { workspace := Workspace.initial home 0, delay }

/-- Puts events into the stream. -/
def emit (s : Simulation) (events : List SessionEvent) : Simulation :=
  { s with stream := s.stream.map (· ++ events) }

/-- An agent begins to work on a prompt. -/
def employ (s : Simulation) (session : SessionId) (worktree : WorktreeId) (prompt : Text) :
    Simulation :=
  { s with
    agents := s.agents ++ [(s.clock + s.delay, ⟨session, worktree, .wake (reply prompt)⟩)] }

/-! ### Commands -/

/-- Starts a session. -/
def start (s : Simulation) (worktree : WorktreeId) (prompt : Text) :
    Except Refusal (Simulation × SessionId) :=
  (s.workspace.start worktree prompt s.calendar).map fun (workspace, session) =>
    ((({ s with workspace }).emit [.started session]).employ session.id worktree prompt, session.id)

/-- Stops a session. -/
def stop (s : Simulation) (id : SessionId) : Except Refusal Simulation :=
  (s.workspace.stop id).map fun workspace =>
    ({ s with workspace }).emit [.statusChanged id .stopped, .exited id none]

/-- Gives a session more to do. -/
def followUp (s : Simulation) (id : SessionId) (prompt : Text) : Except Refusal Simulation :=
  (s.workspace.followUp id prompt).map fun (workspace, worktree) =>
    ({ s with workspace }).employ id worktree prompt

/-! ### The listener -/

/-- Takes all events that wait; also tells whether nobody listens any more. -/
def drain (s : Simulation) : Simulation × List SessionEvent × Bool :=
  match s.stream with
  | some events => ({ s with stream := some [] }, events, false)
  | none => (s, [], true)

/-- Takes the event that waits longest. -/
def take? (s : Simulation) : Option (Simulation × SessionEvent) :=
  match s.stream with
  | some (e :: events) => some ({ s with stream := some events }, e)
  | _ => none

/-- There is one listener only: who subscribes again hears nothing, and the
first listener is gone. -/
def subscribeAgain (s : Simulation) : Simulation := { s with stream := none }

/-! ### The agents -/

/-- The agent of that index acts. -/
def act (s : Simulation) (i : Nat) : Simulation :=
  match s.agents[i]? with
  | none => s
  | some (time, a) =>
    let step := a.step s.stream.isSome s.workspace
    let agents :=
      match step.next with
      | none => s.agents.eraseIdx i
      | some next => s.agents.set i (time + a.task.pause s.delay, next)
    ({ s with workspace := step.workspace, agents }).emit step.event.toList

/-- The index and the time of the entry with the least time; the first of several. -/
def earliest? {α : Type} : List (Nat × α) → Option (Nat × Nat)
  | [] => none
  | (time, _) :: rest =>
    match earliest? rest with
    | none => some (0, time)
    | some (i, t) => if t < time then some (i + 1, t) else some (0, time)

/-- How many steps all agents take at most. -/
def steps (s : Simulation) : Nat :=
  s.agents.foldr (fun (_, a) n => a.task.steps + n) 0

/-- Lets agents act before a time; `fuel` bounds how often. -/
def actUntil (time : Nat) : Nat → Simulation → Simulation
  | 0, s => s
  | fuel + 1, s =>
    match earliest? s.agents with
    | some (i, t) => if t < time then actUntil time fuel (s.act i) else s
    | none => s

/-- Time passes. -/
def advance (s : Simulation) (duration : Nat) : Simulation :=
  let time := s.clock + duration
  { actUntil time s.steps s with clock := time }

/-- How long the forge takes to answer. -/
def forgeDelay (s : Simulation) : Nat := 4 * s.delay

end Simulation

end AgentConsole
