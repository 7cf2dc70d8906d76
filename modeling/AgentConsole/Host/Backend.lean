import AgentConsole.Console.Basic
import AgentConsole.Simulation.Timeline

/-!
# Backends

What carries out the console's requests: a simulation, or something broken that
refuses everything for one reason.
-/

namespace AgentConsole

/-- What carries out requests. -/
inductive Backend where
  | simulated (simulation : Simulation)
  | broken (reason : Text)

namespace Backend

/-- What a request leads to: an event, after some time. -/
structure Outcome where
  backend : Backend
  delay : Nat := 0
  event : Event

/-- The event about a command. -/
def report (command : Command) (refusal : Option Text) : Event :=
  match refusal with
  | none => .commandDone command
  | some error => .commandFailed command error

/-- A simulation after a command, or as it was if the command is refused. -/
def settle (s : Simulation) (command : Command) (result : Except Simulation.Refusal Simulation) :
    Outcome :=
  match result with
  | .ok s => { backend := simulated s, event := report command none }
  | .error refusal => { backend := simulated s, event := report command (some refusal.message) }

/-- What the forge says about worktrees.  Those it does not know are left out. -/
def statuses (s : Simulation) (ids : List WorktreeId) : Table WorktreeId RemoteStatus :=
  ids.foldl
    (fun table id =>
      match s.workspace.remoteStatus id with
      | .ok status => table.set id status
      | .error _ => table)
    {}

/-- Carries out a request.  Permissions and the end are the host's own business. -/
def perform? (b : Backend) (r : Request) : Option Outcome :=
  match r, b with
  | .schedule order, b =>
    some { backend := b, delay := order.delay, event := .timer order.purpose order.generation }
  | .copy _, b => some { backend := b, event := .copyFailed "no clipboard".toList }
  | .nextSessionEvent, _ | .quit, _ => none
  | .fetchSnapshot, simulated s => some { backend := b, event := .snapshot s.workspace.snapshot }
  | .fetchRemoteStatus ids, simulated s =>
    some
      { backend := b
        delay := if ids.isEmpty then 0 else s.forgeDelay
        event := .remoteStatus (statuses s ids) }
  | .fetchHistory id, simulated s =>
    some { backend := b, event := .history id (s.workspace.historyOf id) }
  | .startSession id prompt, simulated s =>
    some (settle s (.start id) ((s.start id prompt).map (·.1)))
  | .stopSession id, simulated s => some (settle s (.stop id) (s.stop id))
  | .followUp id prompt, simulated s => some (settle s (.followUp id) (s.followUp id prompt))
  | .fetchSnapshot, broken reason =>
    some { backend := b, event := .snapshotFailed ("snapshot: ".toList ++ reason) }
  | .fetchRemoteStatus _, broken _ => some { backend := b, event := .remoteStatus {} }
  | .fetchHistory id, broken reason =>
    some { backend := b, event := .historyFailed id ("history: ".toList ++ reason) }
  | .startSession id _, broken reason =>
    some { backend := b, event := report (.start id) (some ("start: ".toList ++ reason)) }
  | .stopSession id, broken reason =>
    some { backend := b, event := report (.stop id) (some ("stop: ".toList ++ reason)) }
  | .followUp id _, broken reason =>
    some { backend := b, event := report (.followUp id) (some ("follow_up: ".toList ++ reason)) }

end Backend

end AgentConsole
