import AgentConsole.Host.Backend
import AgentConsole.Host.Basic

/-!
# Rehearsals

A host at work with a backend in simulated time.  What was asked for begins
when the host waits, and time passes only then.
-/

namespace AgentConsole

/-- A host, its backend, and what is under way between them. -/
structure Rehearsal where
  host : Host := {}
  backend : Backend
  /-- What was asked for and has not begun. -/
  orders : List Request := []
  /-- The events to come, each with its time. -/
  agenda : List (Nat × Event) := []
  clock : Nat := 0

namespace Rehearsal

/-- Asks for something. -/
def execute (r : Rehearsal) (request : Request) : Rehearsal :=
  { r with host := r.host.execute request, orders := r.orders ++ [request] }

/-- Begins with one order. -/
def carryOut (r : Rehearsal) (request : Request) : Rehearsal :=
  match r.backend.perform? request with
  | none => r
  | some outcome =>
    { r with
      backend := outcome.backend
      agenda := r.agenda ++ [(r.clock + outcome.delay, outcome.event)] }

/-- Begins with all orders.  Snapshots are taken last. -/
def beginOrders (r : Rehearsal) : Rehearsal :=
  let (snapshots, others) := r.orders.partition (· = .fetchSnapshot)
  { (others ++ snapshots).foldl carryOut r with orders := [] }

/-- What came while the host waited. -/
structure Arrivals where
  /-- Session events, in their order. -/
  session : List SessionEvent := []
  /-- Everything else, in the order of time. -/
  others : List Event := []

/-- Takes what the backend has to say about sessions. -/
def listen (r : Rehearsal) (pull : Bool) : Rehearsal × Arrivals :=
  match r.backend with
  | .simulated s =>
    let (host, taken, waiting) := r.host.receive pull (s.stream.getD [])
    ({ r with host, backend := .simulated { s with stream := s.stream.map fun _ => waiting } },
      { session := taken })
  | .broken _ =>
    match r.host.accept? .ended with
    | some (host, event) => ({ r with host }, { others := [event] })
    | none => (r, {})

/-- Time passes for the backend. -/
def advance (r : Rehearsal) (duration : Nat) : Rehearsal :=
  { r with
    clock := r.clock + duration
    backend :=
      match r.backend with
      | .simulated s => .simulated (s.advance duration)
      | .broken reason => .broken reason }

/-- Waits for some time and takes all that comes; with `pull`, session events
one after the other, else no more than one.  Who has quit does not wait. -/
def wait (r : Rehearsal) (duration : Nat) (pull : Bool) : Rehearsal × Arrivals :=
  if r.host.cancelled then (r, {})
  else
    let r := r.beginOrders
    let isDue (e : Nat × Event) : Bool := e.1 ≤ r.clock || e.1 < r.clock + duration
    let (due, agenda) := r.agenda.partition isDue
    let due := due.mergeSort fun a b => a.1 ≤ b.1
    let (r, arrivals) := ({ r with agenda }.advance duration).listen pull
    (r, { arrivals with others := due.map (·.2) ++ arrivals.others })

end Rehearsal

end AgentConsole
