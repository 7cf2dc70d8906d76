import AgentConsole.Schedule.Timer

/-!
# Refreshing

What the console shows of the outside world is fetched again and again.  The
timer of a cadence is armed only when a fetch has completed, so a slow fetch
never meets the next one.
-/

namespace AgentConsole

/-- A fetch that is repeated. -/
structure Cadence where
  /-- The time between the end of a fetch and the next one. -/
  every : Nat
  timer : Timer := {}
  /-- Is a fetch under way? -/
  inFlight : Bool := false
  deriving DecidableEq, Repr

namespace Cadence

/-- The timer went off; also tells whether to fetch now. -/
def onTimer (c : Cadence) (generation : Nat) : Cadence × Bool :=
  match c.timer.fire? generation with
  | none => (c, false)
  | some timer =>
    if c.inFlight then ({ c with timer }, false) else ({ c with timer, inFlight := true }, true)

/-- Fetches without waiting, unless a fetch is under way. -/
def now? (c : Cadence) : Option Cadence :=
  if c.inFlight then none else some { c with timer := c.timer.disarm, inFlight := true }

/-- A fetch has ended: the timer is armed again.  Without one under way nothing happens. -/
def complete? (c : Cadence) (time : Nat) : Option Cadence :=
  if c.inFlight then
    some { c with timer := c.timer.arm (time + c.every), inFlight := false }
  else none

end Cadence

/-- The cadences of the sessions and of the forge. -/
structure Refresh where
  «local» : Cadence
  remote : Cadence
  deriving DecidableEq, Repr

namespace Refresh

/-- The cadences for the given times between fetches. -/
def ofPeriods (localEvery remoteEvery : Nat) : Refresh := ⟨{ every := localEvery }, { every := remoteEvery }⟩

/-- The cadence for a purpose. -/
def cadence? (r : Refresh) : Purpose → Option Cadence
  | .localStatus => some r.local
  | .remoteStatus => some r.remote
  | .toasts => none

/-- Exchanges the cadence for a purpose. -/
def set (r : Refresh) (purpose : Purpose) (c : Cadence) : Refresh :=
  match purpose with
  | .localStatus => { r with «local» := c }
  | .remoteStatus => { r with remote := c }
  | .toasts => r

/-- A timer went off; also tells whether to fetch now. -/
def onTimer (r : Refresh) (purpose : Purpose) (generation : Nat) : Refresh × Bool :=
  match r.cadence? purpose with
  | none => (r, false)
  | some c =>
    let (c, fetch) := c.onTimer generation
    (r.set purpose c, fetch)

/-- Fetches without waiting, unless a fetch is under way. -/
def now? (r : Refresh) (purpose : Purpose) : Option Refresh :=
  ((r.cadence? purpose).bind Cadence.now?).map (r.set purpose)

/-- A fetch has ended.  If one was under way, the next is scheduled. -/
def complete (r : Refresh) (purpose : Purpose) (time : Nat) : Refresh × Option Schedule :=
  match (r.cadence? purpose).bind (·.complete? time) with
  | none => (r, none)
  | some c => (r.set purpose c, some ⟨purpose, c.every, c.timer.generation⟩)

end Refresh

end AgentConsole
