/-!
# One-shot timers

A timer never runs free.  Arming it begins a new generation, and whoever waits
for it hands the generation back when the time has come.  A timer accepts that
only from the generation in force, so arming it again or disarming it cancels
whatever was under way.

Times are counted in milliseconds.
-/

namespace AgentConsole

/-- A timer. -/
structure Timer where
  generation : Nat := 0
  /-- When it goes off, while it is armed. -/
  deadline : Option Nat := none
  deriving DecidableEq, Repr

namespace Timer

/-- Arms the timer.  Its generation is the one to hand back. -/
def arm (t : Timer) (deadline : Nat) : Timer := ⟨t.generation + 1, some deadline⟩

/-- Disarms the timer. -/
def disarm (t : Timer) : Timer := ⟨t.generation + 1, none⟩

/-- The time of a generation has come: the timer goes off if it is armed and
this is its generation. -/
def fire? (t : Timer) (generation : Nat) : Option Timer :=
  if t.deadline.isSome ∧ generation = t.generation then some { t with deadline := none } else none

end Timer

/-- What a timer is for. -/
inductive Purpose where
  /-- Removing the toasts that have expired. -/
  | toasts
  /-- Asking for the state of the sessions. -/
  | localStatus
  /-- Asking the forge about the branches. -/
  | remoteStatus
  deriving DecidableEq, Repr

/-- The order to hand a generation back after `delay`. -/
structure Schedule where
  purpose : Purpose
  delay : Nat
  generation : Nat
  deriving DecidableEq, Repr

end AgentConsole
