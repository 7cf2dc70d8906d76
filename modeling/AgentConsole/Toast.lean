import AgentConsole.Frame.Overlay
import AgentConsole.Schedule.Timer

/-!
# Toasts

Short messages that go away by themselves.  Only the newest few are kept, and
one timer serves them all: it is armed for the earliest time at which one of
them expires.
-/

namespace AgentConsole

/-- How a message is meant. -/
inductive Severity where
  | info
  | success
  | warning
  | error
  deriving DecidableEq, Repr

namespace Severity

/-- The sign in front of a message. -/
def icon : Severity → Char
  | info => '•'
  | success => '✓'
  | warning => '!'
  | error => '✗'

/-- The colour of a message. -/
def color (theme : Theme) : Severity → Color
  | info => theme.accent
  | success => theme.running
  | warning => theme.warning
  | error => theme.error

end Severity

/-- A message on the screen. -/
structure Toast where
  message : Text
  severity : Severity
  expiresAt : Nat
  deriving DecidableEq, Repr

/-- Has the toast expired? -/
def Toast.isExpired (t : Toast) (time : Nat) : Bool := t.expiresAt ≤ time

/-- The messages on the screen, oldest first, and their timer. -/
structure ToastQueue where
  toasts : List Toast := []
  /-- How many are kept. -/
  limit : Nat := 3
  /-- How long one stays. -/
  life : Nat := 3000
  timer : Timer := {}
  deriving DecidableEq, Repr

namespace ToastQueue

/-- An empty queue for that many toasts, and at least one. -/
def ofLimit (limit life : Nat) : ToastQueue := { limit := max limit 1, life }

/-- The earliest time at which a toast expires. -/
def earliest? (q : ToastQueue) : Option Nat := (q.toasts.map (·.expiresAt)).min?

/-- Points the timer at the earliest expiry; gives a schedule if that is news. -/
def rearm (q : ToastQueue) (time : Nat) : ToastQueue × Option Schedule :=
  match q.earliest? with
  | none => ({ q with timer := q.timer.disarm }, none)
  | some earliest =>
    if q.timer.deadline = some earliest then (q, none)
    else
      let timer := q.timer.arm earliest
      ({ q with timer }, some ⟨.toasts, earliest - time, timer.generation⟩)

/-- Adds a toast; one too many drives out the oldest. -/
def push (q : ToastQueue) (message : Text) (severity : Severity) (time : Nat) :
    ToastQueue × Option Schedule :=
  let toasts := q.toasts ++ [⟨message, severity, time + q.life⟩]
  { q with toasts := toasts.drop (toasts.length - q.limit) }.rearm time

/-- Removes the toasts that have expired. -/
def sweep (q : ToastQueue) (time : Nat) : ToastQueue :=
  { q with toasts := q.toasts.filter (!·.isExpired time) }

/-- The timer went off. -/
def onTimer (q : ToastQueue) (generation time : Nat) : ToastQueue × Option Schedule :=
  match q.timer.fire? generation with
  | none => (q, none)
  | some timer => ({ q with timer }.sweep time).rearm time

/-- The row of a toast. -/
def row (theme : Theme) (room : Nat) (t : Toast) : Text :=
  (t.severity.color theme).paint
    (Styled.truncate (' ' :: t.severity.icon :: ' ' :: t.message ++ [' ']) room)

/-- The toasts in a box of at most `maxWidth` columns, if there are any and there is room. -/
def render? (q : ToastQueue) (theme : Theme) (maxWidth : Nat) : Option Text :=
  if q.toasts.isEmpty ∨ maxWidth < 8 then none
  else
    let rows := q.toasts.map (row theme (maxWidth - 2))
    let inner := ((rows.map Styled.width).max?).getD 0
    some (Frame.boxed theme theme.border [] (Text.ofRows rows) inner)

end ToastQueue

end AgentConsole
