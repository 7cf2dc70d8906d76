import AgentConsole.Proofs.Schedule.Timer
import AgentConsole.Toast

/-!
# The queue of toasts

What is on the screen and how much room there is does not depend on the timer: to point it
elsewhere (`ToastQueue.rearm`) keeps both, and all that it asks for is that timer.
-/

namespace AgentConsole

namespace ToastQueue

variable {q : ToastQueue} {generation time : Nat} {order : Schedule}

/-- The toasts ask for no timer but their own. -/
theorem purpose_of_rearm (h : order ∈ (q.rearm time).2) : order.purpose = .toasts := by
  unfold rearm at h
  split at h
  · exact absurd h (by simp)
  · split at h
    · exact absurd h (by simp)
    · obtain rfl := Option.some.inj h
      rfl

/-- A timer that ends asks for timers of the toasts only. -/
theorem purpose_of_onTimer (h : order ∈ (q.onTimer generation time).2) :
    order.purpose = .toasts := by
  unfold onTimer at h
  split at h
  · exact absurd h (by simp)
  · exact purpose_of_rearm h

/-- To point the timer elsewhere changes the timer only. -/
theorem exists_timer_rearm (q : ToastQueue) (time : Nat) :
    ∃ timer, (q.rearm time).1 = { q with timer } := by
  unfold rearm
  split
  · exact ⟨_, rfl⟩
  · split
    · exact ⟨q.timer, rfl⟩
    · exact ⟨_, rfl⟩

@[simp] theorem toasts_rearm (q : ToastQueue) (time : Nat) : (q.rearm time).1.toasts = q.toasts := by
  obtain ⟨timer, h⟩ := q.exists_timer_rearm time
  rw [h]

@[simp] theorem limit_rearm (q : ToastQueue) (time : Nat) : (q.rearm time).1.limit = q.limit := by
  obtain ⟨timer, h⟩ := q.exists_timer_rearm time
  rw [h]

@[simp] theorem life_rearm (q : ToastQueue) (time : Nat) : (q.rearm time).1.life = q.life := by
  obtain ⟨timer, h⟩ := q.exists_timer_rearm time
  rw [h]

@[simp] theorem limit_push (q : ToastQueue) (message : Text) (severity : Severity) (time : Nat) :
    (q.push message severity time).1.limit = q.limit := limit_rearm _ _

@[simp] theorem limit_onTimer (q : ToastQueue) (generation time : Nat) :
    (q.onTimer generation time).1.limit = q.limit := by
  unfold onTimer
  split
  · rfl
  · exact limit_rearm _ _

/-- A timer that is not armed with the generation changes nothing. -/
theorem onTimer_of_ne (h : q.timer.armed? ≠ some generation) (time : Nat) :
    q.onTimer generation time = (q, none) := by
  unfold onTimer
  rw [Timer.fire?_of_ne h]

/-- Where there is room for a toast, the one that was raised last is the newest. -/
theorem getLast?_push (h : 0 < q.limit) (message : Text) (severity : Severity) (time : Nat) :
    (q.push message severity time).1.toasts.getLast? = some ⟨message, severity, time + q.life⟩ := by
  have hkept (l : List Toast) (toast : Toast) :
      ((l ++ [toast]).drop ((l ++ [toast]).length - q.limit)).getLast? = some toast := by
    rw [List.getLast?_drop, if_neg, List.getLast?_concat]
    rw [List.length_append, List.length_singleton]
    omega
  unfold push
  dsimp only
  rw [toasts_rearm]
  exact hkept _ _

end ToastQueue

end AgentConsole
