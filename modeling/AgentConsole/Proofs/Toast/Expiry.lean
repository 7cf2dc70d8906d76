import AgentConsole.Proofs.Toast

/-!
# No toast outstays its time

One timer serves all the toasts of a queue.  It is to go off when the first of them expires, and
so its deadline has to be the earliest expiry after every call (`deadline_rearm`).  A new order is
given only when the deadline moves.  Between two moves it is the order given last that will come
back, and it has to be the one that the timer still waits for (`Timer.IsServedBy`).

Both are kept by every call (`IsTimed.call`), whatever the times and the generations are that it
comes with: a generation that is not in force is turned away, and the one that is leaves the timer
disarmed, so that it is armed anew for what is left.
-/

namespace AgentConsole

/-- While the timer is armed, it is the order given last that it waits for: the order has its
generation, and counted from the time at which it was given it comes back at the deadline, or at
once if the deadline has passed. -/
def Timer.IsServedBy (t : Timer) (last : Option (Schedule × Nat)) : Prop :=
  ∀ deadline, t.deadline = some deadline → ∃ order time, last = some (order, time) ∧
    order.purpose = .toasts ∧ order.generation = t.generation ∧
      time + order.delay = max deadline time

namespace ToastQueue

variable {q : ToastQueue} {last : Option (Schedule × Nat)}

/-! ### The deadline of the timer -/

theorem earliest?_eq_none_iff : q.earliest? = none ↔ q.toasts = [] := by
  show (q.toasts.map _).min? = none ↔ _
  rw [List.min?_eq_none_iff, List.map_eq_nil_iff]

/-- The earliest deadline is that of a toast, and no toast expires before it. -/
theorem earliest?_eq_some_iff {deadline : Nat} :
    q.earliest? = some deadline ↔
      (∃ t ∈ q.toasts, t.expiresAt = deadline) ∧ ∀ t ∈ q.toasts, deadline ≤ t.expiresAt := by
  show (q.toasts.map _).min? = some deadline ↔ _
  rw [List.min?_eq_some_iff, List.mem_map]
  exact and_congr_right fun _ => List.forall_mem_map

/-- The timer is pointed at the earliest expiry. -/
theorem deadline_rearm (q : ToastQueue) (time : Nat) :
    (q.rearm time).1.timer.deadline = q.earliest? := by
  unfold rearm
  split
  · rename_i h
    exact h.symm
  · rename_i earliest h
    split
    · rename_i hdeadline
      exact hdeadline.trans h.symm
    · exact h.symm

/-- If the timer was served before it was pointed elsewhere, so it is then. -/
theorem isServedBy_rearm (h : q.timer.IsServedBy last) (time : Nat) :
    (q.rearm time).1.timer.IsServedBy (((q.rearm time).2.map (·, time)).or last) := by
  unfold rearm
  split
  · -- a timer that is not armed waits for no order
    intro deadline hdeadline
    exact absurd hdeadline (Option.some_ne_none deadline).symm
  · rename_i earliest hearliest
    split
    · exact h
    · intro deadline hdeadline
      obtain rfl : earliest = deadline := Option.some.inj hdeadline
      refine ⟨_, time, rfl, rfl, rfl, ?_⟩
      show time + (earliest - time) = max earliest time
      omega

/-! ### What a call does to the toasts -/

/-- Only the oldest toasts are driven out by a new one, and no more of them than have to be. -/
theorem exists_evicted_push (q : ToastQueue) (message : Text) (severity : Severity) (time : Nat) :
    ∃ evicted, evicted ++ (q.push message severity time).1.toasts
        = q.toasts ++ [⟨message, severity, time + q.life⟩]
      ∧ evicted.length = q.toasts.length + 1 - q.limit := by
  unfold push
  dsimp only
  rw [toasts_rearm]
  refine ⟨_, List.take_append_drop _ _, ?_⟩
  rw [List.length_take, List.length_append, List.length_singleton]
  omega

/-- The timer goes off, and is armed anew for what it leaves. -/
theorem onTimer_of_eq {generation : Nat} (h : q.timer.armed? = some generation) (time : Nat) :
    q.onTimer generation time
      = ({ q with timer := { q.timer with deadline := none } }.sweep time).rearm time := by
  unfold onTimer
  rw [Timer.fire?_of_eq h]

/-- When the timer goes off what has expired is gone, and all else is kept. -/
theorem toasts_onTimer_of_eq {generation : Nat} (h : q.timer.armed? = some generation)
    (time : Nat) :
    (q.onTimer generation time).1.toasts = q.toasts.filter (time < ·.expiresAt) := by
  rw [onTimer_of_eq h, toasts_rearm]
  refine List.filter_congr fun t _ => ?_
  show (!decide (t.expiresAt ≤ time)) = decide (time < t.expiresAt)
  rw [← decide_not, decide_eq_decide]
  exact Nat.not_le

/-! ### Calls in turn -/

/-- What a queue is called for. -/
inductive Call where
  | push (message : Text) (severity : Severity) (time : Nat)
  | fire (generation time : Nat)

namespace Call

/-- The time at which the queue is called. -/
def time : Call → Nat
  | push _ _ time | fire _ time => time

/-- The toast that is raised by a call, in a queue where it stays that long. -/
def raised? (life : Nat) : Call → Option Toast
  | push message severity time => some ⟨message, severity, time + life⟩
  | fire _ _ => none

end Call

/-- The queue answers a call. -/
def answer (q : ToastQueue) : Call → ToastQueue × Option Schedule
  | .push message severity time => q.push message severity time
  | .fire generation time => q.onTimer generation time

/-- A queue, and the order that it gave last with the time of the call that it gave it for. -/
structure Watch where
  queue : ToastQueue
  last : Option (Schedule × Nat) := none

/-- The queue is called. -/
def Watch.call (w : Watch) (x : Call) : Watch where
  queue := (w.queue.answer x).1
  last := ((w.queue.answer x).2.map (·, x.time)).or w.last

/-- A queue with its limit keeps some of the toasts that were raised, in their order, and its
timer is armed for the earliest expiry by the order given last. -/
structure IsTimed (limit life : Nat) (raised : List Toast) (w : Watch) : Prop where
  room : w.queue.limit = limit
  stay : w.queue.life = life
  length_le : w.queue.toasts.length ≤ limit
  sublist : w.queue.toasts.Sublist raised
  deadline : w.queue.timer.deadline = w.queue.earliest?
  served : w.queue.timer.IsServedBy w.last

namespace IsTimed

variable {limit life : Nat} {raised : List Toast} {w : Watch}

/-- A new queue holds nothing and waits for nothing. -/
theorem ofLimit (limit life : Nat) :
    IsTimed (max limit 1) life [] ⟨ToastQueue.ofLimit limit life, none⟩ where
  room := rfl
  stay := rfl
  length_le := Nat.zero_le _
  sublist := .slnil
  deadline := rfl
  served _ h := absurd h (Option.some_ne_none _).symm

/-- The answer to a call points the timer at the earliest expiry among the toasts that are left. -/
theorem of_answer {x : Call} (hanswer : w.queue.answer x = q.rearm x.time)
    (hroom : q.limit = limit) (hstay : q.life = life) (hlength : q.toasts.length ≤ limit)
    (hsublist : q.toasts.Sublist raised) (hserved : q.timer.IsServedBy w.last) :
    IsTimed limit life raised (w.call x) := by
  have htoasts : (w.call x).queue.toasts = q.toasts := by
    show (w.queue.answer x).1.toasts = q.toasts
    rw [hanswer, toasts_rearm]
  -- arming anew changes the timer only, and the timer is set for what is left
  refine ⟨?_, ?_, htoasts ▸ hlength, htoasts ▸ hsublist, ?_, ?_⟩
  · show (w.queue.answer x).1.limit = limit
    rw [hanswer, limit_rearm, hroom]
  · show (w.queue.answer x).1.life = life
    rw [hanswer, life_rearm, hstay]
  · show (w.queue.answer x).1.timer.deadline = ((w.call x).queue.toasts.map _).min?
    rw [hanswer, deadline_rearm, htoasts]
    rfl
  · show (w.queue.answer x).1.timer.IsServedBy (((w.queue.answer x).2.map (·, x.time)).or w.last)
    rw [hanswer]
    exact isServedBy_rearm hserved x.time

/-- Every call keeps the queue in time. -/
theorem call (h : IsTimed limit life raised w) (x : Call) :
    IsTimed limit life (raised ++ (x.raised? life).toList) (w.call x) := by
  have hlength := h.length_le
  -- a toast comes, or a timer goes off, which may be an old one
  cases x with
  | push message severity time =>
    let toasts := w.queue.toasts ++ [⟨message, severity, time + w.queue.life⟩]
    have hanswer : w.queue.answer (.push message severity time)
        = { w.queue with toasts := toasts.drop (toasts.length - w.queue.limit) }.rearm time := rfl
    apply of_answer hanswer h.room h.stay
    · rw [List.length_drop, h.room]
      omega
    · show (toasts.drop _).Sublist (raised ++ [⟨message, severity, time + life⟩])
      rw [← h.stay]
      exact (List.drop_sublist _ _).trans (h.sublist.append (.refl _))
    · exact h.served
  | fire generation time =>
    show IsTimed limit life (raised ++ []) _
    rw [List.append_nil]
    by_cases harmed : w.queue.timer.armed? = some generation
    · have hanswer : w.queue.answer (.fire generation time) = _ := onTimer_of_eq harmed time
      apply of_answer hanswer h.room h.stay
      · exact Nat.le_trans (List.length_filter_le _ _) hlength
      · exact List.filter_sublist.trans h.sublist
      · -- the timer has gone off and is not armed any more
        exact fun deadline h => absurd h (Option.some_ne_none deadline).symm
    · have hanswer : w.queue.answer (.fire generation time) = (w.queue, none) :=
        onTimer_of_ne harmed time
      unfold Watch.call
      rw [hanswer]
      exact h

/-- The queue keeps its time after any calls. -/
theorem foldl_call (h : IsTimed limit life raised w) (calls : List Call) :
    IsTimed limit life (raised ++ calls.filterMap (Call.raised? life))
      (calls.foldl Watch.call w) := by
  induction calls generalizing raised w with
  | nil => simpa using h
  | cons x calls ih =>
    have hrest := ih (h.call x)
    rw [List.append_assoc] at hrest
    rw [List.foldl_cons, List.filterMap_cons]
    rcases hraised : x.raised? life with - | toast
    · rw [hraised] at hrest
      exact hrest
    · rw [hraised] at hrest
      exact hrest

end IsTimed

/-- What a queue with its limit shows of the toasts that were raised, what its timer waits for, and
what it does when it is called next. -/
structure IsPrompt (limit life : Nat) (raised : List Toast) (w : Watch) : Prop where
  length_le : w.queue.toasts.length ≤ limit
  /-- The toasts are kept in the order in which they were raised. -/
  sublist : w.queue.toasts.Sublist raised
  armed_iff : w.queue.timer.deadline.isSome = true ↔ w.queue.toasts ≠ []
  earliest : ∀ deadline, w.queue.timer.deadline = some deadline →
    (∃ t ∈ w.queue.toasts, t.expiresAt = deadline) ∧
      ∀ t ∈ w.queue.toasts, deadline ≤ t.expiresAt
  served : w.queue.timer.IsServedBy w.last
  /-- A new toast drives out the oldest, and no more of them than have to be. -/
  push : ∀ message severity time, ∃ evicted,
    evicted ++ (w.queue.push message severity time).1.toasts
        = w.queue.toasts ++ [⟨message, severity, time + life⟩]
      ∧ evicted.length = w.queue.toasts.length + 1 - limit
  stale : ∀ generation time, w.queue.timer.armed? ≠ some generation →
    w.queue.onTimer generation time = (w.queue, none)
  fired : ∀ generation time, w.queue.timer.armed? = some generation →
    (w.queue.onTimer generation time).1.toasts = w.queue.toasts.filter (time < ·.expiresAt)

/-- What a timed queue is, read as a promise to those who call it. -/
theorem IsTimed.isPrompt {limit life : Nat} {raised : List Toast} {w : Watch}
    (h : IsTimed limit life raised w) : IsPrompt limit life raised w where
  length_le := h.length_le
  sublist := h.sublist
  armed_iff := by
    rw [h.deadline, ← Option.ne_none_iff_isSome]
    exact not_congr earliest?_eq_none_iff
  earliest deadline hdeadline := earliest?_eq_some_iff.mp (h.deadline.symm.trans hdeadline)
  served := h.served
  push message severity time := by
    rw [← h.room, ← h.stay]
    exact exists_evicted_push w.queue message severity time
  stale _ time hne := onTimer_of_ne hne time
  fired _ time heq := toasts_onTimer_of_eq heq time

/-- **No toast outstays its time.**  Whatever an empty queue is called for, and with whatever times
and generations, it keeps the newest toasts in their order, and while there are any, the order that
it gave last comes back for the first of them to expire. -/
theorem isPrompt_foldl_call (limit life : Nat) (calls : List Call) :
    IsPrompt (max limit 1) life (calls.filterMap (Call.raised? life))
      (calls.foldl Watch.call ⟨ofLimit limit life, none⟩) :=
  ((IsTimed.ofLimit limit life).foldl_call calls).isPrompt

end ToastQueue

end AgentConsole
