import AgentConsole.Schedule.Refresh

/-!
# A cadence in step with what is under way outside

A cadence asks for fetches and for schedules, and both come back at some time or
never.  It is in step (`Cadence.InStep`) with the fetches that are outstanding and
the generations that are still to be handed back when one fetch is outstanding
exactly while it believes so, and otherwise one order of the generation in force.
Every operation keeps it in step.
-/

namespace AgentConsole

namespace Cadence

/-- The cadence agrees with what is under way: `fetches` of its requests have not
been answered, and `orders` are the generations still to be handed back.  Before
it has started there is nothing under way. -/
structure InStep (c : Cadence) (started : Bool) (fetches : Nat) (orders : List Nat) : Prop where
  fetches : fetches = c.inFlight.toNat
  armed : c.timer.deadline.isSome = (started && !c.inFlight)
  /-- Exactly one order of the generation in force while the timer is armed, else none. -/
  current : orders.count c.timer.generation = (started && !c.inFlight).toNat
  /-- Every order that is still out was given in this generation or an earlier one. -/
  past : ∀ g ∈ orders, g ≤ c.timer.generation
  idle : started = false → c.inFlight = false

namespace InStep

variable {c d : Cadence} {started : Bool} {fetches : Nat} {orders : List Nat}

/-- The order of what is scheduled does not matter. -/
theorem perm (h : c.InStep started fetches orders) {others : List Nat} (ho : orders.Perm others) :
    c.InStep started fetches others where
  fetches := h.fetches
  armed := h.armed
  current := (ho.count_eq _).symm.trans h.current
  past := fun g hg => h.past g (ho.mem_iff.mpr hg)
  idle := h.idle

theorem initial (every : Nat) : ({ every } : Cadence).InStep false 0 [] :=
  ⟨rfl, rfl, rfl, by simp, fun _ => rfl⟩

theorem fetches_le (h : c.InStep started fetches orders) : fetches ≤ 1 := by
  rw [h.fetches]
  cases c.inFlight <;> decide

theorem count_le (h : c.InStep started fetches orders) : orders.count c.timer.generation ≤ 1 := by
  rw [h.current]
  cases started && !c.inFlight <;> decide

/-- The cadence knows of the fetch that is outstanding. -/
theorem inFlight_iff (h : c.InStep started fetches orders) : c.inFlight = true ↔ fetches = 1 := by
  rw [h.fetches]
  cases c.inFlight <;> decide

/-- A cadence that has started either fetches or waits for an order that is still out. -/
theorem alive (h : c.InStep true fetches orders) :
    c.inFlight = true ↔ ¬(c.timer.deadline.isSome = true ∧ c.timer.generation ∈ orders) := by
  have hcurrent := h.current
  rw [h.armed]
  cases hflight : c.inFlight with
  | true => simp
  | false =>
    have hmem : c.timer.generation ∈ orders := by
      refine List.count_pos_iff.mp ?_
      simp [hcurrent, hflight]
    simp [hmem]

/-- No order that is still out belongs to the generation that is begun next. -/
theorem count_next (h : c.InStep started fetches orders) :
    orders.count (c.timer.generation + 1) = 0 := by
  refine List.count_eq_zero.mpr fun hmem => ?_
  have := h.past _ hmem
  omega

/-- A generation is handed back. -/
theorem onTimer {g : Nat} (h : c.InStep started fetches (g :: orders)) :
    (c.onTimer g).1.InStep started (fetches + (c.onTimer g).2.toNat) orders := by
  have hpast : ∀ k ∈ orders, k ≤ c.timer.generation := fun k hk =>
    h.past k (List.mem_cons_of_mem _ hk)
  have hcurrent := h.current
  rw [List.count_cons] at hcurrent
  -- the timer waits for this generation, or the order is stale
  by_cases hfire : c.timer.deadline.isSome ∧ g = c.timer.generation
  · obtain ⟨harmed, hg⟩ := hfire
    have hready : started = true ∧ c.inFlight = false := by
      have := h.armed
      simp_all
    obtain ⟨hstarted, hflight⟩ := hready
    have hfired : c.onTimer g
        = ({ c with timer := { c.timer with deadline := none }, inFlight := true }, true) := by
      simp [Cadence.onTimer, Timer.fire?, harmed, hg, hflight]
    rw [hfired]
    have hfetches := h.fetches
    refine ⟨?_, ?_, ?_, hpast, ?_⟩
    · simp [hfetches, hflight]
    · simp
    · simp_all
    · simp [hstarted]
  · -- a stale generation: the order is used up and nothing else happens
    have hstale : c.onTimer g = (c, false) := by
      simp [Cadence.onTimer, Timer.fire?, hfire]
    rw [hstale]
    refine ⟨by simpa using h.fetches, h.armed, ?_, hpast, h.idle⟩
    have harmed := h.armed
    by_cases hg : g = c.timer.generation
    · have hnone : c.timer.deadline.isSome = false := by simpa [hg] using hfire
      rw [hnone] at harmed
      rw [← harmed] at hcurrent ⊢
      simp [hg] at hcurrent
    · simpa [hg] using hcurrent

/-- A fetch without waiting starts the cadence. -/
theorem now (h : c.InStep started fetches orders) (hd : c.now? = some d) :
    d.InStep true (fetches + 1) orders := by
  unfold now? at hd
  split at hd
  · exact absurd hd (by simp)
  · rename_i hflight
    obtain rfl := Option.some.inj hd
    have hfetches := h.fetches
    have hnext := h.count_next
    refine ⟨?_, rfl, ?_, ?_, by simp⟩
    · simp [hfetches, hflight]
    · simpa [Timer.disarm] using hnext
    · intro g hg
      have := h.past g hg
      simp only [Timer.disarm]
      omega

/-- While a fetch is under way there is no other one, and the cadence has started. -/
theorem of_now?_eq_none (h : c.InStep started fetches orders) (hd : c.now? = none) :
    started = true := by
  unfold now? at hd
  split at hd
  · rename_i hflight
    have hidle := h.idle
    cases started
    · simp [hflight] at hidle
    · rfl
  · exact absurd hd (by simp)

/-- The answer to a fetch arms the timer, which gives one new order. -/
theorem complete (h : c.InStep started (fetches + 1) orders) (time : Nat) :
    ∃ d, c.complete? time = some d ∧ d.InStep started fetches (orders ++ [d.timer.generation]) := by
  have hflight : c.inFlight = true ∧ fetches = 0 := by
    have := h.fetches
    cases hf : c.inFlight <;> simp [hf] at this ⊢
    exact this
  obtain ⟨hflight, rfl⟩ := hflight
  have hstarted : started = true := by
    have hidle := h.idle
    cases started
    · simp [hflight] at hidle
    · rfl
  have hnext := h.count_next
  -- the answer arms the timer for a generation that no order has
  refine ⟨{ c with timer := c.timer.arm (time + c.every), inFlight := false },
    by simp [complete?, hflight], rfl, ?_, ?_, ?_, fun _ => rfl⟩
  · simp [Timer.arm, hstarted]
  · simp [Timer.arm, hstarted, hnext]
  · intro g hg
    rcases List.mem_append.mp hg with hg | hg
    · have := h.past g hg
      simp only [Timer.arm]
      omega
    · exact Nat.le_of_eq (List.mem_singleton.mp hg)

end InStep

end Cadence

end AgentConsole
