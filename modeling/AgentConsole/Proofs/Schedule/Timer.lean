import AgentConsole.Schedule.Timer
import Mathlib.Data.List.Induction

/-!
# What a timer answers to

A timer goes off for one generation at most, the one that it is armed with (`Timer.armed?`), and
is not armed any more then.  Whoever comes with another generation finds nothing changed.

Which generation that is can be told without the timer, from what it has answered so far: the one
that was handed out when it was armed last, provided that whatever came in since was turned away
(`Awaits`).  A `Diary` is a timer with all its answers, and every call keeps the two in agreement
(`Diary.IsKept.call`), so that late and repeated generations may come at any time and in any order.

The main result is `isOneShot_foldl_call`.  Generations are never handed out twice, because arming
and disarming both begin a new one.  They number the calls of these two kinds, and so they fit into
any word that counts those.
-/

namespace AgentConsole.Timer

/-- The generation that the timer goes off for. -/
def armed? (t : Timer) : Option Nat := t.deadline.map fun _ => t.generation

/-- A timer that is armed has a deadline and a generation. -/
theorem armed?_eq_some {t : Timer} {generation : Nat} (h : t.armed? = some generation) :
    t.deadline.isSome = true ∧ t.generation = generation := by
  obtain ⟨deadline, hdeadline, hgeneration⟩ := Option.map_eq_some_iff.mp h
  rw [hdeadline]
  exact ⟨rfl, hgeneration⟩

theorem fire?_of_eq {t : Timer} {generation : Nat} (h : t.armed? = some generation) :
    t.fire? generation = some { t with deadline := none } := by
  obtain ⟨hdeadline, rfl⟩ := armed?_eq_some h
  exact if_pos ⟨hdeadline, rfl⟩

/-- No other is. -/
theorem fire?_of_ne {t : Timer} {generation : Nat} (h : t.armed? ≠ some generation) :
    t.fire? generation = none := by
  unfold fire?
  refine if_neg fun ⟨hdeadline, hgeneration⟩ => h ?_
  obtain ⟨time, htime⟩ := Option.isSome_iff_exists.mp hdeadline
  rw [armed?, htime, hgeneration]
  rfl

/-! ### Calls and answers -/

/-- What a timer is called for. -/
inductive Call where
  | arm (deadline : Nat)
  | disarm
  | fire (generation : Nat)

/-- What a call comes to. -/
inductive Answer where
  /-- The timer is armed; this is the generation to hand back. -/
  | armed (generation : Nat)
  | disarmed
  /-- The timer has gone off. -/
  | fired (generation : Nat)
  /-- The generation is turned away. -/
  | refused (generation : Nat)

namespace Answer

/-- The generation that is handed out. -/
def handedOut? : Answer → Option Nat
  | armed generation => some generation
  | disarmed | fired _ | refused _ => none

/-- Does a generation begin with the call? -/
def isBeginning : Answer → Bool
  | armed _ | disarmed => true
  | fired _ | refused _ => false

end Answer

/-- The timer answers a call. -/
def answer (t : Timer) : Call → Timer × Answer
  | .arm deadline => (t.arm deadline, .armed (t.arm deadline).generation)
  | .disarm => (t.disarm, .disarmed)
  | .fire generation =>
    match t.fire? generation with
    | some fired => (fired, .fired generation)
    | none => (t, .refused generation)

theorem answer_fire_of_eq {t : Timer} {generation : Nat} (h : t.armed? = some generation) :
    t.answer (.fire generation) = ({ t with deadline := none }, .fired generation) := by
  simp only [answer, fire?_of_eq h]

theorem answer_fire_of_ne {t : Timer} {generation : Nat} (h : t.armed? ≠ some generation) :
    t.answer (.fire generation) = (t, .refused generation) := by
  simp only [answer, fire?_of_ne h]

variable {answers : List Answer} {generation : Nat}

/-- After these answers a generation is awaited: it was handed out when the timer was armed last,
and since then there was neither a disarming nor a generation that was taken. -/
def Awaits (answers : List Answer) (generation : Nat) : Prop :=
  ∃ before after, answers = before ++ .armed generation :: after
    ∧ ∀ a ∈ after, ∃ other, a = .refused other

theorem not_awaits_nil : ¬ Awaits [] generation := by
  rintro ⟨before, after, hsplit, -⟩
  exact List.append_ne_nil_of_right_ne_nil before (List.cons_ne_nil _ after) hsplit.symm

/-- One more answer: a generation that is handed out is awaited from then on, and any other stays so
only while the answers turn generations away. -/
theorem awaits_concat {a : Answer} :
    Awaits (answers ++ [a]) generation
      ↔ a = .armed generation ∨ (∃ other, a = .refused other) ∧ Awaits answers generation := by
  constructor
  · rintro ⟨before, after, hsplit, hafter⟩
    -- the last answer is the one that handed it out, or one of those that came after
    rcases List.eq_nil_or_concat after with rfl | ⟨rest, last, rfl⟩
    · have hone : [a] = [.armed generation] := (List.append_inj' hsplit rfl).2
      exact .inl (List.cons.inj hone).1
    · have hlast : answers ++ [a] = (before ++ .armed generation :: rest) ++ [last] := by
        simpa using hsplit
      obtain ⟨rfl, hone⟩ := List.append_inj' hlast rfl
      obtain rfl := (List.cons.inj hone).1
      exact .inr ⟨hafter a (by simp), before, rest, rfl, fun b hb => hafter b (by simp [hb])⟩
  · rintro (rfl | ⟨hrefused, before, after, rfl, hafter⟩)
    · exact ⟨answers, [], rfl, nofun⟩
    · refine ⟨before, after ++ [a], by simp, fun b hb => ?_⟩
      rcases List.mem_append.mp hb with hb | hb
      · exact hafter b hb
      · obtain rfl := List.mem_singleton.mp hb
        exact hrefused

/-! ### Calls in turn -/

/-- A timer, and all that it has answered, in order. -/
structure Diary where
  timer : Timer := {}
  answers : List Answer := []

/-- The timer is called, and its answer put down. -/
def Diary.call (d : Diary) (c : Call) : Diary where
  timer := (d.timer.answer c).1
  answers := d.answers ++ [(d.timer.answer c).2]

/-- The timer is armed for the generation that its answers await, and the generations are counted
as they begin. -/
structure Diary.IsKept (d : Diary) : Prop where
  armed : ∀ generation, d.timer.armed? = some generation ↔ Awaits d.answers generation
  count : d.timer.generation = d.answers.countP Answer.isBeginning
  past : ∀ generation ∈ d.answers.filterMap Answer.handedOut?, generation ≤ d.timer.generation
  increasing : (d.answers.filterMap Answer.handedOut?).Pairwise (· < ·)

namespace Diary.IsKept

variable {d : Diary}

/-- A new timer awaits nothing. -/
theorem blank : IsKept {} where
  armed _ := iff_of_false nofun not_awaits_nil
  count := rfl
  past := nofun
  increasing := .nil

/-- An answer that hands out no generation, with what it does to the timer. -/
theorem concat (h : d.IsKept) {t : Timer} {a : Answer} (hnone : a.handedOut? = none)
    (harmed : ∀ generation, t.armed? = some generation ↔ Awaits (d.answers ++ [a]) generation)
    (hcount : t.generation = d.timer.generation + a.isBeginning.toNat) :
    IsKept ⟨t, d.answers ++ [a]⟩ where
  armed := harmed
  count := by
    rw [hcount, h.count, List.countP_append]
    cases hbegin : a.isBeginning <;> simp [hbegin]
  past generation hmem := by
    rw [List.filterMap_append] at hmem
    have hpast := h.past generation (by simpa [hnone] using hmem)
    exact Nat.le_trans hpast (hcount ▸ Nat.le_add_right _ _)
  increasing := by
    rw [List.filterMap_append]
    simpa [hnone] using h.increasing

/-- Every call keeps the diary. -/
theorem call (h : d.IsKept) (c : Call) : (d.call c).IsKept := by
  -- arming hands out a generation; disarming and firing hand out none
  cases c with
  | arm deadline =>
    refine ⟨fun generation => ?_, ?_, ?_, ?_⟩
    · show some (d.timer.generation + 1) = some generation
        ↔ Awaits (d.answers ++ [.armed (d.timer.generation + 1)]) generation
      rw [awaits_concat]
      simp
    · show d.timer.generation + 1 = List.countP _ (d.answers ++ [_])
      rw [h.count, List.countP_append]
      rfl
    · show ∀ generation ∈ List.filterMap _ (d.answers ++ [_]), generation ≤ d.timer.generation + 1
      rw [List.filterMap_append]
      intro generation hmem
      rcases List.mem_append.mp hmem with hmem | hmem
      · exact Nat.le_succ_of_le (h.past generation hmem)
      · exact Nat.le_of_eq (List.mem_singleton.mp hmem)
    · -- the new generation is above the one in force, and so above all that were handed out
      show (List.filterMap _ (d.answers ++ [_])).Pairwise (· < ·)
      rw [List.filterMap_append, List.pairwise_append]
      refine ⟨h.increasing, List.pairwise_singleton _ _, fun g hg k hk => ?_⟩
      obtain rfl : k = d.timer.generation + 1 := List.mem_singleton.mp hk
      exact Nat.lt_succ_of_le (h.past g hg)
  | disarm =>
    refine h.concat rfl (fun generation => ?_) rfl
    rw [awaits_concat]
    exact iff_of_false nofun (by simp [answer])
  | fire generation =>
    by_cases heq : d.timer.armed? = some generation
    · unfold Diary.call
      rw [answer_fire_of_eq heq]
      refine h.concat rfl (fun other => ?_) rfl
      rw [awaits_concat]
      exact iff_of_false nofun (by simp)
    · unfold Diary.call
      rw [answer_fire_of_ne heq]
      refine h.concat rfl (fun other => ?_) rfl
      rw [awaits_concat, h.armed other]
      simp

/-- The diary of a timer that is called for this and that is kept. -/
theorem foldl_call (h : d.IsKept) (calls : List Call) : (calls.foldl Diary.call d).IsKept := by
  induction calls generalizing d with
  | nil => exact h
  | cons c calls ih => exact ih (h.call c)

end Diary.IsKept

/-- What a timer does when a generation comes back, by what it has answered so far, and which
generations it has handed out. -/
structure IsOneShot (d : Diary) : Prop where
  /-- A generation is taken exactly if it is the one that is awaited. -/
  fires_iff : ∀ generation,
    (d.timer.answer (.fire generation)).2 = .fired generation ↔ Awaits d.answers generation
  /-- Any other is turned away, and the timer stays as it is. -/
  refuses : ∀ generation, ¬ Awaits d.answers generation →
    d.timer.answer (.fire generation) = (d.timer, .refused generation)
  increasing : (d.answers.filterMap Answer.handedOut?).Pairwise (· < ·)
  /-- No generation is above the number of times that the timer was armed or disarmed. -/
  le_count : ∀ generation, .armed generation ∈ d.answers →
    generation ≤ d.answers.countP Answer.isBeginning

/-- What a diary that is kept shows of the timer. -/
theorem Diary.IsKept.isOneShot {d : Diary} (h : d.IsKept) : IsOneShot d where
  fires_iff generation := by
    rw [← h.armed generation]
    by_cases heq : d.timer.armed? = some generation
    · rw [answer_fire_of_eq heq]
      exact iff_of_true rfl heq
    · rw [answer_fire_of_ne heq]
      exact iff_of_false nofun heq
  refuses generation hnot := answer_fire_of_ne fun heq => hnot ((h.armed generation).mp heq)
  increasing := h.increasing
  le_count generation hmem := by
    rw [← h.count]
    exact h.past generation (List.mem_filterMap.mpr ⟨_, hmem, rfl⟩)

/-- **A timer is one-shot.**  Whatever a new timer is called for, a generation that comes back is
taken exactly if it was handed out last and nothing has cancelled or used it since.  Otherwise
nothing changes. -/
theorem isOneShot_foldl_call (calls : List Call) : IsOneShot (calls.foldl Diary.call {}) :=
  (Diary.IsKept.blank.foldl_call calls).isOneShot

end AgentConsole.Timer
