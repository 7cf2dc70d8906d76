import AgentConsole.Session.Basic
import Mathlib.Data.List.Induction

/-!
# The session that stands for a worktree

A snapshot lists its sessions in no order that means anything, so the newest one is looked for by
the moment at which it started.  Of those that started together the last one listed counts: a list
is read from the front, and a session that is not older than the best one so far takes its place
(`newest?_concat`).

What comes out is best said by a split of the list (`IsNewest`): whatever stands before the newest
session started no later than it, and whatever stands behind it started earlier.  The split is one
of the whole snapshot, in which the sessions of other worktrees are passed over, and so are ended
ones while a live one is looked for.

`Snapshot.sessionFor` prefers the live sessions of the worktree to the others.  It finds one if the
worktree has any (`Snapshot.isSome_sessionFor_iff`), and what it finds stands for the worktree
(`Snapshot.standsFor_of_sessionFor`).
-/

namespace AgentConsole

namespace Session

variable {p : Session → Bool} {sessions : List Session} {s t : Session}

/-- One more session takes the place of the newest one so far, unless it is older. -/
theorem newest?_concat (sessions : List Session) (t : Session) :
    newest? (sessions ++ [t]) =
      match newest? sessions with
      | none => some t
      | some s => if s.startedAt ≤ t.startedAt then some t else some s := by
  unfold newest?
  rw [List.foldl_append]
  rfl

/-- There is a newest session if there is any. -/
theorem newest?_eq_none_iff : newest? sessions = none ↔ sessions = [] := by
  induction sessions using List.reverseRecOn with
  | nil => exact iff_of_true rfl rfl
  | append_singleton rest t =>
    refine iff_of_false (fun hnone => ?_) (List.concat_ne_nil t rest)
    rw [newest?_concat] at hnone
    split at hnone
    · exact Option.some_ne_none t hnone
    · split at hnone <;> exact Option.some_ne_none _ hnone

/-- The newest of the sessions that satisfy `p`: none of them started later, and none that
started at the same time is listed behind it. -/
structure IsNewest (p : Session → Bool) (sessions : List Session) (s : Session) : Prop where
  holds : p s
  split : ∃ before after, sessions = before ++ s :: after ∧
    (∀ t ∈ before, p t → t.startedAt ≤ s.startedAt) ∧ ∀ t ∈ after, p t → t.startedAt < s.startedAt

namespace IsNewest

theorem mem (h : IsNewest p sessions s) : s ∈ sessions := by
  obtain ⟨before, after, rfl, -, -⟩ := h.split
  exact List.mem_append_right before List.mem_cons_self

/-- None of them started later. -/
theorem startedAt_le (h : IsNewest p sessions s) (ht : t ∈ sessions) (hp : p t) :
    t.startedAt ≤ s.startedAt := by
  obtain ⟨before, after, rfl, hbefore, hafter⟩ := h.split
  rcases List.mem_append.mp ht with ht | ht
  · exact hbefore t ht hp
  · rcases List.mem_cons.mp ht with rfl | ht
    · exact Int.le_refl _
    · exact Int.le_of_lt (hafter t ht hp)

/-- A session that is passed over or older changes nothing. -/
theorem concat (h : IsNewest p sessions s) (ht : p t → t.startedAt < s.startedAt) :
    IsNewest p (sessions ++ [t]) s := by
  obtain ⟨before, after, rfl, hbefore, hafter⟩ := h.split
  refine ⟨h.holds, before, after ++ [t], by simp, hbefore, fun u hu => ?_⟩
  rcases List.mem_append.mp hu with hu | hu
  · exact hafter u hu
  · obtain rfl := List.mem_singleton.mp hu
    exact ht

/-- Behind sessions of which none started later, a session is the newest. -/
theorem last (hp : p t) (ht : ∀ u ∈ sessions, p u → u.startedAt ≤ t.startedAt) :
    IsNewest p (sessions ++ [t]) t := ⟨hp, sessions, [], rfl, ht, nofun⟩

end IsNewest

/-- What is found among the sessions that satisfy `p` is the newest of them. -/
theorem isNewest_of_newest? (h : newest? (sessions.filter p) = some s) : IsNewest p sessions s := by
  -- ties go to the later one in the list, so the induction takes the last session off
  induction sessions using List.reverseRecOn generalizing s with
  | nil => exact absurd h nofun
  | append_singleton rest t ih =>
    by_cases hp : p t
    · have hfilter : (rest ++ [t]).filter p = rest.filter p ++ [t] := by simp [hp]
      rw [hfilter, newest?_concat] at h
      rcases hbest : newest? (rest.filter p) with - | b
      · -- the first one that satisfies `p`
        rw [hbest] at h
        obtain rfl := Option.some.inj h
        have hnone := List.filter_eq_nil_iff.mp (newest?_eq_none_iff.mp hbest)
        exact .last hp fun u hu hu' => absurd hu' (hnone u hu)
      · have hnewest := ih hbest
        rw [hbest] at h
        dsimp only at h
        split at h
        · rename_i hle
          obtain rfl := Option.some.inj h
          exact .last hp fun u hu hu' => Int.le_trans (hnewest.startedAt_le hu hu') hle
        · rename_i hlt
          obtain rfl := Option.some.inj h
          exact hnewest.concat fun _ => Int.not_le.mp hlt
    · have hfilter : (rest ++ [t]).filter p = rest.filter p := by simp [hp]
      rw [hfilter] at h
      exact (ih h).concat fun hp' => absurd hp' hp

end Session

namespace Snapshot

open Session

variable {s : Snapshot} {id : WorktreeId} {x : Session}

/-- Does the session belong to the worktree? -/
def isOf (id : WorktreeId) (x : Session) : Bool := x.worktree = id

/-- Does the session belong to the worktree, and can it still change? -/
def isLiveOf (id : WorktreeId) (x : Session) : Bool := x.isLive && isOf id x

/-- The session is the one to show for the worktree: its newest live one, and if it has no live
one, its newest. -/
structure StandsFor (s : Snapshot) (id : WorktreeId) (x : Session) : Prop where
  worktree : x.worktree = id
  live : (∃ y ∈ s.sessions, isLiveOf id y) → IsNewest (isLiveOf id) s.sessions x
  ended : (¬ ∃ y ∈ s.sessions, isLiveOf id y) → IsNewest (isOf id) s.sessions x

theorem filter_sessionsOf : (s.sessionsOf id).filter isLive = s.sessions.filter (isLiveOf id) :=
  List.filter_filter

/-- There is one exactly if the worktree has a session. -/
theorem isSome_sessionFor_iff :
    (s.sessionFor id).isSome ↔ ∃ x ∈ s.sessions, x.worktree = id := by
  have hnone : s.sessionFor id = none ↔ s.sessionsOf id = [] := by
    unfold sessionFor
    rw [Option.or_eq_none_iff, newest?_eq_none_iff, newest?_eq_none_iff]
    refine and_iff_right_of_imp fun hnil => ?_
    rw [hnil]
    rfl
  rw [Option.isSome_iff_ne_none, ne_eq, hnone, sessionsOf, List.filter_eq_nil_iff]
  simp

/-- What is found stands for the worktree. -/
theorem standsFor_of_sessionFor (h : s.sessionFor id = some x) : s.StandsFor id x := by
  rcases Option.or_eq_some_iff.mp h with h | ⟨hnone, h⟩
  · rw [filter_sessionsOf] at h
    have hnewest := isNewest_of_newest? h
    obtain ⟨-, hworktree⟩ := Bool.and_eq_true_iff.mp hnewest.holds
    exact ⟨of_decide_eq_true hworktree, fun _ => hnewest,
      fun hno => absurd ⟨x, hnewest.mem, hnewest.holds⟩ hno⟩
  · -- no session of the worktree is live
    have hnewest : IsNewest (isOf id) s.sessions x := isNewest_of_newest? h
    rw [filter_sessionsOf, newest?_eq_none_iff] at hnone
    have hended := List.filter_eq_nil_iff.mp hnone
    exact ⟨of_decide_eq_true hnewest.holds, fun ⟨y, hy, hlive⟩ => absurd hlive (hended y hy),
      fun _ => hnewest⟩

/-- If the worktree has a live session, then what stands for it is live. -/
theorem StandsFor.isLive_iff (h : s.StandsFor id x) :
    x.isLive ↔ ∃ y ∈ s.sessions, y.worktree = id ∧ y.isLive := by
  have hiff : (∃ y ∈ s.sessions, isLiveOf id y) ↔ ∃ y ∈ s.sessions, y.worktree = id ∧ y.isLive := by
    simp [isLiveOf, isOf, and_comm]
  rw [← hiff]
  constructor
  · intro hlive
    by_contra hno
    have hnewest := h.ended hno
    exact hno ⟨x, hnewest.mem, Bool.and_eq_true_iff.mpr ⟨hlive, hnewest.holds⟩⟩
  · intro hsome
    exact (Bool.and_eq_true_iff.mp (h.live hsome).holds).1

end Snapshot

end AgentConsole
