import AgentConsole.Proofs.Console.Quit

/-!
# Sessions that have ended

Two events tell how a session fares: that its state has changed, and that its agent has
ended.  They come from different sides and overtake each other, so either may come for a
session that has ended already.

The end of an agent is then let pass.  A change of state is not: it is taken over
whatever the state was before, and so it brings a session back to life
(`Snapshot.Revives`).  `Snapshot.Fares` says once what the two events do to the list of
the sessions, and `keepsEnded` what this means for those that have ended: an event leaves all
of them as they are if and only if it revives none.  As long as none is revived, they stay
as they are and fewer and fewer sessions are live, which is what the question whether to
leave goes by.
-/

namespace AgentConsole

/-- The session of which the event tells how it fares. -/
def SessionEvent.subject? : SessionEvent → Option SessionId
  | .statusChanged session _ | .exited session _ => some session
  | .started _ | .output .. => none

namespace Snapshot

variable {s : Snapshot} {event : SessionEvent} {sessions : List Session}

/-- The event gives a session that has ended another state. -/
def Revives (s : Snapshot) (event : SessionEvent) : Prop :=
  ∃ id status x, event = .statusChanged id status ∧ s.session? id = some x ∧
    x.status.isTerminal ∧ status ≠ x.status

/-- What has ended in one list of sessions stands in the other as it is, at its place. -/
def EndedStay (before after : List Session) : Prop :=
  ∀ (i : Nat) (x : Session), before[i]? = some x → x.status.isTerminal → after[i]? = some x

/-- How many sessions of a list are live. -/
def live (sessions : List Session) : Nat := sessions.countP Session.isLive

/-- What an event that tells how a session fares makes of the sessions. -/
inductive Fares (s : Snapshot) : SessionEvent → List Session → Prop where
  /-- The session is not known, or it has ended and its end is told once more. -/
  | passed {event : SessionEvent} (h : ∀ id status, event = .statusChanged id status →
      s.session? id = none) : Fares s event s.sessions
  | changed {i : Nat} {x : Session} (status : Status) (hfirst : s.session? x.id = some x)
    (hi : s.sessions[i]? = some x) :
    Fares s (.statusChanged x.id status) (s.sessions.set i { x with status })
  | exited {i : Nat} {x : Session} (code : Option Int) (hlive : ¬ x.status.isTerminal)
    (hi : s.sessions[i]? = some x) :
    Fares s (.exited x.id code) (s.sessions.set i { x with status := Console.statusOfExit code })

/-! ### One session at a time -/

/-- The session of an identity stands at a place, and there it is changed. -/
theorem updateFirst_eq_set {id : SessionId} {x : Session}
    (h : sessions.find? (·.id = id) = some x) :
    ∃ i : Nat, sessions[i]? = some x ∧ ∀ f, updateFirst id f sessions = sessions.set i (f x) := by
  induction sessions with
  | nil => exact absurd h (Option.some_ne_none x).symm
  | cons y rest ih =>
    by_cases hy : y.id = id
    · rw [List.find?_cons_of_pos (by simpa using hy)] at h
      obtain rfl := Option.some.inj h
      exact ⟨0, rfl, fun f => if_pos hy⟩
    · rw [List.find?_cons_of_neg (by simpa using hy)] at h
      obtain ⟨i, hi, hset⟩ := ih h
      refine ⟨i + 1, hi, fun f => (if_neg hy).trans ?_⟩
      rw [hset f]
      rfl

/-- Sessions that are not there are not updated. -/
theorem updateFirst_of_unknown {id : SessionId} (h : sessions.find? (·.id = id) = none)
    (f : Session → Session) : updateFirst id f sessions = sessions := by
  induction sessions with
  | nil => rfl
  | cons y rest ih =>
    have hy : ¬ y.id = id := by simpa using List.find?_eq_none.mp h y List.mem_cons_self
    rw [List.find?_cons_of_neg (by simpa using hy)] at h
    exact (if_neg hy).trans (congrArg (y :: ·) (ih h))

theorem id_of_session? {id : SessionId} {x : Session} (h : s.session? id = some x) : x.id = id := by
  unfold session? at h
  simpa using List.find?_some h

/-! ### What has ended -/

/-- Another session at one place: what has ended stays, unless it stood there. -/
theorem endedStay_set_iff {i : Nat} {x y : Session} (hi : sessions[i]? = some x) :
    EndedStay sessions (sessions.set i y) ↔ (x.status.isTerminal → y = x) := by
  have hlt := (List.getElem?_eq_some_iff.mp hi).1
  constructor
  · intro h hended
    have hsame := h i x hi hended
    rw [List.getElem?_set_self hlt] at hsame
    exact Option.some.inj hsame
  · intro h j z hj hended
    by_cases hij : i = j
    · subst hij
      obtain rfl := Option.some.inj (hi.symm.trans hj)
      rw [List.getElem?_set_self hlt, h hended]
    · rw [List.getElem?_set_ne hij]
      exact hj

/-- Another session at one place: one more or one fewer is live, or as many as before. -/
theorem live_set {i : Nat} {x y : Session} (hi : sessions[i]? = some x) :
    live (sessions.set i y) + x.isLive.toNat = live sessions + y.isLive.toNat := by
  obtain ⟨hlt, hx⟩ := List.getElem?_eq_some_iff.mp hi
  have hpos : x.isLive = true → 0 < sessions.countP Session.isLive := fun hlive =>
    List.countP_pos_iff.mpr ⟨x, List.mem_of_getElem? hi, hlive⟩
  unfold live
  rw [List.countP_set hlt, hx]
  -- the counts are natural numbers, so the old session has to be known to count
  cases hold : x.isLive with
  | false =>
    cases hnew : y.isLive with
    | false => simp
    | true => simp
  | true =>
    have := hpos hold
    cases hnew : y.isLive with
    | false =>
      simp only [if_true, Bool.false_eq_true, if_false, Bool.toNat_true, Bool.toNat_false]
      omega
    | true =>
      simp only [if_true, Bool.toNat_true]
      omega

/-- Whatever it exits with, a session has ended. -/
theorem isTerminal_statusOfExit (code : Option Int) :
    (Console.statusOfExit code).isTerminal := by
  unfold Console.statusOfExit
  split
  · rfl
  · rfl
  · rfl

theorem not_isLive_iff {x : Session} : x.isLive = false ↔ x.status.isTerminal := by
  unfold Session.isLive
  simp

namespace Fares

/-- **What has ended stays as it is if and only if the event revives none of it.** -/
theorem endedStay_iff (h : s.Fares event sessions) :
    EndedStay s.sessions sessions ↔ ¬ s.Revives event := by
  -- nothing changes, a status is overwritten, or a live session exits
  cases h with
  | passed h =>
    refine iff_of_true (fun _ _ hi _ => hi) ?_
    rintro ⟨id, status, x, heq, hx, -⟩
    exact absurd ((h id status heq).symm.trans hx) (Option.some_ne_none x).symm
  | @changed i x status hfirst hi =>
    rw [endedStay_set_iff hi]
    constructor
    · rintro h ⟨id, other, y, heq, hy, hended, hother⟩
      obtain ⟨rfl, rfl⟩ := SessionEvent.statusChanged.inj heq
      obtain rfl := Option.some.inj (hfirst.symm.trans hy)
      exact hother (congrArg Session.status (h hended))
    · intro h hended
      have hsame : status = x.status := Decidable.of_not_not fun hne =>
        h ⟨x.id, status, x, rfl, hfirst, hended, hne⟩
      rw [hsame]
  | exited code hlive hi =>
    rw [endedStay_set_iff hi]
    refine iff_of_true (fun hended => absurd hended hlive) ?_
    rintro ⟨id, status, y, heq, -⟩
    exact SessionEvent.noConfusion heq

/-- More sessions are live than before if and only if one that had ended is live again. -/
theorem live_lt_iff (h : s.Fares event sessions) :
    live s.sessions < live sessions ↔
      s.Revives event ∧ ∃ id status, event = .statusChanged id status ∧ ¬ status.isTerminal := by
  -- only a status that is overwritten can bring a session to life
  cases h with
  | passed h =>
    refine iff_of_false (Nat.lt_irrefl _) ?_
    rintro ⟨⟨id, status, x, heq, hx, -⟩, -⟩
    exact absurd ((h id status heq).symm.trans hx) (Option.some_ne_none x).symm
  | @changed i x status hfirst hi =>
    have hcount := live_set (y := { x with status }) hi
    constructor
    · intro hlt
      have hx : x.isLive = false := by
        rcases hlive : x.isLive with - | -
        · rfl
        · rw [hlive] at hcount
          have := Bool.toNat_le ({ x with status } : Session).isLive
          simp only [Bool.toNat_true] at hcount
          omega
      have hy : ¬ status.isTerminal := by
        intro hended
        have hdead : ({ x with status } : Session).isLive = false := not_isLive_iff.mpr hended
        rw [hx, hdead] at hcount
        omega
      have hended := not_isLive_iff.mp hx
      refine ⟨⟨x.id, status, x, rfl, hfirst, hended, ?_⟩, x.id, status, rfl, hy⟩
      rintro rfl
      exact hy hended
    · rintro ⟨⟨id, other, y, heq, hy, hended, -⟩, id', other', heq', hlive⟩
      obtain ⟨rfl, rfl⟩ := SessionEvent.statusChanged.inj heq
      obtain ⟨-, rfl⟩ := SessionEvent.statusChanged.inj heq'
      obtain rfl := Option.some.inj (hfirst.symm.trans hy)
      have hnew : ({ x with status } : Session).isLive = true := by
        unfold Session.isLive
        simpa using hlive
      rw [not_isLive_iff.mpr hended, hnew] at hcount
      simp only [Bool.toNat_true, Bool.toNat_false] at hcount
      omega
  | @exited i x code hlive hi =>
    have hcount := live_set (y := { x with status := Console.statusOfExit code }) hi
    have hdead : ({ x with status := Console.statusOfExit code } : Session).isLive = false :=
      not_isLive_iff.mpr (isTerminal_statusOfExit code)
    rw [hdead] at hcount
    refine iff_of_false (by simp only [Bool.toNat_false] at hcount; omega) ?_
    rintro ⟨⟨id, status, y, heq, -⟩, -⟩
    exact SessionEvent.noConfusion heq

end Fares

end Snapshot

namespace Console

open Snapshot

variable {c d : Console} {event : SessionEvent} {id : SessionId}

/-! ### What the events do -/

/-- The end of an agent makes of the sessions what it should. -/
theorem fares_onExit (c : Console) (id : SessionId) (code : Option Int) (time : Nat) :
    c.snapshot.Fares (.exited id code) (c.onExit id code time).console.snapshot.sessions := by
  have hpassed : c.snapshot.Fares (.exited id code) c.snapshot.sessions := .passed nofun
  unfold onExit
  split
  · exact hpassed
  · rename_i x hx
    split
    · exact hpassed
    · rename_i hlive
      obtain ⟨i, hi, hset⟩ := updateFirst_eq_set hx
      obtain rfl := id_of_session? hx
      have hexited := Fares.exited (s := c.snapshot) code hlive hi
      rw [← hset fun x => { x with status := statusOfExit code }] at hexited
      -- the toast over a failure leaves the sessions alone
      dsimp only
      split
      · exact hexited
      · exact hexited

/-- What an event does to the sessions is one of the three. -/
theorem fares_handle (h : event.subject? = some id) (now : Moment) :
    c.snapshot.Fares event (c.handle (.session event) now).console.snapshot.sessions := by
  cases event with
  | started session => exact absurd h (Option.some_ne_none id).symm
  | output session worktree line => exact absurd h (Option.some_ne_none id).symm
  | exited session code => exact c.fares_onExit session code now.clock
  | statusChanged session status =>
    -- a status of a session that is not known changes nothing
    rcases hx : c.snapshot.session? session with - | x
    · have hsame := updateFirst_of_unknown hx fun x => { x with status }
      show c.snapshot.Fares _ (updateFirst session (fun x => { x with status }) _)
      rw [hsame]
      refine .passed fun other new heq => ?_
      obtain ⟨rfl, -⟩ := SessionEvent.statusChanged.inj heq
      exact hx
    · obtain ⟨i, hi, hset⟩ := updateFirst_eq_set hx
      obtain rfl := id_of_session? hx
      show c.snapshot.Fares _ (updateFirst x.id (fun x => { x with status }) _)
      rw [hset]
      exact .changed status hx hi

/-- No toast is raised for a session that has ended. -/
theorem toasts_handle_of_ended (h : event.subject? = some id) {x : Session}
    (hx : c.snapshot.session? id = some x) (hended : x.status.isTerminal) (now : Moment) :
    (c.handle (.session event) now).console.toasts = c.toasts := by
  cases event with
  | started session => exact absurd h (Option.some_ne_none id).symm
  | output session worktree line => exact absurd h (Option.some_ne_none id).symm
  | statusChanged session status => rfl
  | exited session code =>
    obtain rfl := Option.some.inj h
    show (c.onExit session code now.clock).console.toasts = c.toasts
    unfold onExit
    rw [hx]
    dsimp only
    rw [if_pos hended]
    rfl

/-- The event tells how a session fares, and it revives none that has ended. -/
def FaresOn (c : Console) (event : Event) : Prop :=
  ∃ told, event = .session told ∧ told.subject?.isSome ∧ ¬ c.snapshot.Revives told

/-- As long as no session is revived, what has ended stays as it is. -/
theorem Later.endedStay (h : Later FaresOn c d) :
    EndedStay c.snapshot.sessions d.snapshot.sessions ∧
      d.snapshot.activeCount ≤ c.snapshot.activeCount := by
  induction h with
  | refl => exact ⟨fun _ _ hi _ => hi, Nat.le_refl _⟩
  | @start d _ ih =>
    obtain ⟨refresh, remoteStarted, hfetched⟩ := d.fetches_fetchNow.console
    have hsnapshot : d.start.console.snapshot = d.snapshot := by
      show d.fetchNow.console.snapshot = d.snapshot
      rw [hfetched]
    rw [hsnapshot]
    exact ih
  | @applyTheme d _ name ih => exact ih
  | @handle d _ event now hp ih =>
    -- an event about a session, which does not revive it
    obtain ⟨told, rfl, hsome, hrevives⟩ := hp
    obtain ⟨id, hid⟩ := Option.isSome_iff_exists.mp hsome
    have hfares := d.fares_handle hid now
    refine ⟨fun i x hi hended => ?_, ?_⟩
    · exact hfares.endedStay_iff.mpr hrevives i x (ih.1 i x hi hended) hended
    · have hcount := mt hfares.live_lt_iff.mp fun h => hrevives h.1
      exact Nat.le_trans (Nat.le_of_not_lt hcount) ih.2

/-- How the sessions that have ended fare under the events that tell how sessions fare. -/
structure KeepsEnded (c : Console) : Prop where
  /-- They stay as they are if and only if the event revives none of them. -/
  ended_iff : ∀ event now, event.subject?.isSome →
    (EndedStay c.snapshot.sessions (c.handle (.session event) now).console.snapshot.sessions ↔
      ¬ c.snapshot.Revives event)
  /-- No toast is raised for one of them. -/
  toasts : ∀ event now id x, event.subject? = some id → c.snapshot.session? id = some x →
    x.status.isTerminal → (c.handle (.session event) now).console.toasts = c.toasts
  /-- More sessions are live than before if and only if one of them is live again. -/
  active_iff : ∀ event now, event.subject?.isSome →
    (c.snapshot.activeCount < (c.handle (.session event) now).console.snapshot.activeCount ↔
      c.snapshot.Revives event ∧ ∃ id status, event = .statusChanged id status ∧ ¬ status.isTerminal)
  /-- While none is revived, they stay as they are and no more sessions are live than before. -/
  later : ∀ d, Later FaresOn c d → EndedStay c.snapshot.sessions d.snapshot.sessions ∧
    d.snapshot.activeCount ≤ c.snapshot.activeCount

/-- **A session that has ended stays so, unless it is told to be in another state.** -/
theorem keepsEnded (c : Console) : c.KeepsEnded where
  ended_iff event now h := by
    obtain ⟨id, hid⟩ := Option.isSome_iff_exists.mp h
    exact (c.fares_handle hid now).endedStay_iff
  toasts event now id x h hx hended := toasts_handle_of_ended h hx hended now
  active_iff event now h := by
    obtain ⟨id, hid⟩ := Option.isSome_iff_exists.mp h
    exact (c.fares_handle hid now).live_lt_iff
  later _ hd := hd.endedStay

/-- The agent at work has ended, and no session is live.  A state that was told of late
brings it back, and `q` no longer leaves at once. -/
theorem late_state_revives :
    let ended := atWork.after [.session (.exited ⟨"s1"⟩ (some 0))]
    let late := ended.after [.session (.statusChanged ⟨"s1"⟩ .idle)]
    late.Reachable ∧ ended.snapshot.sessions.map (·.status) = [.done] ∧
      ended.snapshot.activeCount = 0 ∧ late.snapshot.sessions.map (·.status) = [.idle] ∧
      late.snapshot.activeCount = 1 ∧
      .quit ∈ (ended.handle (.key { code := .char 'q' }) ⟨0, 0⟩).requests ∧
      .quit ∉ (late.handle (.key { code := .char 'q' }) ⟨0, 0⟩).requests := by
  intro ended late
  have hleaves : .quit ∈ (ended.handle (.key { code := .char 'q' }) ⟨0, 0⟩).requests := by
    decide +kernel +revert
  have hasks : .quit ∉ (late.handle (.key { code := .char 'q' }) ⟨0, 0⟩).requests := by
    decide +kernel +revert
  exact ⟨(reachable_atWork.after _).after _, rfl, rfl, rfl, rfl, hleaves, hasks⟩

end Console

end AgentConsole
