import AgentConsole.Proofs.Console.Events

/-!
# When the console asks for a session event

Session events come one at a time, each on a request of its own.  The console makes such a request
as it starts and whenever a session event has come, and at no other time: no key, no timer and
nothing that was fetched lets another one come (`withholds_handle`), nor does the news that there
will be none.  A reaction therefore asks for as many session events as it was given
(`count_handle`).
-/

namespace AgentConsole

/-- The session event that an event brings. -/
def Event.session? : Event → Option SessionEvent
  | .session event => some event
  | _ => none

/-- The turn lets no session event come. -/
def Turn.Withholds (t : Turn) : Prop := .nextSessionEvent ∉ t.requests

namespace Turn.Withholds

variable {c : Console} {t : Turn} {r : Request} {level : Level} {message : Text}
  {notes : List Note} {next : Console → Turn}

theorem quiet : c.quiet.Withholds := List.not_mem_nil

theorem note (h : t.Withholds) : (t.note level message).Withholds := h

theorem noted (h : t.Withholds) : Turn.Withholds { t with notes } := h

theorem ask (h : t.Withholds) (hr : r ≠ .nextSessionEvent) : (t.ask r).Withholds := by
  intro hmem
  rcases List.mem_append.mp hmem with hmem | hmem
  · exact h hmem
  · exact hr (List.mem_singleton.mp hmem).symm

theorem andThen (h : t.Withholds) (hnext : (next t.console).Withholds) :
    (t.andThen next).Withholds := by
  intro hmem
  rcases List.mem_append.mp hmem with hmem | hmem
  · exact h hmem
  · exact hnext hmem

/-- A turn that fetches nothing lets no session event come. -/
theorem of_aside (h : t.Aside c) : t.Withholds := fun hmem =>
  absurd (h.requests _ hmem) Bool.false_ne_true

end Turn.Withholds

namespace Console

open Turn

theorem withholds_toast (c : Console) (message : Text) (severity : Severity) (time : Nat) :
    (c.toast message severity time).Withholds := .of_aside (aside_toast (.refl c) _ _ _)

theorem withholds_completed (c : Console) (purpose : Purpose) (time : Nat) :
    (c.completed purpose time).Withholds := by
  intro hmem
  obtain ⟨order, -, horder⟩ := List.mem_map.mp hmem
  exact absurd horder Request.noConfusion

theorem withholds_fetchNow (c : Console) : c.fetchNow.Withholds := by
  unfold fetchNow
  split
  · exact .ask .quiet Request.noConfusion
  · exact .quiet

theorem withholds_view (c : Console) (id : WorktreeId) : (c.view id).Withholds := by
  unfold view
  split
  · exact .quiet
  · dsimp only
    split
    · exact .noted .quiet
    · exact .noted (.ask .quiet Request.noConfusion)

theorem withholds_onTimer (c : Console) (purpose : Purpose) (generation time : Nat) :
    (c.onTimer purpose generation time).Withholds := by
  cases purpose with
  | toasts =>
    intro hmem
    obtain ⟨order, -, horder⟩ := List.mem_map.mp hmem
    exact absurd horder Request.noConfusion
  | localStatus | remoteStatus =>
    unfold onTimer
    dsimp only
    split
    · exact .ask .quiet Request.noConfusion
    · exact .quiet

theorem withholds_startRemote (c : Console) : c.startRemote.Withholds := by
  unfold startRemote
  split
  · exact .quiet
  · dsimp only
    split
    · exact .ask .quiet Request.noConfusion
    · exact .quiet

theorem withholds_ensureViewed (c : Console) : c.ensureViewed.Withholds :=
  ensureViewed_induction (P := fun _ t => t.Withholds) .of_aside withholds_view .andThen c

theorem withholds_onKey (c : Console) (key : Key) (now : Moment) : (c.onKey key now).Withholds :=
  onKey_induction (P := fun _ t => t.Withholds) .of_aside withholds_view
    (fun _ _ => List.not_mem_nil) .andThen c key now

/-- Handling an event does not, either; that is done around it. -/
theorem withholds_onSession (c : Console) (event : SessionEvent) (time : Nat) :
    (c.onSession event time).Withholds := by
  rcases onSession_cases c event time with ⟨snapshot, haside⟩ | ⟨session, worktree, line, rfl⟩
  · exact .of_aside haside
  · exact .quiet

/-- Nothing but a session event lets the next one come. -/
theorem withholds_handle (c : Console) {event : Event} (h : event.session? = none) (now : Moment) :
    (c.handle event now).Withholds := by
  cases event with
  | session event => exact absurd h (Option.some_ne_none event)
  | key key => exact c.withholds_onKey key now
  | timer purpose generation => exact c.withholds_onTimer purpose generation now.clock
  | snapshot snapshot =>
    have hcompleted := withholds_completed { c with snapshot } .localStatus now.clock
    -- the three parts of the handler, one after another
    have hviewed : (Turn.andThen _ fun d => d.forgetGone.ensureViewed).Withholds :=
      hcompleted.andThen (withholds_ensureViewed _)
    exact hviewed.andThen (withholds_startRemote _)
  | snapshotFailed error => exact Withholds.quiet.note.andThen (withholds_completed _ _ _)
  | remoteStatus statuses => exact Withholds.quiet.note.andThen (withholds_completed _ _ _)
  | commandDone command => exact (c.withholds_toast _ _ _).andThen (withholds_fetchNow _)
  | paste | sessionsClosed | commandFailed | copied | copyFailed =>
    exact .of_aside (aside_handle c rfl now)
  | resize width height => exact .quiet
  | history worktree lines => exact .quiet
  | historyFailed worktree error => exact .note .quiet

/-- The console asks for as many session events as it was given. -/
theorem count_handle (c : Console) (event : Event) (now : Moment) :
    (c.handle event now).requests.count .nextSessionEvent = event.session?.toList.length := by
  rcases h : event.session? with - | e
  · exact List.count_eq_zero.mpr (c.withholds_handle h now)
  · obtain rfl : event = .session e := by
      cases event <;> simp_all [Event.session?]
    show ((c.onSession e now.clock).requests ++ [_]).count _ = _
    rw [List.count_append, List.count_eq_zero.mpr (c.withholds_onSession e now.clock)]
    rfl

/-- It asks for one before the first event. -/
theorem count_start (c : Console) : c.start.requests.count .nextSessionEvent = 1 := by
  show (c.fetchNow.requests ++ [_]).count _ = _
  rw [List.count_append, List.count_eq_zero.mpr c.withholds_fetchNow]
  rfl

end Console

end AgentConsole
