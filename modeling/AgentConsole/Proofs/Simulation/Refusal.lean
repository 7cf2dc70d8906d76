import AgentConsole.Host.Backend
import AgentConsole.Proofs.Simulation.Workspace

/-!
# Refused commands

Whether a command is refused can be told from the workspace beforehand, and for what reason
(`Workspace.Refuses`).  The backend reports the reason in words, and the whole simulation stays as
it was (`Backend.perform?_of_refuses`, `Backend.refuses_of_perform?`).
-/

namespace AgentConsole

namespace Simulation

namespace Workspace

variable {w : Workspace} {id : SessionId} {a : Session} {worktree : WorktreeId} {prompt : Text}
  {refusal : Refusal}

/-- The reasons to refuse a command. -/
inductive Refuses (w : Workspace) : Request → Refusal → Prop where
  | unknownWorktree {worktree : WorktreeId} {prompt : Text}
    (h : ∀ t ∈ w.worktrees, t.id ≠ worktree) :
    Refuses w (.startSession worktree prompt) (.unknownWorktree worktree)
  | stopUnknown {id : SessionId} (h : w.session? id = none) :
    Refuses w (.stopSession id) (.unknownSession id)
  | stopFinished {id : SessionId} {a : Session} (ha : w.session? id = some a)
    (hended : a.status.isTerminal = true) : Refuses w (.stopSession id) (.finished id)
  | followUpUnknown {id : SessionId} {prompt : Text} (h : w.session? id = none) :
    Refuses w (.followUp id prompt) (.unknownSession id)
  | followUpFinished {id : SessionId} {prompt : Text} {a : Session} (ha : w.session? id = some a)
    (hended : a.status.isTerminal = true) : Refuses w (.followUp id prompt) (.finished id)
  /-- The agent is at work, or about to be. -/
  | followUpBusy {id : SessionId} {prompt : Text} {a : Session} (ha : w.session? id = some a)
    (hbusy : a.status = .running ∨ a.status = .pending) : Refuses w (.followUp id prompt) .busy

/-- A start is refused if and only if the worktree is unknown. -/
theorem start_eq_error_iff (time : Int) :
    w.start worktree prompt time = .error refusal ↔
      w.Refuses (.startSession worktree prompt) refusal := by
  have hany : w.worktrees.any (·.id = worktree) = false ↔ ∀ t ∈ w.worktrees, t.id ≠ worktree := by
    simp
  unfold start
  constructor
  · intro h
    split at h
    · exact absurd h (by simp)
    · rename_i hunknown
      obtain rfl := Except.error.inj h
      exact .unknownWorktree (hany.mp (by simpa using hunknown))
  · rintro ⟨h⟩
    rw [hany.mpr h]
    rfl

/-- A stop is refused if and only if the session is unknown or has ended. -/
theorem stop_eq_error_iff : w.stop id = .error refusal ↔ w.Refuses (.stopSession id) refusal := by
  unfold stop
  -- the two ways to refuse are the two places where the program returns an error
  constructor
  · intro h
    split at h
    · rename_i hunknown
      obtain rfl := Except.error.inj h
      exact .stopUnknown hunknown
    · rename_i a ha
      split at h
      · exact absurd h (by simp)
      · rename_i hended
        obtain rfl := Except.error.inj h
        exact .stopFinished ha (by simpa [Session.isLive] using hended)
  · intro h
    cases h with
    | stopUnknown h => rw [h]
    | stopFinished ha hended => simp [ha, Session.isLive, hended]

/-- A follow-up is refused if and only if the session is unknown, has ended, or is at work. -/
theorem followUp_eq_error_iff :
    w.followUp id prompt = .error refusal ↔ w.Refuses (.followUp id prompt) refusal := by
  unfold followUp
  -- each status leads to one answer, and an idle session is the one that is not refused
  constructor
  · intro h
    split at h
    · rename_i hunknown
      obtain rfl := Except.error.inj h
      exact .followUpUnknown hunknown
    · rename_i a ha
      cases hstatus : a.status
      all_goals rw [hstatus] at h
      case idle => exact absurd h (by simp)
      case running =>
        obtain rfl := Except.error.inj h
        exact .followUpBusy ha (.inl hstatus)
      case pending =>
        obtain rfl := Except.error.inj h
        exact .followUpBusy ha (.inr hstatus)
      all_goals
        obtain rfl := Except.error.inj h
        exact .followUpFinished ha (by rw [hstatus]; rfl)
  · intro h
    cases h with
    | followUpUnknown h => rw [h]
    | @followUpFinished _ _ a ha hended =>
      rw [ha]
      cases hstatus : a.status <;> simp_all [Status.isTerminal]
    | followUpBusy ha hbusy =>
      rw [ha]
      rcases hbusy with hstatus | hstatus <;> simp only [hstatus]

end Workspace

variable {s : AgentConsole.Simulation} {request : Request} {command : Command} {refusal : Refusal}

/-- The command that a request is about, and what comes of it. -/
def command? (s : AgentConsole.Simulation) :
    Request → Option (Command × Except Refusal AgentConsole.Simulation)
  | .startSession worktree prompt => some (.start worktree, (s.start worktree prompt).map (·.1))
  | .stopSession id => some (.stop id, s.stop id)
  | .followUp id prompt => some (.followUp id, s.followUp id prompt)
  | _ => none

theorem map_eq_error_iff {α β : Type} {f : α → β} {result : Except Refusal α} :
    result.map f = .error refusal ↔ result = .error refusal := by
  cases result with
  | error =>
    exact ⟨fun h => congrArg _ (Except.error.inj h), fun h => congrArg _ (Except.error.inj h)⟩
  | ok => exact iff_of_false (by simp [Except.map]) (by simp)

theorem command?_eq_error_iff :
    (∃ command, s.command? request = some (command, .error refusal)) ↔
      s.workspace.Refuses request refusal := by
  -- each command refuses as the operation behind it does; nothing else is a command
  cases request with
  | startSession worktree prompt =>
    refine Iff.trans ?_ (Workspace.start_eq_error_iff s.calendar)
    simp only [command?, Option.some.injEq, Prod.mk.injEq, exists_and_right, exists_eq', true_and]
    exact map_eq_error_iff.trans map_eq_error_iff
  | stopSession id =>
    refine Iff.trans ?_ Workspace.stop_eq_error_iff
    simp only [command?, Option.some.injEq, Prod.mk.injEq, exists_and_right, exists_eq', true_and]
    exact map_eq_error_iff
  | followUp id prompt =>
    refine Iff.trans ?_ Workspace.followUp_eq_error_iff
    simp only [command?, Option.some.injEq, Prod.mk.injEq, exists_and_right, exists_eq', true_and]
    exact map_eq_error_iff
  | _ => exact iff_of_false (fun ⟨_, h⟩ => absurd h (by simp [command?])) nofun

end Simulation

namespace Backend

open Simulation (Refusal)

variable {s : Simulation} {request : Request} {refusal : Refusal} {o : Outcome} {command : Command}

/-- The backend performs a command by settling what comes of it. -/
theorem perform?_of_command? {result : Except Refusal Simulation}
    (h : s.command? request = some (command, result)) :
    (simulated s).perform? request = some (settle s command result) := by
  cases request with
  | startSession | stopSession | followUp =>
    obtain ⟨rfl, rfl⟩ := Prod.mk.inj (Option.some.inj h)
    rfl
  | _ => exact absurd h (by simp [Simulation.command?])

/-- What is not a command leaves the simulation alone. -/
theorem perform?_of_not_command (h : (simulated s).perform? request = some o)
    (hnone : s.command? request = none) :
    o.backend = simulated s ∧ ∀ command error, o.event ≠ .commandFailed command error := by
  cases request with
  | startSession | stopSession | followUp => exact absurd hnone (by simp [Simulation.command?])
  | nextSessionEvent | quit => exact absurd h (by simp [perform?])
  | _ =>
    obtain rfl := Option.some.inj h
    exact ⟨rfl, fun _ _ => Event.noConfusion⟩

/-- A command is refused for every reason there is. -/
theorem perform?_of_refuses (h : s.workspace.Refuses request refusal) :
    ∃ command, (simulated s).perform? request
      = some { backend := simulated s, event := .commandFailed command refusal.message } := by
  obtain ⟨command, hcommand⟩ := Simulation.command?_eq_error_iff.mpr h
  exact ⟨command, perform?_of_command? hcommand⟩

/-- **A command that fails leaves everything as it was**, and there is a reason for it. -/
theorem refuses_of_perform? {error : Text} (h : (simulated s).perform? request = some o)
    (hevent : o.event = .commandFailed command error) :
    o.backend = simulated s ∧
      ∃ refusal, s.workspace.Refuses request refusal ∧ error = refusal.message := by
  rcases hcommand : s.command? request with _ | ⟨other, result⟩
  · exact absurd hevent ((perform?_of_not_command h hcommand).2 command error)
  · obtain rfl := Option.some.inj ((perform?_of_command? hcommand).symm.trans h)
    cases result with
    | ok => exact absurd hevent Event.noConfusion
    | error refusal =>
      obtain ⟨-, rfl⟩ := Event.commandFailed.inj hevent
      exact ⟨rfl, refusal, Simulation.command?_eq_error_iff.mp ⟨other, hcommand⟩, rfl⟩

end Backend

end AgentConsole
