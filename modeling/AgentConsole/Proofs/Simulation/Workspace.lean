import AgentConsole.Proofs.Text.Number
import AgentConsole.Simulation.Agent
import Mathlib.Data.List.Nodup

/-!
# What happens to sessions and histories

Every access to a workspace is one of a few: a session begins, the state of a session changes, a line
is put down.  Here is what each of them leaves to be seen: the session of an identity, the
identities of all sessions, and the history of a worktree.

From these follow the shapes of the commands and of an agent's step: a command is refused for a
reason that can be told from the workspace beforehand (`start_eq_ok`, `stop_eq_ok`,
`followUp_eq_ok`), and an agent does something only while its session lets it
(`Agent.does`).
-/

namespace AgentConsole.Simulation

namespace Workspace

variable {w : Workspace} {id : SessionId} {a : Session}

/-- The identities of the sessions. -/
def ids (w : Workspace) : List SessionId := w.sessions.map Session.id

theorem id_of_session? (h : w.session? id = some a) : a.id = id := by
  simpa using List.find?_some h

theorem mem_ids_iff : id ∈ w.ids ↔ ∃ a, w.session? id = some a := by
  rw [← Option.isSome_iff_exists]
  simp [ids, session?]

/-- Where identities are unique, every session is found by its own. -/
theorem session?_of_mem (hids : w.ids.Nodup) (h : a ∈ w.sessions) : w.session? a.id = some a :=
  Table.find?_key_of_mem hids h

/-- Where identities are unique, an agent works as long as its session is running. -/
theorem isRunning_iff (hids : w.ids.Nodup) :
    w.isRunning id = true ↔ ∃ a, w.session? id = some a ∧ a.status = .running := by
  unfold isRunning
  rw [List.any_eq_true]
  constructor
  · rintro ⟨a, ha, hrunning⟩
    obtain ⟨rfl, hstatus⟩ : a.id = id ∧ a.status = .running := by simpa using hrunning
    exact ⟨a, session?_of_mem hids ha, hstatus⟩
  · rintro ⟨a, ha, hstatus⟩
    exact ⟨a, List.mem_of_find?_eq_some ha, by simp [id_of_session? ha, hstatus]⟩

/-! ### Changing the state of a session -/

@[simp] theorem ids_setStatus (status : Status) : (w.setStatus id status).ids = w.ids := by
  unfold ids setStatus
  rw [List.map_map]
  refine List.map_congr_left fun a _ => ?_
  show (if a.id = id then { a with status } else a).id = a.id
  split <;> rfl

/-- Only the session whose status is set is another. -/
theorem session?_setStatus (status : Status) (other : SessionId) :
    (w.setStatus id status).session? other
      = (w.session? other).map fun a => if other = id then { a with status } else a := by
  unfold session? setStatus
  induction w.sessions with
  | nil => rfl
  | cons b rest ih =>
    have hid : (if b.id = id then { b with status } else b).id = b.id := by split <;> rfl
    by_cases hb : b.id = other
    · subst hb
      rw [List.map_cons, List.find?_cons_of_pos (by simpa using hid),
        List.find?_cons_of_pos (by simp)]
      rfl
    · rw [List.map_cons, List.find?_cons_of_neg (by simpa [hid] using hb),
        List.find?_cons_of_neg (by simpa using hb)]
      exact ih

/-- A session changes its state only while it is live. -/
theorem setStatus?_eq_some_iff {status : Status} {w' : Workspace} :
    w.setStatus? id status = some w' ↔
      (∃ a, w.session? id = some a ∧ a.status.isTerminal = false) ∧ w' = w.setStatus id status := by
  unfold setStatus?
  constructor
  · intro h
    split at h
    · rename_i a ha
      split at h
      · rename_i hlive
        exact ⟨⟨a, ha, by simpa [Session.isLive] using hlive⟩, (Option.some.inj h).symm⟩
      · exact absurd h (by simp)
    · exact absurd h (by simp)
  · rintro ⟨⟨a, ha, hlive⟩, rfl⟩
    simp [ha, Session.isLive, hlive]

/-! ### Putting down a line -/

theorem session?_record (worktree : WorktreeId) (line : Text) :
    (w.record worktree line).session? id = w.session? id := rfl

/-- A line goes to the end of the history of its worktree. -/
theorem historyOf_record (w : Workspace) (id other : WorktreeId) (line : Text) :
    (w.record id line).historyOf other
      = w.historyOf other ++ if id = other then [line] else [] := by
  unfold historyOf record
  rw [Table.get?_set]
  split
  · rename_i h
    rw [h]
    rfl
  · exact (List.append_nil _).symm

/-! ### New sessions -/

/-- The identity with that number. -/
def numbered (n : Nat) : SessionId := ⟨"s" ++ String.ofList (Text.ofNat n)⟩

theorem toList_numbered (n : Nat) : (numbered n).name.toList = 's' :: Text.ofNat n := by
  simp [numbered]

theorem numbered_injective {m n : Nat} (h : numbered m = numbered n) : m = n := by
  have hname := congrArg (fun id => id.name.toList) h
  simp only [toList_numbered] at hname
  exact Text.ofNat_injective (List.cons.inj hname).2

/-- No session has the identity of another, and none has the identity of one that is still to
come. -/
structure Numbered (w : Workspace) : Prop where
  nodup : w.ids.Nodup
  fresh : ∀ n, w.lastNumber < n → numbered n ∉ w.ids

/-- The session that begins next. -/
def nextSession (w : Workspace) (worktree : WorktreeId) (prompt : Text) (time : Int) : Session :=
  { id := numbered (w.lastNumber + 1)
    worktree, agent := "claude", status := .pending, startedAt := time, prompt }

/-- A workspace with one more session. -/
def withSession (w : Workspace) (a : Session) : Workspace :=
  { w with lastNumber := w.lastNumber + 1, sessions := w.sessions ++ [a] }

theorem session?_withSession (a : Session) (id : SessionId) :
    (w.withSession a).session? id = (w.session? id).or (if a.id = id then some a else none) := by
  show (w.sessions ++ [a]).find? _ = _
  rw [List.find?_append, List.find?_singleton]
  simp only [decide_eq_true_eq]
  rfl

namespace Numbered

/-- Nothing but the identities and the last number matters. -/
theorem congr {w' : Workspace} (hw : w.Numbered) (hids : w'.ids = w.ids)
    (hlast : w'.lastNumber = w.lastNumber) : w'.Numbered := by
  refine ⟨hids ▸ hw.nodup, fun n hn => ?_⟩
  rw [hids]
  exact hw.fresh n (hlast ▸ hn)

variable {worktree : WorktreeId} {prompt : Text} {time : Int}

theorem initial (home : String) (time : Int) : (initial home time).Numbered where
  nodup := by
    show [SessionId.mk "s-auth", ⟨"s-flaky"⟩].Nodup
    decide
  fresh n _ hmem := by
    -- the identities there are go on with a hyphen, a numbered one with a digit
    have hhyphen : ∃ rest, (numbered n).name.toList = 's' :: '-' :: rest := by
      obtain h | h : numbered n = ⟨"s-auth"⟩ ∨ numbered n = ⟨"s-flaky"⟩ := List.mem_pair.mp hmem
      · exact ⟨"auth".toList, by rw [h]; decide⟩
      · exact ⟨"flaky".toList, by rw [h]; decide⟩
    obtain ⟨rest, hrest⟩ := hhyphen
    rw [toList_numbered] at hrest
    have hdigit := Text.isDigit_of_mem_ofNat (n := n) ((List.cons.inj hrest).2 ▸ List.mem_cons_self)
    exact absurd hdigit (by decide)

/-- The identity of the next session is free. -/
theorem session?_nextSession (hw : w.Numbered) :
    w.session? (w.nextSession worktree prompt time).id = none := by
  rcases hs : w.session? (w.nextSession worktree prompt time).id with _ | b
  · rfl
  · exact absurd (mem_ids_iff.mpr ⟨b, hs⟩) (hw.fresh _ (Nat.lt_succ_self _))

/-- With the next session, identities are still apart. -/
theorem withSession_nextSession (hw : w.Numbered) :
    (w.withSession (w.nextSession worktree prompt time)).Numbered := by
  have hids : (w.withSession (w.nextSession worktree prompt time)).ids
      = w.ids ++ [numbered (w.lastNumber + 1)] := List.map_append
  refine ⟨?_, fun n hn hmem => ?_⟩
  · rw [hids]
    refine List.nodup_append.mpr ⟨hw.nodup, List.nodup_singleton _, fun id hid new hnew => ?_⟩
    rw [List.mem_singleton.mp hnew]
    rintro rfl
    exact hw.fresh _ (Nat.lt_succ_self _) hid
  · have hlast : w.lastNumber + 1 < n := hn
    rw [hids, List.mem_append, List.mem_singleton] at hmem
    rcases hmem with hmem | hmem
    · exact hw.fresh n (by omega) hmem
    · have hn := numbered_injective hmem
      omega

end Numbered

/-! ### Commands -/

/-- What the workspace does when a start is accepted. -/
theorem start_eq_ok {worktree : WorktreeId} {prompt : Text} {time : Int} {w' : Workspace}
    {a : Session} (h : w.start worktree prompt time = .ok (w', a)) :
    a = w.nextSession worktree prompt time
      ∧ w' = (w.withSession a).record worktree (promptLine prompt) := by
  unfold start at h
  split at h
  · obtain ⟨rfl, rfl⟩ := Prod.mk.inj (Except.ok.inj h)
    exact ⟨rfl, rfl⟩
  · exact absurd h (by simp)

/-- Only a session that is known and has not ended can be stopped. -/
theorem stop_eq_ok {w' : Workspace} (h : w.stop id = .ok w') :
    ∃ a, w.session? id = some a ∧ a.status.isTerminal = false ∧ w' = w.setStatus id .stopped := by
  unfold stop at h
  split at h
  · exact absurd h (by simp)
  · rename_i a ha
    split at h
    · rename_i hlive
      exact ⟨a, ha, by simpa [Session.isLive] using hlive, (Except.ok.inj h).symm⟩
    · exact absurd h (by simp)

/-- Only an idle session takes a follow-up. -/
theorem followUp_eq_ok {prompt : Text} {w' : Workspace} {worktree : WorktreeId}
    (h : w.followUp id prompt = .ok (w', worktree)) :
    ∃ a, w.session? id = some a ∧ a.status = .idle ∧ worktree = a.worktree
      ∧ w' = (w.setStatus id .pending).record worktree (promptLine prompt) := by
  unfold followUp at h
  split at h
  · exact absurd h (by simp)
  · rename_i a ha
    split at h
    · rename_i hidle
      obtain ⟨rfl, rfl⟩ := Prod.mk.inj (Except.ok.inj h)
      exact ⟨a, ha, hidle, rfl, rfl⟩
    all_goals exact absurd h (by simp)

end Workspace

/-! ### Steps of an agent -/

namespace Agent

/-- The line that an agent puts down in its next step. -/
def line? (a : Agent) (w : Workspace) : Option Text :=
  match a.task with
  | .say line _ => if w.isRunning a.session then some line else none
  | .wake _ | .rest => none

/-- What comes of a step: a workspace, the agent if it goes on, and the line that was put down. -/
inductive Does (w : Workspace) (a : Agent) : Workspace → Option Agent → Option Text → Prop where
  /-- The session does not let the agent go on. -/
  | leaves : Does w a w none none
  | wakes {reply : List Text} {s : Session} (htask : a.task = .wake reply)
    (hs : w.session? a.session = some s) (hlive : s.status.isTerminal = false) :
    Does w a (w.setStatus a.session .running) (some { a with task := .saying reply }) none
  | speaks {line : Text} {more : List Text} {s : Session} {next : Option Agent}
    (htask : a.task = .say line more) (hs : w.session? a.session = some s)
    (hrunning : s.status = .running)
    (hnext : next = none ∨ next = some { a with task := .saying more }) :
    Does w a (w.record a.worktree line) next (some line)
  | rests {s : Session} (htask : a.task = .rest) (hs : w.session? a.session = some s)
    (hlive : s.status.isTerminal = false) : Does w a (w.setStatus a.session .idle) none none

/-- **Nothing else comes of a step.** -/
theorem does (a : Agent) (listening : Bool) {w : Workspace} (hids : w.ids.Nodup) :
    a.Does w (a.step listening w).workspace (a.step listening w).next (a.line? w) := by
  -- an agent wakes, says a line or rests, and leaves if its session does not let it
  rcases htask : a.task with reply | ⟨line, more⟩ | _
  · -- wake: the session is set to running, if it is live
    have hline : a.line? w = none := by simp only [line?, htask]
    rw [hline]
    unfold step
    rw [htask]
    rcases hset : w.setStatus? a.session .running with - | w'
    · simpa only [hset] using .leaves
    · obtain ⟨⟨s, hs, hlive⟩, rfl⟩ := Workspace.setStatus?_eq_some_iff.mp hset
      simpa only [hset] using .wakes htask hs hlive
  · -- say: the line is put down, if the session is running
    unfold step line?
    rw [htask]
    by_cases hrunning : w.isRunning a.session = true
    · obtain ⟨s, hs, hstatus⟩ := (Workspace.isRunning_iff hids).mp hrunning
      simp only [hrunning, if_true]
      refine .speaks htask hs hstatus ?_
      cases listening with
      | true => exact .inr rfl
      | false => exact .inl rfl
    · simpa only [hrunning, if_false] using .leaves
  · -- rest: the session is set to idle, if it is live
    have hline : a.line? w = none := by simp only [line?, htask]
    rw [hline]
    unfold step
    rw [htask]
    rcases hset : w.setStatus? a.session .idle with - | w'
    · simpa only [hset] using .leaves
    · obtain ⟨⟨s, hs, hlive⟩, rfl⟩ := Workspace.setStatus?_eq_some_iff.mp hset
      simpa only [hset] using .rests htask hs hlive

end Agent

end AgentConsole.Simulation
