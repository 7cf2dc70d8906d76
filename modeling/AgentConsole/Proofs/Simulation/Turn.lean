import AgentConsole.Proofs.Simulation.Workspace

/-!
# One session at a time

All that there is to know of a session is its `Place`: the session itself, the words that were put
down for it, and the tasks of the agents that work on it.  Whatever happens, it is at most one
turn of a session, and `Place.Turn` says once what such a turn can be.

Only an idle session is given more to do, and it becomes idle only when its agent goes to rest.  So
there is never a second agent, and what was put down is one prompt after the other with the whole
reply in between, except that the last reply may still be under way or have been cut short
(`Standing`).
-/

namespace AgentConsole.Simulation

theorem Task.saying_ne_wake (more lines : List Text) : Task.saying more ≠ .wake lines := by
  cases more <;> exact Task.noConfusion

theorem Task.saying_injective {more rest : List Text} (h : Task.saying more = .saying rest) :
    more = rest := by
  cases more with
  | nil =>
    cases rest with
    | nil => rfl
    | cons => exact absurd h Task.noConfusion
  | cons line more =>
    cases rest with
    | nil => exact absurd h Task.noConfusion
    | cons =>
      obtain ⟨rfl, rfl⟩ := Task.say.inj h
      rfl

/-- What is put down for a session. -/
inductive Words where
  | asked (prompt : Text)
  /-- A line of an agent. -/
  | said (line : Text)
  deriving DecidableEq, Repr

/-- How words stand in a history. -/
def Words.line : Words → Text
  | asked prompt => Workspace.promptLine prompt
  | said line => line

/-- A prompt and the whole reply to it. -/
def round (prompt : Text) : List Words := .asked prompt :: (reply prompt).map .said

/-- Prompts with their replies, one after the other. -/
def talk (prompts : List Text) : List Words := prompts.flatMap round

theorem talk_append_singleton (prompts : List Text) (prompt : Text) :
    talk (prompts ++ [prompt]) = talk prompts ++ round prompt := by
  simp [talk]

/-- A session, the words put down for it, and the tasks of its agents. -/
structure Place where
  session? : Option Session
  words : List Words := []
  tasks : List Task := []

namespace Place

/-- What can happen to a session. -/
inductive Turn : Place → Place → Prop where
  | start {a : Session} {words : List Words} {tasks : List Task} (prompt : Text)
    (hstatus : a.status = .pending) :
    Turn ⟨none, words, tasks⟩ ⟨some a, words ++ [.asked prompt], tasks ++ [.wake (reply prompt)]⟩
  | stop {a : Session} {words : List Words} {tasks : List Task}
    (hlive : a.status.isTerminal = false) :
    Turn ⟨some a, words, tasks⟩ ⟨some { a with status := .stopped }, words, tasks⟩
  | followUp {a : Session} {words : List Words} {tasks : List Task} (prompt : Text)
    (hidle : a.status = .idle) :
    Turn ⟨some a, words, tasks⟩
      ⟨some { a with status := .pending }, words ++ [.asked prompt],
        tasks ++ [.wake (reply prompt)]⟩
  | wake {a : Session} {words : List Words} {before after : List Task} (reply : List Text)
    (hlive : a.status.isTerminal = false) :
    Turn ⟨some a, words, before ++ .wake reply :: after⟩
      ⟨some { a with status := .running }, words, before ++ .saying reply :: after⟩
  | say {a : Session} {words : List Words} {before after tasks : List Task} (line : Text)
    (more : List Text) (hrunning : a.status = .running)
    (htasks : tasks = before ++ after ∨ tasks = before ++ .saying more :: after) :
    Turn ⟨some a, words, before ++ .say line more :: after⟩ ⟨some a, words ++ [.said line], tasks⟩
  | rest {a : Session} {words : List Words} {before after : List Task}
    (hlive : a.status.isTerminal = false) :
    Turn ⟨some a, words, before ++ .rest :: after⟩
      ⟨some { a with status := .idle }, words, before ++ after⟩
  /-- An agent is gone. -/
  | leave {session? : Option Session} {words : List Words} {before after : List Task} (task : Task) :
    Turn ⟨session?, words, before ++ task :: after⟩ ⟨session?, words, before ++ after⟩

end Place

/-- Where a session can stand, with its words and the tasks of its agents; it is unknown at first. -/
inductive Standing (words : List Words) (tasks : List Task) : Option Status → Prop where
  | unknown (hwords : words = []) (htasks : tasks = []) : Standing words tasks none
  | pending (prompts : List Text) (prompt : Text) (hwords : words = talk prompts ++ [.asked prompt])
    (htasks : tasks = [] ∨ tasks = [.wake (reply prompt)]) : Standing words tasks (some .pending)
  /-- Some lines of the reply have been said. -/
  | running (prompts : List Text) (prompt : Text) (said more : List Text)
    (hwords : words = talk prompts ++ .asked prompt :: said.map .said)
    (hreply : reply prompt = said ++ more) (htasks : tasks = [] ∨ tasks = [.saying more]) :
    Standing words tasks (some .running)
  | idle (prompts : List Text) (hwords : words = talk prompts) (htasks : tasks = []) :
    Standing words tasks (some .idle)
  | ended {status : Status} (prompts : List Text) (hended : status.isTerminal = true)
    (hwords : words <+: talk prompts) (htasks : tasks.length ≤ 1) :
    Standing words tasks (some status)

namespace Standing

variable {words : List Words} {tasks before after : List Task} {task : Task} {more : List Text}
  {status : Status} {status? : Option Status}

/-- A session has one agent at most. -/
theorem alone (h : Standing words tasks status?) : tasks.length ≤ 1 := by
  cases h with
  | unknown _ htasks | idle _ _ htasks => exact htasks ▸ Nat.zero_le 1
  | pending _ _ _ htasks | running _ _ _ _ _ _ htasks =>
    rcases htasks with rfl | rfl
    · exact Nat.zero_le 1
    · exact Nat.le_refl 1
  | ended _ _ _ htasks => exact htasks

/-- A reply is said to its end before the next prompt. -/
theorem turns (h : Standing words tasks status?) : ∃ prompts, words <+: talk prompts := by
  cases h with
  | unknown hwords => exact ⟨[], hwords ▸ List.prefix_rfl⟩
  | pending prompts prompt hwords =>
    refine ⟨prompts ++ [prompt], ?_⟩
    rw [hwords, talk_append_singleton]
    exact (List.prefix_append_right_inj _).mpr ⟨(reply prompt).map .said, rfl⟩
  | running prompts prompt said more hwords hreply =>
    refine ⟨prompts ++ [prompt], ?_⟩
    rw [hwords, talk_append_singleton, round, hreply, List.map_append]
    exact (List.prefix_append_right_inj _).mpr ⟨more.map .said, rfl⟩
  | idle prompts hwords => exact ⟨prompts, hwords ▸ List.prefix_rfl⟩
  | ended prompts _ hwords => exact ⟨prompts, hwords⟩

/-- The task of an agent is the only one. -/
theorem eq_nil_of_task (h : Standing words (before ++ task :: after) status?) :
    before = [] ∧ after = [] := by
  have halone := h.alone
  rw [List.length_append, List.length_cons] at halone
  exact ⟨List.eq_nil_of_length_eq_zero (by omega), List.eq_nil_of_length_eq_zero (by omega)⟩

/-- It makes no difference to a session when its agent is gone. -/
theorem left (h : Standing words tasks status?) : Standing words [] status? := by
  cases h with
  | unknown hwords => exact .unknown hwords rfl
  | pending prompts prompt hwords => exact .pending prompts prompt hwords (.inl rfl)
  | running prompts prompt said more hwords hreply =>
    exact .running prompts prompt said more hwords hreply (.inl rfl)
  | idle prompts hwords => exact .idle prompts hwords rfl
  | ended prompts hended hwords => exact .ended prompts hended hwords (Nat.zero_le 1)

/-- An agent that has not begun is there because of the last prompt. -/
theorem of_wake (h : Standing words [.wake more] (some status)) (hlive : status.isTerminal = false) :
    ∃ prompts prompt, words = talk prompts ++ [.asked prompt] ∧ more = reply prompt := by
  cases h with
  | pending prompts prompt hwords htasks => exact ⟨prompts, prompt, hwords, by simpa using htasks⟩
  | running _ _ _ rest _ _ htasks =>
    have hsaying : Task.saying rest = .wake more := by simpa [eq_comm] using htasks
    exact absurd hsaying (Task.saying_ne_wake rest more)
  | idle _ _ htasks => exact absurd htasks (List.cons_ne_nil _ _)
  | ended _ hended => exact absurd (hlive.symm.trans hended) Bool.false_ne_true

/-- What an agent at work has still to say is what is missing of the last reply. -/
theorem of_saying (h : Standing words [.saying more] (some status))
    (hlive : status.isTerminal = false) :
    ∃ prompts prompt said, words = talk prompts ++ .asked prompt :: said.map .said ∧
      reply prompt = said ++ more := by
  cases h with
  | pending _ prompt _ htasks =>
    have hsaying : Task.saying more = .wake (reply prompt) := by simpa using htasks
    exact absurd hsaying (Task.saying_ne_wake more _)
  | running prompts prompt said rest hwords hreply htasks =>
    obtain rfl : more = rest := Task.saying_injective (by simpa using htasks)
    exact ⟨prompts, prompt, said, hwords, hreply⟩
  | idle _ _ htasks => exact absurd htasks (List.cons_ne_nil _ _)
  | ended _ hended => exact absurd (hlive.symm.trans hended) Bool.false_ne_true

end Standing

namespace Place

variable {p q : Place}

/-- The session stands somewhere. -/
def Stands (p : Place) : Prop := Standing p.words p.tasks (p.session?.map Session.status)

/-- **Whatever happens to a session, it stands somewhere.** -/
theorem Turn.stands (hturn : p.Turn q) (h : p.Stands) : q.Stands := by
  cases hturn with
  | start prompt hstatus =>
    obtain ⟨rfl, rfl⟩ := (h : Standing _ _ none)
    show Standing _ _ (some _)
    rw [hstatus]
    exact .pending [] prompt rfl (.inr rfl)
  | stop hlive =>
    obtain ⟨prompts, hwords⟩ := Standing.turns h
    exact .ended prompts rfl hwords (Standing.alone h)
  | followUp prompt hidle =>
    change Standing _ _ (some _) at h
    rw [hidle] at h
    cases h with
    | idle prompts hwords htasks =>
      -- between two rounds there is no agent
      subst hwords htasks
      exact .pending prompts prompt rfl (.inr rfl)
    | ended _ hended => exact absurd hended Bool.false_ne_true
  | wake lines hlive =>
    obtain ⟨rfl, rfl⟩ := Standing.eq_nil_of_task h
    obtain ⟨prompts, prompt, hwords, rfl⟩ := Standing.of_wake h hlive
    exact .running prompts prompt [] _ hwords (List.nil_append _).symm (.inr rfl)
  | @say a words _ _ _ line more hrunning htasks =>
    obtain ⟨rfl, rfl⟩ := Standing.eq_nil_of_task h
    change Standing words [.saying (line :: more)] (some a.status) at h
    rw [hrunning] at h
    obtain ⟨prompts, prompt, said, hwords, hreply⟩ := h.of_saying rfl
    show Standing _ _ (some _)
    rw [hrunning]
    refine .running prompts prompt (said ++ [line]) more ?_ ?_ ?_
    · rw [hwords, List.map_append, List.append_assoc]
      rfl
    · rw [hreply, List.append_assoc]
      rfl
    · exact htasks
  | @rest a words _ _ hlive =>
    obtain ⟨rfl, rfl⟩ := Standing.eq_nil_of_task h
    -- it has nothing more to say, so the round is complete
    change Standing words [.saying []] (some a.status) at h
    obtain ⟨prompts, prompt, said, hwords, hreply⟩ := h.of_saying hlive
    refine .idle (prompts ++ [prompt]) ?_ rfl
    rw [List.append_nil] at hreply
    rw [talk_append_singleton, round, hreply]
    exact hwords
  | leave task =>
    obtain ⟨rfl, rfl⟩ := Standing.eq_nil_of_task h
    exact Standing.left h

/-- A session that has ended stays as it is, and nothing more is put down for it. -/
theorem Turn.of_ended {a : Session} (hturn : p.Turn q) (hsession : p.session? = some a)
    (hended : a.status.isTerminal = true) : q.session? = some a ∧ q.words = p.words := by
  have hrefuted {b : Session} (hb : some b = some a) (hlive : b.status.isTerminal = false) :
      False := by
    rw [Option.some.inj hb] at hlive
    exact absurd (hlive.symm.trans hended) Bool.false_ne_true
  cases hturn with
  | start => exact absurd hsession (Option.some_ne_none a).symm
  | stop hlive | wake _ hlive | rest hlive => exact (hrefuted hsession hlive).elim
  | followUp _ hidle => exact (hrefuted hsession (hidle ▸ rfl)).elim
  | say _ _ hrunning => exact (hrefuted hsession (hrunning ▸ rfl)).elim
  | leave => exact ⟨hsession, rfl⟩

end Place

end AgentConsole.Simulation
