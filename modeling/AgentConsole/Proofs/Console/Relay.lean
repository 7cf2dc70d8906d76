import AgentConsole.Proofs.Console.Output

/-!
# How output comes to the console

A line of output comes to the console on two ways: in the stream, line by line and
in order, and in the history, which is asked for when a worktree is viewed for the
first time.  A `Relay` is the console together with both ways for one worktree.  It
also notes how far they had got when they met: how many lines had been delivered as
the history was asked for, and how many there were as the answer was taken.

The console keeps the lines apart by the first number only.  When all has arrived,
its lines are the first `taken` lines of the history and then all but the first
`delivered` ones (`Relay.lines_of_arrived`): nothing is lost or out of order, but
whatever lies between the two numbers is there twice.  So every line is there
exactly once if and only if the two numbers agree (`Relay.exactly_once_iff`).
-/

namespace AgentConsole

/-- How far the history of a worktree has come. -/
inductive HistoryStage where
  /-- It was not asked for. -/
  | idle
  /-- It was asked for when that many lines had been delivered. -/
  | asked (delivered : Nat)
  /-- The answer was taken and is on its way. -/
  | taken (delivered : Nat) (answer : List Text)
  /-- The answer, which had `taken` lines, has arrived. -/
  | arrived (delivered taken : Nat)

/-- The console and the two ways on which the output of one worktree comes to it. -/
structure Relay where
  console : Console
  /-- All lines, as the backend has them. -/
  history : List Text
  /-- The lines in the history for which no event was enqueued yet. -/
  unsent : List Text := []
  /-- The lines that were enqueued and have not been delivered. -/
  stream : List Text := []
  stage : HistoryStage := .idle

namespace Relay

/-- The lines that were delivered, or were there before the console was. -/
def delivered (x : Relay) : Nat := x.history.length - (x.stream.length + x.unsent.length)

/-- A turn of the console; if it asks for the history, it is noted how far the stream had got. -/
def turn (w : WorktreeId) (x : Relay) (t : Turn) : Relay :=
  { x with
    console := t.console
    stage := if .fetchHistory w ∈ t.requests then .asked x.delivered else x.stage }

/-- One thing happens to the output of a worktree.  Among the events that do not
concern it are those that view it, and so ask for its history. -/
inductive Step (w : WorktreeId) (x : Relay) : Relay → Prop where
  /-- The agent writes a line, and the backend appends it to the history. -/
  | append (line : Text) :
    Step w x { x with history := x.history ++ [line], unsent := x.unsent ++ [line] }
  /-- The event for the next line is enqueued. -/
  | enqueue {line : Text} {rest : List Text} (h : x.unsent = line :: rest) :
    Step w x { x with unsent := rest, stream := x.stream ++ [line] }
  /-- The next line of the stream is delivered. -/
  | deliver (session : SessionId) {line : Text} {rest : List Text} (now : Moment)
    (h : x.stream = line :: rest) :
    Step w x
      { turn w x (x.console.handle (.session (.output session w line)) now) with stream := rest }
  /-- An event that does not concern the output. -/
  | other {event : Event} (now : Moment) (h : event.Spares w) :
    Step w x (turn w x (x.console.handle event now))
  /-- The backend takes the answer. -/
  | take {n : Nat} (h : x.stage = .asked n) : Step w x { x with stage := .taken n x.history }
  /-- The answer arrives. -/
  | arrive {n : Nat} {answer : List Text} (now : Moment) (h : x.stage = .taken n answer) :
    Step w x
      { turn w x (x.console.handle (.history w answer) now) with
        stage := .arrived n answer.length }

/-- A console that has started, with the output that was there before it. -/
def ofTuning (tuning : Tuning) (theme : Theme) (themes : String → Theme × List Note)
    (renderer : Transcript.Renderer) (history : List Text) : Relay where
  console := (Console.ofTuning tuning theme themes renderer).start.console
  history := history

/-- What can come about, in any order of steps. -/
inductive Reachable (w : WorktreeId) : Relay → Prop where
  | start (tuning : Tuning) (theme : Theme) (themes : String → Theme × List Note)
    (renderer : Transcript.Renderer) (history : List Text) :
    Reachable w (ofTuning tuning theme themes renderer history)
  | step {x y : Relay} (hx : Reachable w x) (h : Step w x y) : Reachable w y

/-! ### The invariant -/

/-- The mark of the log stands where `n` lines had been delivered, of which `before`
were there before the console was. -/
def IsMarked (log : Transcript.Log) (before n : Nat) : Prop := ∃ m, log.mark = some m ∧ n = before + m

/-- The console's lines and its mark, as far as the history has come.  `seen` are the
lines that were delivered or were there from the start, and the first `before` of
them were there from the start. -/
def Agrees (w : WorktreeId) (x : Relay) (before : Nat) (seen : List Text) : Prop :=
  match x.stage with
  | .idle =>
    w ∉ x.console.historyAsked ∧ (x.console.logOf w).lines = seen.drop before
  | .asked n =>
    w ∈ x.console.historyAsked ∧ (x.console.logOf w).lines = seen.drop before
      ∧ IsMarked (x.console.logOf w) before n ∧ n ≤ seen.length
  | .taken n answer =>
    w ∈ x.console.historyAsked ∧ (x.console.logOf w).lines = seen.drop before
      ∧ IsMarked (x.console.logOf w) before n ∧ n ≤ seen.length
      ∧ n ≤ answer.length ∧ answer <+: x.history
  | .arrived n taken =>
    w ∈ x.console.historyAsked
      ∧ (x.console.logOf w).lines = x.history.take taken ++ seen.drop n
      ∧ n ≤ seen.length ∧ n ≤ taken ∧ taken ≤ x.history.length

/-- What was not delivered is what remains of the history, and the console agrees
with what was. -/
def InStep (w : WorktreeId) (x : Relay) : Prop :=
  ∃ before seen, x.history = seen ++ (x.stream ++ x.unsent) ∧ before ≤ seen.length
    ∧ x.Agrees w before seen

namespace Agrees

variable {w : WorktreeId} {x y : Relay} {before : Nat} {seen : List Text}

/-- A turn that leaves the output alone. -/
theorem keeps (h : x.Agrees w before seen) (hk : x.console.Keeps w y.console)
    (hs : y.stage = x.stage) (hh : y.history = x.history) : y.Agrees w before seen := by
  obtain ⟨hlines, hmark, hasked⟩ := hk
  unfold Agrees IsMarked at h ⊢
  rw [hs, hh, hlines, hmark]
  cases hx : x.stage <;> simp only [hx, hasked] at h ⊢ <;> exact h

/-- A line that is written to the history is not delivered yet. -/
theorem append (h : x.Agrees w before seen) (line : Text) :
    Agrees w { x with history := x.history ++ [line], unsent := x.unsent ++ [line] } before seen := by
  unfold Agrees at h ⊢
  -- only a reader that has taken an answer looks back at the history, and a prefix of it stays one
  cases hx : x.stage with
  | idle | asked n =>
    simp only [hx] at h ⊢
    exact h
  | taken n answer =>
    simp only [hx] at h ⊢
    obtain ⟨hasked, hlines, hmark, hn, hanswer, hprefix⟩ := h
    exact ⟨hasked, hlines, hmark, hn, hanswer, hprefix.trans (List.prefix_append _ _)⟩
  | arrived n taken =>
    simp only [hx] at h ⊢
    obtain ⟨hasked, hlines, hn, hle, htaken⟩ := h
    refine ⟨hasked, ?_, hn, hle, ?_⟩
    · rw [hlines, List.take_append_of_le_length htaken]
    · simp only [List.length_append]
      omega

/-- A line is delivered. -/
theorem deliver (h : x.Agrees w before seen) (hb : before ≤ seen.length) {line : Text}
    (hl : (y.console.logOf w).lines = (x.console.logOf w).lines ++ [line])
    (hm : (y.console.logOf w).mark = (x.console.logOf w).mark)
    (ha : y.console.historyAsked = x.console.historyAsked)
    (hs : y.stage = x.stage) (hh : y.history = x.history) : y.Agrees w before (seen ++ [line]) := by
  have hdrop {n : Nat} (hn : n ≤ seen.length) : (seen ++ [line]).drop n = seen.drop n ++ [line] :=
    List.drop_append_of_le_length hn
  have hlonger : seen.length ≤ (seen ++ [line]).length := by simp
  unfold Agrees IsMarked at h ⊢
  rw [hs, hh, hl, hm, ha]
  -- at each stage of the question, one more line has been seen
  cases hx : x.stage with
  | idle =>
    simp only [hx] at h ⊢
    obtain ⟨hasked, hlines⟩ := h
    exact ⟨hasked, by rw [hlines, hdrop hb]⟩
  | asked n =>
    simp only [hx] at h ⊢
    obtain ⟨hasked, hlines, hmark, hn⟩ := h
    exact ⟨hasked, by rw [hlines, hdrop hb], hmark, Nat.le_trans hn hlonger⟩
  | taken n answer =>
    simp only [hx] at h ⊢
    obtain ⟨hasked, hlines, hmark, hn, hanswer⟩ := h
    exact ⟨hasked, by rw [hlines, hdrop hb], hmark, Nat.le_trans hn hlonger, hanswer⟩
  | arrived n taken =>
    simp only [hx] at h ⊢
    obtain ⟨hasked, hlines, hn, hle⟩ := h
    exact ⟨hasked, by rw [hlines, hdrop hn, List.append_assoc], Nat.le_trans hn hlonger, hle⟩

/-- The history is asked for, when all of `seen` has been delivered. -/
theorem ask (h : x.Agrees w before seen) (hb : before ≤ seen.length)
    (hx : w ∉ x.console.historyAsked) (hy : w ∈ y.console.historyAsked)
    (hl : (y.console.logOf w).lines = (x.console.logOf w).lines)
    (hm : (y.console.logOf w).mark = some (x.console.logOf w).lines.length)
    (hs : y.stage = .asked seen.length) : y.Agrees w before seen := by
  have hlines : (x.console.logOf w).lines = seen.drop before := by
    unfold Agrees at h
    -- it was not asked before, so nothing but the lines that came by themselves has been seen
    cases hstage : x.stage with
    | idle =>
      simp only [hstage] at h
      exact h.2
    | asked | taken | arrived =>
      simp only [hstage] at h
      exact absurd h.1 hx
  unfold Agrees
  simp only [hs]
  refine ⟨hy, hl.trans hlines, ⟨_, hm, ?_⟩, Nat.le_refl _⟩
  rw [hlines, List.length_drop]
  omega

end Agrees

/-- At the start nothing has been seen. -/
theorem inStep_ofTuning (w : WorktreeId) (tuning : Tuning) (theme : Theme)
    (themes : String → Theme × List Note) (renderer : Transcript.Renderer) (history : List Text) :
    (ofTuning tuning theme themes renderer history).InStep w := by
  refine ⟨history.length, history, (List.append_nil _).symm, Nat.le_refl _, ?_⟩
  refine ⟨List.not_mem_nil, ?_⟩
  rw [List.drop_length]
  rfl

/-- Each step of the relay keeps the account. -/
theorem InStep.step {w : WorktreeId} {x y : Relay} (h : x.InStep w) (hs : Step w x y) :
    y.InStep w := by
  obtain ⟨before, seen, hhistory, hbefore, hagrees⟩ := h
  have hdelivered : x.delivered = seen.length := by
    unfold delivered
    rw [hhistory, List.length_append, List.length_append]
    omega
  -- the history grows, a line is sent or delivered, or the question goes one stage further
  cases hs with
  | append line =>
    refine ⟨before, seen, ?_, hbefore, hagrees.append line⟩
    simp [hhistory]
  | enqueue hunsent =>
    refine ⟨before, seen, ?_, hbefore, hagrees⟩
    simp [hhistory, hunsent]
  | deliver session now hstream =>
    rename_i line rest
    have hlog := Console.logOf_onOutput w x.console line
    have hasked := (Console.logs_onOutput x.console w line).2
    refine ⟨before, seen ++ [line], ?_, ?_, hagrees.deliver hbefore ?_ ?_ hasked ?_ rfl⟩
    · simp [turn, hhistory, hstream]
    · simp only [List.length_append]
      omega
    · exact (congrArg Transcript.Log.lines hlog).trans (Transcript.Log.lines_push _ _ _)
    · exact (congrArg Transcript.Log.mark hlog).trans (Transcript.Log.mark_push _ _ _)
    · show (if .fetchHistory w ∈ [Request.nextSessionEvent] then .asked x.delivered else x.stage)
        = x.stage
      exact if_neg (by simp)
  | other now he =>
    refine ⟨before, seen, hhistory, hbefore, ?_⟩
    cases Console.spares_handle w x.console he now with
    | kept hk hr => exact hagrees.keeps hk (if_neg hr) rfl
    | asked hx hy hlines hmark hr =>
      refine hagrees.ask hbefore hx hy hlines hmark ?_
      rw [← hdelivered]
      exact if_pos hr
  | take hstage =>
    refine ⟨before, seen, hhistory, hbefore, ?_⟩
    unfold Agrees at hagrees ⊢
    simp only [hstage] at hagrees ⊢
    obtain ⟨hasked, hlines, hmark, hn⟩ := hagrees
    refine ⟨hasked, hlines, hmark, hn, ?_, List.prefix_refl _⟩
    rw [hhistory, List.length_append]
    omega
  | arrive now hstage =>
    rename_i n answer
    refine ⟨before, seen, hhistory, hbefore, ?_⟩
    have hlog := Console.logOf_onHistory w x.console answer
    have hasked := (Console.logs_onHistory x.console w answer).2
    unfold Agrees at hagrees ⊢
    simp only [hstage] at hagrees ⊢
    obtain ⟨hold, hlines, ⟨m, hmark, hn⟩, hseen, hle, hprefix⟩ := hagrees
    refine ⟨?_, ?_, hseen, hle, hprefix.length_le⟩
    · exact hasked ▸ hold
    · refine (congrArg Transcript.Log.lines hlog).trans ?_
      rw [Transcript.Log.lines_applyHistory, hmark, hlines, Option.getD_some, List.drop_drop, ← hn,
        List.prefix_iff_eq_take.mp hprefix]
      simp [turn]

theorem Reachable.inStep {w : WorktreeId} {x : Relay} (h : Reachable w x) : x.InStep w := by
  induction h with
  | start tuning theme themes renderer history =>
    exact inStep_ofTuning w tuning theme themes renderer history
  | step _ hs ih => exact ih.step hs

/-! ### What the console has when all has arrived -/

/-- When all has arrived, the lines are the first `taken` ones of the history and then
all but the first `delivered` ones.  Nothing is lost or out of order. -/
theorem lines_of_arrived {w : WorktreeId} {x : Relay} (h : Reachable w x) {delivered taken : Nat}
    (hstage : x.stage = .arrived delivered taken) (hunsent : x.unsent = [])
    (hstream : x.stream = []) :
    (x.console.logOf w).lines = x.history.take taken ++ x.history.drop delivered
      ∧ delivered ≤ taken ∧ taken ≤ x.history.length := by
  obtain ⟨before, seen, hhistory, -, hagrees⟩ := h.inStep
  have hseen : x.history = seen := by
    rw [hhistory, hstream, hunsent, List.append_nil, List.append_nil]
  unfold Agrees at hagrees
  simp only [hstage] at hagrees
  obtain ⟨-, hlines, -, hle, htaken⟩ := hagrees
  rw [← hseen] at hlines
  exact ⟨hlines, hle, htaken⟩

/-- **Every line is there exactly once if and only if the two ways met.**  When all has
arrived, the console's lines are the backend's history exactly if, as the answer was
taken, every line had been delivered before the history was asked for.  Otherwise the
lines between the two moments are there twice. -/
theorem exactly_once_iff {w : WorktreeId} {x : Relay} (h : Reachable w x) {delivered taken : Nat}
    (hstage : x.stage = .arrived delivered taken) (hunsent : x.unsent = [])
    (hstream : x.stream = []) :
    (x.console.logOf w).lines = x.history.take taken ++ x.history.drop delivered
      ∧ ((x.console.logOf w).lines = x.history ↔ taken = delivered) := by
  obtain ⟨hlines, hle, htaken⟩ := lines_of_arrived h hstage hunsent hstream
  refine ⟨hlines, ?_⟩
  rw [hlines]
  constructor
  · intro heq
    have hlength := congrArg List.length heq
    rw [List.length_append, List.length_take, List.length_drop] at hlength
    omega
  · rintro rfl
    exact List.take_append_drop _ _

/-- A snapshot with one worktree. -/
def lone : Snapshot := { worktrees := [⟨⟨"w1"⟩, "api", "main", ""⟩] }

theorem spares_lone : Event.Spares ⟨"w1"⟩ (.snapshot lone) := List.mem_cons_self

/-- Nothing is under way as the history is asked for, and the next line comes in between
the answer being taken and its arrival. -/
theorem exactly_once_when_nothing_under_way :
    ∃ x : Relay, Reachable ⟨"w1"⟩ x ∧ x.stage = .arrived 1 1 ∧ x.unsent = [] ∧ x.stream = []
      ∧ x.history = ["old".toList, "new".toList]
      ∧ (x.console.logOf ⟨"w1"⟩).lines = x.history := by
  let now : Moment := ⟨0, 0⟩
  have hstart : Reachable ⟨"w1"⟩ (ofTuning {} Theme.fallback (fun name => (Theme.named name, []))
      Transcript.markup ["old".toList]) := .start _ _ _ _ _
  have hviewed := hstart.step (.other now spares_lone)
  have htaken := hviewed.step (.take rfl)
  have happended := htaken.step (.append "new".toList)
  have henqueued := happended.step (.enqueue rfl)
  have hdelivered := henqueued.step (.deliver ⟨"s1"⟩ now rfl)
  have harrived := hdelivered.step (.arrive now rfl)
  exact ⟨_, harrived, rfl, rfl, rfl, rfl, (exactly_once_iff harrived rfl rfl rfl).2.mpr rfl⟩

/-- The history is asked for while a line is under way: the answer has the line, and
then the stream delivers it once more. -/
theorem line_under_way_twice :
    ∃ x : Relay, Reachable ⟨"w1"⟩ x ∧ x.stage = .arrived 0 1 ∧ x.unsent = [] ∧ x.stream = []
      ∧ x.history = ["hello".toList]
      ∧ (x.console.logOf ⟨"w1"⟩).lines = ["hello".toList, "hello".toList] := by
  let now : Moment := ⟨0, 0⟩
  have hstart : Reachable ⟨"w1"⟩ (ofTuning {} Theme.fallback (fun name => (Theme.named name, []))
      Transcript.markup []) := .start _ _ _ _ _
  have happended := hstart.step (.append "hello".toList)
  have henqueued := happended.step (.enqueue rfl)
  have hviewed := henqueued.step (.other now spares_lone)
  have htaken := hviewed.step (.take rfl)
  have harrived := htaken.step (.arrive now rfl)
  have hdelivered := harrived.step (.deliver ⟨"s1"⟩ now rfl)
  exact ⟨_, hdelivered, rfl, rfl, rfl, rfl, (lines_of_arrived hdelivered rfl rfl rfl).1⟩

end Relay

end AgentConsole
