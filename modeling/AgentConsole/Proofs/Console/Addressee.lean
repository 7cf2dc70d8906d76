import AgentConsole.Proofs.Console.Quit
import AgentConsole.Proofs.Console.Answers
import AgentConsole.Proofs.Session.Newest

/-!
# Whom a follow-up and a stop are about

In the main output `f` opens the editor of a follow-up and `x` asks whether to stop, both about the
session that stands for the viewed worktree, and only while that session is live (`addressee?`).
Since a live session stands for the worktree whenever it has one, neither key ever misses a live
session for an ended one that started later.

From then on the session is part of the target that has the focus.  Whatever the snapshot has become
in the meantime, what is sent goes to the session that was chosen (`Reaches`).

The main result is `sessionFor_reaches`.
-/

namespace AgentConsole.Console

variable {c : Console} {key : Key} {now : Moment} {s : Session}

/-- The session that a follow-up and a stop would be about. -/
def addressee? (c : Console) : Option Session := c.viewedSession?.filter Session.isLive

/-! ### The two keys -/

/-- A letter that is pressed in the main output is read there. -/
theorem handle_letter (hmain : c.focus.current = .mainOutput) (hkind : key.kind ≠ .release)
    {letter : Char} (hcode : key.code = .char letter) (hletter : letter ≠ 'c') (now : Moment) :
    c.handle (.key key) now = c.onMainKey key now := by
  show c.onKey key now = _
  unfold onKey
  rw [if_neg hkind, if_neg (by simp [hcode, hletter]), if_neg (by simp [hcode]), hmain]

/-- The key `f` opens a follow-up, whoever it is for. -/
theorem handle_followUp (hmain : c.focus.current = .mainOutput) (hkind : key.kind ≠ .release)
    (hcode : key.code = .char 'f') (now : Moment) :
    c.handle (.key key) now = c.openFollowUp now.clock := by
  rw [handle_letter hmain hkind hcode (by decide)]
  unfold onMainKey
  rw [hcode]
  rfl

/-- The key `x` asks whether to stop, whatever it is about. -/
theorem handle_stop (hmain : c.focus.current = .mainOutput) (hkind : key.kind ≠ .release)
    (hcode : key.code = .char 'x') (now : Moment) :
    c.handle (.key key) now = c.askToStop now.clock := by
  rw [handle_letter hmain hkind hcode (by decide)]
  unfold onMainKey
  rw [hcode]
  rfl

/-- What is opened from the main output has the focus. -/
theorem current_openFocus (hmain : c.focus.current = .mainOutput) (target : Target) :
    (c.openFocus target).console.focus.current = target := by
  have hopen : c.focus.open target = some { c.focus with current := target } :=
    if_pos (decide_eq_true hmain)
  unfold openFocus
  rw [hopen]
  rfl

/-- With an addressee the editor opens on it. -/
theorem openFollowUp_of_some (h : c.addressee? = some s) (time : Nat) : c.openFollowUp time
    = { c with followUpEditor := c.followUpEditor.reset }.openFocus (.followUp s.id) := by
  obtain ⟨hviewed, hlive⟩ := Option.filter_eq_some_iff.mp h
  have hstatus : ¬ s.status.isTerminal := by simpa [Session.isLive] using hlive
  unfold openFollowUp
  rw [hviewed]
  exact if_neg hstatus

/-- Without one there is a warning and nothing else. -/
theorem openFollowUp_of_none (h : c.addressee? = none) (time : Nat) :
    ∃ message, c.openFollowUp time = c.toast message .warning time := by
  unfold openFollowUp
  split
  · exact ⟨_, rfl⟩
  · rename_i s hviewed
    have hended : ¬ s.isLive := Option.filter_eq_none_iff.mp h s hviewed
    have hstatus : s.status.isTerminal := by simpa [Session.isLive] using hended
    exact ⟨_, if_pos hstatus⟩

theorem askToStop_of_some (h : c.addressee? = some s) (time : Nat) :
    c.askToStop time = c.openFocus (.confirm (.stopSession s.id)) := by
  unfold askToStop
  rw [show c.viewedSession?.filter Session.isLive = some s from h]

/-- Without one there is a warning and nothing else. -/
theorem askToStop_of_none (h : c.addressee? = none) (time : Nat) :
    ∃ message, c.askToStop time = c.toast message .warning time := by
  unfold askToStop
  rw [show c.viewedSession?.filter Session.isLive = none from h]
  exact ⟨_, rfl⟩

/-! ### The session that is reached -/

/-- A follow-up and a stop reach the session. -/
structure Reaches (c : Console) (s : Session) : Prop where
  /-- `f` opens the editor of a follow-up to it, -/
  opens : ∀ key now, key.kind ≠ .release → key.code = .char 'f' →
    (c.handle (.key key) now).console.focus.current = .followUp s.id
  /-- and whatever happens in between, what is sent from there goes to it and nowhere else. -/
  sends : ∀ d : Console, d.focus.current = .followUp s.id → ∀ key now, key.kind ≠ .release →
    d.followUpEditor.Submits key → (d.handle (.key key) now).requests
      = [.followUp s.id (Text.trim d.followUpEditor.buffer.text)]
  /-- `x` asks whether to stop it, -/
  asks : ∀ key now, key.kind ≠ .release → key.code = .char 'x' →
    (c.handle (.key key) now).console.focus.current = .confirm (.stopSession s.id)
  /-- and a yes stops it and no other one. -/
  stops : ∀ d : Console, d.focus.current = .confirm (.stopSession s.id) → ∀ key now,
    key.kind ≠ .release → isYes key → (d.handle (.key key) now).requests = [.stopSession s.id]

theorem reaches_of_addressee? (hmain : c.focus.current = .mainOutput) (h : c.addressee? = some s) :
    c.Reaches s where
  opens key now hkind hcode := by
    rw [handle_followUp hmain hkind hcode, openFollowUp_of_some h]
    exact current_openFocus (c := { c with followUpEditor := c.followUpEditor.reset }) hmain _
  sends d hfocus key now hkind hsubmit := (gave_onKey hkind (.followUp hfocus hsubmit) now).requests
  asks key now hkind hcode := by
    rw [handle_stop hmain hkind hcode, askToStop_of_some h]
    exact current_openFocus hmain _
  stops d hfocus key now hkind hyes := (gave_onKey hkind (.stop hfocus hyes) now).requests

/-- Both keys come to a toast, which is all that they come to. -/
def ReachesNone (c : Console) : Prop :=
  ∀ key now, key.kind ≠ .release → key.code = .char 'f' ∨ key.code = .char 'x' →
    ∃ message, c.handle (.key key) now = c.toast message .warning now.clock

theorem reachesNone_of_addressee? (hmain : c.focus.current = .mainOutput) (h : c.addressee? = none) :
    c.ReachesNone := by
  intro key now hkind hcode
  rcases hcode with hcode | hcode
  · rw [handle_followUp hmain hkind hcode]
    exact openFollowUp_of_none h _
  · rw [handle_stop hmain hkind hcode]
    exact askToStop_of_none h _

/-- There is an addressee exactly if a session of the viewed worktree is live, and then it is the
session that stands for the worktree. -/
theorem addressee?_cases {id : WorktreeId} (hselected : c.selected = some id) :
    if ∃ y ∈ c.snapshot.sessions, y.worktree = id ∧ y.isLive then
      ∃ s, c.snapshot.sessionFor id = some s ∧ s.isLive ∧ c.addressee? = some s
    else c.addressee? = none := by
  have hviewed : c.addressee? = (c.snapshot.sessionFor id).filter Session.isLive := by
    unfold addressee? viewedSession?
    rw [hselected]
    rfl
  -- whether the newest session is live decides, and by the choice of it so does whether any is
  split
  · rename_i hlive
    obtain ⟨y, hy, hworktree, hylive⟩ := hlive
    obtain ⟨s, hs⟩ := Option.isSome_iff_exists.mp
      (Snapshot.isSome_sessionFor_iff.mpr ⟨y, hy, hworktree⟩)
    have hslive : s.isLive :=
      (Snapshot.standsFor_of_sessionFor hs).isLive_iff.mpr ⟨y, hy, hworktree, hylive⟩
    refine ⟨s, hs, hslive, ?_⟩
    rw [hviewed, hs]
    exact if_pos hslive
  · rename_i hended
    rw [hviewed, Option.filter_eq_none_iff]
    intro s hs hlive
    exact hended ((Snapshot.standsFor_of_sessionFor hs).isLive_iff.mp hlive)

/-- **The right session stands for a worktree.**  There is one if the worktree has any; it is the
newest live one, or the newest of all if none is live.  A follow-up and a stop from the main output
reach it if a session of the viewed worktree is live, and only then. -/
theorem sessionFor_reaches (snapshot : Snapshot) (id : WorktreeId) :
    ((snapshot.sessionFor id).isSome ↔ ∃ y ∈ snapshot.sessions, y.worktree = id) ∧
      (∀ s, snapshot.sessionFor id = some s → snapshot.StandsFor id s) ∧
      ∀ c : Console, c.snapshot = snapshot → c.selected = some id → c.focus.current = .mainOutput →
        if ∃ y ∈ snapshot.sessions, y.worktree = id ∧ y.isLive then
          ∃ s, snapshot.sessionFor id = some s ∧ s.isLive ∧ c.Reaches s
        else c.ReachesNone := by
  refine ⟨Snapshot.isSome_sessionFor_iff, fun _ => Snapshot.standsFor_of_sessionFor, ?_⟩
  rintro c rfl hselected hmain
  have haddressee := addressee?_cases hselected
  -- with an addressee both keys reach it, and without one both reach nobody
  split at haddressee
  · rename_i hlive
    obtain ⟨s, hs, hslive, haddressee⟩ := haddressee
    rw [if_pos hlive]
    exact ⟨s, hs, hslive, reaches_of_addressee? hmain haddressee⟩
  · rename_i hended
    rw [if_neg hended]
    exact reachesNone_of_addressee? hmain haddressee

/-- A live session is reached though one that has ended started after it, and a live one of another
worktree after both. -/
theorem sessionFor_reaches_older :
    let live : Session := ⟨⟨"s1"⟩, ⟨"w1"⟩, "claude", .idle, 0, []⟩
    let ended : Session := ⟨⟨"s2"⟩, ⟨"w1"⟩, "codex", .done, 5, []⟩
    let other : Session := ⟨⟨"s3"⟩, ⟨"w2"⟩, "codex", .running, 9, []⟩
    let c : Console := { atWork with snapshot := { sessions := [live, ended, other] } }
    c.selected = some ⟨"w1"⟩ ∧ c.focus.current = .mainOutput ∧ live ∈ c.snapshot.sessions
      ∧ live.isLive ∧ c.Reaches live := by
  intro live ended other c
  have hselected : c.selected = some ⟨"w1"⟩ := rfl
  have hmain : c.focus.current = .mainOutput := rfl
  have hmem : live ∈ c.snapshot.sessions := List.mem_cons_self
  have hfor : c.snapshot.sessionFor ⟨"w1"⟩ = some live := by decide +kernel
  have hreaches := (sessionFor_reaches c.snapshot ⟨"w1"⟩).2.2 c rfl hselected hmain
  rw [if_pos ⟨live, hmem, rfl, rfl⟩] at hreaches
  obtain ⟨s, hs, -, hreaches⟩ := hreaches
  obtain rfl := Option.some.inj (hfor.symm.trans hs)
  exact ⟨hselected, hmain, hmem, rfl, hreaches⟩

end AgentConsole.Console
