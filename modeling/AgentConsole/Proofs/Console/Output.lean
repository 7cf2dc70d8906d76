import AgentConsole.Proofs.Console.Events
import AgentConsole.Proofs.Transcript.Log

/-!
# What turns do to the output of a worktree

Of the output of a worktree only a few turns change the lines: an agent's line is
appended, and a history is put in front.  All others leave the lines, the mark and
the note that the history was asked for as they are, or they ask for the history and
set the mark at the lines there are (`Turn.Spares`).
-/

namespace AgentConsole

open Transcript

namespace Console

/-! ### The log of a worktree -/

/-- Replacing one log leaves the others. -/
theorem logOf_of_set {c d : Console} {id : WorktreeId} {log : Log}
    (h : d.logs = c.logs.set id log) (other : WorktreeId) :
    d.logOf other = if id = other then log else c.logOf other := by
  unfold logOf
  rw [h, Table.get?_set]
  split <;> rfl

/-- The lines, the mark and whether the history was asked for are the same. -/
structure Keeps (w : WorktreeId) (c d : Console) : Prop where
  lines : (d.logOf w).lines = (c.logOf w).lines
  mark : (d.logOf w).mark = (c.logOf w).mark
  asked : w ∈ d.historyAsked ↔ w ∈ c.historyAsked

namespace Keeps

variable {w : WorktreeId} {c d e : Console}

theorem trans (h : Keeps w c d) (h' : Keeps w d e) : Keeps w c e :=
  ⟨h'.lines.trans h.lines, h'.mark.trans h.mark, h'.asked.trans h.asked⟩

/-- With the same logs and questions, everything is kept. -/
theorem of_eq (hl : d.logs = c.logs) (ha : d.historyAsked = c.historyAsked) : Keeps w c d := by
  have hlog : d.logOf w = c.logOf w := by
    unfold logOf
    rw [hl]
  exact ⟨by rw [hlog], by rw [hlog], by rw [ha]⟩

theorem of_beside (h : c.Beside d) : Keeps w c d :=
  of_eq (congrArg (·.2.2.2.1) h.world) (congrArg (·.2.2.2.2.1) h.world)

/-- Laying out anew keeps the lines and the mark. -/
theorem relayout (c : Console) : Keeps w c c.relayout := by
  have hlog : c.relayout.logOf w
      = ((c.logs.get? w).map (Log.relayout c.canvas)).getD {} := by
    show (((c.logs.map (Log.relayout c.canvas)).get? w).getD {}) = _
    rw [Table.get?_map]
  -- the lines are laid out again, and so neither they nor the mark change
  refine ⟨?_, ?_, Iff.rfl⟩
  all_goals
    rw [hlog]
    unfold logOf
    rcases c.logs.get? w with - | log
    · rfl
    · simp

theorem of_set {id : WorktreeId} {log : Log} (hid : id ≠ w) (hl : d.logs = c.logs.set id log)
    (ha : w ∈ d.historyAsked ↔ w ∈ c.historyAsked) : Keeps w c d := by
  have hlog : d.logOf w = c.logOf w := (logOf_of_set hl w).trans (if_neg hid)
  exact ⟨by rw [hlog], by rw [hlog], ha⟩

/-- Forgetting what is gone leaves a worktree alone that is still there. -/
theorem forgetGone (h : w ∈ c.worktreeIds) : Keeps w c c.forgetGone := by
  have hpresent : c.worktreeIds.contains w = true := List.contains_iff_mem.mpr h
  have hlog : c.forgetGone.logOf w = c.logOf w := by
    show (((c.logs.retain c.worktreeIds.contains).get? w).getD {}) = _
    rw [Table.get?_retain, if_pos hpresent]
    rfl
  refine ⟨by rw [hlog], by rw [hlog], ?_⟩
  show w ∈ c.historyAsked.filter c.worktreeIds.contains ↔ _
  rw [List.mem_filter]
  exact and_iff_left hpresent

end Keeps

end Console

/-! ### Turns -/

/-- A turn that leaves the output of a worktree alone, apart from asking for its
history, which it does once and together with setting the mark. -/
inductive Turn.Spares (w : WorktreeId) (c : Console) (t : Turn) : Prop where
  | kept (h : c.Keeps w t.console) (hr : .fetchHistory w ∉ t.requests)
  | asked (hc : w ∉ c.historyAsked) (ht : w ∈ t.console.historyAsked)
    (lines : (t.console.logOf w).lines = (c.logOf w).lines)
    (mark : (t.console.logOf w).mark = some (c.logOf w).lines.length)
    (hr : .fetchHistory w ∈ t.requests)

namespace Turn.Spares

variable {w : WorktreeId} {c d : Console} {t : Turn}

theorem quiet (h : c.Keeps w d) : d.quiet.Spares w c := .kept h List.not_mem_nil

/-- What is kept before the turn makes no difference. -/
theorem of_keeps (h : c.Keeps w d) (ht : t.Spares w d) : t.Spares w c := by
  cases ht with
  | kept hd hr => exact .kept (h.trans hd) hr
  | asked hd ha lines mark hr =>
    exact .asked (fun hc => hd (h.asked.mpr hc)) ha (lines.trans h.lines) (h.lines ▸ mark) hr

/-- In both cases the lines stay. -/
theorem lines_eq (h : t.Spares w c) : (t.console.logOf w).lines = (c.logOf w).lines := by
  cases h with
  | kept hc => exact hc.lines
  | asked _ _ hlines => exact hlines

theorem andThen {next : Console → Turn} (h : t.Spares w c)
    (hnext : (next t.console).Spares w t.console) : (t.andThen next).Spares w c := by
  cases h with
  | kept hc hr =>
    cases hnext.of_keeps hc with
    | kept hd hr' => exact .kept hd fun hmem => (List.mem_append.mp hmem).elim hr hr'
    | asked hd ha lines mark hr' =>
      exact .asked hd ha lines mark (List.mem_append_right _ hr')
  | asked hc ha lines mark hr =>
    cases hnext with
    | kept hd _ =>
      exact .asked hc (hd.asked.mpr ha) (hd.lines.trans lines) (hd.mark.trans mark)
        (List.mem_append_left _ hr)
    | asked hd =>
      -- the first turn has asked, so the second does not
      exact absurd ha hd

theorem ask (h : t.Spares w c) {r : Request} (hr : r ≠ .fetchHistory w) :
    (t.ask r).Spares w c := by
  cases h with
  | kept hc ht =>
    refine .kept hc fun hmem => ?_
    rcases List.mem_append.mp hmem with hmem | hmem
    · exact ht hmem
    · exact hr (List.mem_singleton.mp hmem).symm
  | asked hc ha lines mark ht => exact .asked hc ha lines mark (List.mem_append_left _ ht)

theorem of_aside (h : t.Aside c) : t.Spares w c :=
  .kept (.of_beside h.beside) fun hmem => absurd (h.requests _ hmem) Bool.false_ne_true

theorem of_fetches (h : t.Fetches c) : t.Spares w c := by
  obtain ⟨refresh, remoteStarted, hconsole⟩ := h.console
  refine .kept ?_ fun hmem => h.requests _ hmem w rfl
  rw [hconsole]
  exact .of_eq rfl rfl

end Turn.Spares

namespace Console

variable (w : WorktreeId)

/-- A look at the worktree asks for its history, the first time. -/
theorem spares_view (c : Console) (id : WorktreeId) : (c.view id).Spares w c := by
  unfold view
  split
  · exact .quiet (.of_eq rfl rfl)
  · dsimp only
    split
    · exact .kept (.of_eq rfl rfl) List.not_mem_nil
    · rename_i hasked
      have hnew : id ∉ c.historyAsked := fun h => hasked (List.contains_iff_mem.mpr h)
      -- the mark is set in the log of `id` and in no other
      by_cases hid : id = w
      · subst hid
        have hlog {d : Console} (hd : d.logs = c.logs.set id (c.logOf id).markHistory) :
            d.logOf id = (c.logOf id).markHistory := (logOf_of_set hd id).trans (if_pos rfl)
        refine .asked hnew List.mem_cons_self ?_ ?_ List.mem_cons_self
        · exact (congrArg Log.lines (hlog rfl)).trans (Log.lines_markHistory _)
        · exact (congrArg Log.mark (hlog rfl)).trans (Log.mark_markHistory _)
      · refine .kept (.of_set hid rfl ?_) ?_
        · show w ∈ id :: c.historyAsked ↔ _
          rw [List.mem_cons]
          exact or_iff_right (Ne.symm hid)
        · intro hmem
          exact hid (Request.fetchHistory.inj (List.mem_singleton.mp hmem)).symm

theorem spares_applyTheme (c : Console) (name : String) : (c.applyTheme name).Spares w c := by
  have htheme : Keeps w c { c with theme := (c.themes name).1 } := .of_eq rfl rfl
  exact .kept (htheme.trans (.relayout _)) List.not_mem_nil

theorem spares_onKey (c : Console) (key : Key) (now : Moment) : (c.onKey key now).Spares w c :=
  onKey_induction (P := fun c t => t.Spares w c) Turn.Spares.of_aside (spares_view w)
    (spares_applyTheme w) Turn.Spares.andThen c key now

theorem spares_ensureViewed (c : Console) : c.ensureViewed.Spares w c :=
  ensureViewed_induction (P := fun c t => t.Spares w c) Turn.Spares.of_aside (spares_view w)
    Turn.Spares.andThen c

theorem spares_onSnapshot (c : Console) {s : Snapshot} (hs : w ∈ s.worktrees.map (·.id))
    (time : Nat) : (c.onSnapshot s time).Spares w c := by
  have hnew : Keeps w c { c with snapshot := s } := .of_eq rfl rfl
  have hcompleted := Turn.Spares.of_keeps hnew (.of_fetches (fetches_completed _ .localStatus time))
  -- nothing of `w` is forgotten, since the snapshot has it
  refine (hcompleted.andThen (.of_keeps (.forgetGone ?_) (spares_ensureViewed w _))).andThen
    (.of_fetches (fetches_startRemote _))
  exact hs

/-! ### Lines and histories -/

/-- A line goes to the end of its worktree's lines and nowhere else. -/
theorem logs_onOutput (c : Console) (id : WorktreeId) (line : Text) :
    (c.onOutput id line).logs = c.logs.set id ((c.logOf id).push c.canvas line)
      ∧ (c.onOutput id line).historyAsked = c.historyAsked := by
  unfold onOutput
  dsimp only
  split <;> exact ⟨rfl, rfl⟩

/-- A history that arrives goes to one log. -/
theorem logs_onHistory (c : Console) (id : WorktreeId) (lines : List Text) :
    (c.onHistory id lines).logs = c.logs.set id ((c.logOf id).applyHistory c.canvas lines)
      ∧ (c.onHistory id lines).historyAsked = c.historyAsked := by
  unfold onHistory
  dsimp only
  split <;> exact ⟨rfl, rfl⟩

theorem logOf_onOutput (c : Console) (line : Text) :
    (c.onOutput w line).logOf w = (c.logOf w).push c.canvas line :=
  (logOf_of_set (logs_onOutput c w line).1 w).trans (if_pos rfl)

theorem logOf_onHistory (c : Console) (lines : List Text) :
    (c.onHistory w lines).logOf w = (c.logOf w).applyHistory c.canvas lines :=
  (logOf_of_set (logs_onHistory c w lines).1 w).trans (if_pos rfl)

end Console

/-! ### Events -/

/-- The event does not concern the output of the worktree: it brings neither a line
nor a history of it, and the worktree is not gone. -/
def Event.Spares (w : WorktreeId) : Event → Prop
  | .session (.output _ id _) | .history id _ | .historyFailed id _ => id ≠ w
  | .snapshot s => w ∈ s.worktrees.map (·.id)
  | _ => True

namespace Console

theorem spares_onSession (w : WorktreeId) (c : Console) {event : SessionEvent}
    (he : (Event.session event).Spares w) (time : Nat) : (c.onSession event time).Spares w c := by
  rcases onSession_cases c event time with ⟨snapshot, haside⟩ | ⟨session, id, line, rfl⟩
  · have hnew : Keeps w c { c with snapshot } := .of_eq rfl rfl
    exact .of_keeps hnew (.of_aside haside)
  · obtain ⟨hlogs, hasked⟩ := logs_onOutput c id line
    refine .quiet (.of_set he hlogs ?_)
    rw [hasked]

/-- Every event that does not concern the output of a worktree spares it. -/
theorem spares_handle (w : WorktreeId) (c : Console) {event : Event} (he : event.Spares w)
    (now : Moment) : (c.handle event now).Spares w c := by
  -- only lines and histories write to logs, and both say for which worktree
  cases event with
  | key key => exact spares_onKey w c key now
  | resize width height =>
    refine .quiet (Keeps.trans ?_ (.relayout _))
    exact .of_eq rfl rfl
  | timer purpose generation =>
    by_cases hp : purpose = .toasts
    · have haside : (Event.timer purpose generation).isAside := decide_eq_true hp
      exact .of_aside (aside_handle c haside now)
    · exact .of_fetches (fetches_onTimer c hp generation _)
  | snapshot s => exact spares_onSnapshot w c he _
  | snapshotFailed error =>
    have hcompleted := fetches_completed c .localStatus now.clock
    exact .of_fetches ⟨hcompleted.console, hcompleted.requests⟩
  | remoteStatus statuses =>
    have hremote : Keeps w c { c with remote := c.remote.merge statuses } := .of_eq rfl rfl
    have hcompleted :=
      fetches_completed { c with remote := c.remote.merge statuses } .remoteStatus now.clock
    exact .of_keeps hremote (.of_fetches ⟨hcompleted.console, hcompleted.requests⟩)
  | history id lines =>
    obtain ⟨hlogs, hasked⟩ := logs_onHistory c id lines
    refine .quiet (.of_set he hlogs ?_)
    rw [hasked]
  | historyFailed id error =>
    refine .kept ⟨rfl, rfl, ?_⟩ List.not_mem_nil
    show w ∈ c.historyAsked.filter (· ≠ id) ↔ _
    rw [List.mem_filter]
    exact and_iff_left (decide_eq_true (Ne.symm he))
  | session event => exact (spares_onSession w c he _).ask Request.noConfusion
  | commandDone command =>
    exact (Turn.Spares.of_aside (aside_toast (.refl c) _ _ _)).andThen
      (.of_fetches (fetches_fetchNow _))
  | paste | sessionsClosed | commandFailed | copied | copyFailed =>
    exact .of_aside (aside_handle c rfl now)

end Console

end AgentConsole
