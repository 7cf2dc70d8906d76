import AgentConsole.Console.Render
import AgentConsole.Proofs.Console.Output
import AgentConsole.Proofs.Console.Reach
import AgentConsole.Proofs.Toast

/-!
# What comes too late

What the console asks for comes back whenever it is ready: by then the user may have gone on
to another worktree, the worktree may be gone, or the timer may have been set anew.  Such an
event is stale (`Console.IsStale`).  It is not turned away: a history is put into the log of
its worktree and a word of the forge into the table, under an identity at which nobody looks.

The reason that this does no harm is what the frame is painted from.  It reads the table of
the forge at worktrees of the snapshot only, and of the logs only the one that is viewed, so
two consoles that agree there have the same screen (`Console.SameSight.render`).  A stale event
leads to such a console (`IsStale.sameSight`), and so does any number of them in turn.
-/

namespace AgentConsole

/-! ### Timers -/

theorem Cadence.onTimer_of_ne {c : Cadence} {generation : Nat}
    (h : c.timer.armed? ≠ some generation) : c.onTimer generation = (c, false) := by
  unfold onTimer
  rw [Timer.fire?_of_ne h]

theorem Refresh.onTimer_of_ne {r : Refresh} {purpose : Purpose} {c : Cadence} {generation : Nat}
    (hc : r.cadence? purpose = some c) (h : c.timer.armed? ≠ some generation) :
    r.onTimer purpose generation = (r, false) := by
  have hset : r.set purpose c = r := by
    cases purpose with
    | toasts => rfl
    | localStatus | remoteStatus =>
      obtain rfl := Option.some.inj hc
      rfl
  unfold onTimer
  rw [hc]
  dsimp only
  rw [Cadence.onTimer_of_ne h, hset]

/-! ### Where the painters look -/

namespace View

/-- The header shows what the forge says of a worktree that the snapshot has. -/
theorem header_congr (theme : Theme) {snapshot : Snapshot} {selected : Option WorktreeId}
    {r r' : Option RemoteStatus}
    (h : ∀ w, selected.bind snapshot.worktree? = some w → r = r') (width : Nat) :
    header theme snapshot selected r width = header theme snapshot selected r' width := by
  rcases hw : selected.bind snapshot.worktree? with - | w
  · -- no worktree is named, and so nothing is said of one
    unfold header
    rw [hw]
    rfl
  · rw [h w hw]

/-- The list of worktrees shows what the forge says of those in it. -/
theorem worktreeList_congr (theme : Theme) {snapshot : Snapshot} (selected : Option WorktreeId)
    {remotes remotes' : WorktreeId → Option RemoteStatus}
    (h : ∀ w ∈ snapshot.worktrees, remotes w.id = remotes' w.id) (width height : Nat) :
    worktreeList theme snapshot selected remotes width height
      = worktreeList theme snapshot selected remotes' width height := by
  have hrows : (snapshot.worktrees.mapIdx fun i w =>
        worktreeRow theme snapshot selected remotes width i w)
      = snapshot.worktrees.mapIdx fun i w =>
        worktreeRow theme snapshot selected remotes' width i w := by
    refine List.ext_getElem (by simp) fun i hi _ => ?_
    have hlength : i < snapshot.worktrees.length := by simpa using hi
    simp only [List.getElem_mapIdx]
    unfold worktreeRow
    rw [h _ (List.getElem_mem hlength)]
  unfold worktreeList
  rw [hrows]

end View

namespace Console

variable {c d e : Console} {event : Event}

/-! ### Consoles with the same screen -/

/-- The consoles differ in what is looked at neither on the screen nor by the user: in what
the forge says of worktrees that the snapshot does not have, in the logs of worktrees that are
not viewed, and in what was asked for. -/
structure SameSight (c d : Console) : Prop where
  rest : ∃ remote logs historyAsked refresh, d = { c with remote, logs, historyAsked, refresh }
  remote : ∀ id ∈ c.worktreeIds, d.remote.get? id = c.remote.get? id
  log : ∀ id, c.selected = some id → d.logOf id = c.logOf id

namespace SameSight

theorem refl (c : Console) : c.SameSight c :=
  ⟨⟨c.remote, c.logs, c.historyAsked, c.refresh, rfl⟩, fun _ _ => rfl, fun _ _ => rfl⟩

/-- What is the same twice is the same. -/
theorem trans (h : c.SameSight d) (h' : d.SameSight e) : c.SameSight e := by
  obtain ⟨⟨remote, logs, historyAsked, refresh, rfl⟩, hremote, hlog⟩ := h
  obtain ⟨⟨remote', logs', historyAsked', refresh', rfl⟩, hremote', hlog'⟩ := h'
  refine ⟨⟨remote', logs', historyAsked', refresh', rfl⟩, fun id hid => ?_, fun id hid => ?_⟩
  · exact (hremote' id hid).trans (hremote id hid)
  · exact (hlog' id hid).trans (hlog id hid)

/-- The same rows are viewed. -/
theorem viewedRows (h : c.SameSight d) : d.viewedRows = c.viewedRows := by
  obtain ⟨⟨remote, logs, historyAsked, refresh, rfl⟩, -, hlog⟩ := h
  rcases hid : c.selected with - | id
  · simp only [Console.viewedRows, hid, Option.map_none]
  · simp only [Console.viewedRows, hid, Option.map_some, Option.getD_some]
    exact congrArg Transcript.Log.rows (hlog id hid)

theorem renderOutput (h : c.SameSight d) : d.renderOutput = c.renderOutput := by
  have hrows := h.viewedRows
  obtain ⟨⟨remote, logs, historyAsked, refresh, rfl⟩, -, -⟩ := h
  unfold Console.renderOutput
  rw [hrows]
  rfl

theorem renderBody (h : c.SameSight d) : d.renderBody = c.renderBody := by
  have houtput := h.renderOutput
  have hlist := View.worktreeList_congr c.theme c.selected
    (fun w hw => h.remote w.id (List.mem_map_of_mem hw)) c.layout.sidebarWidth c.layout.bodyHeight
  obtain ⟨⟨remote, logs, historyAsked, refresh, rfl⟩, -, -⟩ := h
  unfold Console.renderBody
  dsimp only at houtput hlist ⊢
  rw [houtput]
  exact congrArg (fun list => if c.layout.hasSidebar then Styled.beside [list, _, c.renderOutput]
    else c.renderOutput) hlist

theorem renderMain (h : c.SameSight d) : d.renderMain = c.renderMain := by
  have hbody := h.renderBody
  have hheader : View.header c.theme c.snapshot c.selected (c.selected.bind d.remote.get?) c.width
      = View.header c.theme c.snapshot c.selected (c.selected.bind c.remote.get?) c.width := by
    refine View.header_congr _ (fun w hw => ?_) _
    -- the worktree that is named is one of the snapshot
    obtain ⟨id, hid, hfound⟩ := Option.bind_eq_some_iff.mp hw
    have hmem : id ∈ c.worktreeIds := by
      have hw := List.mem_map_of_mem (f := Worktree.id) (List.mem_of_find?_eq_some hfound)
      have heq : w.id = id := by simpa using List.find?_some hfound
      exact heq ▸ hw
    rw [hid]
    exact h.remote id hmem
  obtain ⟨⟨remote, logs, historyAsked, refresh, rfl⟩, -, -⟩ := h
  unfold Console.renderMain
  rw [hbody]
  exact congrArg (fun header => header ++ '\n' :: c.renderBody ++ _) hheader

/-- **Two such consoles have the same screen**, character for character. -/
theorem render (h : c.SameSight d) : d.render = c.render := by
  have hmain := h.renderMain
  obtain ⟨⟨remote, logs, historyAsked, refresh, rfl⟩, -, -⟩ := h
  unfold Console.render
  rw [hmain]
  rfl

end SameSight

/-! ### Stale events -/

/-- The timer of a purpose. -/
def timer (c : Console) : Purpose → Timer
  | .toasts => c.toasts.timer
  | .localStatus => c.refresh.local.timer
  | .remoteStatus => c.refresh.remote.timer

/-- The event comes too late: it tells of a worktree that is not viewed, of worktrees that are
gone, or of a generation that the timer is not armed with. -/
inductive IsStale (c : Console) : Event → Prop
  | history {id : WorktreeId} (h : c.selected ≠ some id) (lines : List Text) :
    IsStale c (.history id lines)
  | historyFailed {id : WorktreeId} (h : c.selected ≠ some id) (error : Text) :
    IsStale c (.historyFailed id error)
  | output (session : SessionId) {id : WorktreeId} (h : c.selected ≠ some id) (line : Text) :
    IsStale c (.session (.output session id line))
  | remoteStatus {statuses : Table WorktreeId RemoteStatus}
    (h : ∀ id ∈ c.worktreeIds, statuses.get? id = none) : IsStale c (.remoteStatus statuses)
  | timer {purpose : Purpose} {generation : Nat} (h : (c.timer purpose).armed? ≠ some generation) :
    IsStale c (.timer purpose generation)

/-- A log of a worktree that is not viewed is exchanged. -/
theorem sameSight_set {id : WorktreeId} (h : c.selected ≠ some id) (log : Transcript.Log) :
    c.SameSight { c with logs := c.logs.set id log } where
  rest := ⟨c.remote, c.logs.set id log, c.historyAsked, c.refresh, rfl⟩
  remote _ _ := rfl
  log other hother := by
    have hne : ¬ id = other := fun heq => h (heq ▸ hother)
    exact (logOf_of_set rfl other).trans (if_neg hne)

/-- A timer that is not armed with the generation does nothing at all. -/
theorem onTimer_of_ne {purpose : Purpose} {generation : Nat}
    (h : (c.timer purpose).armed? ≠ some generation) (time : Nat) :
    c.onTimer purpose generation time = c.quiet := by
  -- toasts have a timer of their own, and each status has a cadence
  cases purpose with
  | toasts =>
    unfold onTimer
    rw [ToastQueue.onTimer_of_ne h]
    rfl
  | localStatus =>
    have hrefresh : c.refresh.onTimer .localStatus generation = (c.refresh, false) :=
      Refresh.onTimer_of_ne rfl h
    unfold onTimer
    rw [hrefresh]
    rfl
  | remoteStatus =>
    have hrefresh : c.refresh.onTimer .remoteStatus generation = (c.refresh, false) :=
      Refresh.onTimer_of_ne rfl h
    unfold onTimer
    rw [hrefresh]
    rfl

/-- **A stale event leads to a console with the same screen.** -/
theorem IsStale.sameSight (h : c.IsStale event) (now : Moment) :
    c.SameSight (c.handle event now).console := by
  -- one case for each way to be stale; logs, statuses and timers are changed where nobody looks
  cases h with
  | @history id h lines =>
    show c.SameSight (c.onHistory id lines)
    unfold onHistory
    dsimp only
    rw [if_neg h]
    exact sameSight_set h _
  | @historyFailed id h error =>
    exact ⟨⟨_, _, _, _, rfl⟩, fun _ _ => rfl, fun _ _ => rfl⟩
  | @output session id h line =>
    show c.SameSight (c.onOutput id line)
    unfold onOutput
    dsimp only
    rw [if_neg h]
    exact sameSight_set h _
  | @remoteStatus statuses h =>
    refine ⟨⟨_, _, _, _, rfl⟩, fun id hid => ?_, fun _ _ => rfl⟩
    show (c.remote.merge statuses).get? id = c.remote.get? id
    rw [Table.get?_merge, h id hid]
    rfl
  | @timer purpose generation h =>
    show c.SameSight (c.onTimer purpose generation now.clock).console
    rw [onTimer_of_ne h]
    exact .refl c

/-- Some stale events in turn, each of which is stale in the state that it meets. -/
inductive StaleRun : Console → Console → Prop
  | refl (c : Console) : StaleRun c c
  | handle {c d : Console} (h : StaleRun c d) {event : Event} (hevent : d.IsStale event)
    (now : Moment) : StaleRun c (d.handle event now).console

theorem StaleRun.sameSight (h : c.StaleRun d) : c.SameSight d := by
  induction h with
  | refl => exact .refl _
  | handle _ hevent now ih => exact ih.trans (hevent.sameSight now)

/-- Nothing that the user sees or is about to do has changed. -/
structure Unmoved (c d : Console) : Prop where
  focus : d.focus = c.focus
  selected : d.selected = c.selected
  scroll : d.scroll = c.scroll
  visibleRows : d.visibleRows = c.visibleRows
  toasts : d.toasts = c.toasts
  snapshot : d.snapshot = c.snapshot
  render : d.render = c.render

/-- What is the same looks the same. -/
theorem SameSight.unmoved (h : c.SameSight d) : c.Unmoved d := by
  have hrows := h.viewedRows
  have hrender := h.render
  obtain ⟨⟨remote, logs, historyAsked, refresh, rfl⟩, -, -⟩ := h
  refine ⟨rfl, rfl, rfl, ?_, rfl, rfl, hrender⟩
  unfold Console.visibleRows
  rw [hrows]
  rfl

/-- What comes too late does no harm: one event, some of them in turn, and whatever else makes a
difference only where nobody looks. -/
structure IgnoresStale (c : Console) : Prop where
  event : ∀ event now, c.IsStale event → c.Unmoved (c.handle event now).console
  run : ∀ d, c.StaleRun d → c.Unmoved d
  /-- Two consoles that agree where the painters look have the same screen. -/
  screen : ∀ d, c.SameSight d → d.render = c.render

/-- **What comes too late does no harm.** -/
theorem ignoresStale (c : Console) : c.IgnoresStale where
  event _ now h := (h.sameSight now).unmoved
  run _ h := h.sameSight.unmoved
  screen _ h := h.render

end Console

end AgentConsole
