import AgentConsole.Proofs.Console.Focus
import AgentConsole.Proofs.Console.Output
import AgentConsole.Proofs.Frame.Scroll

/-!
# What is in sight

Which rows of output the screen shows depends on little of the console: the size of the
terminal, the worktrees there are, which of them is viewed, the rows of each, where the
view stands, and where the views of the other worktrees stood.  That is what is in sight
(`Console.sight`).

`shift_handle` says all that an event can do to it, once and for every event: a key
moves the view, or chooses another worktree to look at, or a theme; a snapshot tells which
worktrees there are; a history and a line change the rows of one worktree; a resize lays
out all rows anew; and everything else keeps what is in sight as it is.  What is to be
shown of scroll positions and of the viewed worktree follows by cases (`Shift`), and by
one induction for all states that the console comes to (`Reachable.sight_induction`).
-/

namespace AgentConsole

open Transcript

namespace Transcript

/-- The rows of an agent's output: those of the closed blocks, which stay as they are, and
those of the open block, which every line can change. -/
structure Sheet where
  closed : List Text := []
  opened : List Text := []

/-- All rows. -/
def Sheet.rows (sheet : Sheet) : List Text := sheet.closed ++ sheet.opened

/-- The rows of a log. -/
def Log.sheet (log : Log) : Sheet := ⟨log.closedRows, log.openRows⟩

end Transcript

/-- What decides which rows of output are shown, now and after the next steps. -/
@[ext] structure Sight where
  layout : Frame.Layout
  /-- The worktrees that the last snapshot told of. -/
  present : List WorktreeId
  selected : Option WorktreeId
  /-- The rendered output of each worktree. -/
  sheets : WorktreeId → Sheet
  scroll : ScrollView
  memory : ScrollMemory WorktreeId

namespace Sight

/-- The rows of the worktree that is viewed. -/
def viewed (s : Sight) : List Text := (s.selected.map fun id => (s.sheets id).rows).getD []

/-- What is viewed are the rows of the worktree that is selected. -/
theorem viewed_of_selected {s : Sight} {id : WorktreeId} (h : s.selected = some id) :
    s.viewed = (s.sheets id).rows := by
  unfold viewed
  rw [h]
  rfl

theorem viewed_of_none {s : Sight} (h : s.selected = none) : s.viewed = [] := by
  unfold viewed
  rw [h]
  rfl

/-- The view is told how many rows there are and how many are shown. -/
def sync (s : Sight) : Sight :=
  { s with scroll := s.scroll.resize s.viewed.length s.layout.bodyHeight }

/-- Another worktree is looked at, from where its view stood. -/
def look (s : Sight) (id : WorktreeId) : Sight :=
  if s.selected = some id then s
  else
    let (scroll, memory) := s.memory.switch s.selected s.scroll id
    { s with selected := some id, scroll, memory }.sync

/-- The rows of a worktree change. -/
def put (s : Sight) (id : WorktreeId) (sheet : Sheet) : Sight :=
  { s with sheets := fun other => if id = other then sheet else s.sheets other }

/-- The rows of a worktree are replaced, and the view is told if it is the viewed one. -/
def refill (s : Sight) (id : WorktreeId) (sheet : Sheet) : Sight :=
  if s.selected = some id then (s.put id sheet).sync else s.put id sheet

/-- A worktree's rows change at their end, and the view moves with what it gains. -/
def write (s : Sight) (id : WorktreeId) (sheet : Sheet) : Sight :=
  if s.selected = some id then
    let gain := sheet.rows.length - (s.sheets id).rows.length
    { s.put id sheet with scroll := s.scroll.append gain }.sync
  else s.put id sheet

/-- What is gone is forgotten. -/
def forget (s : Sight) (present : List WorktreeId) : Sight :=
  { s with
    present
    sheets := fun id => if present.contains id then s.sheets id else {}
    memory := s.memory.retain present.contains }

/-- Looks at the first worktree if the viewed one is gone. -/
def ensure (s : Sight) : Sight :=
  if s.selected.any s.present.contains then s
  else
    let s := { s with selected := none, scroll := {} }
    match s.present.head? with
    | none => s
    | some first => s.look first

/-- The viewed worktree is still there, or none is left, or the first one is looked at. -/
theorem ensure_cases (s : Sight) :
    (∃ id ∈ s.present, s.selected = some id ∧ s.ensure = s) ∨
      s.present = [] ∧ s.ensure = { s with selected := none, scroll := {} } ∨
      ∃ first ∈ s.present, s.ensure = { s with selected := none, scroll := {} }.look first := by
  unfold ensure
  split
  · rename_i hthere
    rcases hs : s.selected with - | id
    · rw [hs] at hthere
      exact absurd hthere Bool.false_ne_true
    · rw [hs] at hthere
      exact .inl ⟨id, List.contains_iff_mem.mp hthere, rfl, rfl⟩
  · dsimp only
    split
    · exact .inr (.inl ⟨List.head?_eq_none_iff.mp ‹_›, rfl⟩)
    · exact .inr (.inr ⟨_, List.mem_of_head? ‹_›, rfl⟩)

/-- A look selects. -/
@[simp] theorem selected_look (s : Sight) (id : WorktreeId) : (s.look id).selected = some id := by
  unfold look
  split
  · assumption
  · rfl

@[simp] theorem present_look (s : Sight) (id : WorktreeId) : (s.look id).present = s.present := by
  unfold look
  split <;> rfl

@[simp] theorem layout_look (s : Sight) (id : WorktreeId) : (s.look id).layout = s.layout := by
  unfold look
  split <;> rfl

end Sight

/-- The motion that a key of the main output stands for. -/
def ScrollView.Motion.ofCode? : KeyCode → Option ScrollView.Motion
  | .up | .char 'k' => some .up
  | .down | .char 'j' => some .down
  | .pageUp => some .pageUp
  | .pageDown => some .pageDown
  | .home | .char 'g' => some .top
  | .«end» | .char 'G' => some .pin
  | _ => none

namespace Console

open ScrollView (Motion)

/-- What is in sight. -/
def sight (c : Console) : Sight :=
  ⟨c.layout, c.worktreeIds, c.selected, fun id => (c.logOf id).sheet, c.scroll, c.scrollMemory⟩

theorem viewed_sight {c : Console} {id : WorktreeId} (hid : c.selected = some id) :
    c.sight.viewed = c.outputRows id := Sight.viewed_of_selected hid

/-- The worktrees that a key can choose to look at: any of the snapshot, from the main
output, or what is selected in one of the two lists. -/
inductive Offers (c : Console) (key : Key) : WorktreeId → Prop where
  | listed {w : Worktree} (hmain : c.focus.current = .mainOutput)
    (hw : w ∈ c.snapshot.worktrees) : Offers c key w.id
  | picked {id : String} (hpicker : c.focus.current = .worktreePicker)
    (hkey : key.code = .enter) (hid : c.picker.selectedId? = some id) : Offers c key ⟨id⟩
  | browsed {s : Session} (hbrowser : c.focus.current = .sessionBrowser)
    (hkey : key.code = .enter)
    (hs : (c.browser.selectedId?.bind fun id => c.snapshot.session? ⟨id⟩) = some s) :
    Offers c key s.worktree

/-- What an event can do to what is in sight. -/
inductive Shift (c : Console) : Event → Sight → Prop where
  | kept {event : Event} : Shift c event c.sight
  | moved {event : Event} (m : Motion) (hmain : c.focus.current = .mainOutput)
    (hkey : event.Strikes (Motion.ofCode? ·.code = some m)) :
    Shift c event { c.sight with scroll := m.apply c.scroll }
  | looked {event : Event} {id : WorktreeId} (hkey : event.Strikes (c.Offers · id)) :
    Shift c event (c.sight.look id)
  | themed {event : Event} (sheets : WorktreeId → Sheet)
    (hsettings : c.focus.current = .settings) (hkey : event.Strikes (·.code = .enter)) :
    Shift c event { c.sight with sheets }.sync
  | resized (width height : Nat) (sheets : WorktreeId → Sheet) :
    Shift c (.resize width height) { c.sight with layout := ⟨width, height⟩, sheets }.sync
  | told (s : Snapshot) :
    Shift c (.snapshot s) (c.sight.forget (s.worktrees.map (·.id))).ensure
  | refilled (id : WorktreeId) (lines : List Text) (sheet : Sheet) :
    Shift c (.history id lines) (c.sight.refill id sheet)
  | written (session : SessionId) (id : WorktreeId) (line : Text) :
    Shift c (.session (.output session id line))
      (c.sight.write id ((c.logOf id).push c.canvas line).sheet)

theorem Shift.of_eq {c : Console} {event : Event} {s : Sight} (h : s = c.sight) :
    c.Shift event s := h ▸ .kept

/-! ### What the parts of a turn do to it -/

theorem sight_openFocus (c : Console) (target : Target) :
    (c.openFocus target).console.sight = c.sight := by
  unfold openFocus
  split <;> rfl

/-- Asking for pull requests changes nothing that is seen. -/
theorem sight_startRemote (c : Console) : c.startRemote.console.sight = c.sight := by
  unfold startRemote
  split
  · rfl
  · dsimp only
    split <;> rfl

theorem sight_openTaskFlow (c : Console) (time : Nat) :
    (c.openTaskFlow time).console.sight = c.sight := by
  unfold openTaskFlow
  split
  · rfl
  · exact sight_openFocus _ _

theorem sight_openFollowUp (c : Console) (time : Nat) :
    (c.openFollowUp time).console.sight = c.sight := by
  unfold openFollowUp
  split
  · rfl
  · split
    · rfl
    · exact sight_openFocus _ _

theorem sight_askToStop (c : Console) (time : Nat) :
    (c.askToStop time).console.sight = c.sight := by
  unfold askToStop
  split
  · exact sight_openFocus _ _
  · rfl

theorem sight_openPicker (c : Console) (time : Nat) :
    (c.openPicker time).console.sight = c.sight := by
  unfold openPicker
  split
  · rfl
  · exact sight_openFocus _ _

theorem sight_openBrowser (c : Console) (now : Moment) :
    (c.openBrowser now).console.sight = c.sight := by
  unfold openBrowser
  split
  · rfl
  · exact sight_openFocus _ _

theorem sight_copyVisible (c : Console) (time : Nat) :
    (c.copyVisible time).console.sight = c.sight := by
  unfold copyVisible
  dsimp only
  split <;> rfl

theorem sight_requestQuit (c : Console) : c.requestQuit.console.sight = c.sight := by
  unfold requestQuit
  dsimp only
  split
  · rfl
  · exact sight_openFocus _ _

theorem sight_fetchNow (c : Console) : c.fetchNow.console.sight = c.sight := by
  unfold fetchNow
  split <;> rfl

theorem sight_applyTheme (c : Console) (name : String) :
    (c.applyTheme name).console.sight
      = { c.sight with sheets := (c.applyTheme name).console.sight.sheets }.sync := rfl

/-- Viewing a worktree is a look at it. -/
theorem sight_view (c : Console) (id : WorktreeId) :
    (c.view id).console.sight = c.sight.look id := by
  unfold view Sight.look
  by_cases hid : c.selected = some id
  · rw [if_pos hid, if_pos (show c.sight.selected = some id from hid)]
    rfl
  · rw [if_neg hid, if_neg (show ¬ c.sight.selected = some id from hid)]
    dsimp only
    split
    · rfl
    · -- the mark that is set in the log changes none of its rows
      have hsheets {d : Console} (hd : d.logs = c.logs.set id (c.logOf id).markHistory) :
          d.sight.sheets = c.sight.sheets := by
        funext other
        show (d.logOf other).sheet = (c.logOf other).sheet
        rw [logOf_of_set hd]
        split
        · rename_i hother
          rw [← hother]
          rfl
        · rfl
      exact Sight.ext rfl rfl rfl (hsheets rfl) rfl rfl

/-- Forgetting what is gone and looking at what is left. -/
theorem sight_ensureViewed (c : Console) : c.ensureViewed.console.sight = c.sight.ensure := by
  unfold ensureViewed Sight.ensure
  by_cases hthere : c.selected.any c.worktreeIds.contains
  · rw [if_pos hthere, if_pos (show c.sight.selected.any c.sight.present.contains from hthere)]
    rfl
  · rw [if_neg hthere,
      if_neg (show ¬ c.sight.selected.any c.sight.present.contains from hthere)]
    dsimp only
    split
    · rename_i hids
      rw [show c.sight.present.head? = none from congrArg List.head? hids]
      rfl
    · rename_i first rest hids
      rw [show c.sight.present.head? = some first from congrArg List.head? hids]
      exact sight_view _ first

/-- Worktrees that are gone are forgotten. -/
theorem sight_forgetGone (c : Console) :
    c.forgetGone.sight = c.sight.forget c.worktreeIds := by
  refine Sight.ext rfl rfl rfl ?_ rfl rfl
  funext id
  show (((c.logs.retain c.worktreeIds.contains).get? id).getD {}).sheet = _
  rw [Table.get?_retain]
  show _ = if c.worktreeIds.contains id then (c.logOf id).sheet else {}
  split <;> rfl

/-- A snapshot forgets some, and makes sure that one is viewed. -/
theorem sight_onSnapshot (c : Console) (s : Snapshot) (time : Nat) :
    (c.onSnapshot s time).console.sight = (c.sight.forget (s.worktrees.map (·.id))).ensure := by
  show (({ c with snapshot := s }.completed .localStatus time).console.forgetGone.ensureViewed.console.startRemote).console.sight
    = _
  rw [sight_startRemote, sight_ensureViewed, sight_forgetGone]
  rfl

theorem sight_set (c : Console) (id : WorktreeId) (log : Log) :
    { c with logs := c.logs.set id log }.sight = c.sight.put id log.sheet := by
  refine Sight.ext rfl rfl rfl ?_ rfl rfl
  funext other
  show (logOf { c with logs := c.logs.set id log } other).sheet = _
  rw [logOf_of_set rfl]
  show _ = if id = other then log.sheet else (c.logOf other).sheet
  split <;> rfl

/-- A history fills a sheet anew. -/
theorem sight_onHistory (c : Console) (id : WorktreeId) (lines : List Text) :
    (c.onHistory id lines).sight
      = c.sight.refill id ((c.logOf id).applyHistory c.canvas lines).sheet := by
  have hput := c.sight_set id ((c.logOf id).applyHistory c.canvas lines)
  unfold onHistory Sight.refill
  dsimp only
  by_cases hid : c.selected = some id
  · rw [if_pos hid, if_pos (show c.sight.selected = some id from hid), ← hput]
    rfl
  · rw [if_neg hid, if_neg (show ¬ c.sight.selected = some id from hid), ← hput]

/-- A line is written at the end of a sheet. -/
theorem sight_onOutput (c : Console) (id : WorktreeId) (line : Text) :
    (c.onOutput id line).sight = c.sight.write id ((c.logOf id).push c.canvas line).sheet := by
  have hput := c.sight_set id ((c.logOf id).push c.canvas line)
  unfold onOutput Sight.write
  dsimp only
  by_cases hid : c.selected = some id
  · rw [if_pos hid, if_pos (show c.sight.selected = some id from hid), ← hput]
    rfl
  · rw [if_neg hid, if_neg (show ¬ c.sight.selected = some id from hid), ← hput]

/-! ### Keys -/

section

variable (c : Console) (key : Key)

theorem sight_onFollowUpKey (session : SessionId) (time : Nat) :
    (c.onFollowUpKey session key time).console.sight = c.sight := by
  unfold onFollowUpKey
  generalize c.followUpEditor.handle key = read
  obtain ⟨editor, outcome⟩ := read
  cases outcome with
  | submit =>
    dsimp only
    split <;> rfl
  | cancel | quit | handled | unhandled => rfl

theorem sight_onTaskPickKey (time : Nat) :
    (c.onTaskPickKey key time).console.sight = c.sight := by
  have hyields := c.yields_onTaskPickKey key time
  generalize c.onTaskPickKey key time = t at hyields ⊢
  cases hyields with
  | take | miss | close | stay => rfl

theorem sight_onTaskPromptKey (time : Nat) :
    (c.onTaskPromptKey key time).console.sight = c.sight := by
  unfold onTaskPromptKey
  generalize c.taskEditor.handle key = read
  obtain ⟨editor, outcome⟩ := read
  cases outcome with
  | submit =>
    dsimp only
    split
    · rfl
    · split <;> rfl
  | cancel | quit | handled | unhandled => rfl

theorem sight_onHelpKey : (c.onHelpKey key).console.sight = c.sight := by
  unfold onHelpKey
  dsimp only
  split <;> rfl

theorem sight_onConfirmKey (question : Confirmation) :
    (c.onConfirmKey question key).console.sight = c.sight := by
  cases question with
  | quit | stopSession =>
    unfold onConfirmKey
    dsimp only
    split <;> rfl

end

section

variable {c : Console} {key : Key} (hkind : key.kind ≠ .release)

include hkind

/-- The keys over the output move the view or look elsewhere. -/
theorem shift_onMainKey (hmain : c.focus.current = .mainOutput) (now : Moment) :
    c.Shift (.key key) (c.onMainKey key now).console.sight := by
  have hmoved (m : Motion) (hm : Motion.ofCode? key.code = some m) :
      c.Shift (.key key) { c with scroll := m.apply c.scroll }.sight :=
    .moved m hmain ((Event.strikes_key_iff key).mpr ⟨hkind, hm⟩)
  have hlooked {w : Worktree} (hw : w ∈ c.snapshot.worktrees) :
      c.Shift (.key key) (c.view w.id).console.sight := by
    rw [sight_view]
    exact .looked ((Event.strikes_key_iff key).mpr ⟨hkind, .listed hmain hw⟩)
  have hcycle (steps : Int) : c.Shift (.key key) (c.cycle steps).console.sight := by
    unfold cycle
    dsimp only
    split
    · exact hlooked (List.mem_of_getElem? ‹_›)
    · exact .kept
  have hquick (index time : Nat) : c.Shift (.key key) (c.quickSelect index time).console.sight := by
    unfold quickSelect
    split
    · exact hlooked (List.mem_of_getElem? ‹_›)
    · exact .kept
  unfold onMainKey
  dsimp only
  split
  -- ten keys move the view, two go from worktree to worktree, the others open something
  · exact hmoved .up (congrArg Motion.ofCode? ‹_›)
  · exact hmoved .up (congrArg Motion.ofCode? ‹_›)
  · exact hmoved .down (congrArg Motion.ofCode? ‹_›)
  · exact hmoved .down (congrArg Motion.ofCode? ‹_›)
  · exact hmoved .pageUp (congrArg Motion.ofCode? ‹_›)
  · exact hmoved .pageDown (congrArg Motion.ofCode? ‹_›)
  · exact hmoved .top (congrArg Motion.ofCode? ‹_›)
  · exact hmoved .top (congrArg Motion.ofCode? ‹_›)
  · exact hmoved .pin (congrArg Motion.ofCode? ‹_›)
  · exact hmoved .pin (congrArg Motion.ofCode? ‹_›)
  · exact hcycle _
  · exact hcycle _
  · exact .of_eq (c.sight_openTaskFlow _)
  · exact .of_eq (c.sight_openFollowUp _)
  · exact .of_eq (c.sight_askToStop _)
  · exact .of_eq (c.sight_openPicker _)
  · exact .of_eq (c.sight_openBrowser _)
  · exact .of_eq (sight_openFocus _ _)
  · exact .kept
  · exact .of_eq (c.sight_copyVisible _)
  · exact .of_eq c.sight_requestQuit
  · split
    · exact hquick _ _
    · exact .kept
  · exact .kept

/-- In the list of worktrees, Enter looks at one. -/
theorem shift_onPickerKey (hpicker : c.focus.current = .worktreePicker) (time : Nat) :
    c.Shift (.key key) (c.onPickerKey key time).console.sight := by
  have hyields := c.yields_onPickerKey key time
  generalize c.onPickerKey key time = t at hyields ⊢
  cases hyields with
  | @take id hkey hrow =>
    have hlooked : c.Shift (.key key) (c.sight.look ⟨id⟩) :=
      .looked ((Event.strikes_key_iff key).mpr ⟨hkind, .picked hpicker hkey hrow⟩)
    exact (sight_view _ ⟨id⟩).symm ▸ hlooked
  | miss | close | stay => exact .kept

/-- In the list of sessions, Enter looks at the worktree of one. -/
theorem shift_onBrowserKey (hbrowser : c.focus.current = .sessionBrowser) (time : Nat) :
    c.Shift (.key key) (c.onBrowserKey key time).console.sight := by
  have hyields := c.yields_onBrowserKey key time
  generalize c.onBrowserKey key time = t at hyields ⊢
  cases hyields with
  | @take s hkey hrow =>
    have hlooked : c.Shift (.key key) (c.sight.look s.worktree) :=
      .looked ((Event.strikes_key_iff key).mpr ⟨hkind, .browsed hbrowser hkey hrow⟩)
    exact (sight_view _ s.worktree).symm ▸ hlooked
  | miss | close | stay => exact .kept

/-- In the settings, Enter changes the sheets. -/
theorem shift_onSettingsKey (hsettings : c.focus.current = .settings) (time : Nat) :
    c.Shift (.key key) (c.onSettingsKey key time).console.sight := by
  have hyields := c.yields_onSettingsKey key time
  generalize c.onSettingsKey key time = t at hyields ⊢
  cases hyields with
  | take hkey => exact .themed _ hsettings ((Event.strikes_key_iff key).mpr ⟨hkind, hkey⟩)
  | miss | close | stay => exact .kept

/-- What a key that is pressed or held does to what is in sight. -/
theorem shift_onKey (now : Moment) : c.Shift (.key key) (c.onKey key now).console.sight := by
  unfold onKey
  rw [if_neg hkind]
  split
  · exact .kept
  · split
    · exact .kept
    · -- the key goes to what has the focus
      split
      · exact shift_onMainKey hkind ‹_› now
      · exact .of_eq (sight_onFollowUpKey _ _ _ _)
      · exact shift_onPickerKey hkind ‹_› _
      · exact .of_eq (sight_onTaskPickKey _ _ _)
      · exact .of_eq (sight_onTaskPromptKey _ _ _)
      · exact .of_eq (sight_onHelpKey _ _)
      · exact .of_eq (sight_onConfirmKey _ _ _)
      · exact shift_onBrowserKey hkind ‹_› _
      · exact shift_onSettingsKey hkind ‹_› _

end

/-! ### Every event -/

/-- Of the events of a session, a line alone changes what is seen. -/
theorem shift_onSession (c : Console) (event : SessionEvent) (time : Nat) :
    c.Shift (.session event) (c.onSession event time).console.sight := by
  cases event with
  | started session =>
    refine .of_eq ?_
    show sight { c with snapshot := c.snapshot.putSession session } = c.sight
    unfold Snapshot.putSession
    split <;> rfl
  | statusChanged session status => exact .kept
  | output session id line =>
    rw [show (c.onSession (.output session id line) time).console.sight = _ from
      c.sight_onOutput id line]
    exact .written session id line
  | exited session code =>
    refine .of_eq ?_
    show (c.onExit session code time).console.sight = c.sight
    unfold onExit
    split
    · rfl
    · split
      · rfl
      · dsimp only
        split <;> rfl

/-- **What an event can do to what is in sight.** -/
theorem shift_handle (c : Console) (event : Event) (now : Moment) :
    c.Shift event (c.handle event now).console.sight := by
  -- keys have their own lemma; of the other events, four change what is seen
  cases event with
  | key key =>
    by_cases hkind : key.kind = .release
    · refine .of_eq ?_
      show (c.onKey key now).console.sight = c.sight
      rw [onKey_of_release hkind]
      rfl
    · exact shift_onKey hkind now
  | paste t =>
    refine .of_eq ?_
    show (c.paste t).sight = c.sight
    unfold paste
    split <;> rfl
  | resize width height => exact .resized width height _
  | timer purpose generation =>
    refine .of_eq ?_
    cases purpose with
    | toasts => rfl
    | localStatus | remoteStatus =>
      show (c.onTimer _ generation now.clock).console.sight = c.sight
      unfold onTimer
      dsimp only
      split <;> rfl
  | snapshot s =>
    rw [show (c.handle (.snapshot s) now).console.sight = _ from c.sight_onSnapshot s _]
    exact .told s
  | history id lines =>
    rw [show (c.handle (.history id lines) now).console.sight = _ from c.sight_onHistory id lines]
    exact .refilled id lines _
  | session event => exact c.shift_onSession event _
  | commandDone command => exact .of_eq (sight_fetchNow _)
  | snapshotFailed | remoteStatus | historyFailed | sessionsClosed | commandFailed | copied
  | copyFailed => exact .kept

theorem sight_start (c : Console) : c.start.console.sight = c.sight := c.sight_fetchNow

/-- What the first state has in sight, and what every event and every theme keep in sight,
is so in all states that the console comes to. -/
theorem Reachable.sight_induction {P : Sight → Prop} {c : Console} (h : c.Reachable)
    (init : ∀ s : Sight, s.selected = none → s.present = [] → P s.sync)
    (shift : ∀ {c : Console} {event : Event} {s : Sight}, c.Shift event s → P c.sight → P s)
    (relaid : ∀ (s : Sight) (sheets : WorktreeId → Sheet), P s → P { s with sheets }.sync) :
    P c.sight := by
  induction h with
  | ofTuning => exact init (sight _) rfl rfl
  | @start c _ ih => exact c.sight_start ▸ ih
  | @handle c _ event now ih => exact shift (c.shift_handle event now) ih
  | @applyTheme c _ name ih => exact c.sight_applyTheme name ▸ relaid _ _ ih

/-- A console that has just started. -/
def started : Console :=
  (ofTuning {} Theme.fallback (fun name => (Theme.named name, [])) Transcript.markup).start.console

theorem reachable_started : started.Reachable := (Reachable.ofTuning _ _ _ _).start

end Console

end AgentConsole
