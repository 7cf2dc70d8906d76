import AgentConsole.Console.Events
import AgentConsole.Proofs.Console.Lists
import AgentConsole.Proofs.Editor.Render
import AgentConsole.Proofs.Toast
import AgentConsole.Proofs.View.Main

/-!
# What a key can do

Most keys change nothing but the focus, the editors, the pickers, the toasts and
the scroll position: the turn stays aside of the world that the console keeps
track of (`Turn.Aside`).  The exceptions are keys that view another worktree and
keys that choose a theme.  Every key's turn is put together from these three
kinds, one after the other, and `onKey_induction` says so: what holds of the three
and of turns in sequence holds of every key.
-/

namespace AgentConsole

open Styled

/-! ### What the console adds to what it shows -/

namespace View

/-- Ages are words. -/
theorem clean_age (since now : Int) : Clean (age since now) := by
  have hunit (n : Nat) (unit : Char) (h : unit ≠ esc ∧ unit ≠ '\n') :
      Clean (Text.ofNat n ++ [unit]) := (Clean.ofNat n).append (.one h)
  unfold age
  dsimp only
  split
  · exact hunit _ _ (by decide)
  · split
    · exact hunit _ _ (by decide)
    · split
      · exact hunit _ _ (by decide)
      · exact hunit _ _ (by decide)

theorem hasCleanSigns_worktreeItems (snapshot : Snapshot) :
    ∀ item ∈ worktreeItems snapshot, item.HasCleanSigns := by
  intro item hitem
  obtain ⟨w, -, rfl⟩ := List.mem_map.mp hitem
  refine ⟨?_, by simp⟩
  rintro t ⟨rfl⟩
  exact .one (glyph_ne _)

theorem hasCleanSigns_sessionItems (snapshot : Snapshot) (now : Int) :
    ∀ item ∈ sessionItems snapshot now, item.HasCleanSigns := by
  intro item hitem
  obtain ⟨w, -, hw⟩ := List.mem_flatMap.mp hitem
  split at hw
  · exact absurd hw List.not_mem_nil
  · rcases List.mem_cons.mp hw with rfl | hw
    · trivial
    · obtain ⟨s, -, rfl⟩ := List.mem_map.mp hw
      refine ⟨?_, ?_⟩
      · rintro t ⟨rfl⟩
        exact .one (glyph_ne _)
      · rintro t ⟨rfl⟩
        exact clean_age _ _

theorem hasCleanSigns_themeItems (current : String) :
    ∀ item ∈ themeItems current, item.HasCleanSigns := by
  intro item hitem
  obtain ⟨theme, -, rfl⟩ := List.mem_map.mp hitem
  refine ⟨by simp, ?_⟩
  intro t ht
  split at ht
  · obtain rfl := Option.some.inj ht
    decide
  · exact absurd ht (by simp)

end View

namespace Console

/-- The titles and lists of the pickers and the words of the editors, how high their views are,
and the height that they are cut to. -/
structure Furniture where
  height : Nat
  pickers : List (Text × Array Item × Nat)
  editors : List ((Text × Text × Text) × Nat × Nat)

/-- What the console has furnished its editors and pickers with. -/
def furniture (c : Console) : Furniture :=
  ⟨c.height, [c.picker.stock, c.browser.stock, c.settings.stock],
    [c.taskEditor.frame, c.followUpEditor.frame]⟩

/-- What the console itself puts into its editors and pickers is clean. -/
structure IsFurnished (c : Console) : Prop where
  picker : c.picker.IsFurnished
  browser : c.browser.IsFurnished
  settings : c.settings.IsFurnished
  taskEditor : c.taskEditor.IsFurnished
  followUpEditor : c.followUpEditor.IsFurnished

/-- Whether a console is furnished depends on its furniture. -/
theorem IsFurnished.of_furniture {c d : Console} (h : c.IsFurnished)
    (hd : d.furniture = c.furniture) : d.IsFurnished := by
  simp only [furniture, Furniture.mk.injEq, List.cons.injEq, and_true] at hd
  obtain ⟨-, ⟨hpicker, hbrowser, hsettings⟩, htask, hfollow⟩ := hd
  exact ⟨h.picker.of_stock hpicker, h.browser.of_stock hbrowser, h.settings.of_stock hsettings,
    h.taskEditor.of_frame htask, h.followUpEditor.of_frame hfollow⟩

/-- How many rows the view of a picker has on a terminal of this height. -/
def listRows (c : Console) : Nat := min (max (c.layout.modalHeight - 1) 1) 10

/-- The views of the pickers are as high as the terminal allows. -/
structure IsCut (c : Console) : Prop where
  picker : c.picker.capacity = c.listRows
  browser : c.browser.capacity = c.listRows
  settings : c.settings.capacity = c.listRows

/-- The height, and how high the views of the pickers are. -/
def heights (c : Console) : Nat × Nat × Nat × Nat :=
  (c.height, c.picker.capacity, c.browser.capacity, c.settings.capacity)

theorem heights_of_furniture {c d : Console} (hd : d.furniture = c.furniture) :
    d.heights = c.heights := by
  simp only [furniture, Furniture.mk.injEq, List.cons.injEq, and_true, Picker.stock,
    Prod.mk.injEq] at hd
  obtain ⟨hheight, ⟨⟨-, -, hpicker⟩, ⟨-, -, hbrowser⟩, -, -, hsettings⟩, -⟩ := hd
  unfold heights
  rw [hheight, hpicker, hbrowser, hsettings]

/-- Whether the lists are cut to the window depends on these heights. -/
theorem IsCut.of_heights {c d : Console} (h : c.IsCut) (hd : d.heights = c.heights) : d.IsCut := by
  simp only [heights, Prod.mk.injEq] at hd
  obtain ⟨hheight, hpicker, hbrowser, hsettings⟩ := hd
  have hrows : d.listRows = c.listRows := by
    unfold listRows layout Frame.Layout.modalHeight
    rw [hheight]
  exact ⟨by rw [hpicker, hrows, h.picker], by rw [hbrowser, hrows, h.browser],
    by rw [hsettings, hrows, h.settings]⟩

/-! ### Staying aside of the world -/

/-- What the console keeps track of in the world: the sessions, the fetches under
way, the output and the histories asked for, and how output is rendered. -/
def world (c : Console) : Snapshot × Refresh × Bool × Table WorktreeId Transcript.Log
    × List WorktreeId × Transcript.Canvas :=
  (c.snapshot, c.refresh, c.remoteStarted, c.logs, c.historyAsked, c.canvas)

/-- A console that keeps track of the same world, is furnished if this one is, and is as high. -/
structure Beside (c d : Console) : Prop where
  world : d.world = c.world
  furnished : c.IsFurnished → d.IsFurnished
  heights : d.heights = c.heights

namespace Beside

theorem refl (c : Console) : c.Beside c := ⟨rfl, id, rfl⟩

theorem trans {c d e : Console} (h : c.Beside d) (h' : d.Beside e) : c.Beside e :=
  ⟨h'.world.trans h.world, fun hc => h'.furnished (h.furnished hc), h'.heights.trans h.heights⟩

theorem of_furniture {c d : Console} (hw : d.world = c.world) (hf : d.furniture = c.furniture) :
    c.Beside d :=
  ⟨hw, fun h => h.of_furniture hf, heights_of_furniture hf⟩

end Beside

end Console

/-- Does the request concern neither a fetch nor the timer of one? -/
def Request.isAside : Request → Bool
  | .schedule order => order.purpose = .toasts
  | .fetchSnapshot | .fetchRemoteStatus _ | .fetchHistory _ | .nextSessionEvent => false
  | .startSession .. | .stopSession _ | .followUp .. | .copy _ | .quit => true

/-- A turn that leaves the world alone and asks for nothing to be fetched. -/
structure Turn.Aside (c : Console) (t : Turn) : Prop where
  beside : c.Beside t.console
  requests : ∀ r ∈ t.requests, r.isAside

namespace Turn.Aside

open Console

theorem quiet {c d : Console} (h : c.Beside d) : d.quiet.Aside c :=
  ⟨h, fun _ hr => absurd hr List.not_mem_nil⟩

theorem note {c : Console} {t : Turn} (h : t.Aside c) (level : Level) (message : Text) :
    (t.note level message).Aside c := ⟨h.beside, h.requests⟩

theorem noted {c : Console} {t : Turn} (h : t.Aside c) (notes : List Note) :
    Turn.Aside c { t with notes } := ⟨h.beside, h.requests⟩

theorem ask {c : Console} {t : Turn} (h : t.Aside c) {r : Request} (hr : r.isAside) :
    (t.ask r).Aside c where
  beside := h.beside
  requests := List.forall_mem_append.mpr ⟨h.requests, List.forall_mem_singleton.mpr hr⟩

theorem andThen {c : Console} {t : Turn} {next : Console → Turn} (h : t.Aside c)
    (hnext : (next t.console).Aside t.console) : (t.andThen next).Aside c where
  beside := h.beside.trans hnext.beside
  requests := List.forall_mem_append.mpr ⟨h.requests, hnext.requests⟩

end Turn.Aside

namespace Console

variable {c d : Console}

/-- Raising a toast. -/
theorem aside_toast (h : c.Beside d) (message : Text) (severity : Severity) (time : Nat) :
    (d.toast message severity time).Aside c := by
  refine ⟨h.trans (.of_furniture rfl rfl), fun r hr => ?_⟩
  obtain ⟨order, horder, rfl⟩ := List.mem_map.mp hr
  exact decide_eq_true (ToastQueue.purpose_of_rearm (Option.mem_toList.mp horder))

/-- Changes to the focus, the scroll position and the like are made aside of the world. -/
theorem Beside.change {e : Console} (h : c.Beside d) (hw : e.world = d.world)
    (hf : e.furniture = d.furniture) : c.Beside e :=
  h.trans (.of_furniture hw hf)

/-- Opening a focus. -/
theorem aside_openFocus (h : c.Beside d) (target : Target) : (d.openFocus target).Aside c := by
  unfold openFocus
  split
  · rename_i focus _
    have hfocus : c.Beside { d with focus } := h.change rfl rfl
    exact (Turn.Aside.quiet hfocus).note _ _
  · exact .quiet h

theorem aside_closeFocus (h : c.Beside d) : d.closeFocus.Aside c := by
  have hfocus : c.Beside { d with focus := d.focus.close } := h.change rfl rfl
  exact (Turn.Aside.quiet hfocus).note _ _

theorem aside_quit (h : c.Beside d) : d.quit.Aside c := by
  have hquitting : c.Beside { d with quitting := true } := h.change rfl rfl
  exact (Turn.Aside.quiet hquitting).ask rfl

/-! ### Editors and pickers -/

/-- A list that is offered anew can take the place of the old one. -/
theorem refits_offered (p : Picker) {title : Text} (htitle : p.IsFurnished → Clean title)
    {items : List Item} (hitems : ∀ item ∈ items, item.HasCleanSigns) (id : Option String) :
    p.Refits (offered { p with title } items id) := by
  have hset : p.Refits (({ p with title } : Picker).setItems items) :=
    ⟨fun hp => .setItems (htitle hp) hitems, rfl⟩
  have hstock : (offered { p with title } items id).stock
      = (({ p with title } : Picker).setItems items).stock := by
    unfold offered
    dsimp only
    split
    · simp
    · simp
  exact ⟨fun hp => (hset.furnished hp).of_stock hstock,
    (congrArg (·.2.2) hstock).trans hset.capacity⟩

section

variable {p : Picker} {e : Editor}

theorem Beside.withPicker (h : c.Beside d) (hp : d.picker.Refits p) :
    c.Beside { d with picker := p } :=
  h.trans ⟨rfl, fun hd => { hd with picker := hp.furnished hd.picker },
    congrArg (fun n => (_, n, _, _)) hp.capacity⟩

theorem Beside.withBrowser (h : c.Beside d) (hp : d.browser.Refits p) :
    c.Beside { d with browser := p } :=
  h.trans ⟨rfl, fun hd => { hd with browser := hp.furnished hd.browser },
    congrArg (fun n => (_, _, n, _)) hp.capacity⟩

theorem Beside.withSettings (h : c.Beside d) (hp : d.settings.Refits p) :
    c.Beside { d with settings := p } :=
  h.trans ⟨rfl, fun hd => { hd with settings := hp.furnished hd.settings },
    congrArg (fun n => (_, _, _, n)) hp.capacity⟩

theorem Beside.withTaskEditor (h : c.Beside d) (he : e.frame = d.taskEditor.frame) :
    c.Beside { d with taskEditor := e } :=
  h.trans ⟨rfl, fun hd => { hd with taskEditor := hd.taskEditor.of_frame he }, rfl⟩

theorem Beside.withFollowUpEditor (h : c.Beside d) (he : e.frame = d.followUpEditor.frame) :
    c.Beside { d with followUpEditor := e } :=
  h.trans ⟨rfl, fun hd => { hd with followUpEditor := hd.followUpEditor.of_frame he }, rfl⟩

end

/-! ### Opening targets from the main output -/

/-- Beginning a task stays beside. -/
theorem aside_openTaskFlow (c : Console) (time : Nat) : (c.openTaskFlow time).Aside c := by
  unfold openTaskFlow
  split
  · exact aside_toast (.refl c) _ _ _
  · have hpicker : c.picker.Refits (c.worktreePicker "New task · choose a worktree") :=
      refits_offered _ (fun _ => by decide) (View.hasCleanSigns_worktreeItems _) _
    refine aside_openFocus ?_ _
    have hbeside := ((Beside.refl c).withPicker hpicker).withTaskEditor
      (Editor.frame_reset c.taskEditor)
    exact hbeside.change rfl rfl

theorem aside_openFollowUp (c : Console) (time : Nat) : (c.openFollowUp time).Aside c := by
  unfold openFollowUp
  split
  · exact aside_toast (.refl c) _ _ _
  · split
    · exact aside_toast (.refl c) _ _ _
    · exact aside_openFocus ((Beside.refl c).withFollowUpEditor (Editor.frame_reset _)) _

theorem aside_askToStop (c : Console) (time : Nat) : (c.askToStop time).Aside c := by
  unfold askToStop
  split
  · exact aside_openFocus (.refl c) _
  · exact aside_toast (.refl c) _ _ _

theorem aside_openPicker (c : Console) (time : Nat) : (c.openPicker time).Aside c := by
  unfold openPicker
  split
  · exact aside_toast (.refl c) _ _ _
  · have hpicker : c.picker.Refits (c.worktreePicker "Worktrees") :=
      refits_offered _ (fun _ => by decide) (View.hasCleanSigns_worktreeItems _) _
    exact aside_openFocus ((Beside.refl c).withPicker hpicker) _

theorem aside_openBrowser (c : Console) (now : Moment) : (c.openBrowser now).Aside c := by
  unfold openBrowser
  split
  · exact aside_toast (.refl c) _ _ _
  · refine aside_openFocus ((Beside.refl c).withBrowser ?_) _
    exact refits_offered _ (fun h => h.title) (View.hasCleanSigns_sessionItems _ _) _

theorem aside_openSettings (c : Console) : c.openSettings.Aside c := by
  refine aside_openFocus ((Beside.refl c).withSettings ?_) _
  exact refits_offered _ (fun h => h.title) (View.hasCleanSigns_themeItems _) _

theorem aside_openHelp (c : Console) : c.openHelp.Aside c := by
  have hhelp : c.Beside { c with helpScroll := 0, focus := c.focus.cover .help } :=
    (Beside.refl c).change rfl rfl
  exact .quiet hhelp

theorem aside_copyVisible (c : Console) (time : Nat) : (c.copyVisible time).Aside c := by
  unfold copyVisible
  dsimp only
  split
  · exact aside_toast (.refl c) _ _ _
  · exact (Turn.Aside.quiet (.refl c)).ask rfl

theorem aside_requestQuit (c : Console) : c.requestQuit.Aside c := by
  unfold requestQuit
  dsimp only
  split
  · exact aside_quit (.refl c)
  · exact (aside_openFocus (.refl c) _).noted _

/-! ### Every key -/

section

variable {P : Console → Turn → Prop}
  (aside : ∀ {c : Console} {t : Turn}, t.Aside c → P c t)
  (view : ∀ (c : Console) (id : WorktreeId), P c (c.view id))
  (applyTheme : ∀ (c : Console) (name : String), P c (c.applyTheme name))
  (andThen : ∀ {c : Console} {t : Turn} {next : Console → Turn},
    P c t → P t.console (next t.console) → P c (t.andThen next))

include aside view in
/-- Over the output, a key looks at another worktree or stays beside. -/
theorem onMainKey_induction (c : Console) (key : Key) (now : Moment) : P c (c.onMainKey key now) := by
  have hscrolled (scroll : ScrollView) : P c { c with scroll }.quiet :=
    aside (.quiet ((Beside.refl c).change rfl rfl))
  have hcycle (steps : Int) : P c (c.cycle steps) := by
    unfold cycle
    dsimp only
    split
    · exact view c _
    · exact aside (.quiet (.refl c))
  have hquick (index time : Nat) : P c (c.quickSelect index time) := by
    unfold quickSelect
    split
    · exact view c _
    · exact aside (aside_toast (.refl c) _ _ _)
  unfold onMainKey
  dsimp only
  split
  -- ten keys scroll, two go from worktree to worktree, the others open something
  · exact hscrolled _
  · exact hscrolled _
  · exact hscrolled _
  · exact hscrolled _
  · exact hscrolled _
  · exact hscrolled _
  · exact hscrolled _
  · exact hscrolled _
  · exact hscrolled _
  · exact hscrolled _
  · exact hcycle _
  · exact hcycle _
  · exact aside (aside_openTaskFlow c _)
  · exact aside (aside_openFollowUp c _)
  · exact aside (aside_askToStop c _)
  · exact aside (aside_openPicker c _)
  · exact aside (aside_openBrowser c _)
  · exact aside (aside_openSettings c)
  · exact aside (aside_openHelp c)
  · exact aside (aside_copyVisible c _)
  · exact aside (aside_requestQuit c)
  · split
    · exact hquick _ _
    · exact aside (.quiet (.refl c))
  · exact aside (.quiet (.refl c))

include aside in
/-- The keys in a follow-up stay beside. -/
theorem onFollowUpKey_induction (c : Console) (session : SessionId) (key : Key) (time : Nat) :
    P c (c.onFollowUpKey session key time) := by
  have hframe := c.followUpEditor.frame_handle key
  unfold onFollowUpKey
  generalize c.followUpEditor.handle key = read at hframe ⊢
  obtain ⟨editor, outcome⟩ := read
  have hread : c.Beside { c with followUpEditor := editor } :=
    (Beside.refl c).withFollowUpEditor hframe
  have hreset : c.Beside { c with followUpEditor := editor.reset } :=
    (Beside.refl c).withFollowUpEditor ((Editor.frame_reset editor).trans hframe)
  refine aside ?_
  cases outcome with
  | submit =>
    dsimp only
    split
    · exact aside_toast hread _ _ _
    · exact ((aside_closeFocus hreset).note _ _).ask rfl
  | cancel => exact aside_closeFocus hreset
  | quit => exact aside_quit hread
  | handled => exact .quiet hread
  | unhandled => exact .quiet hread

include aside in
theorem onTaskPickKey_induction (c : Console) (key : Key) (time : Nat) :
    P c (c.onTaskPickKey key time) := by
  have hyields := c.yields_onTaskPickKey key time
  refine aside ?_
  generalize c.onTaskPickKey key time = t at hyields ⊢
  cases hyields with
  | take => exact .quiet ((Beside.refl c).change rfl rfl)
  | miss => exact aside_toast (.refl c) _ _ _
  | close => exact aside_closeFocus ((Beside.refl c).change rfl rfl)
  | stay hstock => exact .quiet ((Beside.refl c).withPicker (.of_stock hstock))

include aside in
theorem onTaskPromptKey_induction (c : Console) (key : Key) (time : Nat) :
    P c (c.onTaskPromptKey key time) := by
  have hframe := c.taskEditor.frame_handle key
  unfold onTaskPromptKey
  generalize c.taskEditor.handle key = read at hframe ⊢
  obtain ⟨editor, outcome⟩ := read
  have hread : c.Beside { c with taskEditor := editor } := (Beside.refl c).withTaskEditor hframe
  have hback (step : TaskStep) :
      c.Beside (replaceFocus { c with taskEditor := editor } (.taskFlow step)) :=
    hread.change rfl rfl
  refine aside ?_
  -- a prompt is sent only if it is not blank and its worktree is known
  cases outcome with
  | submit =>
    dsimp only
    split
    · exact aside_toast hread _ _ _
    · split
      · exact aside_toast (hback _) _ _ _
      · rename_i worktree hworktree
        have hsent : c.Beside
            { c with
              taskWorktree := none, taskEditor := editor.reset, picker := c.picker.close } :=
          (hread.withTaskEditor (Editor.frame_reset editor)).change rfl rfl
        exact ((aside_closeFocus hsent).note _ _).ask rfl
  | cancel => exact .quiet (hback _)
  | quit => exact aside_quit hread
  | handled => exact .quiet hread
  | unhandled => exact .quiet hread

include aside view andThen in
/-- In the list of worktrees, a key may look at another one. -/
theorem onPickerKey_induction (c : Console) (key : Key) (time : Nat) :
    P c (c.onPickerKey key time) := by
  have hyields := c.yields_onPickerKey key time
  have hclose : Turn.Aside c { c with picker := c.picker.close }.closeFocus :=
    aside_closeFocus ((Beside.refl c).change rfl rfl)
  generalize c.onPickerKey key time = t at hyields ⊢
  cases hyields with
  | take => exact andThen (aside hclose) (view _ _)
  | miss => exact aside (aside_toast (.refl c) _ _ _)
  | close => exact aside hclose
  | stay hstock => exact aside (.quiet ((Beside.refl c).withPicker (.of_stock hstock)))

include aside view andThen in
/-- In the list of sessions, too. -/
theorem onBrowserKey_induction (c : Console) (key : Key) (time : Nat) :
    P c (c.onBrowserKey key time) := by
  have hyields := c.yields_onBrowserKey key time
  have hclose : Turn.Aside c { c with browser := c.browser.close }.closeFocus :=
    aside_closeFocus ((Beside.refl c).change rfl rfl)
  generalize c.onBrowserKey key time = t at hyields ⊢
  cases hyields with
  | take => exact andThen (aside hclose) (view _ _)
  | miss => exact aside (aside_toast (.refl c) _ _ _)
  | close => exact aside hclose
  | stay hstock => exact aside (.quiet ((Beside.refl c).withBrowser (.of_stock hstock)))

include aside applyTheme andThen in
/-- In the settings, a key may apply a theme. -/
theorem onSettingsKey_induction (c : Console) (key : Key) (time : Nat) :
    P c (c.onSettingsKey key time) := by
  have hyields := c.yields_onSettingsKey key time
  have hclose : Turn.Aside c { c with settings := c.settings.close }.closeFocus :=
    aside_closeFocus ((Beside.refl c).change rfl rfl)
  generalize c.onSettingsKey key time = t at hyields ⊢
  cases hyields with
  | take =>
    -- the settings are closed, the theme is chosen, and a toast says so
    exact andThen (andThen (aside hclose) (applyTheme _ _)) (aside (aside_toast (.refl _) _ _ _))
  | miss => exact aside (aside_toast (.refl c) _ _ _)
  | close => exact aside hclose
  | stay hstock => exact aside (.quiet ((Beside.refl c).withSettings (.of_stock hstock)))

include aside in
/-- The keys in the help stay beside. -/
theorem onHelpKey_induction (c : Console) (key : Key) : P c (c.onHelpKey key) := by
  have hscrolled (helpScroll : Nat) : c.Beside { c with helpScroll } :=
    (Beside.refl c).change rfl rfl
  refine aside ?_
  unfold onHelpKey
  dsimp only
  split
  -- five keys close the help, eight scroll it
  iterate 5 exact aside_closeFocus (.refl c)
  iterate 8 exact .quiet (hscrolled _)
  exact .quiet (.refl c)

include aside in
theorem onConfirmKey_induction (c : Console) (question : Confirmation) (key : Key) :
    P c (c.onConfirmKey question key) := by
  have hcancelled (notes : List Note) : Turn.Aside c { c.closeFocus with notes } :=
    (aside_closeFocus (.refl c)).noted notes
  refine aside ?_
  cases question with
  | quit active =>
    unfold onConfirmKey
    dsimp only
    split
    · exact aside_quit ((Beside.refl c).change rfl rfl)
    · exact hcancelled _
  | stopSession session =>
    unfold onConfirmKey
    dsimp only
    split
    · exact ((aside_closeFocus (.refl c)).note _ _).ask rfl
    · exact hcancelled _

include aside view applyTheme andThen in
/-- What holds of turns aside of the world, of viewing a worktree, of choosing a
theme, and of turns in sequence holds of the turn of every key. -/
theorem onKey_induction (c : Console) (key : Key) (now : Moment) : P c (c.onKey key now) := by
  unfold onKey
  split
  · exact aside (.quiet (.refl c))
  · split
    · exact aside ((aside_quit (.refl c)).noted _)
    · split
      · exact aside (aside_openHelp c)
      · -- all other keys go to what has the focus
        split
        · exact onMainKey_induction aside view c key now
        · exact onFollowUpKey_induction aside c _ key _
        · exact onPickerKey_induction aside view andThen c key _
        · exact onTaskPickKey_induction aside c key _
        · exact onTaskPromptKey_induction aside c key _
        · exact onHelpKey_induction aside c key
        · exact onConfirmKey_induction aside c _ key
        · exact onBrowserKey_induction aside view andThen c key _
        · exact onSettingsKey_induction aside applyTheme andThen c key _

end

end Console

end AgentConsole
