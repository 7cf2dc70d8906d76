import AgentConsole.Proofs.Console.Sight

/-!
# What is viewed

Once a snapshot has told of a worktree, one is viewed (`Sight.ViewsAny`).  That it is
still there (`Sight.ViewsPresent`) is made sure of by every snapshot.  But the picker of
worktrees and the browser of sessions stay open while snapshots come, and offer what
there was when they were opened.  So Enter can choose a worktree that is gone
(`Console.ChoosesGone`), and then it is viewed until the next snapshot comes or another
worktree is chosen.  `Reachable.isViewSafe` says that nothing else leads to a worktree
that is gone.
-/

namespace AgentConsole

namespace Sight

variable {s : Sight} {id : WorktreeId}

/-- The viewed worktree, if there is one, is among those that the last snapshot told of. -/
def ViewsPresent (s : Sight) : Prop := ∀ id, s.selected = some id → id ∈ s.present

/-- A worktree is viewed if there is one. -/
def ViewsAny (s : Sight) : Prop := s.present ≠ [] → s.selected.isSome

theorem viewsPresent_of_selected (h : s.selected = some id) (hid : id ∈ s.present) :
    s.ViewsPresent := fun _ hother => Option.some.inj (h.symm.trans hother) ▸ hid

theorem viewsAny_of_selected (h : s.selected = some id) : s.ViewsAny := fun _ =>
  Option.isSome_iff_exists.mpr ⟨id, h⟩

theorem viewsPresent_look (hid : id ∈ s.present) : (s.look id).ViewsPresent :=
  viewsPresent_of_selected (s.selected_look id) ((s.present_look id).symm ▸ hid)

theorem viewsAny_look (s : Sight) (id : WorktreeId) : (s.look id).ViewsAny :=
  viewsAny_of_selected (s.selected_look id)

/-- A snapshot sees to it that one that is present is viewed. -/
theorem viewsPresent_ensure (s : Sight) : s.ensure.ViewsPresent := by
  rcases s.ensure_cases with ⟨id, hid, hselected, hsame⟩ | ⟨-, hblank⟩ | ⟨first, hfirst, hlook⟩
  · rw [hsame]
    exact viewsPresent_of_selected hselected hid
  · rw [hblank]
    exact nofun
  · rw [hlook]
    exact viewsPresent_look hfirst

theorem viewsAny_ensure (s : Sight) : s.ensure.ViewsAny := by
  rcases s.ensure_cases with ⟨id, -, hselected, hsame⟩ | ⟨hnone, hblank⟩ | ⟨first, -, hlook⟩
  · rw [hsame]
    exact viewsAny_of_selected hselected
  · rw [hblank]
    exact absurd hnone
  · rw [hlook]
    exact viewsAny_look _ first

end Sight

namespace Console

variable {c d : Console} {key : Key} {event : Event} {id : WorktreeId}

/-- The worktree that Enter chooses, in the picker of worktrees or the browser of sessions. -/
def chosen? (c : Console) : Option WorktreeId :=
  match c.focus.current with
  | .worktreePicker => c.picker.selectedId?.map .mk
  | .sessionBrowser =>
    (c.browser.selectedId?.bind fun id => c.snapshot.session? ⟨id⟩).map (·.worktree)
  | _ => none

/-- The key chooses a worktree that is gone. -/
def ChoosesGone (c : Console) (key : Key) : Prop :=
  key.code = .enter ∧ ∃ id ∉ c.worktreeIds, c.chosen? = some id

/-- Only the picker and the browser offer a worktree that is gone. -/
theorem Offers.choosesGone (h : c.Offers key id) (hid : id ∉ c.worktreeIds) :
    c.ChoosesGone key := by
  cases h with
  | listed _ hw => exact absurd (List.mem_map_of_mem hw) hid
  | picked hpicker hkey hselected =>
    refine ⟨hkey, _, hid, ?_⟩
    unfold chosen?
    rw [hpicker, hselected]
    rfl
  | browsed hbrowser hkey hs =>
    refine ⟨hkey, _, hid, ?_⟩
    unfold chosen?
    rw [hbrowser, hs]
    rfl

/-- What Enter chooses is looked at. -/
theorem sight_onKey_of_chosen (hkind : key.kind ≠ .release) (hkey : key.code = .enter)
    (hid : c.chosen? = some id) (now : Moment) :
    (c.onKey key now).console.sight = c.sight.look id := by
  unfold onKey
  rw [if_neg hkind, if_neg (by simp [hkey]), if_neg (by simp [hkey])]
  unfold chosen? at hid
  -- both lists hand what they confirm to `view`, and neither looks whether it is there
  split at hid
  · rename_i hpicker
    obtain ⟨name, hname, rfl⟩ := Option.map_eq_some_iff.mp hid
    rw [hpicker]
    unfold onPickerKey
    rw [c.picker.handle_enter hkind hkey]
    dsimp only
    rw [hname]
    exact sight_view _ _
  · rename_i hbrowser
    obtain ⟨s, hs, rfl⟩ := Option.map_eq_some_iff.mp hid
    rw [hbrowser]
    unfold onBrowserKey
    rw [c.browser.handle_enter hkind hkey]
    dsimp only
    rw [hs]
    exact sight_view _ _
  · exact absurd hid (by simp)

/-- What is viewed changes by looking at a worktree or by a snapshot, and by nothing else. -/
theorem Shift.selected_cases {s : Sight} (hs : c.Shift event s) :
    (s.selected = c.sight.selected ∧ s.present = c.sight.present) ∨
      (∃ id, event.Strikes (c.Offers · id) ∧ s = c.sight.look id) ∨
        ∃ told : Sight, s = told.ensure := by
  cases hs with
  | kept | moved | themed | resized => exact .inl ⟨rfl, rfl⟩
  | looked hkey => exact .inr (.inl ⟨_, hkey, rfl⟩)
  | told => exact .inr (.inr ⟨_, rfl⟩)
  | refilled id lines sheet =>
    unfold Sight.refill
    split <;> exact .inl ⟨rfl, rfl⟩
  | written session id line =>
    unfold Sight.write
    split <;> exact .inl ⟨rfl, rfl⟩

/-- An event looks at what is there, unless it chooses what is gone. -/
theorem Shift.viewsPresent {s : Sight} (hs : c.Shift event s) (h : c.sight.ViewsPresent)
    (hchosen : ¬ event.Strikes c.ChoosesGone) : s.ViewsPresent := by
  rcases hs.selected_cases with ⟨hselected, hpresent⟩ | ⟨id, hkey, rfl⟩ | ⟨told, rfl⟩
  · intro id hid
    rw [hpresent]
    exact h id (hselected.symm.trans hid)
  · refine Sight.viewsPresent_look (Classical.byContradiction fun hid => hchosen ?_)
    obtain ⟨key, hevent, hkind, hoffers⟩ := hkey
    exact ⟨key, hevent, hkind, hoffers.choosesGone hid⟩
  · exact Sight.viewsPresent_ensure told

/-- Once a worktree is viewed, or there is none, it stays so. -/
theorem Shift.viewsAny {s : Sight} (hs : c.Shift event s) (h : c.sight.ViewsAny) :
    s.ViewsAny := by
  rcases hs.selected_cases with ⟨hselected, hpresent⟩ | ⟨id, -, rfl⟩ | ⟨told, rfl⟩
  · intro hne
    rw [hselected]
    exact h (hpresent ▸ hne)
  · exact Sight.viewsAny_look _ id
  · exact Sight.viewsAny_ensure told

theorem Reachable.viewsAny (h : c.Reachable) : c.sight.ViewsAny :=
  h.sight_induction (fun _ _ hnone hne => absurd hnone hne) Shift.viewsAny fun _ _ hs => hs

/-- The step: what is viewed stays there if and only if no worktree is chosen that is gone. -/
theorem viewsPresent_handle_iff (h : c.sight.ViewsPresent) (event : Event) (now : Moment) :
    (c.handle event now).console.sight.ViewsPresent ↔ ¬ event.Strikes c.ChoosesGone := by
  refine ⟨?_, (c.shift_handle event now).viewsPresent h⟩
  rintro hafter ⟨key, rfl, hkind, hkey, id, hid, hchosen⟩
  have hlook : (c.handle (.key key) now).console.sight = c.sight.look id :=
    sight_onKey_of_chosen hkind hkey hchosen now
  rw [hlook] at hafter
  have hmem := hafter id (c.sight.selected_look id)
  rw [c.sight.present_look id] at hmem
  exact hid hmem

/-- The run: until one is chosen, what is viewed is there. -/
theorem Later.viewsPresent (hd : Later (fun d event => ¬ event.Strikes d.ChoosesGone) c d)
    (h : c.sight.ViewsPresent) : d.sight.ViewsPresent := by
  induction hd with
  | refl => exact h
  | @start d _ ih => exact d.sight_start ▸ ih
  | @handle d _ event now hchosen ih => exact (viewsPresent_handle_iff ih event now).mpr hchosen
  | @applyTheme d _ name ih => exact ih

/-- What is viewed is there, unless a worktree is chosen that is gone. -/
structure IsViewSafe (c : Console) : Prop where
  /-- As soon as a snapshot has told of a worktree, one is viewed. -/
  viewsAny : c.worktreeIds ≠ [] → c.selected.isSome
  /-- After every snapshot, what is viewed is there. -/
  snapshot : ∀ s now, (c.handle (.snapshot s) now).console.sight.ViewsPresent
  /-- It stays there if and only if no worktree is chosen that is gone. -/
  handle_iff : ∀ event now, c.sight.ViewsPresent →
    ((c.handle event now).console.sight.ViewsPresent ↔ ¬ event.Strikes c.ChoosesGone)
  /-- So it is there as long as none is, whatever else comes. -/
  later : ∀ d, Later (fun d event => ¬ event.Strikes d.ChoosesGone) c d →
    c.sight.ViewsPresent → d.sight.ViewsPresent
  /-- A worktree that is gone can be chosen from the two lists only. -/
  lists : ∀ key, c.ChoosesGone key →
    c.focus.current = .worktreePicker ∨ c.focus.current = .sessionBrowser

/-- **What is viewed is a worktree of the last snapshot as long as none is chosen that is
gone, and something is viewed as soon as there is a worktree.** -/
theorem Reachable.isViewSafe (h : c.Reachable) : c.IsViewSafe where
  viewsAny := h.viewsAny
  snapshot s now := by
    rw [show (c.handle (.snapshot s) now).console.sight = _ from c.sight_onSnapshot s _]
    exact Sight.viewsPresent_ensure _
  handle_iff event now hc := viewsPresent_handle_iff hc event now
  later _ hd := hd.viewsPresent
  lists key := by
    rintro ⟨-, id, -, hid⟩
    unfold chosen? at hid
    split at hid
    · exact .inl ‹_›
    · exact .inr ‹_›
    · exact absurd hid (by simp)

/-- A console that has been told of two worktrees, with the second one selected in the
picker and the first one viewed. -/
def picking : Console :=
  let snapshot : Snapshot :=
    { worktrees := [⟨⟨"w1"⟩, "api", "main", ""⟩, ⟨⟨"w2"⟩, "web", "dev", ""⟩] }
  started.after [.snapshot snapshot, .key { code := .char 'w' }, .key { code := .down }]

theorem reachable_picking : picking.Reachable := reachable_started.after _

theorem chosen?_picking : picking.chosen? = some ⟨"w2"⟩ := by decide +kernel

/-- Enter views the second worktree, which is there. -/
theorem isViewSafe_picking :
    let picked := (picking.handle (.key { code := .enter }) ⟨0, 0⟩).console
    picking.Reachable ∧ picking.sight.ViewsPresent ∧ picked.selected = some ⟨"w2"⟩ ∧
      picked.sight.ViewsPresent := by
  intro picked
  have hpicked : picked.selected = some ⟨"w2"⟩ := by decide +kernel +revert
  have hpresent : picking.sight.ViewsPresent :=
    Sight.viewsPresent_of_selected rfl List.mem_cons_self
  refine ⟨reachable_picking, hpresent, hpicked, ?_⟩
  refine (reachable_picking.isViewSafe.handle_iff _ _ hpresent).mpr ?_
  rintro ⟨_, ⟨rfl⟩, -, -, id, hid, hchosen⟩
  obtain rfl := Option.some.inj (chosen?_picking.symm.trans hchosen)
  exact hid (List.mem_cons_of_mem _ List.mem_cons_self)

/-- If a snapshot tells in between that the second worktree is gone, Enter views it
nevertheless, and asks for its history. -/
theorem picking_views_gone :
    let told :=
      (picking.handle (.snapshot { worktrees := [⟨⟨"w1"⟩, "api", "main", ""⟩] }) ⟨0, 0⟩).console
    let turn := told.handle (.key { code := .enter }) ⟨0, 0⟩
    turn.console.Reachable ∧ told.selected = some ⟨"w1"⟩ ∧
      turn.console.worktreeIds = [⟨"w1"⟩] ∧ turn.console.selected = some ⟨"w2"⟩ ∧
        ¬ turn.console.sight.ViewsPresent ∧ turn.requests = [.fetchHistory ⟨"w2"⟩] := by
  intro told turn
  have hids : turn.console.worktreeIds = [⟨"w1"⟩] := by decide +kernel +revert
  have hselected : turn.console.selected = some ⟨"w2"⟩ := by decide +kernel +revert
  have hrequests : turn.requests = [.fetchHistory ⟨"w2"⟩] := by decide +kernel +revert
  have hreachable : turn.console.Reachable := (reachable_picking.handle _ _).handle _ _
  refine ⟨hreachable, rfl, hids, hselected, fun hpresent => ?_, hrequests⟩
  have hmem : ⟨"w2"⟩ ∈ turn.console.worktreeIds := hpresent _ hselected
  rw [hids] at hmem
  exact absurd (List.mem_singleton.mp hmem) (by decide)

end Console

end AgentConsole
