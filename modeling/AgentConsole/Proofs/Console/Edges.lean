import AgentConsole.Proofs.Console.Quit
import Mathlib.Logic.Relation

/-!
# The graph of the focus

`Focus.Edge` is the graph that the focus moves in: from the main output to a target and
back, to the help over any target and back to that target, and between the two steps of a
new task.  The routes of `Console.Route` say what a key does to a pair of current and
remembered target, whatever that pair is.  A pair that can come about is nested
(`Focus.IsNested`), and on a nested pair every route is an edge or stays where it is
(`Route.edge`): nothing is remembered outside of the help, so that closing a target leads
to the main output, and closing the help leads back to what it covers.

From this follow one step (`Reachable.movesAlongEdges`) and every run
(`Later.path`).
-/

namespace AgentConsole

/-- The ways from one focus to another. -/
inductive Focus.Edge : Focus → Focus → Prop where
  /-- The second step of a new task does not open from the main output. -/
  | opened {target : Target} (hmain : target ≠ .mainOutput) (hhelp : target ≠ .help)
    (hwrite : target ≠ .taskFlow .writePrompt) : Edge ⟨.mainOutput, none⟩ ⟨target, none⟩
  | covered {target : Target} (hhelp : target ≠ .help) : Edge ⟨target, none⟩ ⟨.help, some target⟩
  | uncovered {target : Target} (hhelp : target ≠ .help) :
    Edge ⟨.help, some target⟩ ⟨target, none⟩
  | write : Edge ⟨.taskFlow .pickWorktree, none⟩ ⟨.taskFlow .writePrompt, none⟩
  | pick : Edge ⟨.taskFlow .writePrompt, none⟩ ⟨.taskFlow .pickWorktree, none⟩
  | closed {target : Target} (hmain : target ≠ .mainOutput) (hhelp : target ≠ .help) :
    Edge ⟨target, none⟩ ⟨.mainOutput, none⟩

namespace Focus

variable {f g : Focus}

/-- Outside of the help nothing is remembered. -/
theorem IsNested.eq_of_ne_help (h : f.IsNested) (hf : f.current ≠ .help) : f = ⟨f.current, none⟩ := by
  have hnone := h.eq_none hf
  obtain ⟨current, remembered⟩ := f
  exact congrArg (Focus.mk current) hnone

/-- The help remembers a target other than itself. -/
theorem IsNested.exists_of_help (h : f.IsNested) (hf : f.current = .help) :
    ∃ target, target ≠ .help ∧ f = ⟨.help, some target⟩ := by
  obtain ⟨current, remembered⟩ := f
  obtain ⟨target, rfl⟩ := Option.isSome_iff_exists.mp (h.remembered.mpr hf)
  refine ⟨target, ?_, ?_⟩
  · rintro rfl
    exact h.ne_help rfl
  · rw [← hf]

/-- The graph is closed: its edges lead from nested pairs to nested pairs. -/
theorem Edge.isNested (h : f.Edge g) : f.IsNested ∧ g.IsNested := by
  have hover {target : Target} (hhelp : target ≠ .help) : IsNested ⟨.help, some target⟩ :=
    ⟨iff_of_true rfl rfl, fun heq => hhelp (Option.some.inj heq)⟩
  cases h with
  | opened hmain hhelp => exact ⟨.of_eq_none Target.noConfusion rfl, .of_eq_none hhelp rfl⟩
  | covered hhelp => exact ⟨.of_eq_none hhelp rfl, hover hhelp⟩
  | uncovered hhelp => exact ⟨hover hhelp, .of_eq_none hhelp rfl⟩
  | write | pick =>
    exact ⟨.of_eq_none Target.noConfusion rfl, .of_eq_none Target.noConfusion rfl⟩
  | closed hmain hhelp => exact ⟨.of_eq_none hhelp rfl, .of_eq_none Target.noConfusion rfl⟩

end Focus

namespace Console

variable {c d : Console} {key : Key}

/-- Neither the main output nor the second step of a new task opens from the main output. -/
theorem Opens.ne_main {code : KeyCode} {target : Target} (h : c.Opens code target) :
    target ≠ .mainOutput ∧ target ≠ .taskFlow .writePrompt := by
  cases h <;> exact ⟨by simp, by simp⟩

/-- On a nested pair, a route stays where it is or is an edge. -/
theorem Route.edge {f : Focus} (hroute : c.Route key f) (h : c.focus.IsNested) :
    f = c.focus ∨ c.focus.Edge f := by
  -- the pair before, where the help does not have the focus
  have hbefore {target : Target} (hcurrent : c.focus.current = target) (hhelp : target ≠ .help) :
      c.focus = ⟨target, none⟩ := by
    have heq := h.eq_of_ne_help (hcurrent ▸ hhelp)
    rwa [hcurrent] at heq
  cases hroute with
  | stay => exact .inl rfl
  | @opened target hmain hopens =>
    obtain ⟨hne, hwrite⟩ := hopens.ne_main
    rw [hbefore hmain Target.noConfusion]
    exact .inr (.opened hne hopens.ne_help hwrite)
  | help hcurrent =>
    have hcovered := Focus.Edge.covered hcurrent
    rw [← h.eq_of_ne_help hcurrent] at hcovered
    exact .inr hcovered
  | write hpick =>
    rw [hbefore hpick Target.noConfusion]
    exact .inr .write
  | pick hwrite =>
    rw [hbefore hwrite Target.noConfusion]
    exact .inr .pick
  | closed hmain _ =>
    by_cases hhelp : c.focus.current = .help
    · obtain ⟨target, hne, heq⟩ := h.exists_of_help hhelp
      rw [heq]
      exact .inr (.uncovered hne)
    · have hclosed := Focus.Edge.closed hmain hhelp
      rw [← h.eq_of_ne_help hhelp] at hclosed
      have hclose : c.focus.close = ⟨.mainOutput, none⟩ := by
        unfold Focus.close
        rw [h.eq_none hhelp]
        rfl
      rw [hclose]
      exact .inr hclosed
  | reset hasks _ =>
    obtain ⟨n, hcurrent⟩ := hasks
    rw [hbefore hcurrent Target.noConfusion]
    exact .inr (.closed Target.noConfusion Target.noConfusion)

/-- A key that closes the help takes no other route. -/
theorem Route.eq_close {f : Focus} (hroute : c.Route key f) (hhelp : c.focus.current = .help)
    (hkey : key.closesHelp) : f = c.focus.close := by
  cases hroute with
  | stay hstay => exact absurd hkey (hstay hhelp)
  | opened hother | write hother | pick hother =>
    exact absurd (hhelp.symm.trans hother) Target.noConfusion
  | help hcurrent => exact absurd hhelp hcurrent
  | closed => rfl
  | reset hasks =>
    obtain ⟨n, hother⟩ := hasks
    exact absurd (hhelp.symm.trans hother) Target.noConfusion

/-- What the help remembers is what it closes to. -/
theorem focus_of_closesHelp (h : c.focus.IsNested) (hhelp : c.focus.current = .help)
    {event : Event} (hevent : event.Strikes (·.closesHelp)) (now : Moment) :
    ∃ target, c.focus.remembered = some target ∧
      (c.handle event now).console.focus = ⟨target, none⟩ := by
  rcases c.focus_handle_cases event now with ⟨key, hkey, hroute⟩ | ⟨hnone, -⟩
  · obtain ⟨target, -, heq⟩ := h.exists_of_help hhelp
    rw [hroute.eq_close hhelp ((Event.strikes_iff hkey _).mp hevent), heq]
    exact ⟨target, rfl, rfl⟩
  · exact absurd hevent (hnone _)

/-- One step: an event leaves the focus alone or moves it along an edge. -/
theorem edge_handle (h : c.focus.IsNested) (event : Event) (now : Moment) :
    (c.handle event now).console.focus = c.focus ∨
      c.focus.Edge (c.handle event now).console.focus := by
  rcases c.focus_handle_cases event now with ⟨key, -, hroute⟩ | ⟨-, hfocus⟩
  · exact hroute.edge h
  · exact .inl hfocus

/-- Every run: the focus comes to where it is on a path of the graph. -/
theorem Later.path {P : Console → Event → Prop} (hd : Later P c d) (hc : c.Reachable) :
    Relation.ReflTransGen Focus.Edge c.focus d.focus := by
  induction hd with
  | refl => exact .refl
  | @start d _ ih => exact d.movesTo_start.focus ▸ ih
  | @handle d hd event now _ ih =>
    rcases edge_handle (hd.reachable hc).isNested event now with hfocus | hedge
    · exact hfocus ▸ ih
    · exact ih.tail hedge
  | @applyTheme d _ name ih => exact (d.movesTo_applyTheme name).focus ▸ ih

/-- The focus moves along the edges of its graph, and only by keys. -/
structure MovesAlongEdges (c : Console) : Prop where
  /-- A target is remembered while the help has the focus and only then, and it is not the
  help. -/
  nested : c.focus.IsNested
  /-- Nothing but a key that is pressed or held moves the focus. -/
  still : ∀ event now, ¬ event.Strikes (fun _ => True) →
    (c.handle event now).console.focus = c.focus
  edge : ∀ event now, (c.handle event now).console.focus = c.focus ∨
    c.focus.Edge (c.handle event now).console.focus
  /-- F1 opens the help over any other target. -/
  covers : ∀ event now, c.focus.current ≠ .help → event.Strikes (·.code = .function 1) →
    (c.handle event now).console.focus = ⟨.help, some c.focus.current⟩
  /-- The keys that close the help lead back to the target that it covers. -/
  uncovers : ∀ event now, c.focus.current = .help → event.Strikes (·.closesHelp) →
    ∃ target, c.focus.remembered = some target ∧
      (c.handle event now).console.focus = ⟨target, none⟩
  start : c.start.console.focus = c.focus
  applyTheme : ∀ name, (c.applyTheme name).console.focus = c.focus

/-- **The focus is a closed state machine.** -/
theorem Reachable.movesAlongEdges (h : c.Reachable) : c.MovesAlongEdges where
  nested := h.isNested
  still event now hnone := by
    rcases c.focus_handle_cases event now with ⟨key, hkey, -⟩ | ⟨-, hfocus⟩
    · exact absurd ((Event.strikes_iff hkey fun _ => True).mpr trivial) hnone
    · exact hfocus
  edge := edge_handle h.isNested
  covers := by
    rintro _ now hcurrent ⟨key, rfl, hkind, hkey⟩
    exact focus_onKey_of_function_one hkind hkey hcurrent now
  uncovers _ now hhelp hevent := focus_of_closesHelp h.isNested hhelp hevent now
  start := c.movesTo_start.focus
  applyTheme name := (c.movesTo_applyTheme name).focus

/-- A new task is begun, the help is opened over its second step and closed again, and a
line of output comes in between. -/
theorem movesAlongEdges_atWork :
    let writing := atWork.after [.key { code := .char 'n' }, .key { code := .enter }]
    let helped := (writing.handle (.key { code := .function 1 }) ⟨0, 0⟩).console
    let output : Event := .session (.output ⟨"s1"⟩ ⟨"w1"⟩ "done".toList)
    let back := (helped.handle (.key { code := .escape }) ⟨0, 0⟩).console
    helped.Reachable ∧ helped.focus = ⟨.help, some (.taskFlow .writePrompt)⟩ ∧
      (helped.handle output ⟨0, 0⟩).console.focus = helped.focus ∧
      back.focus = ⟨.taskFlow .writePrompt, none⟩ ∧ helped.focus.Edge back.focus := by
  intro writing helped output back
  have hfocus : helped.focus = ⟨.help, some (.taskFlow .writePrompt)⟩ ∧
      back.focus = ⟨.taskFlow .writePrompt, none⟩ := by decide +kernel +revert
  have hhelped : helped.Reachable := (reachable_atWork.after _).handle _ _
  have hmoves := hhelped.movesAlongEdges
  refine ⟨hhelped, hfocus.1, hmoves.still output _ ?_, hfocus.2, ?_⟩
  · rintro ⟨key, hkey, -⟩
    exact Event.noConfusion hkey
  · refine (hmoves.edge (.key { code := .escape }) ⟨0, 0⟩).resolve_left fun hsame => ?_
    have hback : back.focus = helped.focus := hsame
    rw [hfocus.1, hfocus.2] at hback
    exact absurd hback (by decide)

end Console

end AgentConsole
