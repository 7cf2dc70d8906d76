import AgentConsole.Proofs.Console.Focus

/-!
# Leaving the program

Three keys leave the program (`QuitsOn`): Ctrl-C from anywhere, `q` in the main output
once all sessions have ended, and a yes to the question whether to leave.  No other
event does, the question is only put by `q` while a session is live, and who is on the
way out stays there: `Reachable.isQuitSafe` says so of every state that a console comes to.

A question that is answered otherwise is settled.  Then it has neither the focus nor is
it remembered (`Focus.IsSettled`), and it stays so until `q` puts it anew from the main
output (`Later.isSettled`).  There is one key that does not answer, though: F1 opens the
help over the question, and closing the help brings the question back.  Hence a key that
is neither a yes nor Ctrl-C settles the question if and only if it is not F1
(`settles_iff`).
-/

namespace AgentConsole

namespace Console

variable {c d : Console}

/-! ### What leaves the program -/

/-- The end is asked for where a key strikes that quits. -/
theorem quit_mem_requests_iff (c : Console) (event : Event) (now : Moment) :
    .quit ∈ (c.handle event now).requests ↔ event.Strikes c.QuitsOn := by
  rcases c.handle_cases event now with ⟨key, hkey, hquits, hleaves⟩ |
    ⟨key, hkey, hquits, f, -, hmoves⟩ | ⟨hnone, hmoves⟩
  · exact iff_of_true hleaves.requests ((Event.strikes_iff hkey _).mpr hquits)
  · exact iff_of_false hmoves.requests fun h => hquits ((Event.strikes_iff hkey _).mp h)
  · exact iff_of_false hmoves.requests (hnone _)

theorem quitting_handle_iff (c : Console) (event : Event) (now : Moment) :
    (c.handle event now).console.quitting ↔ c.quitting ∨ event.Strikes c.QuitsOn := by
  rcases c.handle_cases event now with ⟨key, hkey, hquits, hleaves⟩ |
    ⟨key, hkey, hquits, f, -, hmoves⟩ | ⟨hnone, hmoves⟩
  · exact iff_of_true hleaves.quitting (.inr ((Event.strikes_iff hkey _).mpr hquits))
  · rw [hmoves.quitting, Event.strikes_iff hkey]
    exact (or_iff_left hquits).symm
  · rw [hmoves.quitting]
    exact (or_iff_left (hnone _)).symm

/-- Who is on the way out stays there. -/
theorem Later.quitting {P : Console → Event → Prop} (h : Later P c d) (hc : c.quitting) :
    d.quitting := by
  induction h with
  | refl => exact hc
  | @start d _ ih => exact d.movesTo_start.quitting ▸ ih
  | @handle d _ event now _ ih => exact (d.quitting_handle_iff event now).mpr (.inl ih)
  | @applyTheme d _ name ih => exact (d.movesTo_applyTheme name).quitting ▸ ih

theorem not_isIdle_of_isLive (h : ∃ s ∈ c.snapshot.sessions, s.isLive) : ¬ c.IsIdle := by
  obtain ⟨s, hs, hlive⟩ := h
  rintro ⟨-, hended⟩
  simp [Session.isLive, hended s hs] at hlive

/-! ### How the question comes to be put -/

/-- The question whether to quit is opened by `q`, with the count of live sessions. -/
theorem Opens.eq_quit {code : KeyCode} {target : Target} (h : c.Opens code target) {n : Nat}
    (ht : target = .confirm (.quit n)) :
    code = .char 'q' ∧ n = c.snapshot.activeCount ∧ ∃ s ∈ c.snapshot.sessions, s.isLive := by
  cases h with
  | quit hlive =>
    obtain rfl := Confirmation.quit.inj (Target.confirm.inj ht)
    exact ⟨rfl, rfl, List.countP_pos_iff.mp hlive⟩
  | stop => exact absurd (Target.confirm.inj ht) Confirmation.noConfusion
  | task | followUp | picker | browser | settings => exact absurd ht Target.noConfusion

/-- The question is put by `q` in the main output while a session is live, or comes back
when the help over it is closed. -/
theorem Reachable.asks_cases (h : c.Reachable) {event : Event} {now : Moment} {n : Nat}
    (hafter : (c.handle event now).console.focus.current = .confirm (.quit n))
    (hbefore : c.focus.current ≠ .confirm (.quit n)) :
    (c.focus.current = .mainOutput ∧ event.Strikes (·.code = .char 'q') ∧
        n = c.snapshot.activeCount ∧ ∃ s ∈ c.snapshot.sessions, s.isLive) ∨
      c.focus.current = .help ∧ event.Strikes (·.closesHelp) ∧ c.Covers (.confirm (.quit n)) := by
  rcases c.focus_handle_cases event now with ⟨key, hkey, hroute⟩ | ⟨-, hfocus⟩
  · generalize (c.handle event now).console.focus = f at hroute hafter
    simp only [Event.strikes_iff hkey]
    -- of all routes only two lead to the question
    cases hroute with
    | stay => exact absurd hafter hbefore
    | opened hmain hopens => exact .inl ⟨hmain, hopens.eq_quit hafter⟩
    | help | write | pick | reset => exact absurd hafter Target.noConfusion
    | closed _ hhelp =>
      have hremembered : c.focus.remembered = some (.confirm (.quit n)) := by
        rcases hr : c.focus.remembered with - | target
        · simp [Focus.close, hr] at hafter
        · simpa [Focus.close, hr] using hafter
      have hcurrent : c.focus.current = .help := h.isNested.remembered.mp (by simp [hremembered])
      exact .inr ⟨hcurrent, hhelp hcurrent, h.covers hremembered⟩
  · exact absurd (hfocus ▸ hafter) hbefore

/-- The program is left on the keys that are there for it, and on nothing else. -/
structure IsQuitSafe (c : Console) : Prop where
  /-- The request to leave goes out on these keys, and with it the mark is set. -/
  requests : ∀ event now, .quit ∈ (c.handle event now).requests ↔ event.Strikes c.QuitsOn
  quitting : ∀ event now,
    (c.handle event now).console.quitting ↔ c.quitting ∨ event.Strikes c.QuitsOn
  /-- While a session is live, nothing but Ctrl-C leaves unless the question was put. -/
  live : ∀ event now, ¬ event.Strikes Key.IsInterrupt →
    (∃ s ∈ c.snapshot.sessions, s.isLive) → ¬ c.AsksToQuit →
      .quit ∉ (c.handle event now).requests ∧
        (c.handle event now).console.quitting = c.quitting
  /-- The question is put by `q`, or comes back from under the help. -/
  asks : ∀ event now n, (c.handle event now).console.focus.current = .confirm (.quit n) →
    c.focus.current ≠ .confirm (.quit n) →
      (c.focus.current = .mainOutput ∧ event.Strikes (·.code = .char 'q') ∧
          n = c.snapshot.activeCount ∧ ∃ s ∈ c.snapshot.sessions, s.isLive) ∨
        c.focus.current = .help ∧ event.Strikes (·.closesHelp) ∧ c.Covers (.confirm (.quit n))
  /-- Neither the start nor a theme that is chosen puts the question or leaves. -/
  start : c.start.MovesTo c.focus c.quitting
  applyTheme : ∀ name, (c.applyTheme name).MovesTo c.focus c.quitting
  /-- Who is on the way out stays there, whatever comes. -/
  later : ∀ d, Later (fun _ _ => True) c d → c.quitting → d.quitting

/-- In every state that can be reached, quitting is safe. -/
theorem Reachable.isQuitSafe (h : c.Reachable) : c.IsQuitSafe where
  requests := c.quit_mem_requests_iff
  quitting := c.quitting_handle_iff
  live event now hinterrupt hlive hasks := by
    have hstays : ¬ event.Strikes c.QuitsOn := by
      -- Ctrl-C is excluded, a live session keeps `q` from leaving, and no question is put
      rintro ⟨key, rfl, hkind, hkey | hkey | hkey⟩
      · exact hinterrupt ⟨key, rfl, hkind, hkey⟩
      · exact not_isIdle_of_isLive hlive hkey.1
      · exact hasks hkey.1
    refine ⟨fun hmem => hstays ((c.quit_mem_requests_iff event now).mp hmem), ?_⟩
    rw [Bool.eq_iff_iff, quitting_handle_iff]
    exact or_iff_left hstays
  asks event now n := h.asks_cases
  start := c.movesTo_start
  applyTheme := c.movesTo_applyTheme
  later _ hd := hd.quitting

/-- A console that has been told of one session, which is live. -/
def atWork : Console :=
  let session : Session := ⟨⟨"s1"⟩, ⟨"w1"⟩, "claude", .running, 0, "fix it".toList⟩
  let snapshot : Snapshot := { worktrees := [⟨⟨"w1"⟩, "api", "main", ""⟩], sessions := [session] }
  ((ofTuning {} Theme.fallback (fun name => (Theme.named name, [])) Transcript.markup).handle
    (.snapshot snapshot) ⟨0, 0⟩).console

theorem reachable_atWork : atWork.Reachable := (Reachable.ofTuning _ _ _ _).handle _ _

/-- At work, `q` puts the question, and a second `q` leaves. -/
theorem isQuitSafe_atWork :
    let asked := (atWork.handle (.key { code := .char 'q' }) ⟨0, 0⟩).console
    atWork.Reachable ∧ asked.Reachable ∧ asked.focus.current = .confirm (.quit 1) ∧
      .quit ∉ (atWork.handle (.key { code := .char 'q' }) ⟨0, 0⟩).requests ∧
      .quit ∈ (asked.handle (.key { code := .char 'q' }) ⟨0, 0⟩).requests := by
  intro asked
  have hasked : asked.Reachable := reachable_atWork.handle _ _
  have hcurrent : asked.focus.current = .confirm (.quit 1) := rfl
  refine ⟨reachable_atWork, hasked, hcurrent, ?_, ?_⟩
  · refine (reachable_atWork.isQuitSafe.live _ _ ?_ ⟨_, List.mem_singleton_self _, rfl⟩ ?_).1
    · rintro ⟨_, ⟨rfl⟩, -, hcode, -⟩
      exact absurd hcode (by decide)
    · rintro ⟨n, hn⟩
      exact Target.noConfusion hn
  · refine (hasked.isQuitSafe.requests _ _).mpr ⟨_, rfl, KeyKind.noConfusion, ?_⟩
    exact .inr (.inr ⟨⟨1, hcurrent⟩, rfl⟩)

end Console

/-! ### Settling the question -/

/-- The question whether to leave neither has the focus nor is it remembered. -/
def Focus.IsSettled (f : Focus) : Prop :=
  ∀ n, f.current ≠ .confirm (.quit n) ∧ f.remembered ≠ some (.confirm (.quit n))

namespace Console

variable {c d : Console} {key : Key}

/-- The event is neither Ctrl-C nor a `q` in the main output. -/
def Abstains (c : Console) (event : Event) : Prop :=
  ¬ event.Strikes Key.IsInterrupt ∧
    ¬ (c.focus.current = .mainOutput ∧ event.Strikes (·.code = .char 'q'))

/-- Without `q` no edge leads to the question. -/
theorem Route.isSettled {f : Focus} (hroute : c.Route key f) (h : c.focus.IsSettled)
    (hkey : ¬ (c.focus.current = .mainOutput ∧ key.code = .char 'q')) : f.IsSettled := by
  intro n
  cases hroute with
  | stay => exact h n
  | opened hmain hopens => exact ⟨fun ht => hkey ⟨hmain, (hopens.eq_quit ht).1⟩, (h n).2⟩
  | help => exact ⟨Target.noConfusion, fun ht => (h n).1 (Option.some.inj ht)⟩
  | write | pick => exact ⟨Target.noConfusion, (h n).2⟩
  | closed =>
    refine ⟨?_, nofun⟩
    show c.focus.remembered.getD .mainOutput ≠ .confirm (.quit n)
    rcases hr : c.focus.remembered with - | target
    · exact Target.noConfusion
    · exact fun ht => (h n).2 (hr.trans (congrArg some ht))
  | reset => exact ⟨Target.noConfusion, nofun⟩

/-- Where the question is settled, an event that abstains does not leave the program. -/
theorem Abstains.not_strikes {event : Event} (ha : c.Abstains event) (h : c.focus.IsSettled) :
    ¬ event.Strikes c.QuitsOn := by
  rintro ⟨key, rfl, hkind, hkey | ⟨hidle, hkey⟩ | ⟨⟨n, hasks⟩, -⟩⟩
  · exact ha.1 ⟨key, rfl, hkind, hkey⟩
  · exact ha.2 ⟨hidle.1, key, rfl, hkind, hkey⟩
  · exact (h n).1 hasks

theorem Abstains.isSettled {event : Event} (ha : c.Abstains event) (h : c.focus.IsSettled)
    (now : Moment) : (c.handle event now).console.focus.IsSettled := by
  rcases c.focus_handle_cases event now with ⟨key, hkey, hroute⟩ | ⟨-, hfocus⟩
  · refine hroute.isSettled h fun hq => ha.2 ⟨hq.1, ?_⟩
    exact (Event.strikes_iff hkey _).mpr hq.2
  · exact hfocus ▸ h

/-- The question stays settled, and the program running, until it is put anew. -/
theorem Later.isSettled (h : Later Abstains c d) (hc : c.focus.IsSettled) :
    d.focus.IsSettled ∧ d.quitting = c.quitting := by
  induction h with
  | refl => exact ⟨hc, rfl⟩
  | @start d _ ih => exact ⟨d.movesTo_start.focus ▸ ih.1, d.movesTo_start.quitting.trans ih.2⟩
  | @handle d _ event now ha ih =>
    refine ⟨ha.isSettled ih.1 now, ?_⟩
    rw [← ih.2, Bool.eq_iff_iff, quitting_handle_iff]
    exact or_iff_left (ha.not_strikes ih.1)
  | @applyTheme d _ name ih =>
    have hmoves := d.movesTo_applyTheme name
    exact ⟨hmoves.focus ▸ ih.1, hmoves.quitting.trans ih.2⟩

theorem onKey_of_function_one (hkind : key.kind ≠ .release) (hkey : key.code = .function 1)
    (hcurrent : c.focus.current ≠ .help) (now : Moment) : c.onKey key now = c.openHelp := by
  unfold onKey
  rw [if_neg hkind, if_neg (by simp [hkey]), if_pos ⟨hkey, hcurrent⟩]

/-- F1 does not answer the question: the help remembers it. -/
theorem focus_onKey_of_function_one (hkind : key.kind ≠ .release) (hkey : key.code = .function 1)
    (hcurrent : c.focus.current ≠ .help) (now : Moment) :
    (c.onKey key now).console.focus = ⟨.help, some c.focus.current⟩ := by
  rw [onKey_of_function_one hkind hkey hcurrent]
  exact (movesTo_openHelp hcurrent).focus

/-- Every other key does, and back goes the focus to the main output. -/
theorem Reachable.focus_onKey_of_asks (h : c.Reachable) (hasks : c.AsksToQuit)
    (hkind : key.kind ≠ .release) (hkey : key.code ≠ .function 1) (hquits : ¬ c.QuitsOn key)
    (now : Moment) : (c.onKey key now).console.focus = {} := by
  obtain ⟨n, hcurrent⟩ := hasks
  have hmain : c.focus.current ≠ .mainOutput := hcurrent ▸ Target.noConfusion
  obtain ⟨f, hroute, hmoves⟩ := follows_onKey hkind hquits now
  rw [hmoves.focus]
  -- of all edges, only those that close a question or reset the focus begin here
  cases hroute with
  | stay _ hconfirm => exact absurd (.inl (hconfirm _ hcurrent)) hquits
  | opened hm => exact absurd hm hmain
  | help _ hopens =>
    rcases hopens with hf1 | ⟨hm, -⟩
    · exact absurd hf1 hkey
    · exact absurd hm hmain
  | write hstep | pick hstep => exact absurd (hcurrent.symm.trans hstep) Target.noConfusion
  | closed =>
    have hremembered := h.isNested.eq_none (hcurrent ▸ Target.noConfusion)
    show Focus.mk (c.focus.remembered.getD .mainOutput) none = {}
    rw [hremembered]
    rfl
  | reset => rfl

/-- **A key that is neither a yes nor Ctrl-C settles the question whether to leave if and
only if it is not F1.**  Once it is settled, nothing leaves the program until `q` puts it
anew from the main output; Ctrl-C apart. -/
theorem settles_iff (h : c.Reachable) (hasks : c.AsksToQuit) (hkind : key.kind ≠ .release)
    (hinterrupt : ¬ key.IsInterrupt) (hno : ¬ key.confirmsQuit) (now : Moment) :
    ((c.handle (.key key) now).console.focus.IsSettled ↔ key.code ≠ .function 1) ∧
      (key.code ≠ .function 1 → ∀ d, Later Abstains (c.handle (.key key) now).console d →
        d.focus.IsSettled ∧ d.quitting = c.quitting ∧
          ∀ event later, d.Abstains event → .quit ∉ (d.handle event later).requests) := by
  have hquits : ¬ c.QuitsOn key := by
    rintro (hkey | ⟨hidle, -⟩ | ⟨-, hyes⟩)
    · exact hinterrupt hkey
    · obtain ⟨n, hcurrent⟩ := hasks
      exact absurd (hcurrent.symm.trans hidle.1) Target.noConfusion
    · exact hno hyes
  have hsettled (hkey : key.code ≠ .function 1) :
      (c.handle (.key key) now).console.focus.IsSettled := by
    have hfocus : (c.handle (.key key) now).console.focus = {} :=
      h.focus_onKey_of_asks hasks hkind hkey hquits now
    rw [hfocus]
    exact fun n => ⟨Target.noConfusion, nofun⟩
  refine ⟨⟨fun hs hkey => ?_, hsettled⟩, fun hkey d hd => ?_⟩
  · -- F1 leaves the question where the help remembers it
    obtain ⟨n, hcurrent⟩ := hasks
    have hfocus : (c.handle (.key key) now).console.focus = ⟨.help, some c.focus.current⟩ :=
      focus_onKey_of_function_one hkind hkey (hcurrent ▸ Target.noConfusion) now
    rw [hfocus] at hs
    exact (hs n).2 (congrArg some hcurrent)
  · obtain ⟨hs, hquitting⟩ := hd.isSettled (hsettled hkey)
    have hstays : (c.handle (.key key) now).console.quitting = c.quitting := by
      rw [Bool.eq_iff_iff, quitting_handle_iff, Event.strikes_key_iff]
      exact or_iff_left fun hq => hquits hq.2
    refine ⟨hs, hquitting.trans hstays, fun event later ha hmem => ?_⟩
    exact ha.not_strikes hs ((d.quit_mem_requests_iff event later).mp hmem)

/-- At work, `j` says no to the question: `q` has to put it once more. -/
theorem settles_iff_atWork :
    let asked := (atWork.handle (.key { code := .char 'q' }) ⟨0, 0⟩).console
    let told := (asked.handle (.key { code := .char 'j' }) ⟨0, 0⟩).console
    asked.Reachable ∧ asked.AsksToQuit ∧ told.focus.IsSettled ∧
      .quit ∉ (told.handle (.key { code := .char 'y' }) ⟨0, 0⟩).requests := by
  intro asked told
  have hasked : asked.Reachable := reachable_atWork.handle _ _
  have hasks : asked.AsksToQuit := ⟨1, rfl⟩
  have hinterrupt : ¬ Key.IsInterrupt { code := .char 'j' } := fun h => absurd h.1 (by decide)
  have hsettles := settles_iff hasked hasks KeyKind.noConfusion hinterrupt (by decide) ⟨0, 0⟩
  have hj : KeyCode.char 'j' ≠ .function 1 := KeyCode.noConfusion
  refine ⟨hasked, hasks, hsettles.1.mpr hj, ?_⟩
  refine (hsettles.2 hj told .refl).2.2 _ _ ⟨?_, ?_⟩
  · rintro ⟨_, ⟨rfl⟩, -, hcode, -⟩
    exact absurd hcode (by decide)
  · rintro ⟨-, _, ⟨rfl⟩, -, hcode⟩
    exact absurd hcode (by decide)

/-- At work, F1 leaves the question pending under the help: once the help is closed, `q`
leaves the program, though it was not pressed in the main output again. -/
theorem help_keeps_question :
    let asked := (atWork.handle (.key { code := .char 'q' }) ⟨0, 0⟩).console
    let helped := (asked.handle (.key { code := .function 1 }) ⟨0, 0⟩).console
    let back := (helped.handle (.key { code := .escape }) ⟨0, 0⟩).console
    asked.Reachable ∧ asked.AsksToQuit ∧ helped.focus.remembered = some (.confirm (.quit 1)) ∧
      back.AsksToQuit ∧ 0 < back.snapshot.activeCount ∧
      .quit ∈ (back.handle (.key { code := .char 'q' }) ⟨0, 0⟩).requests := by
  intro asked helped back
  have hasked : asked.Reachable := reachable_atWork.handle _ _
  refine ⟨hasked, ⟨1, rfl⟩, rfl, ⟨1, rfl⟩, Nat.one_pos, ?_⟩
  exact List.mem_singleton_self _

end Console

end AgentConsole
