import AgentConsole.Proofs.Console.Commands

/-!
# Mistakes change nothing but the toasts

What the user asks for and cannot have is answered with a toast: a warning, or an info
where there is nothing to be had.  Most of these answers come after an editor or a picker
has read the key, and yet nothing is left of that: an editor that submits and a picker
that confirms are the same as before (`Editor.of_handle_submit`,
`Picker.of_handle_confirm`), so that the answer is `Console.toast` on the console as it
was (`Answers.mistaken`).

Two other answers raise a toast.  A theme that is chosen is told of with a success, and the
queue tells it from a warning since it keeps at least one toast
(`Reachable.limit_pos`).  A prompt that is sent while no worktree is picked would go back
to the list, but there is always a worktree (`Reachable.exists_task`).
-/

namespace AgentConsole

/-- The turn raises a toast of that severity, and notes its message. -/
def Turn.Raises (c : Console) (severity : Severity) (time : Nat) (t : Turn) : Prop :=
  ∃ message, ⟨.debug, "toast: ".toList ++ message⟩ ∈ t.notes ∧
    t.console.toasts = (c.toasts.push message severity time).1

theorem Note.tellsToast_toast (level : Level) (message : Text) :
    (Note.mk level ("toast: ".toList ++ message)).tellsToast :=
  List.isPrefixOf_iff_prefix.mpr (List.prefix_append _ _)

theorem Turn.Silent.not_raises {c : Console} {t : Turn} (h : t.Silent c) {severity : Severity}
    {time : Nat} : ¬ t.Raises c severity time := by
  rintro ⟨message, hnote, -⟩
  exact h.notes _ hnote (Note.tellsToast_toast _ _)

namespace Console

variable {c : Console} {key : Key} {event : Event} {now : Moment}

/-- How many toasts there is room for never changes. -/
theorem limit_handle (h : c.focus.IsNested) (event : Event) (now : Moment) :
    (c.handle event now).console.toasts.limit = c.toasts.limit := by
  rcases c.answer_handle h event now with ⟨key, r, -, -, hgave⟩ | ⟨key, -, -, hanswer⟩ | ⟨-, hkeeps⟩
  · rw [hgave.toasts]
  · generalize c.handle event now = t at hanswer ⊢
    cases hanswer with
    | plain ht => exact ht.limit
    | mistaken => exact (c.keepsTask_toast _ _ _).limit
    | themed _ ht => exact ht.limit
    | picked => rfl
    | unset _ _ ht => rw [ht.toasts]
    | strayed => exact ToastQueue.limit_push _ _ _ _
  · exact hkeeps.limit

/-- There is room for a toast. -/
theorem Reachable.limit_pos (h : c.Reachable) : 0 < c.toasts.limit := by
  induction h with
  | ofTuning tuning => exact Nat.lt_of_lt_of_le Nat.zero_lt_one (Nat.le_max_right _ _)
  | @start c _ ih => exact c.keepsCourse_start.limit ▸ ih
  | @handle c hreach event now ih => exact limit_handle hreach.isNested event now ▸ ih
  | @applyTheme c _ name ih => exact ih

/-- A toast asks for its timer, or for nothing. -/
theorem requests_toast (c : Console) (message : Text) (severity : Severity) (time : Nat) :
    (c.toast message severity time).requests = [] ∨
      ∃ order, order.purpose = .toasts ∧
        (c.toast message severity time).requests = [.schedule order] := by
  show (c.toasts.push message severity time).2.toList.map Request.schedule = [] ∨ _
  rcases horder : (c.toasts.push message severity time).2 with - | order
  · exact .inl rfl
  · refine .inr ⟨order, ToastQueue.purpose_of_rearm horder, ?_⟩
    show (c.toasts.push message severity time).2.toList.map Request.schedule = _
    rw [horder]
    rfl

/-- An answer that raises a warning or an info is a toast on the console as it was. -/
theorem Answers.exists_eq_toast (h : c.Reachable) {severity : Severity}
    (hseverity : severity = .warning ∨ severity = .info) {time : Nat} {t : Turn}
    (hanswer : c.Answers key time t) (hraises : t.Raises c severity time) :
    ∃ message other, t = c.toast message other time := by
  cases hanswer with
  | plain ht => exact absurd hraises ht.not_raises
  | @mistaken message other => exact ⟨message, other, rfl⟩
  | themed message _ htoasts =>
    -- the newest toast is a success, and so it is neither a warning nor an info
    obtain ⟨raised, -, hpushed⟩ := hraises
    have hnewest := ToastQueue.getLast?_push h.limit_pos message .success time
    rw [← htoasts, hpushed, ToastQueue.getLast?_push h.limit_pos] at hnewest
    obtain rfl : severity = .success := congrArg Toast.severity (Option.some.inj hnewest)
    exact hseverity.elim nofun nofun
  | @picked id =>
    have hsilent : Turn.Silent c
        ({ c with taskWorktree := some ⟨id⟩ }.replaceFocus (.taskFlow .writePrompt)).quiet :=
      .quiet rfl
    exact absurd hraises hsilent.not_raises
  | unset _ _ ht => exact absurd hraises ht.not_raises
  | strayed _ hwrite hunset =>
    obtain ⟨worktree, htask⟩ := h.exists_task (.inl hwrite)
    exact absurd (hunset.symm.trans htask) nofun

theorem silent_onKey_of_release (hkind : key.kind = .release) (now : Moment) :
    (c.onKey key now).Silent c := by
  rw [onKey_of_release hkind]
  exact .quiet rfl

/-- **Mistakes change nothing but the toasts.**  Where a key raises a warning or an info, all
the rest of the console is as before, and nothing is asked for but the timer of the toasts. -/
theorem Reachable.mistake_changes_toasts (h : c.Reachable) {severity : Severity}
    (hseverity : severity = .warning ∨ severity = .info)
    (hraises : (c.handle (.key key) now).Raises c severity now.clock) :
    (c.handle (.key key) now).console
        = { c with toasts := (c.handle (.key key) now).console.toasts } ∧
      ((c.handle (.key key) now).requests = [] ∨
        ∃ order, order.purpose = .toasts ∧
          (c.handle (.key key) now).requests = [.schedule order]) := by
  rcases c.answer_handle h.isNested (.key key) now with ⟨_, r, -, -, hgave⟩ |
    ⟨other, -, -, hanswer⟩ | ⟨hnone, -⟩
  · exact absurd hraises hgave.not_raises
  · obtain ⟨message, severity, heq⟩ := hanswer.exists_eq_toast h hseverity hraises
    rw [heq]
    exact ⟨rfl, c.requests_toast message severity now.clock⟩
  · -- the key was released
    have hkind : key.kind = .release := Decidable.of_not_not fun hkind =>
      hnone (fun _ => True) ((Event.strikes_key_iff key).mpr ⟨hkind, trivial⟩)
    exact absurd hraises (silent_onKey_of_release hkind now).not_raises

/-- A follow-up to a running session is opened, and nothing is sent while it says nothing,
although the editor has read the key. -/
theorem mistake_changes_toasts_atWork :
    let following := atWork.after [.key { code := .char 'f' }, .key { code := .char ' ' }]
    let send : Key := { code := .char 's', control := true }
    let turn := following.handle (.key send) ⟨7, 0⟩
    following.Reachable ∧ following.focus.current = .followUp ⟨"s1"⟩ ∧
      turn.Raises following .warning 7 ∧
      turn.console = { following with toasts := turn.console.toasts } ∧
      turn.requests = [.schedule ⟨.toasts, 3000, 1⟩] := by
  intro following send turn
  have hcurrent : following.focus.current = .followUp ⟨"s1"⟩ := by decide +kernel +revert
  have hrequests : turn.requests = [.schedule ⟨.toasts, 3000, 1⟩] := by decide +kernel +revert
  have hraises : turn.Raises following .warning 7 :=
    ⟨"Nothing to send".toList, by decide +kernel +revert, by decide +kernel +revert⟩
  have hfollowing : following.Reachable := reachable_atWork.after _
  have hchanges := hfollowing.mistake_changes_toasts (.inl rfl) hraises
  exact ⟨hfollowing, hcurrent, hraises, hchanges.1, hrequests⟩

end Console

end AgentConsole
