import AgentConsole.Proofs.Styled.Kind
import AgentConsole.View.Main
import AgentConsole.View.Modal

/-!
# The parts of the frame

What a painter adds to the strings it is given are fixed words, numbers and styles.  So what is
drawn of a snapshot and of the forge's words is of a kind (`Kind`) if these lack its character
(`Snapshot.Lacks`, `RemoteStatus.Lacks`).  If no string holds an ESC (`Snapshot.IsPlain`,
`RemoteStatus.IsPlain`), every part of the main frame and every modal is solid, at any size.
-/

namespace AgentConsole

open Styled

/-- No name in the snapshot holds an ESC. -/
structure Snapshot.IsPlain (s : Snapshot) : Prop where
  worktree : ∀ w ∈ s.worktrees,
    esc ∉ w.id.name.toList ∧ esc ∉ w.name.toList ∧ esc ∉ w.branch.toList
  session : ∀ x ∈ s.sessions,
    esc ∉ x.id.name.toList ∧ esc ∉ x.worktree.name.toList ∧ esc ∉ x.agent.toList

/-- The forge's word for the state of a pull request holds no ESC. -/
def RemoteStatus.IsPlain (r : RemoteStatus) : Prop := ∀ state ∈ r.state, esc ∉ state.toList

namespace Session

/-- A choice made session by session is one of the sessions. -/
theorem mem_of_foldl {choose : Option Session → Session → Option Session}
    (hchoose : ∀ best s, ∀ b ∈ choose best s, b ∈ best ∨ b = s) {sessions : List Session}
    {best : Option Session} : ∀ b ∈ sessions.foldl choose best, b ∈ best ∨ b ∈ sessions := by
  induction sessions generalizing best with
  | nil =>
    intro b hb
    exact .inl hb
  | cons s rest ih =>
    intro b hb
    rcases ih b hb with hb | hb
    · rcases hchoose best s b hb with hb | rfl
      · exact .inl hb
      · exact .inr List.mem_cons_self
    · exact .inr (List.mem_cons_of_mem _ hb)

/-- The newest session is one of those it was chosen from. -/
theorem mem_of_newest? {sessions : List Session} {s : Session} (h : newest? sessions = some s) :
    s ∈ sessions := by
  have hmem := mem_of_foldl ?_ s h
  · exact hmem.resolve_left (by simp)
  · intro best s b hb
    cases best with
    | none => exact .inr (Option.some.inj hb).symm
    | some a =>
      dsimp only at hb
      split at hb
      · exact .inr (Option.some.inj hb).symm
      · exact .inl hb

end Session

namespace Snapshot

theorem mem_sessionsOf {s : Snapshot} {id : WorktreeId} {x : Session}
    (h : s.sessionFor id = some x) : x ∈ s.sessionsOf id := by
  rcases Option.or_eq_some_iff.mp h with h | ⟨-, h⟩
  · exact (List.mem_filter.mp (Session.mem_of_newest? h)).1
  · exact Session.mem_of_newest? h

theorem mem_sessionFor {s : Snapshot} {id : WorktreeId} {x : Session}
    (h : s.sessionFor id = some x) : x ∈ s.sessions := (List.mem_filter.mp (mem_sessionsOf h)).1

/-- No name in the snapshot holds a character. -/
structure Lacks (x : Char) (s : Snapshot) : Prop where
  worktree : ∀ w ∈ s.worktrees, x ∉ w.id.name.toList ∧ x ∉ w.name.toList ∧ x ∉ w.branch.toList
  session : ∀ y ∈ s.sessions, x ∉ y.id.name.toList ∧ x ∉ y.worktree.name.toList ∧ x ∉ y.agent.toList

theorem IsPlain.lacks {s : Snapshot} (h : s.IsPlain) : s.Lacks esc := ⟨h.worktree, h.session⟩

namespace Lacks

variable {x : Char} {s : Snapshot} (h : s.Lacks x)
include h

theorem of_worktree? {id : WorktreeId} {w : Worktree} (hw : s.worktree? id = some w) :
    x ∉ w.name.toList ∧ x ∉ w.branch.toList :=
  (h.worktree w (List.mem_of_find?_eq_some hw)).2

theorem of_session? {id : SessionId} {y : Session} (hy : s.session? id = some y) :
    x ∉ y.worktree.name.toList ∧ x ∉ y.agent.toList :=
  (h.session y (List.mem_of_find?_eq_some hy)).2

theorem of_sessionFor {id : WorktreeId} {y : Session} (hy : s.sessionFor id = some y) :
    x ∉ y.agent.toList :=
  (h.session y (mem_sessionFor hy)).2.2

/-- The name of a worktree, or its identity where it is unknown. -/
theorem notMem_name {id : WorktreeId} (hid : x ∉ id.name.toList) :
    x ∉ (((s.worktree? id).map (·.name)).getD id.name).toList := by
  rcases hw : s.worktree? id with - | w
  · exact hid
  · exact (h.of_worktree? hw).1

end Lacks

end Snapshot

/-- The forge's word for the state of a pull request does not hold a character. -/
def RemoteStatus.Lacks (x : Char) (r : RemoteStatus) : Prop := ∀ state ∈ r.state, x ∉ state.toList

namespace View

/-! ### Signs -/

theorem glyph_ne (status : Option Status) : glyph status ≠ esc ∧ glyph status ≠ '\n' := by
  rcases status with - | status
  · decide
  · cases status <;> decide

section

variable {x : Char} {P : Text → Prop} (k : Kind x P)
include k

theorem kind_label (status : Status) : P status.label.toList := by
  cases status <;> exact k.literal (by decide)

/-- The badge of a pull request is of the kind of its texts. -/
theorem kind_remoteBadge {remote : RemoteStatus} (h : remote.Lacks x) (theme : Theme) :
    P (remoteBadge theme remote) := by
  have hstate : x ∉ (remote.state.getD "").toList := by
    rcases hs : remote.state with - | state
    · simp
    · exact h state hs
  refine k.join fun t ht => ?_
  rcases List.mem_append.mp ht with ht | ht
  · obtain ⟨n, -, rfl⟩ := List.mem_map.mp ht
    refine k.muted (k.of_notMem fun hx => ?_) theme
    -- what is left of the words at their end is made of their characters
    have hx := Text.mem_of_mem_dropEndWhile hx
    have hfirst : x ∉ "PR #".toList ++ Text.ofNat n := fun hx =>
      (List.mem_append.mp hx).elim (k.notMem_literal (by decide)) (k.notMem_words (.ofNat n))
    rcases List.mem_append.mp hx with hx | hx
    · exact hfirst hx
    · rcases List.mem_cons.mp hx with hspace | hx
      · exact k.notMem_words (t := [' ']) (by decide) (List.mem_singleton.mpr hspace)
      · exact hstate hx
  · obtain ⟨checks, -, rfl⟩ := List.mem_map.mp ht
    cases checks <;> exact k.paint (k.one (by decide)) _

/-! ### Header, list of worktrees, footer -/

variable {snapshot : Snapshot} (theme : Theme)

/-- The header is of the kind of the names in it. -/
theorem kind_header (h : snapshot.Lacks x) (selected : Option WorktreeId)
    {remote : Option RemoteStatus} (hr : ∀ r ∈ remote, r.Lacks x) (width : Nat) :
    P (header theme snapshot selected remote width) := by
  have hdot : P (theme.muted " · ".toList) := k.muted (k.literal (by decide)) theme
  have hbadge : P ((remote.map (remoteBadge theme)).getD []) := by
    rcases remote with - | r
    · exact k.nil
    · exact kind_remoteBadge k (hr r rfl) theme
  -- on the left the name, the worktree, its session and its pull request; on the right the count
  refine k.spread (k.append ?_ ?_) ?_ width
  · exact k.strong (k.literal (by decide)) _
  · rcases hw : selected.bind snapshot.worktree? with - | w
    · exact k.nil
    · obtain ⟨id, -, hid⟩ := Option.bind_eq_some_iff.mp hw
      obtain ⟨hname, hbranch⟩ := h.of_worktree? hid
      refine k.append (k.append (k.append (k.append hdot (k.strong (k.of_notMem hname) _)) ?_) ?_) ?_
      · exact k.muted (k.append (k.append (k.literal (by decide)) (k.of_notMem hbranch))
          (k.words (by decide))) theme
      · split
        · exact k.nil
        · rename_i y hy
          refine k.append hdot (k.paint ?_ _)
          exact k.append (k.cons (glyph_ne _) (k.cons (by decide) (k.of_notMem (h.of_sessionFor hy))))
            (k.cons (by decide) (kind_label k _))
      · split
        · exact k.nil
        · exact k.append hdot hbadge
  · split
    · exact k.muted (k.literal (by decide)) theme
    · exact k.paint (k.append (k.ofNat _) (k.literal (by decide))) _

/-- A row of the list of worktrees is of the kind of the name. -/
theorem kind_worktreeRow (h : snapshot.Lacks x) (selected : Option WorktreeId)
    (remotes : WorktreeId → Option RemoteStatus) (width index : Nat) {w : Worktree}
    (hw : w ∈ snapshot.worktrees) :
    P (worktreeRow theme snapshot selected remotes width index w) := by
  have hname : P w.name.toList := k.of_notMem (h.worktree w hw).2.1
  have hnumber : P (if index < 9 then Text.ofNat (index + 1) else [' ']) := by
    split
    · exact k.ofNat _
    · exact k.one (by decide)
  have hpull : P ((((remotes w.id).bind (·.pullRequest)).map ('#' :: Text.ofNat ·)).getD []) := by
    rcases (remotes w.id).bind (·.pullRequest) with - | n
    · exact k.nil
    · exact k.cons (by decide) (k.ofNat n)
  unfold worktreeRow
  dsimp only
  -- the selected row is painted as a whole, the others part by part
  split
  · refine k.selected (k.spread ?_ hpull width) theme
    exact k.append (k.cons (glyph_ne _) (k.cons (by decide) hnumber)) (k.cons (by decide) hname)
  · refine k.spread ?_ (k.muted hpull theme) width
    exact k.append (k.append (k.paint (k.one (glyph_ne _)) _)
      (k.cons (by decide) (k.muted hnumber theme))) (k.cons (by decide) hname)

theorem kind_emptyOutput (hasWorktree : Bool) (width : Nat) :
    P (emptyOutput theme hasWorktree width) := by
  refine k.muted (k.truncate ?_ width) theme
  cases hasWorktree <;> exact k.literal (by decide)

/-- The footer is of the kind of the note in it. -/
theorem kind_footer (target : Target) {note : Text} (h : P note) (width : Nat) :
    P (footer theme target note width) := by
  have hlabel : P (theme.accent.strong target.label.toList) := by
    refine k.strong ?_ _
    cases target <;> exact k.literal (by decide)
  refine k.spread (k.muted ?_ theme) ?_ width
  · rcases target with - | - | - | step | - | - | - | -
    case taskFlow => cases step <;> exact k.literal (by decide)
    all_goals exact k.literal (by decide)
  · split
    · exact hlabel
    · exact k.append (k.paint h _) (k.cons (by decide) hlabel)

end

/-- Over plain names, the list of worktrees is solid. -/
theorem solid_worktreeList {snapshot : Snapshot} (h : snapshot.IsPlain) (theme : Theme)
    (selected : Option WorktreeId) (remotes : WorktreeId → Option RemoteStatus)
    (width height : Nat) : Solid (worktreeList theme snapshot selected remotes width height) := by
  refine (solid_ofRows fun row hrow => ?_).rectangle width height
  split at hrow
  · obtain rfl := List.mem_singleton.mp hrow
    exact (solid_literal (by decide)).muted theme
  · obtain ⟨i, hi, rfl⟩ := List.mem_mapIdx.mp hrow
    exact kind_worktreeRow kind_solid theme h.lacks selected remotes width i (List.getElem_mem hi)

theorem solid_notice (width height : Nat) :
    Solid ("Terminal too small (".toList ++ Text.ofNat width ++ 'x' :: Text.ofNat height ++ [')']) :=
  (((solid_literal (by decide)).append (solid_ofNat width)).append
    ((solid_ofNat height).cons (by decide))).append (solid_of_notMem (by decide))

/-! ### Modals -/

/-- The fixed words of a row of the help. -/
def HelpRow.words : HelpRow → List String
  | .group name => [name]
  | .key name description => [name, description]

section

variable {x : Char} {P : Text → Prop} (k : Kind x P) (theme : Theme)
include k

theorem kind_helpLines (width : Nat) : ∀ line ∈ helpLines theme width, P line := by
  have hwords : ∀ r ∈ helpRows, ∀ word ∈ r.words, x ∉ word.toList := by
    simp only [helpRows, HelpRow.words, List.forall_mem_cons]
    repeat' apply And.intro
    all_goals first | exact k.notMem_literal (by decide) | exact List.forall_mem_nil _
  intro line hline
  obtain ⟨r, hr, rfl⟩ := List.mem_map.mp hline
  have hr := hwords r hr
  cases r with
  | group name => exact k.strong (k.of_notMem (hr name (by simp [HelpRow.words]))) _
  | key name description =>
    have hname : P name.toList := k.of_notMem (hr name (by simp [HelpRow.words]))
    have hdescription : P description.toList :=
      k.of_notMem (hr description (by simp [HelpRow.words]))
    exact k.fit (k.append (k.cons (by decide) (k.cons (by decide)
      (k.paint (k.fit hname 22) theme.foreground))) (k.muted hdescription theme)) width

/-- A question is of the kind of the names it asks about. -/
theorem kind_question {snapshot : Snapshot} (h : snapshot.Lacks x) {action : Confirmation}
    (ha : ∀ id, action = .stopSession id → x ∉ id.name.toList) : P (question action snapshot) := by
  cases action with
  | quit active =>
    refine k.append (k.append (k.ofNat active) ?_) (k.literal (by decide))
    split <;> exact k.literal (by decide)
  | stopSession id =>
    unfold question
    dsimp only
    split
    · rename_i session hs
      obtain ⟨hworktree, hagent⟩ := h.of_session? hs
      exact k.append (k.append (k.append (k.append (k.literal (by decide)) (k.of_notMem hagent))
        (k.literal (by decide))) (k.of_notMem (h.notMem_name hworktree))) (k.words (by decide))
    · exact k.append (k.append (k.literal (by decide)) (k.of_notMem (ha id rfl)))
        (k.words (by decide))

/-- The line below a question, which names the keys that answer it. -/
theorem kind_keys (action : Confirmation) : P (theme.muted (match action with
    | .quit _ => "y / q quit    any other key cancels"
    | .stopSession _ => "y stop    any other key cancels").toList) := by
  refine k.muted ?_ theme
  cases action <;> exact k.literal (by decide)

end

theorem solid_confirmation (theme : Theme) {snapshot : Snapshot} (h : snapshot.IsPlain)
    {action : Confirmation} (ha : ∀ id, action = .stopSession id → esc ∉ id.name.toList) :
    Solid (confirmation theme action snapshot) :=
  (kind_question kind_solid h.lacks ha).append
    (((kind_keys kind_solid theme action).cons (by decide)).cons (by decide))

end View

end AgentConsole
