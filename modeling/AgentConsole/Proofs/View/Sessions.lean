import AgentConsole.Table
import AgentConsole.View.Modal
import Mathlib.Data.List.Perm.Basic

/-!
# The sessions in the browser

The browser lists the sessions of a snapshot under the names of their worktrees.  A `Group` is a
worktree with its sessions as they are listed, and the list is nothing but the groups laid out one
after the other (`sessionItems_eq`).

Within a group the newest session comes first, and sessions that started together stay in the order
of the snapshot.  The second is what the sort being stable comes to: of the sessions that started
at any one time it makes what they were (`Session.filter_newestFirst`).

Over all groups every session of a listed worktree occurs as often as in the snapshot, and those of
worktrees that are gone do not occur (`perm_flatMap_sessions`).  That is the only place where it
matters that no two worktrees have the same identity: else their sessions would be listed under
both.

The main result is `sessionItems_lists`.
-/

namespace AgentConsole

/-! ### Newest first -/

namespace Session

/-- The sessions with the newest first; those that started together stay in their order. -/
def newestFirst (sessions : List Session) : List Session :=
  sessions.mergeSort fun a b => b.startedAt ≤ a.startedAt

theorem newestFirst_perm (sessions : List Session) : (newestFirst sessions).Perm sessions :=
  List.mergeSort_perm sessions _

theorem newestFirst_trans (a b c : Session) (hab : decide (b.startedAt ≤ a.startedAt))
    (hbc : decide (c.startedAt ≤ b.startedAt)) : decide (c.startedAt ≤ a.startedAt) :=
  decide_eq_true (Int.le_trans (of_decide_eq_true hbc) (of_decide_eq_true hab))

theorem newestFirst_total (a b : Session) :
    decide (b.startedAt ≤ a.startedAt) || decide (a.startedAt ≤ b.startedAt) := by
  simpa using Int.le_total b.startedAt a.startedAt

theorem pairwise_newestFirst (sessions : List Session) :
    (newestFirst sessions).Pairwise fun a b => b.startedAt ≤ a.startedAt :=
  (List.pairwise_mergeSort newestFirst_trans newestFirst_total sessions).imp of_decide_eq_true

/-- Sessions that started together stay in their order. -/
theorem filter_newestFirst (sessions : List Session) (time : Int) :
    (newestFirst sessions).filter (·.startedAt = time) = sessions.filter (·.startedAt = time) := by
  let together := sessions.filter (·.startedAt = time)
  have htime : ∀ x ∈ together, x.startedAt = time := fun x hx =>
    of_decide_eq_true (List.mem_filter.mp hx).2
  -- they are in order as they are, so a stable sort leaves them so
  have hordered : together.Pairwise fun a b => decide (b.startedAt ≤ a.startedAt) :=
    List.pairwise_of_forall_mem_list fun a ha b hb =>
      decide_eq_true (Int.le_of_eq ((htime b hb).trans (htime a ha).symm))
  have hsublist : together.Sublist (newestFirst sessions) :=
    List.sublist_mergeSort newestFirst_trans newestFirst_total hordered List.filter_sublist
  have hfiltered := hsublist.filter (·.startedAt = time)
  rw [List.filter_eq_self.mpr fun x hx => decide_eq_true (htime x hx)] at hfiltered
  have hlength := ((newestFirst_perm sessions).filter (·.startedAt = time)).length_eq
  exact (hfiltered.eq_of_length hlength.symm).symm

end Session

namespace View

open Session

/-! ### Groups -/

/-- A worktree, and its sessions as they are listed. -/
structure Group where
  worktree : Worktree
  sessions : List Session

namespace Group

/-- The group of a worktree. -/
def ofWorktree (s : Snapshot) (w : Worktree) : Group := ⟨w, newestFirst (s.sessionsOf w.id)⟩

/-- The rows of a group: its name, and below it an entry for every session. -/
def items (now : Int) (g : Group) : List Item :=
  .heading g.worktree.name :: g.sessions.map (sessionItem g.worktree now)

/-- The group has sessions, and they are those of its worktree, with the newest first; the ones that
started together stand in the order of the list. -/
structure Holds (g : Group) (sessions : List Session) : Prop where
  nonempty : g.sessions ≠ []
  perm : g.sessions.Perm (sessions.filter (·.worktree = g.worktree.id))
  newestFirst : g.sessions.Pairwise fun a b => b.startedAt ≤ a.startedAt
  inOrder : ∀ time, g.sessions.filter (·.startedAt = time)
    = (sessions.filter (·.worktree = g.worktree.id)).filter (·.startedAt = time)

end Group

/-- The groups of a snapshot, in its order; a worktree without sessions has none. -/
def groups (s : Snapshot) : List Group :=
  (s.worktrees.map (Group.ofWorktree s)).filter fun g => !g.sessions.isEmpty

variable {s : Snapshot} {g : Group} {w : Worktree} {x : Session} {now : Int}

theorem mem_groups_iff : g ∈ groups s ↔
    (∃ w ∈ s.worktrees, Group.ofWorktree s w = g) ∧ g.sessions ≠ [] := by
  simp [groups]

theorem holds_of_mem_groups (hg : g ∈ groups s) : g.Holds s.sessions := by
  obtain ⟨⟨w, -, rfl⟩, hne⟩ := mem_groups_iff.mp hg
  exact ⟨hne, newestFirst_perm _, pairwise_newestFirst _, filter_newestFirst _⟩

/-- A worktree has a group if it has a session. -/
theorem map_worktree_groups (s : Snapshot) : (groups s).map Group.worktree
    = s.worktrees.filter fun w => s.sessions.any (·.worktree = w.id) := by
  have hsome (w : Worktree) : (!(Group.ofWorktree s w).sessions.isEmpty)
      = s.sessions.any (·.worktree = w.id) := by
    have hempty := (newestFirst_perm (s.sessionsOf w.id)).isEmpty_eq
    rw [Group.ofWorktree, hempty, Bool.eq_iff_iff]
    simp [Snapshot.sessionsOf]
  have hself : Group.worktree ∘ Group.ofWorktree s = fun w => w := rfl
  unfold groups
  rw [List.filter_map, List.map_map, hself, List.map_id']
  exact List.filter_congr fun w _ => hsome w

/-- What is laid out group by group is laid out worktree by worktree. -/
theorem flatMap_groups {α : Type} (s : Snapshot) (f : Group → List α) :
    (groups s).flatMap f = s.worktrees.flatMap fun w =>
      if (Group.ofWorktree s w).sessions.isEmpty then [] else f (Group.ofWorktree s w) := by
  unfold groups
  induction s.worktrees with
  | nil => rfl
  | cons w rest ih =>
    rw [List.map_cons, List.flatMap_cons, ← ih]
    cases hempty : (Group.ofWorktree s w).sessions.isEmpty <;> simp [hempty]

/-- The list is its groups, one after the other. -/
theorem sessionItems_eq (s : Snapshot) (now : Int) :
    sessionItems s now = (groups s).flatMap (Group.items now) := by
  rw [flatMap_groups]
  refine congrArg (List.flatMap · s.worktrees) (funext fun w => ?_)
  unfold Group.ofWorktree Group.items newestFirst
  split
  · rename_i hnil
    rw [hnil]
    rfl
  · rename_i x rest hcons
    rw [hcons]
    rfl

/-! ### Every session once -/

/-- The sessions of worktrees with different identities are, taken together, the sessions of any of
them. -/
theorem perm_flatMap_sessions {worktrees : List Worktree}
    (hids : (worktrees.map Worktree.id).Nodup) (sessions : List Session) :
    (worktrees.flatMap fun w => sessions.filter (·.worktree = w.id)).Perm
      (sessions.filter fun x => worktrees.any (x.worktree = ·.id)) := by
  induction worktrees with
  | nil => simp
  | cons w rest ih =>
    obtain ⟨hw, hrest⟩ := List.nodup_cons.mp hids
    let known := sessions.filter fun x => (w :: rest).any (x.worktree = ·.id)
    -- those of the first worktree, and those of the others: no session is both
    have hfirst : known.filter (·.worktree = w.id) = sessions.filter (·.worktree = w.id) := by
      rw [List.filter_filter]
      refine List.filter_congr fun x _ => ?_
      by_cases hx : x.worktree = w.id <;> simp [hx]
    have hothers : known.filter (fun x => !decide (x.worktree = w.id))
        = sessions.filter fun x => rest.any (x.worktree = ·.id) := by
      rw [List.filter_filter]
      refine List.filter_congr fun x _ => ?_
      by_cases hx : x.worktree = w.id
      · have hnone : ∀ v ∈ rest, ¬ w.id = v.id := fun v hv heq =>
          hw (List.mem_map.mpr ⟨v, hv, heq.symm⟩)
        simpa [hx] using hnone
      · simp [hx]
    have hsplit := List.filter_append_perm (fun x => decide (x.worktree = w.id)) known
    rw [hfirst, hothers] at hsplit
    exact ((ih hrest).append_left _).trans hsplit

/-- Where identities are unique, every worktree is found by its own. -/
theorem worktree?_of_mem (hids : (s.worktrees.map Worktree.id).Nodup) (hw : w ∈ s.worktrees) :
    s.worktree? w.id = some w :=
  Table.find?_key_of_mem hids hw

theorem perm_sessions_groups (hids : (s.worktrees.map Worktree.id).Nodup) :
    ((groups s).flatMap Group.sessions).Perm
      (s.sessions.filter fun x => s.worktrees.any (x.worktree = ·.id)) := by
  have hgroups : (groups s).flatMap Group.sessions
      = s.worktrees.flatMap fun w => newestFirst (s.sessionsOf w.id) := by
    rw [flatMap_groups]
    refine congrArg (List.flatMap · s.worktrees) (funext fun w => ?_)
    show (if (newestFirst (s.sessionsOf w.id)).isEmpty then [] else newestFirst (s.sessionsOf w.id)) = _
    split
    · rename_i hempty
      exact (List.isEmpty_iff.mp hempty).symm
    · rfl
  rw [hgroups]
  have hsorted : (s.worktrees.flatMap fun w => newestFirst (s.sessionsOf w.id)).Perm
      (s.worktrees.flatMap fun w => s.sessions.filter (·.worktree = w.id)) :=
    .flatMap_left _ fun w _ => newestFirst_perm (s.sessionsOf w.id)
  -- worktrees without a session contribute nothing, and sorting loses nothing
  exact hsorted.trans (perm_flatMap_sessions hids s.sessions)

/-- The entry for a session, if its worktree is there. -/
def item? (s : Snapshot) (now : Int) (x : Session) : Option Item :=
  (s.worktree? x.worktree).map fun w => sessionItem w now x

/-- The entries of a group are its sessions, in order. -/
theorem Group.filter_items (now : Int) (g : Group) :
    (g.items now).filter Item.isChoice = g.sessions.map (sessionItem g.worktree now) := by
  show (g.sessions.map (sessionItem g.worktree now)).filter Item.isChoice = _
  refine List.filter_eq_self.mpr fun item hitem => ?_
  obtain ⟨x, -, rfl⟩ := List.mem_map.mp hitem
  rfl

theorem item?_of_mem (hids : (s.worktrees.map Worktree.id).Nodup) (hg : g ∈ groups s)
    (hx : x ∈ g.sessions) (now : Int) : item? s now x = some (sessionItem g.worktree now x) := by
  have hworktree : g.worktree ∈ s.worktrees := by
    obtain ⟨⟨w, hw, rfl⟩, -⟩ := mem_groups_iff.mp hg
    exact hw
  have hof : x.worktree = g.worktree.id :=
    of_decide_eq_true (List.mem_filter.mp ((holds_of_mem_groups hg).perm.mem_iff.mp hx)).2
  rw [item?, hof, worktree?_of_mem hids hworktree]
  rfl

/-- The entries, in the order in which they are listed. -/
theorem filter_sessionItems (hids : (s.worktrees.map Worktree.id).Nodup) (now : Int) :
    (sessionItems s now).filter Item.isChoice
      = ((groups s).flatMap Group.sessions).filterMap (item? s now) := by
  rw [sessionItems_eq, List.filter_flatMap, List.filterMap_flatMap]
  refine List.flatMap_congr fun g hg => ?_
  rw [Group.filter_items, ← List.filterMap_eq_map]
  exact List.filterMap_congr fun x hx => (item?_of_mem hids hg hx now).symm

/-- The sessions without an entry are those of worktrees that are not listed. -/
theorem filterMap_item?_filter (s : Snapshot) (now : Int) :
    (s.sessions.filter fun x => s.worktrees.any (x.worktree = ·.id)).filterMap (item? s now)
      = s.sessions.filterMap (item? s now) := by
  rw [List.filterMap_filter]
  refine List.filterMap_congr fun x _ => ?_
  split
  · rfl
  · rename_i hgone
    have hnone : s.worktree? x.worktree = none := by
      refine List.find?_eq_none.mpr fun w hw heq => hgone ?_
      exact List.any_eq_true.mpr ⟨w, hw, decide_eq_true (of_decide_eq_true heq).symm⟩
    rw [item?, hnone]
    rfl

/-- How a list of items presents the sessions of a snapshot, in these groups. -/
structure Lists (s : Snapshot) (now : Int) (listed : List Item) (groups : List Group) : Prop where
  /-- There is nothing but the groups: the name of each, and then its sessions. -/
  items : listed = groups.flatMap (Group.items now)
  /-- They come in the order of the snapshot, one for every worktree that has a session. -/
  worktrees : groups.map Group.worktree
    = s.worktrees.filter fun w => s.sessions.any (·.worktree = w.id)
  holds : ∀ g ∈ groups, g.Holds s.sessions
  /-- The sessions of all groups are those of listed worktrees, each as often as in the snapshot. -/
  once : (groups.flatMap Group.sessions).Perm
    (s.sessions.filter fun x => s.worktrees.any (x.worktree = ·.id))
  /-- The entries are those for the sessions whose worktree is there. -/
  entries : (listed.filter Item.isChoice).Perm (s.sessions.filterMap (item? s now))

/-- **The browser lists every session once.**  If no two worktrees have the same identity, then the
sessions of a snapshot are listed by worktree, in groups that leave none out, each under its name
and with the newest first. -/
theorem sessionItems_lists (hids : (s.worktrees.map Worktree.id).Nodup) (now : Int) :
    ∃ groups, Lists s now (sessionItems s now) groups := by
  have honce := perm_sessions_groups hids
  refine ⟨groups s, sessionItems_eq s now, map_worktree_groups s, fun g => holds_of_mem_groups,
    honce, ?_⟩
  rw [filter_sessionItems hids, ← filterMap_item?_filter]
  exact honce.filterMap _

/-- Two sessions that started together, a later one listed between them, and one whose worktree is
gone. -/
theorem sessionItems_lists_together :
    let session (id worktree : String) (startedAt : Int) : Session :=
      ⟨⟨id⟩, ⟨worktree⟩, "claude", .idle, startedAt, []⟩
    let s : Snapshot :=
      { worktrees := [⟨⟨"w1"⟩, "main", "main", ""⟩, ⟨⟨"w2"⟩, "docs", "docs", ""⟩,
          ⟨⟨"w3"⟩, "web", "dev", ""⟩]
        sessions := [session "s1" "w3" 5, session "s2" "w1" 0, session "s3" "w3" 9,
          session "s4" "gone" 7, session "s5" "w3" 5] }
    (s.worktrees.map Worktree.id).Nodup ∧
      (sessionItems s 10).map Item.id = ["--main", "s2", "--web", "s3", "s1", "s5"] ∧
      ∃ groups, Lists s 10 (sessionItems s 10) groups := by
  intro session s
  have hids : (s.worktrees.map Worktree.id).Nodup := by decide
  have hitems : (sessionItems s 10).map Item.id = ["--main", "s2", "--web", "s3", "s1", "s5"] := by
    simp [s, session, sessionItems, Snapshot.sessionsOf, List.mergeSort,
      List.MergeSort.Internal.splitInTwo, sessionItem, Item.id]
  exact ⟨hids, hitems, sessionItems_lists hids 10⟩

end View

end AgentConsole
