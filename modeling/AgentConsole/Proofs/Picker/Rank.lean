import AgentConsole.Proofs.Picker.Filter
import Mathlib.Data.List.Nodup

/-!
# Moving a selection by ranks

A picker moves its selection step by step: each step looks for the next entry in one direction,
passing over the headings, and the steps end early where no entry is left.  Counted in entries
instead of rows, all of this is an addition.  The entry of rank `r` goes to rank `r + delta`, and to
the first or the last one where that lies outside (`IsCoherent.selected_move`).

The argument is about lists.  The places of the entries in what is shown are a list without
repetitions (`places`), an entry splits it in two, and the search below the entry finds the head of
what follows (`IsCoherent.exists_places_split`).  So a step down goes from each member of the list to
the next, and a step up does the same on the list read from its end; a walk over a list is worked out
once for both of them (`walk_of_successor`, `rounds_le_of_successor`).

The main result is `movesByRank_run`.
-/

namespace AgentConsole.Picker

variable {p : Picker} {i j r : Nat}

/-- The places of the entries in what is shown, from the top. -/
def places (p : Picker) : List Nat :=
  (List.range p.shown.length).filter fun i => (p.shown[i]?).any Item.isChoice

/-! ### Searching is finding in a list -/

/-- The loop upwards is a search in a range. -/
theorem seek_eq_find? (q : Nat → Bool) (i n : Nat) : seek q i n = (List.range' i n).find? q := by
  induction n generalizing i with
  | zero => rfl
  | succ n ih =>
    rw [List.range'_succ, List.find?_cons]
    cases hq : q i with
    | true => exact if_pos hq
    | false => exact (if_neg (by simp [hq])).trans (ih (i + 1))

/-- The loop downwards is a search in a range that is read from its end. -/
theorem seekBack_eq_find? (q : Nat → Bool) (i : Nat) :
    seekBack q i = (List.range i).reverse.find? q := by
  induction i with
  | zero => rfl
  | succ i ih =>
    rw [List.range_succ, List.reverse_concat, List.find?_cons]
    cases hq : q i with
    | true => exact if_pos hq
    | false => exact (if_neg (by simp [hq])).trans ih

/-- The places of the entries, in order. -/
theorem IsCoherent.places_eq (h : p.IsCoherent) :
    p.places = (List.range p.size).filter p.isChoiceAt := by
  obtain ⟨hlength, hrows⟩ := h.shown_eq
  unfold places
  rw [hlength]
  refine List.filter_congr fun i hi => ?_
  rw [hrows i (List.mem_range.mp hi)]
  rfl

theorem nodup_places (p : Picker) : p.places.Nodup := List.nodup_range.filter _

theorem length_places_le (p : Picker) : p.places.length ≤ p.shown.length := by
  have hle := List.length_filter_le (fun i => (p.shown[i]?).any Item.isChoice)
    (List.range p.shown.length)
  rwa [List.length_range] at hle

theorem IsCoherent.mem_places (h : p.IsCoherent) : i ∈ p.places ↔ p.isChoiceAt i := by
  rw [h.places_eq, List.mem_filter, List.mem_range]
  exact and_iff_right_of_imp lt_size_of_isChoiceAt

/-- An entry stands between the one that is found above it and the one that is found below it. -/
theorem IsCoherent.exists_places_split (h : p.IsCoherent) (hi : p.isChoiceAt i) :
    ∃ before after, p.places = before ++ i :: after ∧ p.previous? i = before.reverse.head? ∧
      p.next? i = after.head? := by
  have hlt := lt_size_of_isChoiceAt hi
  -- the range is cut at the row itself
  have hrange : List.range p.size = List.range i ++ i :: List.range' (i + 1) (p.size - (i + 1)) := by
    rw [List.range_eq_range', List.range_eq_range', ← List.range'_succ]
    have happend := @List.range'_append 0 i (p.size - (i + 1) + 1) 1
    rw [Nat.one_mul, Nat.zero_add] at happend
    rw [happend]
    congr 1
    omega
  refine ⟨(List.range i).filter p.isChoiceAt,
    (List.range' (i + 1) (p.size - (i + 1))).filter p.isChoiceAt, ?_, ?_, ?_⟩
  · rw [h.places_eq, hrange, List.filter_append, List.filter_cons, if_pos hi]
  · unfold previous?
    rw [seekBack_eq_find?, ← List.filter_reverse, List.head?_filter]
  · unfold next?
    rw [seek_eq_find?, List.head?_filter]

/-! ### Walking over a list -/

/-- Does each step go from a member of the list to the one behind it? -/
def IsSuccessor (next : Nat → Option Nat) (l : List Nat) : Prop :=
  ∀ r i, l[r]? = some i → next i = l[r + 1]?

/-- In a list without repetitions a member has one place. -/
theorem getElem?_succ_of_split {l before after : List Nat} (hl : l.Nodup)
    (hsplit : l = before ++ i :: after) (hr : l[r]? = some i) : l[r + 1]? = after.head? := by
  have hplace : l[before.length]? = some i := by simp [hsplit]
  have hlt : r < l.length := (List.getElem?_eq_some_iff.mp hr).1
  obtain rfl : r = before.length := (List.getElem?_inj hlt hl).mp (hr.trans hplace.symm)
  rw [hsplit, List.getElem?_append_right (Nat.le_succ _),
    show before.length + 1 - before.length = 0 + 1 by omega, List.getElem?_cons_succ,
    List.head?_eq_getElem?]

/-- The next entry is the next one of the places. -/
theorem IsCoherent.isSuccessor_next? (h : p.IsCoherent) : IsSuccessor p.next? p.places := by
  intro r i hr
  obtain ⟨before, after, hsplit, -, hnext⟩ :=
    h.exists_places_split (h.mem_places.mp (List.mem_of_getElem? hr))
  rw [hnext, getElem?_succ_of_split p.nodup_places hsplit hr]

/-- The previous entry is the next one, when the places are read from their end. -/
theorem IsCoherent.isSuccessor_previous? (h : p.IsCoherent) :
    IsSuccessor p.previous? p.places.reverse := by
  intro r i hr
  obtain ⟨before, after, hsplit, hprevious, -⟩ :=
    h.exists_places_split (h.mem_places.mp (List.mem_reverse.mp (List.mem_of_getElem? hr)))
  have hreverse : p.places.reverse = after.reverse ++ i :: before.reverse := by simp [hsplit]
  rw [hprevious, getElem?_succ_of_split (List.nodup_reverse.mpr p.nodup_places) hreverse hr]

/-- A walk over a list goes that many members on, and it stops at the last one. -/
theorem walk_of_successor {next : Nat → Option Nat} {l : List Nat} (h : IsSuccessor next l) (n : Nat)
    (hr : l[r]? = some i) : l[min (r + n) (l.length - 1)]? = some (walk next n i) := by
  -- a step goes to the next member, or stays at the last one
  induction n generalizing r i with
  | zero =>
    have hlt : r < l.length := (List.getElem?_eq_some_iff.mp hr).1
    rw [Nat.add_zero, Nat.min_eq_left (by omega)]
    exact hr
  | succ n ih =>
    unfold walk
    rw [h r i hr]
    rcases hnext : l[r + 1]? with - | j
    · -- the member was the last one
      have hlt : r < l.length := (List.getElem?_eq_some_iff.mp hr).1
      have hle : l.length ≤ r + 1 := List.getElem?_eq_none_iff.mp hnext
      rw [Nat.min_eq_right (by omega), show l.length - 1 = r by omega]
      exact hr
    · have hrest := ih hnext
      rwa [show r + 1 + n = r + (n + 1) by omega] at hrest

/-- How often a walk of at most `n` steps looks for the next place; the look that finds none counts,
and ends it. -/
def rounds (next : Nat → Option Nat) : Nat → Nat → Nat
  | 0, _ => 0
  | n + 1, i =>
    match next i with
    | none => 1
    | some j => rounds next n j + 1

/-- Each look but the last has found another member of the list. -/
theorem rounds_le_of_successor {next : Nat → Option Nat} {l : List Nat} (h : IsSuccessor next l)
    (n : Nat) (hr : l[r]? = some i) : rounds next n i ≤ l.length - r := by
  induction n generalizing r i with
  | zero => exact Nat.zero_le _
  | succ n ih =>
    have hlt : r < l.length := (List.getElem?_eq_some_iff.mp hr).1
    unfold rounds
    rw [h r i hr]
    rcases hnext : l[r + 1]? with - | j
    · show 1 ≤ l.length - r
      omega
    · have hrest := ih hnext
      show rounds next n j + 1 ≤ l.length - r
      omega

/-! ### Moving -/

/-- The step in the direction of a motion. -/
def stepOf (p : Picker) (delta : Int) : Nat → Option Nat := if delta < 0 then p.previous? else p.next?

/-- The rank that is `delta` further on than `r`, among `count` of them. -/
def rankAfter (count r : Nat) (delta : Int) : Nat := (max 0 (min (r + delta) (count - 1))).toNat

theorem shown_move (p : Picker) (delta : Int) : (p.move delta).shown = p.shown := by
  obtain ⟨selected, scroll, hmove⟩ := go_eq p (.move delta)
  have hmove : p.move delta = { p with selected, scroll } := hmove
  rw [hmove]
  rfl

theorem places_move (p : Picker) (delta : Int) : (p.move delta).places = p.places := by
  unfold places
  rw [shown_move]

/-- A walk in the direction of a motion, by ranks. -/
theorem IsCoherent.places_walk (h : p.IsCoherent) (hr : p.places[r]? = some i) (delta : Int) (n : Nat) :
    p.places[if delta < 0 then r - n else min (r + n) (p.places.length - 1)]?
      = some (walk (p.stepOf delta) n i) := by
  unfold stepOf
  split
  · -- upwards, the list is read from its end
    have hlt : r < p.places.length := (List.getElem?_eq_some_iff.mp hr).1
    have hreverse : p.places.reverse[p.places.length - 1 - r]? = some i := by
      rw [List.getElem?_reverse (by omega), show p.places.length - 1 - (p.places.length - 1 - r) = r
        by omega]
      exact hr
    have hwalk := walk_of_successor h.isSuccessor_previous? n hreverse
    rw [List.length_reverse, List.getElem?_reverse (by omega)] at hwalk
    rw [← hwalk]
    congr 1
    omega
  · exact walk_of_successor h.isSuccessor_next? n hr

/-- The walk has come to its end after as many steps as there are rows. -/
theorem IsCoherent.walk_min (h : p.IsCoherent) (hr : p.places[r]? = some i) (delta : Int) (n : Nat) :
    walk (p.stepOf delta) (min n (p.size + 1)) i = walk (p.stepOf delta) n i := by
  have hlt : r < p.places.length := (List.getElem?_eq_some_iff.mp hr).1
  have hsize : p.places.length ≤ p.size := h.shown_eq.1 ▸ p.length_places_le
  have hfew := h.places_walk hr delta (min n (p.size + 1))
  have hall := h.places_walk hr delta n
  have hsame : (if delta < 0 then r - min n (p.size + 1)
        else min (r + min n (p.size + 1)) (p.places.length - 1))
      = if delta < 0 then r - n else min (r + n) (p.places.length - 1) := by
    split
    · omega
    · omega
  rw [hsame] at hfew
  exact Option.some.inj (hfew.symm.trans hall)

/-- The steps of a motion are taken one by one, as many as it asks for. -/
theorem IsCoherent.selected_move_eq_walk (h : p.IsCoherent) (hi : p.selected = some i) (delta : Int) :
    (p.move delta).selected = some (walk (p.stepOf delta) delta.natAbs i) := by
  obtain ⟨r, hr⟩ := List.getElem?_of_mem (h.mem_places.mpr (h.selected i hi))
  rw [← h.walk_min hr]
  unfold move
  rw [hi]
  rfl

/-- **A motion adds to the rank.** -/
theorem IsCoherent.selected_move (h : p.IsCoherent) (hi : p.selected = some i)
    (hr : p.places[r]? = some i) (delta : Int) :
    (p.move delta).selected = p.places[rankAfter p.places.length r delta]? := by
  have hlt : r < p.places.length := (List.getElem?_eq_some_iff.mp hr).1
  rw [h.selected_move_eq_walk hi, ← h.places_walk hr]
  congr 1
  unfold rankAfter
  split
  · omega
  · omega

/-- The loop makes no more rounds than there are rows. -/
theorem IsCoherent.rounds_le (h : p.IsCoherent) (hi : p.selected = some i) (delta : Int) (n : Nat) :
    rounds (p.stepOf delta) n i ≤ p.shown.length := by
  have hmem : i ∈ p.places := h.mem_places.mpr (h.selected i hi)
  have hplaces := p.length_places_le
  unfold stepOf
  split
  · obtain ⟨r, hr⟩ := List.getElem?_of_mem (List.mem_reverse.mpr hmem)
    have hrounds := rounds_le_of_successor h.isSuccessor_previous? n hr
    rw [List.length_reverse] at hrounds
    omega
  · obtain ⟨r, hr⟩ := List.getElem?_of_mem hmem
    have hrounds := rounds_le_of_successor h.isSuccessor_next? n hr
    omega

/-- A rank that is not outside is reached. -/
theorem rankAfter_lt {count : Nat} (hr : r < count) (delta : Int) : rankAfter count r delta < count := by
  unfold rankAfter
  omega

/-- Where a motion ends: at an entry, whose rank is the sum. -/
theorem IsCoherent.exists_selected_move (h : p.IsCoherent) (hi : p.selected = some i)
    (hr : p.places[r]? = some i) (delta : Int) : ∃ j, (p.move delta).selected = some j ∧
      (p.move delta).places[rankAfter p.places.length r delta]? = some j := by
  have hlt := rankAfter_lt (List.getElem?_eq_some_iff.mp hr).1 delta
  have hmove := h.selected_move hi hr delta
  rw [List.getElem?_eq_getElem hlt] at hmove
  refine ⟨_, hmove, ?_⟩
  rw [places_move]
  exact List.getElem?_eq_getElem hlt

/-- One motion after the other. -/
theorem IsOrderly.selected_move_move (h : p.IsOrderly) (hi : p.selected = some i)
    (hr : p.places[r]? = some i) (d e : Int) : ((p.move d).move e).selected
      = p.places[rankAfter p.places.length (rankAfter p.places.length r d) e]? := by
  obtain ⟨j, hj, hrank⟩ := h.exists_selected_move hi hr d
  have hmove := (h.move d).selected_move hj hrank e
  rwa [places_move] at hmove

/-- A picker moves its selection by ranks. -/
structure MovesByRank (p : Picker) : Prop where
  /-- What is selected has a rank among the entries that are shown. -/
  ranked : ∀ i : Nat, p.selected = some i → ∃ r : Nat, p.places[r]? = some i
  /-- A motion adds to the rank, as far as there are entries. -/
  move : ∀ r i : Nat, p.selected = some i → p.places[r]? = some i → ∀ delta : Int,
    (p.move delta).selected = p.places[rankAfter p.places.length r delta]?
  /-- It never ends on a heading. -/
  lands : ∀ i, p.selected = some i → ∀ delta : Int,
    ∃ j entry, (p.move delta).selected = some j ∧ p.shown[j]? = some (.choice entry)
  /-- The opposite motion takes back one that has stayed inside. -/
  back : ∀ r i : Nat, p.selected = some i → p.places[r]? = some i → ∀ delta : Int,
    0 ≤ r + delta → r + delta < p.places.length → ((p.move delta).move (-delta)).selected = some i
  /-- Two motions in one direction are one motion. -/
  add : ∀ i, p.selected = some i → ∀ d e : Int, 0 ≤ d ∧ 0 ≤ e ∨ d ≤ 0 ∧ e ≤ 0 →
    ((p.move d).move e).selected = (p.move (d + e)).selected
  /-- The steps are taken one by one, and there are no more rounds than rows. -/
  stops : ∀ i, p.selected = some i → ∀ delta : Int,
    (p.move delta).selected = some (walk (p.stepOf delta) delta.natAbs i) ∧
      rounds (p.stepOf delta) delta.natAbs i ≤ p.shown.length

/-- Motions count entries, whatever headings stand between them. -/
theorem IsOrderly.movesByRank (h : p.IsOrderly) : p.MovesByRank where
  ranked i hi := List.getElem?_of_mem (h.mem_places.mpr (h.selected i hi))
  move r i hi hr := h.selected_move hi hr
  lands i hi delta := by
    obtain ⟨r, hr⟩ := List.getElem?_of_mem (h.mem_places.mpr (h.selected i hi))
    obtain ⟨j, hj, hrank⟩ := h.exists_selected_move hi hr delta
    rw [places_move] at hrank
    obtain ⟨entry, hentry⟩ :=
      (h.isChoiceAt_iff_shown j).mp (h.mem_places.mp (List.mem_of_getElem? hrank))
    exact ⟨j, entry, hj, hentry⟩
  -- within the bounds no rank is clamped, so the ranks add up to zero
  back r i hi hr delta hlow hhigh := by
    have hlt : r < p.places.length := (List.getElem?_eq_some_iff.mp hr).1
    rw [h.selected_move_move hi hr, ← hr]
    congr 1
    unfold rankAfter
    omega
  add i hi d e hsigns := by
    obtain ⟨r, hr⟩ := List.getElem?_of_mem (h.mem_places.mpr (h.selected i hi))
    have hlt : r < p.places.length := (List.getElem?_eq_some_iff.mp hr).1
    rw [h.selected_move_move hi hr, h.selected_move hi hr]
    congr 1
    unfold rankAfter
    omega
  stops i hi delta := ⟨h.selected_move_eq_walk hi delta, h.rounds_le hi delta _⟩

/-- **Moving is arithmetic on ranks.**  Whatever was done to a picker: the entry that is selected
has a rank among the entries that are shown, a motion adds to it, and it stops at the first or the
last entry after no more rounds than there are rows. -/
theorem movesByRank_run (title : Text) (ops : List Operation) :
    (ops.foldl apply { title }).MovesByRank := (isOrderly_run title ops).movesByRank

/-- Between two headings and below them: two entries further on, and no further. -/
example :
    let p := [Operation.setItems [.heading "a".toList, .choice { id := "1", label := "b".toList },
        .heading "c".toList, .heading "d".toList, .choice { id := "2", label := "e".toList },
        .heading "f".toList]].foldl apply {}
    p.places = [1, 4] ∧ p.selected = some 1 ∧ (p.move 7).selected = some 4 := by
  decide +kernel

end AgentConsole.Picker
