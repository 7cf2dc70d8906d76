import AgentConsole.CommonMark.Marker
import Mathlib.Data.List.TakeWhile

/-!
# Fences, line by line

Outside of all containers a fence is found line by line.  `Fence.after` is the rule: a line opens a
fence if it is indented by at most three columns and begins with a run of three or more backticks or
tildes, with no backtick after a run of backticks; a line closes the open fence if it is indented by
at most three columns and is a run of its mark that is at least as long, with nothing but spaces and
tabs behind it.  All other lines change nothing.

A tab reaches to the fourth column at least, so fewer than four columns of indentation are spaces
(`Cursor.skip_cases`).  With that, the lines that open and close a fence can be written down
(`Fence.after_none_iff`, `Fence.after_some_iff`).
-/

namespace AgentConsole.CommonMark

/-! ### Indentation -/

/-- Does the text begin with a space or a tab? -/
def IsIndented (t : Text) : Prop := t.head? = some ' ' ∨ t.head? = some '\t'

namespace Cursor

theorem skip_space (n : Nat) (rest : Text) (column : Nat) :
    skip (n + 1) ⟨' ' :: rest, column⟩
      = ((skip n ⟨rest, column + 1⟩).1 + 1, (skip n ⟨rest, column + 1⟩).2) := rfl

/-- A tab stands for the spaces up to the next stop. -/
theorem skip_tab (n : Nat) (rest : Text) (column : Nat) :
    skip (n + 1) ⟨'\t' :: rest, column⟩
      = skip (n + 1) ⟨Text.spaces (4 - column % 4) ++ rest, column⟩ := by
  obtain ⟨m, hm⟩ := Nat.exists_eq_add_of_lt (show 0 < 4 - column % 4 by omega)
  have hspaces : expand ⟨Text.spaces (4 - column % 4) ++ rest, column⟩
      = ⟨Text.spaces (4 - column % 4) ++ rest, column⟩ := by
    rw [hm]
    rfl
  have htab : expand ⟨'\t' :: rest, column⟩ = ⟨Text.spaces (4 - column % 4) ++ rest, column⟩ := rfl
  unfold skip
  rw [htab, hspaces, hm]
  rfl

/-- Where no indentation stands there is nothing to skip. -/
theorem skip_of_not_isIndented (n : Nat) {t : Text} (h : ¬IsIndented t) (column : Nat) :
    skip n ⟨t, column⟩ = (0, ⟨t, column⟩) := by
  cases n with
  | zero => rfl
  | succ n =>
    rcases t with - | ⟨c, t⟩
    · rfl
    · have hspace : c ≠ ' ' := fun hc => h (.inl (congrArg some hc))
      have htab : c ≠ '\t' := fun hc => h (.inr (congrArg some hc))
      -- only a tab is expanded, and only a space is skipped
      have hexpand : expand ⟨c :: t, column⟩ = ⟨c :: t, column⟩ := by
        unfold expand
        split
        · rename_i heq
          exact absurd (List.cons.inj heq).1 htab
        · rfl
      unfold skip
      rw [hexpand]
      split
      · rename_i heq
        exact absurd (List.cons.inj heq).1 hspace
      · rfl

/-- Spaces are skipped one column each. -/
theorem skip_spaces {rest : Text} (h : ¬IsIndented rest) {k n : Nat} (hk : k < n) (column : Nat) :
    skip n ⟨Text.spaces k ++ rest, column⟩ = (k, ⟨rest, column + k⟩) := by
  induction k generalizing n column with
  | zero => exact skip_of_not_isIndented n h column
  | succ k ih =>
    obtain ⟨n, rfl⟩ := Nat.exists_eq_add_of_lt (Nat.zero_lt_of_lt hk)
    show skip (0 + n + 1) ⟨' ' :: (Text.spaces k ++ rest), column⟩ = _
    rw [skip_space, ih (by omega), Nat.add_right_comm, Nat.add_assoc]

/-- Spaces are skipped as far as they are asked for. -/
theorem fst_skip_spaces (n : Nat) (rest : Text) (column : Nat) :
    (skip n ⟨Text.spaces n ++ rest, column⟩).1 = n := by
  induction n generalizing column with
  | zero => rfl
  | succ n ih =>
    show (skip (n + 1) ⟨' ' :: (Text.spaces n ++ rest), column⟩).1 = n + 1
    rw [skip_space, ih]

/-- Up to the fourth column: either the indentation reaches there, or it is made of spaces. -/
theorem skip_cases (t : Text) {n : Nat} (hn : n ≤ 4) :
    (skip n ⟨t, 4 - n⟩).1 = n ∨
      ∃ k < n, ∃ rest, t = Text.spaces k ++ rest ∧ ¬IsIndented rest := by
  induction n generalizing t with
  | zero => exact .inl rfl
  | succ n ih =>
    by_cases h : IsIndented t
    · rcases t with - | ⟨c, t⟩
      · rcases h with h | h <;> cases h
      · rcases h with h | h
        · -- a space, and the columns after it
          obtain rfl := Option.some.inj h
          have hcolumn : 4 - (n + 1) + 1 = 4 - n := by omega
          rw [skip_space, hcolumn]
          rcases ih t (by omega) with hall | ⟨k, hk, rest, rfl, hrest⟩
          · exact .inl (congrArg (· + 1) hall)
          · exact .inr ⟨k + 1, Nat.succ_lt_succ hk, rest, rfl, hrest⟩
        · -- a tab reaches to the fourth column
          obtain rfl := Option.some.inj h
          have hstop : 4 - (4 - (n + 1)) % 4 = n + 1 := by omega
          rw [skip_tab, hstop]
          exact .inl (fst_skip_spaces (n + 1) t _)
    · exact .inr ⟨0, Nat.succ_pos n, t, rfl, h⟩

end Cursor

/-! ### Runs -/

/-- A run is as long as it can be if another character follows it. -/
theorem runLength_replicate_append {mark : Char} {rest : Text} (h : rest.head? ≠ some mark)
    (n : Nat) : runLength mark (List.replicate n mark ++ rest) = n := by
  have hrest : rest.takeWhile (· = mark) = [] := by
    rcases rest with - | ⟨c, rest⟩
    · rfl
    · have hc : c ≠ mark := fun hc => h (congrArg some hc)
      simp [hc]
  unfold runLength
  rw [List.takeWhile_append_of_pos (by simp), hrest]
  simp

theorem takeWhile_eq_run (c : Char) (t : Text) :
    t.takeWhile (· = c) = List.replicate (runLength c t) c := by
  refine List.eq_replicate_of_mem fun d hd => ?_
  simpa using List.mem_takeWhile_imp hd

/-- A text is a run of a character, and a rest that does not go on with it. -/
theorem eq_run_append (c : Char) (t : Text) :
    ∃ rest, t = List.replicate (runLength c t) c ++ rest ∧ rest.head? ≠ some c := by
  refine ⟨t.dropWhile (· = c), ?_, ?_⟩
  · rw [← takeWhile_eq_run, List.takeWhile_append_dropWhile]
  · intro h
    have hfalse := List.head?_dropWhile_not (fun d => decide (d = c)) t
    rw [h] at hfalse
    simp at hfalse

namespace Fence

/-- A run of marks that a fence can begin with, and what follows it. -/
structure IsRun (mark : Char) (length : Nat) (rest : Text) : Prop where
  isMark : mark = backtick ∨ mark = '~'
  long : 3 ≤ length
  ends : rest.head? ≠ some mark

/-- A run is no indentation. -/
theorem IsRun.not_isIndented {mark : Char} {length : Nat} {rest : Text}
    (h : IsRun mark length rest) : ¬IsIndented (List.replicate length mark ++ rest) := by
  obtain ⟨n, rfl⟩ := Nat.exists_eq_add_of_le h.long
  have hhead : (List.replicate (3 + n) mark ++ rest).head? = some mark := by
    rw [Nat.add_comm, List.replicate_succ]
    rfl
  unfold IsIndented
  rw [hhead]
  rcases h.isMark with rfl | rfl <;> decide

/-- A run of marks opens a fence, unless it is of backticks and another one follows in the line. -/
theorem IsRun.read? {mark : Char} {length : Nat} {rest : Text} (h : IsRun mark length rest) :
    Fence.read? (List.replicate length mark ++ rest)
      = if mark = backtick ∧ backtick ∈ rest then none
        else some ⟨mark, length, Text.dropEndWhile Html.isSpace (rest.dropWhile isLineBlank)⟩ := by
  have hlength := runLength_replicate_append h.ends length
  have hdrop : (List.replicate length mark ++ rest).drop length = rest := by simp
  obtain ⟨n, rfl⟩ := Nat.exists_eq_add_of_le h.long
  have hcons : List.replicate (3 + n) mark ++ rest
      = mark :: (List.replicate (2 + n) mark ++ rest) := by
    rw [show 3 + n = 2 + n + 1 by omega, List.replicate_succ]
    rfl
  -- the reader looks at the first mark, so one of the three is split off
  rw [hcons] at hlength hdrop ⊢
  unfold Fence.read?
  dsimp only
  rw [hlength, hdrop]
  -- an inline code span may begin with a run of backticks, and ends with one
  by_cases hbad : mark = backtick ∧ backtick ∈ rest
  · rw [if_pos hbad, if_neg]
    rintro ⟨-, -, hgood⟩
    exact hgood ⟨hbad.1, List.contains_iff_mem.mpr hbad.2⟩
  · rw [if_neg hbad, if_pos]
    refine ⟨h.isMark, h.long, fun hboth => hbad ⟨hboth.1, List.contains_iff_mem.mp hboth.2⟩⟩

/-- What is read as an opening fence begins with its run. -/
theorem exists_run_of_read? {t : Text} {f : Fence} (h : Fence.read? t = some f) :
    ∃ rest, t = List.replicate f.length f.mark ++ rest ∧ IsRun f.mark f.length rest ∧
      (f.mark = backtick → backtick ∉ rest) := by
  rcases t with - | ⟨c, t⟩
  · cases h
  · obtain ⟨rest, ht, hends⟩ := eq_run_append c (c :: t)
    -- the run is what the text begins with, and the rest is what was looked at for the info
    unfold Fence.read? at h
    dsimp only at h
    split at h
    · rename_i hrun
      obtain ⟨hmark, hlong, hinfo⟩ := hrun
      obtain rfl := Option.some.inj h
      have hdrop : (c :: t).drop (runLength c (c :: t)) = rest := by
        rw [ht, runLength_replicate_append hends]
        simp
      rw [hdrop] at hinfo
      refine ⟨rest, ht, ⟨hmark, hlong, hends⟩, ?_⟩
      exact fun hc hmem => hinfo ⟨hc, List.contains_iff_mem.mpr hmem⟩
    · cases h

/-! ### The rule -/

/-- Does the text end the fence: a run of its mark, at least as long, and then spaces and tabs? -/
def endedBy (f : Fence) (t : Text) : Bool :=
  let n := runLength f.mark t
  f.length ≤ n && (t.drop n).all fun c => c = ' ' || c = '\t'

/-- The fence that is open after a line. -/
def after (fence : Option Fence) (line : Text) : Option Fence :=
  let (indent, c) := Cursor.skip 4 ⟨line, 0⟩
  match fence with
  | none => if indent < 4 then Fence.read? c.rest else none
  | some fence => if indent < 4 ∧ fence.endedBy c.rest then none else some fence

/-- The fence that some lines leave open. -/
def ofLines (lines : List Text) : Option Fence := lines.foldl after none

variable {line rest : Text} {k : Nat}

/-- Up to three spaces before a fence do not matter. -/
theorem after_none_spaces (hk : k < 4) (h : ¬IsIndented rest) :
    after none (Text.spaces k ++ rest) = Fence.read? rest := by
  unfold after
  rw [Cursor.skip_spaces h hk]
  exact if_pos hk

theorem after_some_spaces (hk : k < 4) (h : ¬IsIndented rest) (f : Fence) :
    after (some f) (Text.spaces k ++ rest) = if f.endedBy rest then none else some f := by
  unfold after
  rw [Cursor.skip_spaces h hk]
  simp [hk]

/-- A line that changes anything is indented by spaces, fewer than four. -/
theorem exists_spaces_of_after {before : Option Fence} (h : after before line ≠ before) :
    ∃ k < 4, ∃ rest, line = Text.spaces k ++ rest ∧ ¬IsIndented rest := by
  rcases Cursor.skip_cases line (Nat.le_refl 4) with hall | hspaces
  · -- four columns of indentation: the line is code
    exfalso
    apply h
    unfold after
    dsimp only
    have hnot : ¬(Cursor.skip 4 ⟨line, 0⟩).1 < 4 := Nat.not_lt.mpr (Nat.le_of_eq hall.symm)
    cases before with
    | none => exact if_neg hnot
    | some f => exact if_neg fun hboth => hnot hboth.1
  · exact hspaces

/-- The lines that open a fence. -/
theorem after_none_iff {mark : Char} {length : Nat} :
    (∃ f, after none line = some f ∧ f.mark = mark ∧ f.length = length) ↔
      ∃ indent info, line = Text.spaces indent ++ (List.replicate length mark ++ info) ∧
        indent ≤ 3 ∧ IsRun mark length info ∧ (mark = backtick → backtick ∉ info) := by
  constructor
  -- a line that opens a fence is cut into indentation, run and info
  · rintro ⟨f, hf, rfl, rfl⟩
    have hchanged : after none line ≠ none := by simp [hf]
    obtain ⟨k, hk, rest, rfl, hrest⟩ := exists_spaces_of_after hchanged
    rw [after_none_spaces hk hrest] at hf
    obtain ⟨info, rfl, hrun, hinfo⟩ := exists_run_of_read? hf
    exact ⟨k, info, rfl, Nat.le_of_lt_succ hk, hrun, hinfo⟩
  · rintro ⟨k, info, rfl, hk, hrun, hinfo⟩
    have hgood : ¬(mark = backtick ∧ backtick ∈ info) := fun hbad => hinfo hbad.1 hbad.2
    have hread := hrun.read?
    rw [if_neg hgood, ← after_none_spaces (Nat.lt_succ_of_le hk) hrun.not_isIndented] at hread
    exact ⟨_, hread, rfl, rfl⟩

/-- Only the mark and the length of a fence count for what closes it. -/
theorem after_eq_none_iff_of_eq {f g : Fence} (hmark : f.mark = g.mark)
    (hlength : f.length = g.length) :
    after (some f) line = none ↔ after (some g) line = none := by
  unfold after endedBy
  dsimp only
  rw [hmark, hlength]
  simp

/-- An open fence stays or is closed. -/
theorem after_some_cases (f : Fence) (line : Text) :
    after (some f) line = none ∨ after (some f) line = some f := by
  unfold after
  dsimp only
  split
  · exact .inl rfl
  · exact .inr rfl

/-- Is this the rest of a line that ends a fence? -/
def IsTrailing (t : Text) : Prop := ∀ c ∈ t, c = ' ' ∨ c = '\t'

instance : DecidablePred IsTrailing := fun t =>
  inferInstanceAs (Decidable (∀ c ∈ t, c = ' ' ∨ c = '\t'))

/-- A fence is ended by a run of its marks that is no shorter, with nothing but blanks behind it. -/
theorem endedBy_run {f : Fence} {length : Nat} (h : rest.head? ≠ some f.mark) :
    f.endedBy (List.replicate length f.mark ++ rest) = true ↔
      f.length ≤ length ∧ IsTrailing rest := by
  have hdrop : (List.replicate length f.mark ++ rest).drop length = rest := by simp
  unfold endedBy
  dsimp only
  rw [runLength_replicate_append h, hdrop]
  simp [IsTrailing]

/-- A run of another mark ends no fence. -/
theorem not_endedBy_of_ne {f : Fence} (hlong : 0 < f.length) {mark : Char} {length : Nat}
    (hrun : IsRun mark length rest) (hne : mark ≠ f.mark) :
    f.endedBy (List.replicate length mark ++ rest) = false := by
  have hnone : runLength f.mark (List.replicate length mark ++ rest) = 0 := by
    obtain ⟨n, rfl⟩ := Nat.exists_eq_add_of_le hrun.long
    rw [show 3 + n = n + 2 + 1 by omega, List.replicate_succ]
    unfold runLength
    rw [List.cons_append, List.takeWhile_cons_of_neg (by simpa using hne)]
    rfl
  unfold endedBy
  dsimp only
  rw [hnone]
  simp [Nat.not_le.mpr hlong]

/-- The lines that close a fence. -/
theorem after_some_iff {f : Fence} (hmark : f.mark = backtick ∨ f.mark = '~')
    (hlong : 3 ≤ f.length) :
    after (some f) line = none ↔
      ∃ indent length rest, line = Text.spaces indent ++ (List.replicate length f.mark ++ rest) ∧
        indent ≤ 3 ∧ f.length ≤ length ∧ IsTrailing rest := by
  constructor
  · intro h
    have hchanged : after (some f) line ≠ some f := by simp [h]
    obtain ⟨k, hk, t, rfl, ht⟩ := exists_spaces_of_after hchanged
    rw [after_some_spaces hk ht] at h
    obtain ⟨rest, hrun, hends⟩ := eq_run_append f.mark t
    -- the fence is open no more, so this line has ended it
    have hended : f.endedBy t = true := by
      by_cases hended : f.endedBy t = true
      · exact hended
      · rw [if_neg hended] at h
        cases h
    rw [hrun, endedBy_run hends] at hended
    exact ⟨k, runLength f.mark t, rest, by rw [← hrun], Nat.le_of_lt_succ hk, hended⟩
  · rintro ⟨k, length, rest, rfl, hk, hle, htrailing⟩
    -- what trails is blank, and so it is none of the marks
    have hends : rest.head? ≠ some f.mark := by
      intro hhead
      have hmem : f.mark ∈ rest := List.mem_of_mem_head? hhead
      rcases htrailing _ hmem with heq | heq <;> rcases hmark with hm | hm <;>
        exact absurd (hm.symm.trans heq) (by decide)
    have hrun : IsRun f.mark length rest := ⟨hmark, Nat.le_trans hlong hle, hends⟩
    rw [after_some_spaces (Nat.lt_succ_of_le hk) hrun.not_isIndented,
      if_pos ((endedBy_run hends).mpr ⟨hle, htrailing⟩)]

end Fence

end AgentConsole.CommonMark
