import AgentConsole.Proofs.CommonMark.Fence
import AgentConsole.Proofs.Transcript.Blocks

/-!
# Fences of a log and fences of a document

A log follows the fences of its lines by itself (`fenceAfter`), while its blocks are read
as documents, where a fence is found by the rule of `Fence.after`.  The two are to stay in
step: if the log takes a line for an opened fence that is none, blank lines close no blocks
from then on, and the line is put in front of all later blocks.

Both look for a run of three or more marks at the start of a line (`Begins`), and on most lines they
agree.  But the log is content with any blanks of up to three bytes before the run, where the rule
wants up to three columns of spaces; it does not look for backticks behind a run of backticks, which
are a span of code and no fence; and it lets any blanks follow a run that closes a fence, where the
rule wants spaces and tabs.  A line on which none of this matters is *regular* (`IsRegular`).

Main result: on regular lines log and rule stay in step, and each line that is not regular
brings them out of step, after a regular line at most (`fence_follows_rule`).
-/

namespace AgentConsole

/-- Bytes are counted character by character. -/
theorem Text.byteLength_append (a b : Text) :
    Text.byteLength (a ++ b) = Text.byteLength a + Text.byteLength b := by
  induction a with
  | nil => exact (Nat.zero_add _).symm
  | cons c a ih =>
    show c.utf8Size + Text.byteLength (a ++ b) = c.utf8Size + Text.byteLength a + Text.byteLength b
    rw [ih, Nat.add_assoc]

/-- A space takes one byte, so three bytes of spaces are three spaces. -/
theorem Text.byteLength_spaces (n : Nat) : Text.byteLength (Text.spaces n) = n := by
  induction n with
  | zero => rfl
  | succ n ih =>
    show 1 + Text.byteLength (Text.spaces n) = n + 1
    rw [ih, Nat.add_comm]

/-- A text of spaces is told by its length. -/
theorem Text.eq_spaces {t : Text} (h : ∀ c ∈ t, c = ' ') : t = Text.spaces t.length :=
  List.eq_replicate_of_mem h

namespace Transcript

open CommonMark

/-! ### Lines that begin with a run -/

/-- Does the line begin with a run of marks, behind blanks of at most three bytes? -/
structure Begins (line gap : Text) (mark : Char) (length : Nat) (rest : Text) : Prop
    extends Fence.IsRun mark length rest where
  text : line = gap ++ (List.replicate length mark ++ rest)
  blank : ∀ c ∈ gap, Unicode.isBlank c = true
  bytes : Text.byteLength gap ≤ 3

theorem not_isBlank_mark {mark : Char} (h : mark = Fence.backtick ∨ mark = '~') :
    Unicode.isBlank mark = false := by
  rcases h with rfl | rfl <;> decide

namespace Begins

variable {line gap rest : Text} {mark : Char} {length : Nat} (h : Begins line gap mark length rest)
include h

/-- The run is not empty. -/
theorem run_eq_cons : List.replicate length mark = mark :: List.replicate (length - 1) mark := by
  obtain ⟨n, rfl⟩ := Nat.exists_eq_add_of_le h.long
  rw [show 3 + n = n + 2 + 1 by omega, List.replicate_succ]
  rfl

/-- Behind the blanks stands the run. -/
theorem trimStart : Text.trimStart line = List.replicate length mark ++ rest := by
  have hstop : (List.replicate length mark ++ rest).dropWhile Unicode.isBlank
      = List.replicate length mark ++ rest := by
    rw [h.run_eq_cons, List.cons_append, List.dropWhile_cons_of_neg]
    simp [not_isBlank_mark h.isMark]
  unfold Text.trimStart
  rw [h.text, List.dropWhile_append_of_pos h.blank, hstop]

theorem takeWhile : line.takeWhile Unicode.isBlank = gap := by
  have hstop : (List.replicate length mark ++ rest).takeWhile Unicode.isBlank = [] := by
    rw [h.run_eq_cons, List.cons_append, List.takeWhile_cons_of_neg]
    simp [not_isBlank_mark h.isMark]
  rw [h.text, List.takeWhile_append_of_pos h.blank, hstop, List.append_nil]

/-- What follows the run. -/
theorem drop : (Text.trimStart line).drop (List.replicate length mark).length = rest := by
  rw [h.trimStart, List.drop_left]

/-- The run that the line begins with is found. -/
theorem fenceRun? : Transcript.fenceRun? line = some (List.replicate length mark) := by
  have hbytes : Text.byteLength line - Text.byteLength (List.replicate length mark ++ rest)
      = Text.byteLength gap := by
    rw [h.text, Text.byteLength_append, Nat.add_sub_cancel]
  have htake := takeWhile_eq_run mark (List.replicate length mark ++ rest)
  have hlong : 3 ≤ (List.replicate length mark).length := by
    rw [List.length_replicate]
    exact h.long
  rw [runLength_replicate_append h.ends] at htake
  -- the blanks before the run are at most three bytes, and what is counted from is the run itself
  unfold Transcript.fenceRun?
  rw [h.trimStart]
  dsimp only
  rw [hbytes, if_neg (Nat.not_lt.mpr h.bytes)]
  have hcons : List.replicate length mark ++ rest
      = mark :: (List.replicate (length - 1) mark ++ rest) := by
    rw [h.run_eq_cons]
    rfl
  rw [hcons] at htake ⊢
  dsimp only
  rw [htake, if_pos ⟨h.isMark, hlong⟩]

end Begins

/-- What the log takes for a run is one. -/
theorem exists_begins {line run : Text} (h : fenceRun? line = some run) :
    ∃ gap mark length rest,
      Begins line gap mark length rest ∧ run = List.replicate length mark := by
  have hline : line = line.takeWhile Unicode.isBlank ++ Text.trimStart line :=
    List.takeWhile_append_dropWhile.symm
  have hbytes : Text.byteLength line - Text.byteLength (Text.trimStart line)
      = Text.byteLength (line.takeWhile Unicode.isBlank) := by
    have hsum := Text.byteLength_append (line.takeWhile Unicode.isBlank) (Text.trimStart line)
    rw [← hline] at hsum
    omega
  -- a run is found only where it is long enough and is indented by no more than three bytes
  unfold fenceRun? at h
  dsimp only at h
  rw [hbytes] at h
  split at h
  · cases h
  · rename_i hle
    rcases ht : Text.trimStart line with - | ⟨c, t⟩
    · rw [ht] at h
      cases h
    · rw [ht] at h
      dsimp only at h
      split at h
      · rename_i hrun
        obtain ⟨hmark, hlong⟩ := hrun
        obtain rfl := Option.some.inj h
        obtain ⟨rest, hrest, hends⟩ := eq_run_append c (c :: t)
        refine ⟨line.takeWhile Unicode.isBlank, c, runLength c (c :: t), rest,
          ⟨⟨hmark, hlong, hends⟩, ?_, ?_, Nat.not_lt.mp hle⟩, takeWhile_eq_run c (c :: t)⟩
        · rw [← hrest, ← ht, ← hline]
        · intro d hd
          exact List.mem_takeWhile_imp hd
      · cases h

/-- A line that opens or closes a fence by the rule begins with a run. -/
theorem begins_of_spaces {indent length : Nat} {mark : Char} {rest : Text} (hindent : indent ≤ 3)
    (h : Fence.IsRun mark length rest) :
    Begins (Text.spaces indent ++ (List.replicate length mark ++ rest)) (Text.spaces indent)
      mark length rest where
  toIsRun := h
  text := rfl
  blank := by
    intro c hc
    rw [Text.mem_spaces hc]
    rfl
  bytes := by
    rw [Text.byteLength_spaces]
    exact hindent

/-! ### The log, line by line -/

section

variable {line gap rest : Text} {mark : Char} {length : Nat}

theorem Begins.fenceAfter_none (h : Begins line gap mark length rest) :
    fenceAfter none line = some ⟨List.replicate length mark, line⟩ := by
  unfold fenceAfter
  rw [h.fenceRun?]

/-- Where one is open, only a run that its own is a part of ends it, with blanks behind. -/
theorem Begins.fenceAfter_some (h : Begins line gap mark length rest) (fence : OpenFence) :
    fenceAfter (some fence) line
      = if fence.run <+: List.replicate length mark ∧ Text.isBlank rest then none
        else some fence := by
  unfold fenceAfter
  rw [h.fenceRun?]
  dsimp only
  rw [h.drop]
  simp only [Bool.and_eq_true, List.isPrefixOf_iff_prefix]

theorem fenceAfter_of_none (h : fenceRun? line = none) (fence : Option OpenFence) :
    fenceAfter fence line = fence := by
  unfold fenceAfter
  rw [h]

/-! ### The rule, line by line -/

/-- Could the rule have this fence open? -/
def IsOpen (f : Fence) : Prop := 3 ≤ f.length ∧ (f.mark = Fence.backtick ∨ f.mark = '~')

/-- The rule changes something only at a run behind spaces. -/
theorem exists_begins_of_after {fence : Option Fence} (hfence : ∀ f ∈ fence, IsOpen f)
    (h : Fence.after fence line ≠ fence) :
    ∃ indent mark length rest, Begins line (Text.spaces indent) mark length rest := by
  -- a line that changes anything opens a fence or ends one, and both begin with a run
  cases fence with
  | none =>
    rcases hafter : Fence.after none line with - | f
    · exact absurd hafter h
    · obtain ⟨k, rest, rfl, hk, hrun, -⟩ := Fence.after_none_iff.mp ⟨f, hafter, rfl, rfl⟩
      exact ⟨k, _, _, rest, begins_of_spaces hk hrun⟩
  | some f =>
    obtain ⟨hlong, hmark⟩ := hfence f rfl
    rcases Fence.after_some_cases f line with hnone | hsome
    · obtain ⟨k, n, rest, rfl, hk, hle, htrailing⟩ := (Fence.after_some_iff hmark hlong).mp hnone
      refine ⟨k, f.mark, n, rest, begins_of_spaces hk ⟨hmark, Nat.le_trans hlong hle, ?_⟩⟩
      intro hhead
      rcases htrailing _ (List.mem_of_mem_head? hhead) with heq | heq <;>
        rcases hmark with hm | hm <;> exact absurd (hm.symm.trans heq) (by decide)
    · exact absurd hsome h

/-- Without a run the rule changes nothing. -/
theorem after_of_none {fence : Option Fence} (hfence : ∀ f ∈ fence, IsOpen f)
    (h : fenceRun? line = none) : Fence.after fence line = fence := by
  by_cases hsame : Fence.after fence line = fence
  · exact hsame
  · obtain ⟨k, mark, length, rest, hbegins⟩ := exists_begins_of_after hfence hsame
    rw [hbegins.fenceRun?] at h
    cases h

namespace Begins

variable (h : Begins line gap mark length rest)
include h

/-- Other blanks than spaces before the run take the line out of the rule. -/
theorem after_of_gap (hgap : ¬∀ c ∈ gap, c = ' ') {fence : Option Fence}
    (hfence : ∀ f ∈ fence, IsOpen f) : Fence.after fence line = fence := by
  by_cases hsame : Fence.after fence line = fence
  · exact hsame
  · obtain ⟨k, m, n, r, hbegins⟩ := exists_begins_of_after hfence hsame
    have heq : gap = Text.spaces k := h.takeWhile.symm.trans hbegins.takeWhile
    refine absurd ?_ hgap
    intro c hc
    rw [heq] at hc
    exact Text.mem_spaces hc

/-- Spaces before the run leave it to what follows them. -/
theorem exists_spaces (hgap : ∀ c ∈ gap, c = ' ') :
    ∃ k < 4, line = Text.spaces k ++ (List.replicate length mark ++ rest) := by
  have heq := Text.eq_spaces hgap
  have hbytes := h.bytes
  rw [heq, Text.byteLength_spaces] at hbytes
  refine ⟨gap.length, Nat.lt_succ_of_le hbytes, ?_⟩
  rw [← heq]
  exact h.text

theorem after_none (hgap : ∀ c ∈ gap, c = ' ') :
    Fence.after none line = Fence.read? (List.replicate length mark ++ rest) := by
  obtain ⟨k, hk, hline⟩ := h.exists_spaces hgap
  rw [hline, Fence.after_none_spaces hk h.toIsRun.not_isIndented]

/-- By the rule, a fence is ended by its own mark, in a run that is no shorter. -/
theorem after_some_iff (hgap : ∀ c ∈ gap, c = ' ') {f : Fence} (hf : IsOpen f) :
    Fence.after (some f) line = none ↔
      mark = f.mark ∧ f.length ≤ length ∧ Fence.IsTrailing rest := by
  obtain ⟨k, hk, hline⟩ := h.exists_spaces hgap
  rw [hline, Fence.after_some_spaces hk h.toIsRun.not_isIndented]
  by_cases hmark : mark = f.mark
  · subst hmark
    rw [ite_eq_left_iff]
    simp [Fence.endedBy_run h.ends]
  · have hnot := Fence.not_endedBy_of_ne (Nat.lt_of_lt_of_le (by decide) hf.1) h.toIsRun hmark
    simp [hnot, hmark]

end Begins

end

/-! ### In step -/

/-- Is a line that begins with a run read alike by the log and by the rule?  The run stands behind
spaces, no backtick follows a run of backticks, and if all that follows the run is blank, it is
spaces and tabs. -/
structure IsRegularRun (line run : Text) : Prop where
  indented : ∀ c ∈ line.takeWhile Unicode.isBlank, c = ' '
  opens : Fence.backtick ∈ run → Fence.backtick ∉ (Text.trimStart line).drop run.length
  closes : Text.isBlank ((Text.trimStart line).drop run.length) →
    Fence.IsTrailing ((Text.trimStart line).drop run.length)

/-- Is the line read alike by the log and by the rule? -/
def IsRegular (line : Text) : Prop := ∀ run ∈ fenceRun? line, IsRegularRun line run

/-- A line is regular if it is indented with spaces, has no backtick behind a run of them, and has
nothing but spaces and tabs where it is blank. -/
theorem Begins.isRegular_iff {line gap rest : Text} {mark : Char} {length : Nat}
    (h : Begins line gap mark length rest) :
    IsRegular line ↔ (∀ c ∈ gap, c = ' ') ∧ (mark = Fence.backtick → Fence.backtick ∉ rest) ∧
      (Text.isBlank rest → Fence.IsTrailing rest) := by
  have hmem : Fence.backtick ∈ List.replicate length mark ↔ mark = Fence.backtick := by
    have hpos : length ≠ 0 := Nat.ne_of_gt (Nat.lt_of_lt_of_le (by decide) h.long)
    rw [List.mem_replicate]
    exact ⟨fun hboth => hboth.2.symm, fun heq => ⟨hpos, heq.symm⟩⟩
  -- what the line is cut into is what regularity asks of it
  constructor
  · intro hregular
    have hrun := hregular _ h.fenceRun?
    have hopens := hrun.opens
    have hcloses := hrun.closes
    rw [h.drop] at hcloses hopens
    rw [hmem] at hopens
    exact ⟨h.takeWhile ▸ hrun.indented, hopens, hcloses⟩
  · rintro ⟨hgap, hopens, hcloses⟩ run hrun
    obtain rfl := Option.some.inj (h.fenceRun?.symm.trans hrun)
    refine ⟨h.takeWhile.symm ▸ hgap, ?_, ?_⟩
    · rw [hmem, h.drop]
      exact hopens
    · rw [h.drop]
      exact hcloses

/-- Is this the same fence for the log and for the rule? -/
structure SameFence (fence : OpenFence) (f : Fence) : Prop where
  run : fence.run = List.replicate f.length f.mark
  isOpen : IsOpen f

/-- Have log and rule the same fence open, or both none? -/
abbrev InStep : Option OpenFence → Option Fence → Prop := Option.Rel SameFence

/-- In step, a fence is open on both sides or on none. -/
theorem InStep.isSome_eq {fence : Option OpenFence} {f : Option Fence} (h : InStep fence f) :
    fence.isSome = f.isSome := by
  cases h with
  | none => rfl
  | some => rfl

theorem InStep.isOpen {fence : Option OpenFence} {f : Option Fence} (h : InStep fence f) :
    ∀ g ∈ f, IsOpen g := by
  intro g hg
  cases h with
  | none => cases hg
  | some hsame =>
    obtain rfl := Option.some.inj hg
    exact hsame.isOpen

section

variable {line gap rest : Text} {mark : Char} {length : Nat}

/-- A run of the same mark closes, for the log, what it closes by the rule. -/
theorem SameFence.prefix_iff {fence : OpenFence} {f : Fence} (h : SameFence fence f) :
    fence.run <+: List.replicate length mark ↔ mark = f.mark ∧ f.length ≤ length := by
  have hpos : f.length ≠ 0 := Nat.ne_of_gt (Nat.lt_of_lt_of_le (by decide) h.isOpen.1)
  rw [h.run, List.prefix_replicate_iff, List.length_replicate]
  constructor
  · rintro ⟨hle, heq⟩
    have hmem : f.mark ∈ List.replicate f.length f.mark := List.mem_replicate.mpr ⟨hpos, rfl⟩
    rw [heq] at hmem
    exact ⟨(List.eq_of_mem_replicate hmem).symm, hle⟩
  · rintro ⟨rfl, hle⟩
    exact ⟨hle, rfl⟩

/-- A regular run opens the same fence. -/
theorem Begins.inStep_none (h : Begins line gap mark length rest) (hgap : ∀ c ∈ gap, c = ' ')
    (hinfo : mark = Fence.backtick → Fence.backtick ∉ rest) :
    InStep (fenceAfter none line) (Fence.after none line) := by
  have hgood : ¬(mark = Fence.backtick ∧ Fence.backtick ∈ rest) := fun hbad => hinfo hbad.1 hbad.2
  rw [h.fenceAfter_none, h.after_none hgap, h.toIsRun.read?, if_neg hgood]
  exact .some ⟨rfl, h.long, h.isMark⟩

/-- A regular run closes the same fence. -/
theorem Begins.inStep_some (h : Begins line gap mark length rest) (hgap : ∀ c ∈ gap, c = ' ')
    (htrailing : Text.isBlank rest → Fence.IsTrailing rest) {fence : OpenFence} {f : Fence}
    (hsame : SameFence fence f) :
    InStep (fenceAfter (some fence) line) (Fence.after (some f) line) := by
  have hblank (hrest : Fence.IsTrailing rest) : Text.isBlank rest = true := by
    refine List.all_eq_true.mpr fun c hc => ?_
    rcases hrest c hc with rfl | rfl <;> rfl
  rw [h.fenceAfter_some]
  -- the log and the rule see the same run, and what is blank behind it is trailing
  by_cases hcloses : fence.run <+: List.replicate length mark ∧ Text.isBlank rest = true
  · obtain ⟨hmark, hle⟩ := hsame.prefix_iff.mp hcloses.1
    rw [if_pos hcloses, (h.after_some_iff hgap hsame.isOpen).mpr ⟨hmark, hle, htrailing hcloses.2⟩]
    exact .none
  · rw [if_neg hcloses]
    rcases Fence.after_some_cases f line with hnone | hsome
    · obtain ⟨hmark, hle, hrest⟩ := (h.after_some_iff hgap hsame.isOpen).mp hnone
      exact absurd ⟨hsame.prefix_iff.mpr ⟨hmark, hle⟩, hblank hrest⟩ hcloses
    · rw [hsome]
      exact .some hsame

end

/-- A regular line keeps log and rule in step. -/
theorem InStep.next {fence : Option OpenFence} {f : Option Fence} (h : InStep fence f) {line : Text}
    (hline : IsRegular line) : InStep (fenceAfter fence line) (Fence.after f line) := by
  rcases hrun : fenceRun? line with - | run
  · rw [fenceAfter_of_none hrun, after_of_none h.isOpen hrun]
    exact h
  · obtain ⟨gap, mark, length, rest, hbegins, -⟩ := exists_begins hrun
    obtain ⟨hgap, hopens, hcloses⟩ := hbegins.isRegular_iff.mp hline
    cases h with
    | none => exact hbegins.inStep_none hgap hopens
    | some hsame => exact hbegins.inStep_some hgap hcloses hsame

/-- Regular lines keep log and rule in step. -/
theorem inStep_of_regular {lines : List Text} (h : ∀ line ∈ lines, IsRegular line) :
    InStep (Log.fenceOf lines) (Fence.ofLines lines) := by
  induction lines using List.reverseRecOn with
  | nil => exact .none
  | append_singleton lines line ih =>
    have hbefore := ih fun l hl => h l (List.mem_append_left _ hl)
    have hnext := hbefore.next (h line (List.mem_append_right _ List.mem_cons_self))
    rw [Log.fenceOf_concat]
    unfold Fence.ofLines
    rw [List.foldl_concat]
    exact hnext

/-! ### Out of step -/

/-- Do some lines leave a fence open for the log or by the rule, but not for both? -/
def PartWays (lines : List Text) : Prop :=
  (Log.fenceOf lines).isSome ≠ (Fence.ofLines lines).isSome

section

variable {line gap rest : Text} {mark : Char} {length : Nat}

/-- A line that is no fence by the rule opens one for the log. -/
theorem Begins.partWays_of_opens (h : Begins line gap mark length rest)
    (hbad : ¬(∀ c ∈ gap, c = ' ') ∨ mark = Fence.backtick ∧ Fence.backtick ∈ rest) :
    PartWays [line] := by
  have hnone : Fence.after none line = none := by
    by_cases hgap : ∀ c ∈ gap, c = ' '
    · rw [h.after_none hgap, h.toIsRun.read?, if_pos (hbad.resolve_left (not_not_intro hgap))]
    · exact h.after_of_gap hgap fun f hf => nomatch hf
  show (fenceAfter none line).isSome ≠ (Fence.after none line).isSome
  rw [hnone, h.fenceAfter_none]
  exact nofun

/-- A run by itself is a regular line. -/
theorem begins_run (h : Begins line gap mark length rest) :
    Begins (List.replicate length mark) [] mark length [] := by
  have hrun : Fence.IsRun mark length [] := ⟨h.isMark, h.long, nofun⟩
  have hbegins := begins_of_spaces (Nat.zero_le 3) hrun
  rw [List.append_nil] at hbegins
  exact hbegins

theorem isRegular_run (h : Begins line gap mark length rest) :
    IsRegular (List.replicate length mark) :=
  (begins_run h).isRegular_iff.mpr ⟨nofun, fun _ => List.not_mem_nil, fun _ => nofun⟩

/-- A line that closes no fence by the rule closes one for the log: the one opened by its run. -/
theorem Begins.partWays_of_closes (h : Begins line gap mark length rest)
    (hgap : ∀ c ∈ gap, c = ' ') (hblank : Text.isBlank rest) (htrailing : ¬Fence.IsTrailing rest) :
    PartWays [List.replicate length mark, line] := by
  -- the bare run opens a fence on both sides, and then the line ends that of the log only
  have hopened := (begins_run h).inStep_none nofun fun _ => List.not_mem_nil
  rw [(begins_run h).fenceAfter_none] at hopened
  show (fenceAfter (fenceAfter none (List.replicate length mark)) line).isSome
    ≠ (Fence.after (Fence.after none (List.replicate length mark)) line).isSome
  rw [(begins_run h).fenceAfter_none]
  generalize Fence.after none (List.replicate length mark) = opened at hopened
  cases hopened with
  | some hsame =>
    rename_i f
    have hfront : List.replicate length mark <+: List.replicate length mark := List.prefix_refl _
    have hstays : Fence.after (some f) line = some f := by
      refine (Fence.after_some_cases f line).resolve_left fun hnone => htrailing ?_
      exact ((h.after_some_iff hgap hsame.isOpen).mp hnone).2.2
    rw [h.fenceAfter_some, if_pos ⟨hfront, hblank⟩, hstays]
    exact nofun

end

/-- Each line that is not regular parts log and rule, after a regular line at most. -/
theorem exists_partWays {line : Text} (h : ¬IsRegular line) :
    ∃ before, before.length ≤ 1 ∧ (∀ l ∈ before, IsRegular l) ∧ PartWays (before ++ [line]) := by
  rcases hrun : fenceRun? line with - | run
  · refine absurd ?_ h
    intro run hmem
    rw [hrun] at hmem
    cases hmem
  · obtain ⟨gap, mark, length, rest, hbegins, -⟩ := exists_begins hrun
    -- one of three things is at fault, and the first two show at once
    rw [hbegins.isRegular_iff] at h
    by_cases hbad : ¬(∀ c ∈ gap, c = ' ') ∨ mark = Fence.backtick ∧ Fence.backtick ∈ rest
    · exact ⟨[], Nat.zero_le 1, nofun, hbegins.partWays_of_opens hbad⟩
    · -- the run can be an opening fence, so it is the end of the line that is at fault
      obtain ⟨hgap, hinfo⟩ := not_or.mp hbad
      have hspaces := not_not.mp hgap
      have hcloses : ¬(Text.isBlank rest → Fence.IsTrailing rest) := fun hcloses =>
        h ⟨hspaces, fun hmark hmem => hinfo ⟨hmark, hmem⟩, hcloses⟩
      obtain ⟨hblank, htrailing⟩ := Classical.not_imp.mp hcloses
      refine ⟨[List.replicate length mark], Nat.le_refl 1, ?_,
        hbegins.partWays_of_closes hspaces hblank htrailing⟩
      intro l hl
      rw [List.mem_singleton.mp hl]
      exact isRegular_run hbegins

/-- The fence of a log is the one that its lines leave open, however they came in. -/
theorem fence_foldl_push (canvas : Canvas) (lines : List Text) :
    (lines.foldl (Log.push canvas) {}).fence = Log.fenceOf lines := by
  have hsplit : ∀ log : Log, log.IsSplit → (lines.foldl (Log.push canvas) log).IsSplit ∧
      (lines.foldl (Log.push canvas) log).lines = log.lines ++ lines := by
    induction lines with
    | nil => exact fun log h => ⟨h, (List.append_nil _).symm⟩
    | cons line rest ih =>
      intro log h
      obtain ⟨hrest, hlines⟩ := ih _ (h.push canvas line)
      refine ⟨hrest, hlines.trans ?_⟩
      rw [Log.lines_push, List.append_assoc]
      rfl
  obtain ⟨hend, hlines⟩ := hsplit {} (Log.isSplit_empty none)
  rw [hend.fence, hlines]
  rfl

/-- **When a log follows the fences of a document.**  Whatever was done to a log: if its
lines are regular, it has a fence open exactly when the rule has one open after these
lines, and the run that closes it is the same.  And each line that is not regular can be
pushed to a log of regular lines, at most one, so that a fence is open for the log and not
by the rule, or the other way round. -/
theorem fence_follows_rule (steps : List (Canvas × Log.Operation)) (line : Text) :
    ((∀ l ∈ (Log.runs steps).lines, IsRegular l) →
      (Log.runs steps).fence.isSome = (Fence.ofLines (Log.runs steps).lines).isSome ∧
        InStep (Log.runs steps).fence (Fence.ofLines (Log.runs steps).lines)) ∧
    (¬IsRegular line → ∃ before, before.length ≤ 1 ∧ (∀ l ∈ before, IsRegular l) ∧ ∀ canvas,
      ((before ++ [line]).foldl (Log.push canvas) {}).fence.isSome
        ≠ (Fence.ofLines (before ++ [line])).isSome) := by
  -- lines that are regular keep both in step, and one that is not parts them
  constructor
  · intro hregular
    have hstep := inStep_of_regular hregular
    rw [(Log.runs_isSplit steps).fence]
    exact ⟨hstep.isSome_eq, hstep⟩
  · intro hline
    obtain ⟨before, hshort, hbefore, hpart⟩ := exists_partWays hline
    refine ⟨before, hshort, hbefore, fun canvas => ?_⟩
    rw [fence_foldl_push]
    exact hpart

/-- Three lines that are not regular: code in a line of prose, a run behind a tab, and a run
that a no-break space follows.  The first two open a fence for the log, the last one closes
it.  Behind the line of prose a blank line ends no block any more. -/
theorem fence_parts_ways :
    let log (lines : List Text) : Log := lines.foldl (Log.push ⟨markup, Theme.fallback, 40⟩) {}
    let code : Text := "```cargo test``` passes".toList
    let tabbed : Text := "\t```".toList
    let trailed : List Text := ["```".toList, "```\u00A0".toList]
    ((log [code]).fence.isSome ∧ Fence.ofLines [code] = none)
      ∧ (log [code, []]).pushText? "done".toList = some (Text.ofRows [code, [], "done".toList])
      ∧ ((log [tabbed]).fence.isSome ∧ Fence.ofLines [tabbed] = none)
      ∧ ((log trailed).fence = none ∧ (Fence.ofLines trailed).isSome) := by
  decide +kernel

end Transcript

end AgentConsole
