import AgentConsole.Text.Case
import Mathlib.Data.List.Basic

/-!
# Lower case in context

A capital sigma becomes a `ς` or a `σ`, and which of them depends on what stands around it.  So the
lower case of a piece of a text need not be a piece of the lower case of the text.  Here is when it is.

Lowering is done with the decision about each sigma as a parameter (`lowerBy`).  Where two decisions
agree around every sigma of a text, they lower it in the same way (`lowerBy_congr`); where they
disagree, and always in the same direction, one of the two forms of the letter is rarer in the one
than in the other (`count_lowerBy_lt`), and a piece of a text has no more of a letter than the text.

So a text keeps its lower case in all contexts if and only if it decides about all of its sigmas
itself (`forall_lower_infix_iff`), and its lower case is that of its characters, one by one, if and
only if none of its sigmas ends a word (`lower_eq_lowerEach_iff`).
-/

namespace AgentConsole.Text

variable {before after t : Text} {f g : Text → Text → Bool} {p : Text → Text → Prop}

/-! ### Passing over -/

/-- Are all characters passed over when a cased one is looked for? -/
def IsPassedOver (t : Text) : Prop := t.all Unicode.caseIgnorable.contains

instance (t : Text) : Decidable (IsPassedOver t) := inferInstanceAs (Decidable (_ = true))

/-- What is passed over as a whole leaves the question to what follows. -/
theorem meetsCased_append (a b : Text) :
    meetsCased (a ++ b) = if IsPassedOver a then meetsCased b else meetsCased a := by
  induction a with
  | nil => rfl
  | cons c a ih =>
    unfold meetsCased IsPassedOver at *
    cases hc : Unicode.caseIgnorable.contains c with
    | true => simpa [hc] using ih
    | false => simp [hc]

theorem meetsCased_of_isPassedOver (h : IsPassedOver t) : meetsCased t = false := by
  have happend := meetsCased_append t []
  rwa [List.append_nil, if_pos h] at happend

/-- Does a sigma between the two texts end a word?  The first one is kept in reverse. -/
def endsWord (before rest : Text) : Bool := meetsCased before && !meetsCased rest

/-! ### Lowering by a decision -/

/-- A sigma in lower case, as the end of a word or not. -/
def sigma (final : Bool) : Char := if final then 'ς' else 'σ'

/-- Lower case of the characters that follow `before`, where it is decided for each sigma whether it
ends a word. -/
def lowerBy (final : Text → Text → Bool) (before : Text) : Text → Text
  | [] => []
  | c :: rest =>
    (if c = 'Σ' then [sigma (final before rest)] else Unicode.lowerChar c)
      ++ lowerBy final (c :: before) rest

theorem lowerAfter_eq_lowerBy (before t : Text) : lowerAfter before t = lowerBy endsWord before t := by
  induction t generalizing before with
  | nil => rfl
  | cons c rest ih =>
    rw [lowerAfter, lowerBy, ih (c :: before)]
    rfl

theorem lower_eq_lowerBy (t : Text) : lower t = lowerBy endsWord [] t := lowerAfter_eq_lowerBy [] t

/-- The lower case of the characters, one by one. -/
def lowerEach (t : Text) : Text := t.flatMap Unicode.lowerChar

theorem lowerChar_sigma : Unicode.lowerChar 'Σ' = ['σ'] := by decide +kernel

/-- Character by character, it never asks. -/
theorem lowerEach_eq_lowerBy (before t : Text) :
    lowerEach t = lowerBy (fun _ _ => false) before t := by
  induction t generalizing before with
  | nil => rfl
  | cons c rest ih =>
    rw [lowerBy, ← ih (c :: before)]
    show Unicode.lowerChar c ++ lowerEach rest = _
    congr 1
    split
    · rename_i hc
      rw [hc, lowerChar_sigma]
      rfl
    · rfl

/-- What stands in front stands in front of every sigma. -/
theorem lowerBy_append_before (f : Text → Text → Bool) (a before t : Text) :
    lowerBy f (a ++ before) t = lowerBy (fun x y => f (x ++ before) y) a t := by
  induction t generalizing a with
  | nil => rfl
  | cons c rest ih =>
    rw [lowerBy, lowerBy]
    exact congrArg _ (ih (c :: a))

/-- The second part sees the first, and the first sees the second. -/
theorem lowerBy_append (f : Text → Text → Bool) (before a b : Text) :
    lowerBy f before (a ++ b)
      = lowerBy (fun x y => f x (y ++ b)) before a ++ lowerBy f (a.reverse ++ before) b := by
  induction a generalizing before with
  | nil => rfl
  | cons c a ih =>
    rw [List.cons_append, lowerBy, lowerBy, ih, List.append_assoc, List.reverse_cons,
      List.append_assoc]
    rfl

/-- The lower case of a piece, where it stands. -/
theorem lower_append_append (l t r : Text) : lower (l ++ t ++ r)
    = lowerBy (fun x y => endsWord x (y ++ (t ++ r))) [] l
      ++ (lowerBy (fun x y => endsWord (x ++ l.reverse) (y ++ r)) [] t
        ++ lowerBy endsWord (t.reverse ++ l.reverse) r) := by
  have hfront := lowerBy_append_before (fun x y => endsWord x (y ++ r)) [] l.reverse t
  rw [lower_eq_lowerBy, List.append_assoc, lowerBy_append, lowerBy_append, List.append_nil, ← hfront]
  rfl

/-! ### Around the sigmas -/

/-- Does something hold of what stands before and behind every sigma? -/
def AroundSigmas (p : Text → Text → Prop) (before : Text) : Text → Prop
  | [] => True
  | c :: rest => (c = 'Σ' → p before rest) ∧ AroundSigmas p (c :: before) rest

/-- What follows at each sigma holds at each sigma. -/
theorem AroundSigmas.imp {q : Text → Text → Prop} (h : ∀ x y, p x y → q x y)
    (ht : AroundSigmas p before t) : AroundSigmas q before t := by
  induction t generalizing before with
  | nil => trivial
  | cons c rest ih => exact ⟨fun hc => h _ _ (ht.1 hc), ih ht.2⟩

theorem aroundSigmas_of_forall (h : ∀ x y, p x y) : AroundSigmas p before t := by
  induction t generalizing before with
  | nil => trivial
  | cons c rest ih => exact ⟨fun _ => h _ _, ih⟩

/-- Without a sigma there is nothing to ask. -/
theorem aroundSigmas_of_notMem (h : 'Σ' ∉ t) : AroundSigmas p before t := by
  induction t generalizing before with
  | nil => trivial
  | cons c rest ih =>
    obtain ⟨hc, hrest⟩ := not_or.mp (mt List.mem_cons.mpr h)
    exact ⟨fun hsigma => absurd hsigma.symm hc, ih hrest⟩

/-- Two facts about each sigma are one. -/
theorem AroundSigmas.and {q : Text → Text → Prop} (hp : AroundSigmas p before t)
    (hq : AroundSigmas q before t) : AroundSigmas (fun x y => p x y ∧ q x y) before t := by
  induction t generalizing before with
  | nil => trivial
  | cons c rest ih => exact ⟨fun hc => ⟨hp.1 hc, hq.1 hc⟩, ih hp.2 hq.2⟩

/-- Two ways to decide that agree at each sigma lower a text alike. -/
theorem lowerBy_congr (h : AroundSigmas (fun x y => f x y = g x y) before t) :
    lowerBy f before t = lowerBy g before t := by
  induction t generalizing before with
  | nil => rfl
  | cons c rest ih =>
    rw [lowerBy, lowerBy, ih h.2]
    congr 1
    split
    · rename_i hc
      rw [h.1 hc]
    · rfl

/-! #### Counting -/

theorem count_sigma_le {v b c : Bool} (h : b = v → c = v) :
    [sigma b].count (sigma v) ≤ [sigma c].count (sigma v) := by
  revert v b c
  decide

theorem count_sigma_lt {v b c : Bool} (hb : b ≠ v) (hc : c = v) :
    [sigma b].count (sigma v) < [sigma c].count (sigma v) := by
  revert v b c
  decide

/-- A decision that is made less often leaves fewer sigmas of its form. -/
theorem count_lowerBy_le (v : Bool) (h : AroundSigmas (fun x y => g x y = v → f x y = v) before t) :
    (lowerBy g before t).count (sigma v) ≤ (lowerBy f before t).count (sigma v) := by
  induction t generalizing before with
  | nil => exact Nat.le_refl _
  | cons c rest ih =>
    rw [lowerBy, lowerBy, List.count_append, List.count_append]
    refine Nat.add_le_add ?_ (ih h.2)
    split
    · exact count_sigma_le (h.1 ‹_›)
    · exact Nat.le_refl _

/-- And if it is made less often indeed, fewer. -/
theorem count_lowerBy_lt (v : Bool) (h : AroundSigmas (fun x y => g x y = v → f x y = v) before t)
    (hless : ¬ AroundSigmas (fun x y => f x y = v → g x y = v) before t) :
    (lowerBy g before t).count (sigma v) < (lowerBy f before t).count (sigma v) := by
  induction t generalizing before with
  | nil => exact absurd trivial hless
  | cons c rest ih =>
    rw [lowerBy, lowerBy, List.count_append, List.count_append]
    -- the first sigma makes the difference, or one behind it
    by_cases hfirst : c = 'Σ' → f before rest = v → g before rest = v
    · have hrest := ih h.2 fun hrest => hless ⟨hfirst, hrest⟩
      refine Nat.add_lt_add_of_le_of_lt ?_ hrest
      split
      · exact count_sigma_le (h.1 ‹_›)
      · exact Nat.le_refl _
    · obtain ⟨hc, hfirst⟩ := Classical.not_imp.mp hfirst
      obtain ⟨hf, hg⟩ := Classical.not_imp.mp hfirst
      rw [if_pos hc, if_pos hc]
      exact Nat.add_lt_add_of_lt_of_le (count_sigma_lt hg hf) (count_lowerBy_le v h.2)

/-- Fewer of a letter are not enough for a piece that has more of them. -/
theorem not_infix_of_count_lt {a b : Text} {c : Char} (h : b.count c < a.count c) : ¬ a <:+: b :=
  fun hpiece => Nat.not_le_of_lt h (hpiece.sublist.count_le c)

/-! ### Character by character -/

/-- Does no sigma end a word? -/
def LacksFinalSigma (t : Text) : Prop := AroundSigmas (fun x y => endsWord x y = false) [] t

/-- **When a text is lowered character by character.** -/
theorem lower_eq_lowerEach_iff : lower t = lowerEach t ↔ LacksFinalSigma t := by
  rw [lower_eq_lowerBy, lowerEach_eq_lowerBy []]
  constructor
  · intro heq
    refine Classical.byContradiction fun hfinal => ?_
    have hless : (lowerBy (fun _ _ => false) [] t).count (sigma true)
        < (lowerBy endsWord [] t).count (sigma true) := by
      apply count_lowerBy_lt
      · exact aroundSigmas_of_forall fun _ _ h => absurd h Bool.false_ne_true
      · intro hall
        exact hfinal (hall.imp fun x y h => Bool.eq_false_iff.mpr fun hends => absurd (h hends) nofun)
    rw [heq] at hless
    exact Nat.lt_irrefl _ hless
  · exact lowerBy_congr

/-- No character vanishes in lower case. -/
theorem lowerChar_ne_nil (c : Char) : Unicode.lowerChar c ≠ [] := by
  have hlong : ∀ e ∈ Unicode.lowerMap.long, e.2.map Char.ofNat ≠ [] := by decide
  unfold Unicode.lowerChar
  split
  · exact List.cons_ne_nil _ _
  · unfold Unicode.CaseMap.apply
    split
    · exact hlong _ (List.mem_of_find?_eq_some ‹_›)
    · split
      · split
        · exact List.cons_ne_nil _ _
        · exact List.cons_ne_nil _ _
      · exact List.cons_ne_nil _ _

/-- Only the empty text has an empty lower case. -/
theorem lower_eq_nil_iff : lower t = [] ↔ t = [] := by
  rw [lower_eq_lowerBy]
  cases t with
  | nil => exact iff_of_true rfl rfl
  | cons c rest =>
    refine iff_of_false (fun hnil => ?_) (List.cons_ne_nil c rest)
    have hfirst := (List.append_eq_nil_iff.mp hnil).1
    split at hfirst
    · exact List.cons_ne_nil _ _ hfirst
    · exact lowerChar_ne_nil c hfirst

/-! ### Any context -/

/-- Do the two texts decide whether a sigma between them ends a word, whatever is added to them? -/
structure Decides (before rest : Text) : Prop where
  front : IsPassedOver before → meetsCased rest
  behind : meetsCased before → ¬ IsPassedOver rest

/-- Does the text decide about all of its sigmas? -/
def DecidesSigmas (t : Text) : Prop := AroundSigmas Decides [] t

/-- What is decided stays so in a context. -/
theorem Decides.endsWord_append {x y : Text} (h : Decides x y) (before after : Text) :
    endsWord (x ++ before) (y ++ after) = endsWord x y := by
  unfold endsWord
  rw [meetsCased_append, meetsCased_append]
  by_cases hx : IsPassedOver x
  · -- then a cased character follows, and the sigma ends no word
    have hy := h.front hx
    have hpassed : ¬ IsPassedOver y := fun hpassed => by
      rw [meetsCased_of_isPassedOver hpassed] at hy
      exact Bool.false_ne_true hy
    rw [if_pos hx, if_neg hpassed, hy]
    simp
  · rw [if_neg hx]
    cases hcased : meetsCased x with
    | false => rfl
    | true => rw [if_neg (h.behind hcased)]

/-- With a letter in front, a sigma ends a word where it did, and where only what stands in front of
the text decides. -/
theorem endsWord_append_front {letter : Char} (hcased : meetsCased [letter]) (x y : Text) :
    endsWord (x ++ [letter]) y = (endsWord x y || decide (IsPassedOver x) && !meetsCased y) := by
  unfold endsWord
  rw [meetsCased_append, hcased]
  by_cases hx : IsPassedOver x
  · rw [if_pos hx, meetsCased_of_isPassedOver hx]
    simp [hx]
  · simp [hx]

/-- With a letter behind, a sigma ends a word where it did, unless only what stands behind the text
decides. -/
theorem endsWord_append_behind {letter : Char} (hcased : meetsCased [letter]) (x y : Text) :
    endsWord x (y ++ [letter]) = (endsWord x y && !decide (IsPassedOver y)) := by
  unfold endsWord
  rw [meetsCased_append, hcased]
  by_cases hy : IsPassedOver y
  · simp [hy]
  · simp [hy]

theorem meetsCased_letter : meetsCased ['a'] := by decide +kernel

/-- A letter is its own lower case. -/
theorem lowerBy_letter (f : Text → Text → Bool) (before : Text) : lowerBy f before ['a'] = ['a'] := rfl

/-- A text that leaves a sigma to what stands behind it has more final ones than with a letter there. -/
theorem not_infix_of_open_behind
    (hopen : ¬ AroundSigmas (fun x y => meetsCased x → ¬ IsPassedOver y) [] t) :
    ¬ lower t <:+: lower (t ++ ['a']) := by
  have hcontext : lower (t ++ ['a']) = lowerBy (fun x y => endsWord x (y ++ ['a'])) [] t ++ ['a'] := by
    rw [lower_eq_lowerBy, lowerBy_append, lowerBy_letter]
  -- the letter behind turns a final sigma into another, so that there is one final sigma less
  apply not_infix_of_count_lt (c := sigma true)
  rw [hcontext, List.count_append, lower_eq_lowerBy]
  apply count_lowerBy_lt true
  · refine aroundSigmas_of_forall fun x y h => ?_
    rw [endsWord_append_behind meetsCased_letter] at h
    exact (Bool.and_eq_true_iff.mp h).1
  · intro hall
    refine hopen (hall.imp fun x y h hx hy => ?_)
    have hends : endsWord x y := by simp [endsWord, hx, meetsCased_of_isPassedOver hy]
    have hstill := h hends
    rw [endsWord_append_behind meetsCased_letter] at hstill
    simp [hy] at hstill

/-- A text that leaves a sigma to what stands in front of it has fewer final ones than with a letter
there. -/
theorem not_infix_of_open_front
    (hopen : ¬ AroundSigmas (fun x y => IsPassedOver x → meetsCased y) [] t) :
    ¬ lower t <:+: lower ('a' :: t) := by
  have hcontext : lower ('a' :: t) = 'a' :: lowerBy (fun x y => endsWord (x ++ ['a']) y) [] t := by
    rw [← lowerBy_append_before, lower_eq_lowerBy]
    rfl
  -- the letter in front makes a sigma final, so that there is one other sigma less
  apply not_infix_of_count_lt (c := sigma false)
  rw [hcontext, List.count_cons_of_ne (by decide), lower_eq_lowerBy]
  apply count_lowerBy_lt false
  · refine aroundSigmas_of_forall fun x y h => ?_
    rw [endsWord_append_front meetsCased_letter] at h
    exact (Bool.or_eq_false_iff.mp h).1
  · intro hall
    refine hopen (hall.imp fun x y h hx => ?_)
    have hends : endsWord x y = false := by simp [endsWord, meetsCased_of_isPassedOver hx]
    have hstill := h hends
    rw [endsWord_append_front meetsCased_letter] at hstill
    simpa [hends, hx] using hstill

/-- **A text keeps its lower case in every context** if and only if it decides about its sigmas. -/
theorem forall_lower_infix_iff :
    (∀ whole, t <:+: whole → lower t <:+: lower whole) ↔ DecidesSigmas t := by
  constructor
  · intro hall
    refine Classical.byContradiction fun hopen => ?_
    by_cases hfront : AroundSigmas (fun x y => IsPassedOver x → meetsCased y) [] t
    · have hbehind : ¬ AroundSigmas (fun x y => meetsCased x → ¬ IsPassedOver y) [] t :=
        fun hbehind => hopen ((hfront.and hbehind).imp fun x y h => ⟨h.1, h.2⟩)
      exact not_infix_of_open_behind hbehind (hall _ (List.prefix_append t ['a']).isInfix)
    · exact not_infix_of_open_front hfront (hall _ (List.suffix_cons 'a' t).isInfix)
  · rintro h whole ⟨l, r, rfl⟩
    have hsame : lowerBy (fun x y => endsWord (x ++ l.reverse) (y ++ r)) [] t = lower t := by
      rw [lower_eq_lowerBy]
      exact lowerBy_congr (h.imp fun x y hxy => hxy.endsWord_append l.reverse r)
    rw [lower_append_append, hsame]
    exact ⟨_, _, List.append_assoc _ _ _⟩

end AgentConsole.Text
