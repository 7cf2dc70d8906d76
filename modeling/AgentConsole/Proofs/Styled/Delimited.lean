import AgentConsole.Proofs.Styled.Strip

/-!
# Where the tokens of a text end

Whatever is done to styled texts, pieces of them are put side by side, and no piece may change how
another one is read.  So the tokens of a text have to end with it.

What a text leaves unfinished is its last token (`isFinished_of_split`), and that one is the only
obstacle: if it is finished as well, then the reader starts anew behind the text, whatever follows
(`tokens_append`).  Nothing less will do.  A sequence that is left open swallows the next character,
and already the columns betray it (`escapeComplete_of_rowWidth_append`).

The main result is `isLexed_and_escapeComplete_iff`.
-/

namespace AgentConsole.Styled

variable {t a b : Text}

/-! ### The tokens of a text -/

/-- An escape that is not finished has begun with `ESC`. -/
theorem Scan.IsOpen.head?_pending {s : Scan} (h : s.IsOpen) (hs : s ≠ .ground) :
    s.pending.head? = some esc := by
  -- each state remembers what it has read from its introduction on
  cases s with
  | ground => exact absurd rfl hs
  | introduced => rfl
  | control read =>
    obtain ⟨rest, hread, -⟩ := h
    rw [Scan.pending, hread]
    rfl
  | command read =>
    obtain ⟨rest, hread, -⟩ := h
    rw [Scan.pending, hread]
    rfl
  | commandEscape read =>
    obtain ⟨rest, hread⟩ := h
    rw [Scan.pending, hread]
    rfl

/-- Every escape sequence begins with ESC. -/
theorem head?_of_mem_scan {s : Scan} (hs : s.IsOpen) {e : Text} (he : Token.escape e ∈ scan s t) :
    e.head? = some esc := by
  induction t generalizing s with
  | nil =>
    by_cases hg : s = .ground
    · subst hg
      exact absurd he List.not_mem_nil
    · rw [scan_nil_open hg] at he
      obtain rfl := Token.escape.inj (List.mem_singleton.mp he)
      exact hs.head?_pending hg
  | cons c t ih =>
    -- either the token ends with this character, or it is still being read
    by_cases hc : s.next c = .ground
    · rw [scan_cons_ground hc] at he
      rcases List.mem_cons.mp he with heq | he
      · by_cases hg : s = .ground
        · -- a character that is read between two tokens is shown
          subst hg
          cases heq
        · rw [Scan.token_open hg] at heq
          obtain rfl := Token.escape.inj heq
          rw [List.head?_append, hs.head?_pending hg]
          rfl
      · exact ih (s := .ground) trivial he
    · rw [scan_cons_open hc] at he
      exact ih (hs.next c) he

/-- Only the last token of a text may be unfinished. -/
theorem isFinished_of_split {us vs : List Token} (hsplit : tokens t = us ++ vs) (hvs : vs ≠ [])
    {e : Text} (he : Token.escape e ∈ us) : isFinished e := by
  have hreached : Scan.ground.IsReached := ⟨rfl, fun _ => rfl⟩
  obtain ⟨hself, hsettled⟩ := forall_mem_scan hreached hsplit (.inl hvs) _ he
  have htokens : tokens e = [.escape e] := hself
  exact (settled_iff e).mp hsettled e (htokens ▸ List.mem_singleton_self _)

theorem strip_strip (t : Text) : strip (strip t) = strip t := strip_of_notMem (esc_notMem_strip t)

/-- What the tokens of a text are, and what the text shows. -/
structure IsLexed (t : Text) : Prop where
  /-- Nothing is lost and nothing is moved. -/
  sources : sources (tokens t) = t
  escape : ∀ e, Token.escape e ∈ tokens t → e.head? = some esc
  glyph : ∀ c, Token.glyph c ∈ tokens t → c ≠ esc
  /-- A sequence that another token follows is finished. -/
  finished : ∀ us k vs, tokens t = us ++ k :: vs → ∀ e, Token.escape e ∈ us → isFinished e
  /-- What is shown holds no sequence any more, so that there is nothing left to strip. -/
  plain : esc ∉ strip t
  fixed : strip (strip t) = strip t

/-- Every text is made up of its tokens. -/
theorem isLexed (t : Text) : IsLexed t where
  sources := sources_tokens t
  escape _ := head?_of_mem_scan (s := .ground) trivial
  glyph _ := ne_esc_of_mem_scan
  finished _ _ _ hsplit _ := isFinished_of_split hsplit (List.cons_ne_nil _ _)
  plain := esc_notMem_strip t
  fixed := strip_strip t

/-! ### Texts side by side -/

/-- The second text is read behind the first as it is read alone. -/
structure ReadsApart (a b : Text) : Prop where
  tokens : tokens (a ++ b) = tokens a ++ tokens b
  strip : strip (a ++ b) = strip a ++ strip b
  rowWidth : rowWidth (a ++ b) = rowWidth a + rowWidth b
  /-- On a single row, so are the columns of the widest one. -/
  width : '\n' ∉ a → '\n' ∉ b → width (a ++ b) = width a + width b

/-- Behind a settled text the next one is read for itself. -/
theorem Settled.readsApart (h : Settled a) (b : Text) : ReadsApart a b where
  tokens := tokens_append h b
  strip := strip_append h b
  rowWidth := rowWidth_append h b
  width ha hb := by
    have hab : '\n' ∉ a ++ b := fun hmem => (List.mem_append.mp hmem).elim ha hb
    rw [width_of_notMem hab, width_of_notMem ha, width_of_notMem hb, rowWidth_append h]

/-- If the columns of whatever follows a text add up with its own, then it leaves no sequence open. -/
theorem escapeComplete_of_rowWidth_append
    (h : ∀ b, rowWidth (a ++ b) = rowWidth a + rowWidth b) : EscapeComplete a := by
  rw [← settled_iff]
  by_cases hsettled : Settled a
  · exact hsettled
  · have hswallowed : columnsOf (scan (Scan.ground.after a) ['x']) = 0 :=
      Nat.le_zero.mp (columnsOf_scan_cons_le hsettled 'x' [])
    have happend : rowWidth (a ++ ['x']) = rowWidth a := by
      rw [rowWidth_eq, tokens, columnsOf_scan_append, hswallowed]
      rfl
    have hx : rowWidth ['x'] = 1 := by decide
    have hsum := h ['x']
    omega

/-- **Tokens delimit themselves.**  The tokens of a text make it up; each is a character other than
ESC or a sequence that begins with it.  A text all of whose sequences are finished may be put before
any other, and no other text may: what both show and the columns that they take are put together
from what each shows and takes alone. -/
theorem isLexed_and_escapeComplete_iff (a : Text) :
    IsLexed a ∧ (EscapeComplete a ↔ ∀ b, ReadsApart a b) := by
  refine ⟨isLexed a, fun hcomplete b => ?_, fun hapart => ?_⟩
  · exact ((settled_iff a).mpr hcomplete).readsApart b
  · exact escapeComplete_of_rowWidth_append fun b => (hapart b).rowWidth

/-- A command that holds what begins a control sequence and a wide character, a character, and a
sequence that is left open. -/
example : tokens "\x1b]8;;\x1b[世\x1b\\x\x1b[1".toList
    = [.escape "\x1b]8;;\x1b[世\x1b\\".toList, .glyph 'x', .escape "\x1b[1".toList] := by
  decide +kernel

end AgentConsole.Styled
