import AgentConsole.Styled.Token

/-!
# Reading styled text

The reader of `Styled.scan` is a machine: `Scan.next` is its state after one more
character, and a token ends exactly where the machine comes back to `ground`
(`scan_cons`).  A text is *settled* if the machine ends between two tokens.

Main results: settled texts can be put side by side (`tokens_append`,
`strip_append`, `rowWidth_append`), and a text is settled if and only if every
escape sequence in it is finished (`settled_iff`).
-/

namespace AgentConsole.Styled

/-! ### The reader as a machine -/

/-- The state after one more character. -/
def Scan.next : Scan → Char → Scan
  | .ground, c => if c = esc then .introduced else .ground
  | .introduced, c =>
    if c = '[' then .control ['[', esc]
    else if c = ']' then .command [']', esc]
    else .ground
  | .control read, c => if isFinal c then .ground else .control (c :: read)
  | .command read, c =>
    if c = '\x07' then .ground
    else if c = esc then .commandEscape (c :: read)
    else .command (c :: read)
  | .commandEscape read, c =>
    if c = '\x07' || c = '\\' then .ground
    else if c = esc then .commandEscape (c :: read)
    else .command (c :: read)

/-- The state after a text. -/
def Scan.after (s : Scan) (t : Text) : Scan := t.foldl Scan.next s

/-- The token that a character ends. -/
def Scan.token : Scan → Char → Token
  | .ground, c => .glyph c
  | s, c => .escape (s.pending ++ [c])

@[simp] theorem Scan.after_nil (s : Scan) : s.after [] = s := rfl

@[simp] theorem Scan.after_cons (s : Scan) (c : Char) (t : Text) :
    s.after (c :: t) = (s.next c).after t := rfl

@[simp] theorem Scan.after_append (s : Scan) (a b : Text) :
    s.after (a ++ b) = (s.after a).after b := List.foldl_append

/-- A token ends where the reader comes back to `ground`. -/
theorem scan_cons (s : Scan) (c : Char) (t : Text) :
    scan s (c :: t)
      = match s.next c with
        | .ground => s.token c :: scan .ground t
        | s' => scan s' t := by
  -- the program reads on in one function for each state; each ends a token where `next` is back on
  -- the ground
  cases s with
  | ground => by_cases h : c = esc <;> simp [scan, Scan.next, Scan.token, h]
  | introduced =>
    by_cases h : c = '['
    · simp [scan, Scan.next, h]
    · by_cases h' : c = ']' <;> simp [scan, Scan.next, Scan.token, Scan.pending, h, h']
  | control read =>
    cases h : isFinal c <;> simp [scan, Scan.next, Scan.token, Scan.pending, h]
  | command read =>
    by_cases h : c = '\x07'
    · simp [scan, Scan.next, Scan.token, Scan.pending, h]
    · by_cases h' : c = esc
      · subst h'
        simp [scan, Scan.next, h]
      · simp [scan, Scan.next, h, h']
  | commandEscape read =>
    cases h : (c = '\x07' || c = '\\' : Bool)
    · by_cases h' : c = esc <;> simp_all [scan, Scan.next]
    · simp_all [scan, Scan.next, Scan.token, Scan.pending]

theorem scan_cons_ground {s : Scan} {c : Char} (h : s.next c = .ground) (t : Text) :
    scan s (c :: t) = s.token c :: scan .ground t := by
  rw [scan_cons, h]

/-- A character within an escape. -/
theorem scan_cons_open {s : Scan} {c : Char} (h : s.next c ≠ .ground) (t : Text) :
    scan s (c :: t) = scan (s.next c) t := by
  rw [scan_cons]
  split
  · exact absurd ‹_› h
  · rfl

/-- A sequence that the text leaves open is its last token. -/
theorem scan_nil_open {s : Scan} (h : s ≠ .ground) : scan s [] = [.escape s.pending] := by
  cases s with
  | ground => exact absurd rfl h
  | _ => rfl

/-- Within an escape, the token that ends is an escape. -/
theorem Scan.token_open {s : Scan} (h : s ≠ .ground) (c : Char) :
    s.token c = .escape (s.pending ++ [c]) := by
  cases s with
  | ground => exact absurd rfl h
  | _ => rfl

/-! ### Settled texts -/

/-- Does a reader of the text end between two tokens? -/
def Settled (t : Text) : Prop := Scan.ground.after t = .ground

theorem Settled.nil : Settled [] := rfl

theorem Settled.append {a b : Text} (ha : Settled a) (hb : Settled b) : Settled (a ++ b) := by
  unfold Settled at *
  rw [Scan.after_append, ha, hb]

/-- Behind a text that leaves nothing open, the next is read for itself. -/
theorem scan_append {s : Scan} {a : Text} (h : s.after a = .ground) (b : Text) :
    scan s (a ++ b) = scan s a ++ tokens b := by
  induction a generalizing s with
  | nil =>
    obtain rfl : s = .ground := h
    rfl
  | cons c a ih =>
    by_cases hc : s.next c = .ground
    · rw [Scan.after_cons, hc] at h
      rw [List.cons_append, scan_cons_ground hc, scan_cons_ground hc, ih h, List.cons_append]
    · rw [List.cons_append, scan_cons_open hc, scan_cons_open hc, ih h]

/-- The tokens after a settled text are those of what follows. -/
theorem tokens_append {a : Text} (h : Settled a) (b : Text) :
    tokens (a ++ b) = tokens a ++ tokens b := scan_append h b

theorem strip_append {a : Text} (h : Settled a) (b : Text) : strip (a ++ b) = strip a ++ strip b := by
  simp [strip, tokens_append h]

/-! ### Widths -/

/-- The columns of some tokens. -/
def columnsOf (ts : List Token) : Nat := ts.foldr (fun k n => k.width + n) 0

@[simp] theorem columnsOf_nil : columnsOf [] = 0 := rfl

@[simp] theorem columnsOf_cons (k : Token) (ts : List Token) :
    columnsOf (k :: ts) = k.width + columnsOf ts := rfl

@[simp] theorem columnsOf_append (ts us : List Token) :
    columnsOf (ts ++ us) = columnsOf ts + columnsOf us := by
  induction ts with
  | nil => simp
  | cons k ts ih => simp [ih]; omega

theorem rowWidth_eq (t : Text) : rowWidth t = columnsOf (tokens t) := rfl

theorem rowWidth_append {a : Text} (h : Settled a) (b : Text) :
    rowWidth (a ++ b) = rowWidth a + rowWidth b := by
  simp [rowWidth_eq, tokens_append h]

@[simp] theorem columnsOf_scan_nil (s : Scan) : columnsOf (scan s []) = 0 := by
  cases s <;> rfl

theorem width_token_le (s : Scan) (c : Char) : (s.token c).width ≤ Unicode.columns c := by
  cases s with
  | ground => exact Nat.le_refl _
  | _ => exact Nat.zero_le _

/-- Wherever a text is read from, it takes no more columns than its characters: some of them may
go to an escape sequence. -/
theorem columnsOf_scan_le (s : Scan) (t : Text) : columnsOf (scan s t) ≤ columnsOf (t.map .glyph) := by
  induction t generalizing s with
  | nil => simp
  | cons c t ih =>
    have hc : columnsOf ((c :: t).map .glyph) = Unicode.columns c + columnsOf (t.map .glyph) := rfl
    rw [hc]
    by_cases hnext : s.next c = .ground
    · rw [scan_cons_ground hnext, columnsOf_cons]
      exact Nat.add_le_add (width_token_le s c) (ih .ground)
    · rw [scan_cons_open hnext]
      exact Nat.le_trans (ih (s.next c)) (Nat.le_add_left _ _)

/-- Inside an escape sequence, the next character takes no column: it is part of the sequence. -/
theorem columnsOf_scan_cons_le {s : Scan} (hs : s ≠ .ground) (c : Char) (t : Text) :
    columnsOf (scan s (c :: t)) ≤ columnsOf (t.map .glyph) := by
  by_cases hnext : s.next c = .ground
  · rw [scan_cons_ground hnext, columnsOf_cons, Scan.token_open hs, Token.width, Nat.zero_add]
    exact columnsOf_scan_le .ground t
  · rw [scan_cons_open hnext]
    exact columnsOf_scan_le _ t

/-- What is written behind a text is read from where the reader of the text stands. -/
theorem columnsOf_scan_append (s : Scan) (a b : Text) :
    columnsOf (scan s (a ++ b)) = columnsOf (scan s a) + columnsOf (scan (s.after a) b) := by
  induction a generalizing s with
  | nil => rw [List.nil_append, columnsOf_scan_nil, Nat.zero_add, Scan.after_nil]
  | cons c a ih =>
    rw [List.cons_append, Scan.after_cons]
    by_cases hnext : s.next c = .ground
    · rw [scan_cons_ground hnext, scan_cons_ground hnext, columnsOf_cons, columnsOf_cons, ih, hnext,
        Nat.add_assoc]
    · rw [scan_cons_open hnext, scan_cons_open hnext]
      exact ih (s.next c)

/-- What is written behind a text takes no more than its own columns, even where the text ends inside
an escape sequence. -/
theorem rowWidth_append_le (a b : Text) : rowWidth (a ++ b) ≤ rowWidth a + columnsOf (b.map .glyph) := by
  rw [rowWidth_eq, tokens, columnsOf_scan_append]
  exact Nat.add_le_add_left (columnsOf_scan_le _ b) _

/-! ### Finished escape sequences -/

/-- Is the escape sequence finished: a control sequence with a final character, an
operating system command with BEL or `ESC \`, or `ESC` with one other character? -/
def isFinished (sequence : Text) : Bool :=
  match sequence with
  | _ :: '[' :: rest => rest.getLast?.any isFinal
  | _ :: ']' :: rest => rest.getLast? = some '\x07' || [esc, '\\'].isSuffixOf rest
  | [_, _] => true
  | _ => false

/-- Does the text hold finished escape sequences only? -/
def EscapeComplete (t : Text) : Prop := ∀ e, Token.escape e ∈ tokens t → isFinished e

/-- What an open escape sequence looks like: none of its characters could have ended it. -/
def Scan.IsOpen : Scan → Prop
  | .ground | .introduced => True
  | .control read => ∃ rest, read.reverse = esc :: '[' :: rest ∧ ∀ c ∈ rest, ¬isFinal c
  | .command read =>
    ∃ rest, read.reverse = esc :: ']' :: rest ∧ rest.getLast? ≠ some esc
      ∧ rest.getLast? ≠ some '\x07' ∧ ¬[esc, '\\'] <:+ rest
  | .commandEscape read => ∃ rest, read.reverse = esc :: ']' :: rest ++ [esc]

/-- Reading one more character keeps what is remembered well formed. -/
theorem Scan.IsOpen.next {s : Scan} (h : s.IsOpen) (c : Char) : (s.next c).IsOpen := by
  -- `ESC \` can only come about by a backslash right after an ESC
  have snoc {rest : Text} {c : Char} (hesc : rest.getLast? ≠ some esc) :
      ¬[esc, '\\'] <:+ rest ++ [c] := by
    rintro ⟨front, hfront⟩
    have hsplit : (front ++ [esc]) ++ ['\\'] = rest ++ [c] := by simpa using hfront
    have : front ++ [esc] = rest := (List.append_inj' hsplit rfl).1
    exact hesc (by simp [← this])
  cases s with
  | ground => by_cases hc : c = esc <;> simp [Scan.next, Scan.IsOpen, hc]
  | introduced =>
    by_cases hc : c = '['
    · simp [Scan.next, Scan.IsOpen, hc]
    · by_cases hc' : c = ']' <;> simp [Scan.next, Scan.IsOpen, hc, hc']
  | control read =>
    obtain ⟨rest, hread, hrest⟩ := h
    cases hc : isFinal c
    · refine cast (by simp [Scan.next, hc]) (show (Scan.control (c :: read)).IsOpen from
        ⟨rest ++ [c], by simp [hread], ?_⟩)
      intro d hd
      rcases List.mem_append.mp hd with hd | hd
      · exact hrest d hd
      · simp_all
    · simp [Scan.next, Scan.IsOpen, hc]
  | command read =>
    obtain ⟨rest, hread, hesc, hbell, hend⟩ := h
    by_cases hc : c = '\x07'
    · simp [Scan.next, Scan.IsOpen, hc]
    · by_cases hc' : c = esc
      · subst hc'
        exact ⟨rest, by simp [hread]⟩
      · simp only [Scan.next, hc, hc', if_false]
        exact ⟨rest ++ [c], by simp [hread], by simpa using hc', by simpa using hc, snoc hesc⟩
  | commandEscape read =>
    obtain ⟨rest, hread⟩ := h
    by_cases hc : c = '\x07'
    · simp [Scan.next, Scan.IsOpen, hc]
    · by_cases hs : c = '\\'
      · simp [Scan.next, Scan.IsOpen, hs]
      · by_cases hc' : c = esc
        · subst hc'
          exact ⟨rest ++ [esc], by simp [hread]⟩
        · simp only [Scan.next, hc, hs, hc', decide_false, Bool.or_self, Bool.false_eq_true, if_false]
          refine ⟨rest ++ [esc] ++ [c], by simp [hread], by simpa using hc', by simpa using hc, ?_⟩
          rintro ⟨front, hfront⟩
          have := congrArg List.getLast? hfront
          simp at this
          exact hs this.symm

/-- An escape sequence that is still open is not finished. -/
theorem Scan.IsOpen.not_finished {s : Scan} (h : s.IsOpen) (hs : s ≠ .ground) :
    ¬isFinished s.pending := by
  -- in each state, the character that would finish the escape has not been read
  cases s with
  | ground => exact absurd rfl hs
  | introduced => simp [Scan.pending, isFinished]
  | control read =>
    obtain ⟨rest, hread, hrest⟩ := h
    simp only [Scan.pending, hread, isFinished]
    rcases hl : rest.getLast? with - | c
    · simp
    · simpa using hrest c (List.mem_of_getLast? hl)
  | command read =>
    obtain ⟨rest, hread, -, hbell, hend⟩ := h
    simp [Scan.pending, hread, isFinished, hbell, hend]
  | commandEscape read =>
    obtain ⟨rest, hread⟩ := h
    simp only [Scan.pending, hread, List.cons_append, isFinished, List.getLast?_append]
    have : ¬[esc, '\\'] <:+ rest ++ [esc] := by
      rintro ⟨front, hfront⟩
      have := congrArg List.getLast? hfront
      simp [esc] at this
    simp [this]
    decide

/-- An escape sequence that a character ends is finished. -/
theorem Scan.IsOpen.finished {s : Scan} (h : s.IsOpen) (hs : s ≠ .ground) {c : Char}
    (hc : s.next c = .ground) : isFinished (s.pending ++ [c]) := by
  -- in each state, only certain characters lead to the ground
  cases s with
  | ground => exact absurd rfl hs
  | introduced =>
    have h₁ : c ≠ '[' := by rintro rfl; simp [Scan.next] at hc
    have h₂ : c ≠ ']' := by rintro rfl; simp [Scan.next] at hc
    simp [Scan.pending, isFinished]
  | control read =>
    obtain ⟨rest, hread, -⟩ := h
    have hfinal : isFinal c := by
      cases hf : isFinal c
      · simp [Scan.next, hf] at hc
      · rfl
    simp [Scan.pending, hread, isFinished, hfinal]
  | command read =>
    obtain ⟨rest, hread, -⟩ := h
    by_cases hb : c = '\x07'
    · simp [Scan.pending, hread, isFinished, hb]
    · by_cases he : c = esc
      · subst he
        simp [Scan.next, hb] at hc
      · simp [Scan.next, hb, he] at hc
  | commandEscape read =>
    obtain ⟨rest, hread⟩ := h
    by_cases hb : c = '\x07'
    · simp [Scan.pending, hread, isFinished, hb]
    · by_cases hs : c = '\\'
      · subst hs
        have : [esc, '\\'] <:+ rest ++ [esc] ++ ['\\'] := ⟨rest, by simp⟩
        simp only [Scan.pending, hread, List.cons_append, isFinished, Bool.or_eq_true]
        exact .inr (List.isSuffixOf_iff_suffix.mpr this)
      · by_cases he : c = esc
        · subst he
          simp [Scan.next, hb, hs] at hc
        · simp [Scan.next, hb, hs, he] at hc

/-- Read from any open state, a text ends between two tokens if and only if its
escape sequences are finished. -/
theorem after_eq_ground_iff {s : Scan} (hs : s.IsOpen) (t : Text) :
    s.after t = .ground ↔ ∀ e, Token.escape e ∈ scan s t → isFinished e := by
  induction t generalizing s with
  | nil =>
    by_cases hg : s = .ground
    · subst hg
      simp [scan]
    · -- what is open at the end counts as a sequence, and is not finished
      simpa [scan_nil_open hg, hg] using hs.not_finished hg
  | cons c t ih =>
    by_cases hc : s.next c = .ground
    · -- `c` ends a token: a glyph, or a sequence that it finishes
      rw [Scan.after_cons, hc, ih (s := .ground) trivial, scan_cons_ground hc]
      by_cases hg : s = .ground
      · subst hg
        simp [Scan.token]
      · simp [Scan.token_open hg, hs.finished hg hc]
    · rw [Scan.after_cons, ih (hs.next c), scan_cons_open hc]

/-- A text is settled if and only if its escape sequences are finished. -/
theorem settled_iff (t : Text) : Settled t ↔ EscapeComplete t :=
  after_eq_ground_iff (s := .ground) trivial t

/-! ### What tokens show -/

/-- The characters that some tokens show. -/
def shown (ts : List Token) : Text :=
  ts.filterMap fun
    | .glyph c => some c
    | .escape _ => none

theorem strip_eq_shown (t : Text) : strip t = shown (tokens t) := rfl

@[simp] theorem shown_nil : shown [] = [] := rfl

@[simp] theorem shown_glyph (c : Char) (ts : List Token) : shown (.glyph c :: ts) = c :: shown ts := rfl

@[simp] theorem shown_escape (e : Text) (ts : List Token) : shown (.escape e :: ts) = shown ts := rfl

@[simp] theorem shown_append (ts us : List Token) : shown (ts ++ us) = shown ts ++ shown us :=
  List.filterMap_append

/-- The characters that are shown are those among the tokens. -/
theorem mem_shown {ts : List Token} {c : Char} : c ∈ shown ts ↔ Token.glyph c ∈ ts := by
  unfold shown
  rw [List.mem_filterMap]
  constructor
  · rintro ⟨k, hk, heq⟩
    cases k with
    | escape e => cases heq
    | glyph d => exact (Option.some.inj heq) ▸ hk
  · intro h
    exact ⟨.glyph c, h, rfl⟩

theorem mem_strip {t : Text} {c : Char} : c ∈ strip t ↔ Token.glyph c ∈ tokens t := mem_shown

/-- What is shown of a text are characters of it. -/
theorem mem_of_mem_strip {t : Text} {c : Char} (h : c ∈ strip t) : c ∈ t := by
  have hsource : c ∈ sources (tokens t) :=
    List.mem_flatMap.mpr ⟨_, mem_strip.mp h, List.mem_singleton_self c⟩
  rwa [sources_tokens] at hsource

/-- No ESC is ever shown. -/
theorem ne_esc_of_mem_scan {s : Scan} {t : Text} {c : Char} (h : Token.glyph c ∈ scan s t) :
    c ≠ esc := by
  induction t generalizing s with
  | nil => cases s <;> simp [scan] at h
  | cons d t ih =>
    by_cases hnext : s.next d = .ground
    · rw [scan_cons_ground hnext] at h
      rcases List.mem_cons.mp h with heq | h
      · cases s with
        | ground =>
          -- an ESC would have begun a sequence here
          rintro rfl
          cases heq
          simp [Scan.next] at hnext
        | _ => cases heq
      · exact ih h
    · rw [scan_cons_open hnext] at h
      exact ih h

theorem esc_notMem_strip (t : Text) : esc ∉ strip t := fun h => ne_esc_of_mem_scan (mem_strip.mp h) rfl

end AgentConsole.Styled
