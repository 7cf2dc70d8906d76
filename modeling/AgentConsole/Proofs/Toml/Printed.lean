import AgentConsole.Proofs.Text.Number
import AgentConsole.Toml.Printer
import AgentConsole.Toml.Reader
import Mathlib.Data.List.Forall2
import Mathlib.Data.List.TakeWhile

/-!
# Reading what was written

A written document is read line by line, so each kind of line has its lemma: what it adds to the
statements, and that reading goes on behind it (`Line.Reads`).  The values in it are those that were
written (`Spells`), with one exception.  Quotes and backslashes are the only characters that are
escaped, but a string may hold no control character except a tab.  So a text with one is written
into a document that is no TOML.
-/

namespace AgentConsole.Toml

/-! ### Strings -/

/-- A character as it is written between double quotes. -/
def escape (c : Char) : Text := if c = '\\' ∨ c = '"' then ['\\', c] else [c]

theorem quote_append (t rest : Text) :
    quote t ++ rest = '"' :: (t.flatMap escape ++ '"' :: rest) := by
  show ('"' :: t.flatMap escape ++ ['"']) ++ rest = _
  simp

/-- A character that is no backslash ends the string, or stands for itself, or is forbidden. -/
theorem basic?_cons {c : Char} (hc : c ≠ '\\') (rest : Text) :
    basic? (c :: rest)
      = if c = '"' then some ([], rest) else if isPlain c then before c (basic? rest) else none := by
  rw [basic?]
  · simp [hc]
  all_goals
    intros
    contradiction

/-- What was escaped is read back, unless it is a character that is forbidden. -/
theorem basic?_escape {c : Char} (rest : Text) :
    basic? (escape c ++ rest) = if isPlain c then before c (basic? rest) else none := by
  unfold escape
  split
  · rename_i hc
    rcases hc with rfl | rfl
    · rfl
    · rfl
  · rename_i hc
    rw [not_or] at hc
    rw [List.singleton_append, basic?_cons hc.1, if_neg hc.2]

/-- What stands between double quotes is read again if all of it may stand there. -/
theorem basic?_flatMap_escape (t rest : Text) :
    basic? (t.flatMap escape ++ '"' :: rest) = if t.all isPlain then some (t, rest) else none := by
  induction t with
  | nil => rfl
  | cons c t ih =>
    rw [List.flatMap_cons, List.append_assoc, basic?_escape, ih, List.all_cons]
    cases isPlain c <;> cases t.all isPlain <;> rfl

theorem string?_cons {t : Text} (h : ∀ rest, t ≠ '"' :: '"' :: rest) :
    string? ('"' :: t) = basic? t := by
  unfold string?
  split
  · rename_i rest heq
    exact absurd (List.cons.inj heq).2 (h rest)
  · rename_i heq
    exact absurd (List.cons.inj heq).1 (by decide)
  · rename_i heq
    rw [(List.cons.inj heq).2]
  · rename_i heq
    exact absurd (List.cons.inj heq).1 (by decide)
  · rename_i hquote _
    exact absurd rfl (hquote t)

/-- A quoted text is read back if and only if all its characters are plain. -/
theorem string?_quote {rest : Text} (t : Text) (hrest : rest.head? ≠ some '"') :
    string? (quote t ++ rest) = if t.all isPlain then some (t, rest) else none := by
  rw [quote_append, ← basic?_flatMap_escape]
  refine string?_cons fun more heq => ?_
  -- three quotes in a row would begin a longer string
  cases t with
  | nil => exact hrest (by rw [(List.cons.inj heq).2]; rfl)
  | cons c t =>
    rw [List.flatMap_cons] at heq
    unfold escape at heq
    split at heq
    · exact absurd (List.cons.inj heq).1 (by decide)
    · rename_i hc
      exact hc (.inr (List.cons.inj heq).1)

/-! ### Words -/

section
variable {p : Char → Bool} {w : Text} {c : Char}

/-- What is taken ends where the first other character stands. -/
theorem takeWhile_append_stop (hw : ∀ d ∈ w, p d = true) (hc : p c = false) (rest : Text) :
    (w ++ c :: rest).takeWhile p = w := by
  rw [List.takeWhile_append_of_pos hw, List.takeWhile_cons_of_neg (by simp [hc]), List.append_nil]

theorem dropWhile_append_stop (hw : ∀ d ∈ w, p d = true) (hc : p c = false) (rest : Text) :
    (w ++ c :: rest).dropWhile p = c :: rest := by
  rw [List.dropWhile_append_of_pos hw, List.dropWhile_cons_of_neg (by simp [hc])]

end

/-- A text of digits, of which there is at least one. -/
structure IsDigits (t : Text) : Prop where
  ne_nil : t ≠ []
  isDigit : ∀ c ∈ t, c.isDigit = true

theorem isDigits_ofNat (n : Nat) : IsDigits (Text.ofNat n) :=
  ⟨Text.ofNat_ne_nil n, fun _ => Text.isDigit_of_mem_ofNat⟩

namespace IsDigits

variable {t : Text} {c : Char}

theorem ne_of_mem (ht : IsDigits t) (h : c ∈ t) {d : Char} (hd : d.isDigit = false) : c ≠ d := by
  rintro rfl
  exact absurd (hd.symm.trans (ht.isDigit c h)) Bool.false_ne_true

/-- A text with another character in it is a different one. -/
theorem ne (ht : IsDigits t) {u : Text} (hc : c ∈ u) (hother : c.isDigit = false) : t ≠ u := by
  rintro rfl
  exact ht.ne_of_mem hc hother rfl

/-- Nothing else stands behind some of the digits. -/
theorem after?_drop (ht : IsDigits t) (n : Nat) (hc : c.isDigit = false) :
    after? c (t.drop n) = none := by
  rcases hdrop : t.drop n with _ | ⟨d, rest⟩
  · rfl
  · have hd : d ∈ t := List.mem_of_mem_drop (hdrop ▸ List.mem_cons_self)
    exact if_neg (ht.ne_of_mem hd hc)

theorem drop_of_field? {n least greatest value : Nat} {rest : Text}
    (h : field? n least greatest t = some (value, rest)) : rest = t.drop n := by
  unfold field? at h
  dsimp only at h
  split at h
  · split at h
    · exact (Prod.mk.inj (Option.some.inj h)).2.symm
    · exact absurd h (by simp)
  · exact absurd h (by simp)

/-- Digits alone are no date: a date has a dash in it. -/
theorem date?_eq_none (ht : IsDigits t) : date? t = none := by
  refine Option.bind_eq_none_iff.mpr ?_
  rintro ⟨year, rest⟩ hyear
  obtain rfl := drop_of_field? hyear
  dsimp only
  rw [ht.after?_drop 4 (by decide)]
  rfl

theorem time?_eq_none (ht : IsDigits t) : time? t = none := by
  refine Option.bind_eq_none_iff.mpr ?_
  rintro ⟨hour, rest⟩ hhour
  obtain rfl := drop_of_field? hhour
  dsimp only
  rw [ht.after?_drop 2 (by decide)]
  rfl

theorem isMoment_eq_false (ht : IsDigits t) : isMoment t = false := by
  unfold isMoment
  rw [ht.date?_eq_none, ht.time?_eq_none]
  rfl

theorem sign_eq (ht : IsDigits t) : sign t = (false, t) := by
  unfold sign
  split
  · exact absurd rfl (ht.ne_of_mem List.mem_cons_self (by decide))
  · exact absurd rfl (ht.ne_of_mem List.mem_cons_self (by decide))
  · rfl

theorem isFloat_eq_false (ht : IsDigits t) : isFloat t = false := by
  have hinf : t ≠ ['i', 'n', 'f'] := ht.ne (c := 'i') (by decide) (by decide)
  have hnan : t ≠ ['n', 'a', 'n'] := ht.ne (c := 'n') (by decide) (by decide)
  have hdrop : t.dropWhile (fun c => !(c = '.' || c = 'e' || c = 'E')) = [] := by
    refine List.dropWhile_eq_nil_iff.mpr fun c hc => ?_
    simp [ht.ne_of_mem hc (by decide : '.'.isDigit = false),
      ht.ne_of_mem hc (by decide : 'e'.isDigit = false),
      ht.ne_of_mem hc (by decide : 'E'.isDigit = false)]
  unfold isFloat
  rw [ht.sign_eq]
  dsimp only
  rw [if_neg (not_or.mpr ⟨hinf, hnan⟩), hdrop]

/-- Digits without underscores are taken as they are. -/
theorem ungroup?_eq (ht : IsDigits t) : ungroup? Char.isDigit t = some t := by
  obtain ⟨hne, hdigit⟩ := ht
  induction t with
  | nil => exact absurd rfl hne
  | cons c rest ih =>
    have hc := hdigit c List.mem_cons_self
    cases rest with
    | nil => simp [ungroup?, hc]
    | cons d more =>
      have hd := hdigit d (List.mem_cons_of_mem c List.mem_cons_self)
      have hrest := ih (List.cons_ne_nil d more) fun e he => hdigit e (List.mem_cons_of_mem c he)
      -- no underscore stands between two digits
      have hnot : d ≠ '_' := by
        rintro rfl
        exact absurd hd (by decide)
      rw [ungroup?, if_pos hc, hrest]
      · rfl
      · intros
        contradiction

/-- Digits stand for the same number in base ten as in base sixteen. -/
theorem hexDigit?_of_isDigit (h : c.isDigit = true) :
    Color.hexDigit? c = some (c.toNat - '0'.toNat) := by
  have hrange : 48 ≤ c.val ∧ c.val ≤ 57 := by simpa [Char.isDigit] using h
  exact if_pos hrange

theorem ofDigits_eq (ht : IsDigits t) : ofDigits 10 t = Nat.ofDigitChars 10 t 0 := by
  have hfold (ds : Text) (hds : ∀ c ∈ ds, c.isDigit = true) (n : Nat) :
      ds.foldl (fun n c => 10 * n + (Color.hexDigit? c).getD 0) n
        = ds.foldl (fun n c => 10 * n + (c.toNat - '0'.toNat)) n := by
    induction ds generalizing n with
    | nil => rfl
    | cons c ds ih =>
      rw [List.foldl_cons, List.foldl_cons, hexDigit?_of_isDigit (hds c List.mem_cons_self)]
      exact ih (fun d hd => hds d (List.mem_cons_of_mem c hd)) _
  exact hfold t ht.isDigit 0

end IsDigits

/-- A number does not begin with a needless zero. -/
theorem wholeDigits?_ofNat (n : Nat) : wholeDigits? (Text.ofNat n) = some (Text.ofNat n) := by
  have hwhole : (Text.ofNat n).length = 1 ∨ (Text.ofNat n).head? ≠ some '0' := by
    rcases Nat.eq_zero_or_pos n with rfl | hn
    · exact .inl rfl
    · exact .inr (Text.head?_ofNat hn)
  unfold wholeDigits?
  rw [(isDigits_ofNat n).ungroup?_eq]
  simpa using hwhole

/-- A number is read again if 64 bits hold it with its sign. -/
theorem integer?_ofNat {n : Nat} (h : n < 0x8000000000000000) :
    integer? (Text.ofNat n) = some n := by
  have hdigits := isDigits_ofNat n
  have hnot {d : Char} {rest : Text} (hd : d.isDigit = false) : Text.ofNat n ≠ '0' :: d :: rest :=
    hdigits.ne (List.mem_cons_of_mem '0' List.mem_cons_self) hd
  -- digits have no prefix that names another base
  unfold integer?
  dsimp only
  split
  · rename_i heq
    exact absurd heq (hnot (by decide))
  · rename_i heq
    exact absurd heq (hnot (by decide))
  · rename_i heq
    exact absurd heq (hnot (by decide))
  · rw [hdigits.sign_eq]
    dsimp only
    rw [wholeDigits?_ofNat, Option.bind_some, if_neg Bool.false_ne_true, hdigits.ofDigits_eq,
      Text.ofDigitChars_ofNat]
    exact if_pos ⟨by omega, by omega⟩

/-- What ends a word in a written document. -/
def IsEnd (c : Char) : Prop := c = ' ' ∨ c = '\n'

/-- A word goes as far as a character that ends it. -/
theorem word_append {w : Text} {c : Char} (rest : Text) (hw : ∀ d ∈ w, isWordChar d = true)
    (hdate : date? w ≠ some []) (hc : IsEnd c) : word (w ++ c :: rest) = (w, c :: rest) := by
  have hstop : isWordChar c = false := by
    rcases hc with rfl | rfl
    · decide
    · decide
  unfold word
  rw [takeWhile_append_stop hw hstop, dropWhile_append_stop hw hstop]
  rcases hc with rfl | rfl
  · -- behind a date, a space could be followed by the time of day
    simp [hdate]
  · rfl

/-- A number that is not too large is read back. -/
theorem scalar?_ofNat {n : Nat} (h : n < 0x8000000000000000) :
    scalar? (Text.ofNat n) = some (.integer n) := by
  have hdigits := isDigits_ofNat n
  have htrue : Text.ofNat n ≠ ['t', 'r', 'u', 'e'] :=
    hdigits.ne (c := 't') (by decide) (by decide)
  have hfalse : Text.ofNat n ≠ ['f', 'a', 'l', 's', 'e'] :=
    hdigits.ne (c := 'f') (by decide) (by decide)
  unfold scalar?
  rw [if_neg htrue, if_neg hfalse,
    if_neg (by simp [hdigits.isMoment_eq_false]), if_neg (by simp [hdigits.isFloat_eq_false]),
    integer?_ofNat h]
  rfl

/-! ### Values -/

theorem value?_quoted (fuel depth : Nat) (t : Text) :
    value? (fuel + 1) depth ('"' :: t) = (string? ('"' :: t)).map fun (s, t) => (.string s, t) := by
  rw [value?]

/-- Where no quote and no bracket stands, a word is read. -/
theorem value?_word {c : Char} (hc : isWordChar c = true) (fuel depth : Nat) (t : Text) :
    value? (fuel + 1) depth (c :: t)
      = (scalar? (word (c :: t)).1).map fun v => (v, (word (c :: t)).2) := by
  rw [value?]
  all_goals
    rintro rest heq
    obtain ⟨rfl, rfl⟩ := List.cons.inj heq
    exact absurd hc (by decide)

/-- What a written value is read as wherever it stands; `none` is an error. -/
structure Spells (written : Text) (result : Option Value) : Prop where
  head : ∃ c rest, written = c :: rest ∧ isBlank c = false
  read : ∀ fuel depth c rest, IsEnd c →
    value? (fuel + 1) depth (written ++ c :: rest) = result.map fun v => (v, c :: rest)

/-- A quoted text spells itself, or nothing if it has forbidden characters. -/
theorem spells_quote (t : Text) :
    Spells (quote t) (if t.all isPlain then some (.string t) else none) where
  head := ⟨'"', _, rfl, by decide⟩
  read fuel depth c rest hc := by
    have hend : (c :: rest).head? ≠ some '"' := by
      rcases hc with rfl | rfl
      · exact fun h => absurd (Option.some.inj h) (by decide)
      · exact fun h => absurd (Option.some.inj h) (by decide)
    rw [quote_append, value?_quoted, ← quote_append, string?_quote t hend]
    split <;> rfl

/-- A word spells what it is read as. -/
theorem spells_word {w : Text} (hne : w ≠ []) (hall : w.all isWordChar = true)
    (hdate : date? w ≠ some []) : Spells w (scalar? w) := by
  obtain ⟨d, rest, rfl⟩ := List.exists_cons_of_ne_nil hne
  have hw := List.all_eq_true.mp hall
  have hd := hw d List.mem_cons_self
  refine ⟨⟨d, rest, rfl, ?_⟩, fun fuel depth c more hc => ?_⟩
  · cases hblank : isBlank d with
    | false => rfl
    | true =>
      rcases (by simpa [isBlank] using hblank : d = ' ' ∨ d = '\t') with rfl | rfl
      · exact absurd hd (by decide)
      · exact absurd hd (by decide)
  · have hword := word_append more hw hdate hc
    rw [List.cons_append] at hword ⊢
    rw [value?_word hd, hword]

theorem spells_ofNat {n : Nat} (h : n < 0x8000000000000000) :
    Spells (Text.ofNat n) (some (.integer n)) := by
  rw [← scalar?_ofNat h]
  have hdigits := isDigits_ofNat n
  refine spells_word hdigits.ne_nil (List.all_eq_true.mpr fun d hd => ?_)
    (by simp [hdigits.date?_eq_none])
  simp [isWordChar, Char.isAlphanum, hdigits.isDigit d hd]

theorem spells_ofBool (b : Bool) : Spells (ofBool b) (some (.boolean b)) := by
  cases b with
  | true => exact spells_word (by decide) (by decide) (by decide)
  | false => exact spells_word (by decide) (by decide) (by decide)

/-! ### Lines -/

/-- A key without quotes. -/
structure IsBareKey (k : Text) : Prop where
  ne_nil : k ≠ []
  all : k.all isKeyChar = true

/-- Reading goes on behind the line, with what it adds to the statements; `none` is an error. -/
def Line.Reads (line : Line) (result : Option (List Statement)) : Prop :=
  ∀ fuel rest, statements? (fuel + 1) (line.text ++ '\n' :: rest)
    = result.bind fun added => (statements? fuel rest).map (added ++ ·)

/-- What may stand behind a value: nothing, or a comment after blanks. -/
inductive IsRemark : Text → Prop where
  | nothing : IsRemark []
  | comment (blanks t : Text) (hblanks : blanks.all isBlank = true) (ht : t.all isPlain = true) :
    IsRemark (' ' :: blanks ++ '#' :: t)

theorem skipBlanks_of_not_isBlank {c : Char} (h : isBlank c = false) (t : Text) :
    skipBlanks (c :: t) = c :: t :=
  List.dropWhile_cons_of_neg (by simp [h])

theorem endOfLine?_comment {t : Text} (ht : t.all isPlain = true) (rest : Text) :
    endOfLine? ('#' :: (t ++ '\n' :: rest)) = some rest := by
  have hdrop : (t ++ '\n' :: rest).dropWhile isPlain = '\n' :: rest :=
    dropWhile_append_stop (List.all_eq_true.mp ht) (by decide) rest
  unfold endOfLine?
  rw [skipBlanks_of_not_isBlank (by decide)]
  show (if ((t ++ '\n' :: rest).dropWhile isPlain).isEmpty then some []
    else afterNewline? ((t ++ '\n' :: rest).dropWhile isPlain)) = some rest
  rw [hdrop]
  rfl

/-- A remark goes as far as the end of its line. -/
theorem endOfLine?_of_isRemark {remark : Text} (h : IsRemark remark) (rest : Text) :
    endOfLine? (remark ++ '\n' :: rest) = some rest := by
  cases h with
  | nothing => rfl
  | comment blanks t hblanks ht =>
    have hskip : skipBlanks (' ' :: (blanks ++ '#' :: (t ++ '\n' :: rest)))
        = skipBlanks ('#' :: (t ++ '\n' :: rest)) := by
      unfold skipBlanks
      rw [List.dropWhile_cons_of_pos (by decide),
        List.dropWhile_append_of_pos (List.all_eq_true.mp hblanks)]
    have hcomment := endOfLine?_comment ht rest
    unfold endOfLine? at hcomment ⊢
    rw [← hcomment, ← hskip]
    simp

/-- A line without a statement is passed over. -/
theorem statements?_of_endOfLine? {c : Char} {t rest : Text} (hblank : isBlank c = false)
    (hline : endOfLine? (c :: t) = some rest) (fuel : Nat) :
    statements? (fuel + 1) (c :: t) = statements? fuel rest := by
  rw [statements?]
  dsimp only
  rw [skipBlanks_of_not_isBlank hblank, if_neg (by simp), hline]

/-- A line with a statement gives it, or nothing is read at all. -/
theorem statements?_of_statement {c : Char} {t : Text} (hblank : isBlank c = false)
    (hline : endOfLine? (c :: t) = none) (fuel : Nat) :
    statements? (fuel + 1) (c :: t)
      = (statement? (c :: t)).bind fun (s, rest) => (statements? fuel rest).map (s :: ·) := by
  rw [statements?]
  dsimp only
  rw [skipBlanks_of_not_isBlank hblank, if_neg (by simp), hline]

theorem reads_blank : Line.Reads .blank (some []) := by
  intro fuel rest
  have hline : endOfLine? ('\n' :: rest) = some rest := rfl
  simpa [Line.text] using statements?_of_endOfLine? (by decide) hline fuel

theorem reads_comment {t : Text} (ht : t.all isPlain = true) :
    Line.Reads (.comment t) (some []) := by
  intro fuel rest
  have hall : (' ' :: t).all isPlain = true := ht
  have hline := statements?_of_endOfLine? (by decide) (endOfLine?_comment hall rest) fuel
  simpa [Line.text] using hline

/-! ### Headers and pairs -/

namespace IsBareKey

variable {k : Text} {c d : Char}

theorem ne_of_mem (hk : IsBareKey k) (h : c ∈ k) (hd : isKeyChar d = false) : c ≠ d := by
  rintro rfl
  exact absurd (hd.symm.trans (List.all_eq_true.mp hk.all c h)) Bool.false_ne_true

/-- The key is all that stands before a character that is none of a key. -/
theorem key?_append (hk : IsBareKey k) (hc : isKeyChar c = false) (rest : Text) :
    key? (k ++ c :: rest) = some (k, c :: rest) := by
  have htake : (k ++ c :: rest).takeWhile isKeyChar = k :=
    takeWhile_append_stop (List.all_eq_true.mp hk.all) hc rest
  have hdrop : (k ++ c :: rest).dropWhile isKeyChar = c :: rest :=
    dropWhile_append_stop (List.all_eq_true.mp hk.all) hc rest
  have hempty : k.isEmpty = false := by simpa using hk.ne_nil
  obtain ⟨d, more, rfl⟩ := List.exists_cons_of_ne_nil hk.ne_nil
  unfold key?
  -- a bare key begins with neither kind of quote
  split
  · rename_i heq
    exact absurd (List.cons.inj heq).1 (hk.ne_of_mem List.mem_cons_self (by decide))
  · rename_i heq
    exact absurd (List.cons.inj heq).1 (hk.ne_of_mem List.mem_cons_self (by decide))
  · dsimp only
    rw [htake, hdrop, hempty]
    rfl

theorem isBlank_eq_false (hk : IsBareKey k) (h : c ∈ k) : isBlank c = false := by
  simp [isBlank, hk.ne_of_mem h (by decide : isKeyChar ' ' = false),
    hk.ne_of_mem h (by decide : isKeyChar '\t' = false)]

/-- A bare key is a path of one name, if no dot follows. -/
theorem keyPath?_append (hk : IsBareKey k) (hc : isKeyChar c = false) (rest : Text)
    (hnext : ∀ more, skipBlanks (c :: rest) ≠ '.' :: more) :
    keyPath? (k ++ c :: rest) = some ([k], skipBlanks (c :: rest)) := by
  have hskip : skipBlanks (k ++ c :: rest) = k ++ c :: rest := by
    obtain ⟨d, more, rfl⟩ := List.exists_cons_of_ne_nil hk.ne_nil
    exact skipBlanks_of_not_isBlank (hk.isBlank_eq_false List.mem_cons_self) _
  show keys? (78 + 1) (k ++ c :: rest) = _
  rw [keys?, hskip, hk.key?_append hc, Option.bind_some]
  dsimp only
  split
  · rename_i more heq
    exact absurd heq (hnext more)
  · rfl

end IsBareKey

/-- A line that begins with anything else does not end there. -/
theorem endOfLine?_eq_none {c : Char} (hblank : isBlank c = false) (hcomment : c ≠ '#')
    (hnewline : c ≠ '\n') (hreturn : c ≠ '\r') (t : Text) : endOfLine? (c :: t) = none := by
  have hafter : afterNewline? (c :: t) = none := by
    unfold afterNewline?
    split
    · rename_i heq
      exact absurd (List.cons.inj heq).1 hnewline
    · rename_i heq
      exact absurd (List.cons.inj heq).1 hreturn
    · rfl
  -- no blank is skipped, no comment begins and no line ends
  unfold endOfLine?
  rw [skipBlanks_of_not_isBlank hblank]
  dsimp only
  split
  · rename_i heq
    exact absurd (List.cons.inj heq).1 hcomment
  · rw [if_neg (by simp), hafter]

/-- The line of a header opens the table of that name. -/
theorem reads_header {name : Text} (hname : IsBareKey name) :
    Line.Reads (.header name) (some [.table [name]]) := by
  intro fuel rest
  have hpath : keyPath? (name ++ ']' :: '\n' :: rest) = some ([name], ']' :: '\n' :: rest) :=
    hname.keyPath?_append (by decide) _ fun more => by
      rw [skipBlanks_of_not_isBlank (by decide)]
      exact fun heq => absurd (List.cons.inj heq).1 (by decide)
  have hstatement : statement? ('[' :: (name ++ ']' :: '\n' :: rest))
      = some (.table [name], rest) := by
    -- a second bracket would be one of the name, and a name has none
    unfold statement?
    split
    · rename_i heq
      obtain ⟨c, more, rfl⟩ := List.exists_cons_of_ne_nil hname.ne_nil
      have hc : c = '[' := (List.cons.inj (List.cons.inj heq).2).1
      exact absurd hc (hname.ne_of_mem List.mem_cons_self (by decide))
    · rename_i heq
      obtain rfl := (List.cons.inj heq).2
      rw [hpath]
      rfl
    · rename_i hnot
      exact absurd rfl (hnot _)
  have hline := endOfLine?_eq_none (c := '[') (by decide) (by decide) (by decide) (by decide)
    (name ++ ']' :: '\n' :: rest)
  have hread := statements?_of_statement (by decide) hline fuel
  rw [hstatement] at hread
  simpa [Line.text] using hread

/-- A value ends where its remark or the line does. -/
theorem IsRemark.exists_cons {remark : Text} (h : IsRemark remark) (rest : Text) :
    ∃ c more, remark ++ '\n' :: rest = c :: more ∧ IsEnd c := by
  cases h with
  | nothing => exact ⟨'\n', rest, rfl, .inr rfl⟩
  | comment => exact ⟨' ', _, rfl, .inl rfl⟩

theorem skipBlanks_value {value : Text} {result : Option Value} (h : Spells value result)
    (rest : Text) : skipBlanks (' ' :: (value ++ rest)) = value ++ rest := by
  obtain ⟨c, more, rfl, hblank⟩ := h.head
  have hskip := skipBlanks_of_not_isBlank hblank (more ++ rest)
  unfold skipBlanks at hskip ⊢
  rw [List.dropWhile_cons_of_pos (by decide)]
  exact hskip

/-- A key, an equals sign, a value and a remark are read as a pair. -/
theorem statement?_pair {key value remark : Text} {result : Option Value} (hkey : IsBareKey key)
    (hvalue : Spells value result) (hremark : IsRemark remark) (rest : Text) :
    statement? (key ++ ' ' :: '=' :: ' ' :: (value ++ (remark ++ '\n' :: rest)))
      = result.map fun v => (.pair [] key v, rest) := by
  obtain ⟨d, after, htail, hend⟩ := hremark.exists_cons rest
  have hpath := hkey.keyPath?_append (c := ' ') (by decide)
    ('=' :: ' ' :: (value ++ (remark ++ '\n' :: rest))) fun more heq =>
      absurd (List.cons.inj heq).1 (by decide)
  have hskip := skipBlanks_value hvalue (remark ++ '\n' :: rest)
  have hline := endOfLine?_of_isRemark hremark rest
  obtain ⟨c, more, rfl⟩ := List.exists_cons_of_ne_nil hkey.ne_nil
  have hopen : c ≠ '[' := hkey.ne_of_mem List.mem_cons_self (by decide)
  -- a key does not begin with a bracket, so this is no header
  unfold statement?
  split
  · rename_i heq
    exact absurd (List.cons.inj heq).1 hopen
  · rename_i heq
    exact absurd (List.cons.inj heq).1 hopen
  · rw [hpath]
    show (value? _ nestingLimit (skipBlanks (' ' :: (value ++ (remark ++ '\n' :: rest))))).bind _ = _
    rw [hskip, htail, hvalue.read _ _ d after hend, ← htail]
    cases result with
    | none => rfl
    | some v =>
      show (endOfLine? (remark ++ '\n' :: rest)).map _ = _
      rw [hline]
      rfl

theorem reads_pair {key value remark : Text} {result : Option Value} (hkey : IsBareKey key)
    (hvalue : Spells value result) (hremark : IsRemark remark) :
    Line.Reads (.pair key value remark) (result.map fun v => [.pair [] key v]) := by
  intro fuel rest
  have hstatement := statement?_pair hkey hvalue hremark rest
  obtain ⟨c, more, rfl⟩ := List.exists_cons_of_ne_nil hkey.ne_nil
  have hne {d : Char} (hd : isKeyChar d = false) : c ≠ d := hkey.ne_of_mem List.mem_cons_self hd
  have hblank := hkey.isBlank_eq_false List.mem_cons_self
  have hline := endOfLine?_eq_none hblank (hne (by decide)) (hne (by decide)) (hne (by decide))
    (more ++ ' ' :: '=' :: ' ' :: (value ++ (remark ++ '\n' :: rest)))
  have hread := statements?_of_statement hblank hline fuel
  rw [← List.cons_append, hstatement] at hread
  have htext : (Line.pair (c :: more) value remark).text ++ '\n' :: rest
      = c :: more ++ ' ' :: '=' :: ' ' :: (value ++ (remark ++ '\n' :: rest)) := by
    simp [Line.text]
  -- the statement is read, so the line is, with what follows it
  rw [htext, hread]
  cases result <;> simp

/-! ### Documents -/

/-- The statements of all lines, if there is no error. -/
def collect : List (Option (List Statement)) → Option (List Statement)
  | [] => some []
  | result :: results => result.bind fun added => (collect results).map (added ++ ·)

theorem print_cons (line : Line) (lines : List Line) :
    print (line :: lines) = line.text ++ '\n' :: print lines := by
  simp [print]

/-- The run: a printed document is read line by line. -/
theorem statements?_print {lines : List Line} {results : List (Option (List Statement))}
    (h : List.Forall₂ Line.Reads lines results) {fuel : Nat} (hfuel : lines.length < fuel) :
    statements? fuel (print lines) = collect results := by
  induction h generalizing fuel with
  | nil =>
    obtain ⟨fuel, rfl⟩ := Nat.exists_eq_add_one_of_ne_zero (Nat.ne_of_gt hfuel)
    rfl
  | @cons line result lines results hline _ ih =>
    obtain ⟨fuel, rfl⟩ := Nat.exists_eq_add_one_of_ne_zero (Nat.ne_of_gt (Nat.zero_lt_of_lt hfuel))
    rw [print_cons, hline, ih (Nat.lt_of_succ_lt_succ hfuel)]
    rfl

theorem length_le_length_print (lines : List Line) : lines.length ≤ (print lines).length := by
  induction lines with
  | nil => exact Nat.zero_le _
  | cons line lines ih =>
    rw [print_cons, List.length_append, List.length_cons, List.length_cons]
    omega

/-- **A written document is read line by line.**  A comment stands at its beginning. -/
theorem read?_print {t : Text} {lines : List Line} {results : List (Option (List Statement))}
    (h : List.Forall₂ Line.Reads (.comment t :: lines) results) :
    read? (print (.comment t :: lines))
      = (collect results).bind fun statements =>
          (statements.foldlM Builder.step? {}).map (·.root) := by
  have hstatements := statements?_print h (Nat.lt_succ_of_le (length_le_length_print _))
  rw [← hstatements]
  rfl

end AgentConsole.Toml
