import AgentConsole.CommonMark.Entity
import AgentConsole.Proofs.Text.Inert

/-!
# What references name

A character reference is a body on one line, ended by a semicolon, and whatever
follows it does not matter (`exists_body`).  So the references of a text are those
of its parts, as long as the parts are rows or end between two references
(`NamesOnly.piece`, `NamesOnly.append_newline`).

A text is *tame* if it is inert and its references name inert characters only.
Resolving the references of a tame text leaves it inert (`IsTame.unescape`).
-/

namespace AgentConsole.CommonMark

open Unicode

namespace Entity

/-- Do the references in the text name characters of `K` only? -/
def NamesOnly (K : Char → Prop) (t : Text) : Prop :=
  ∀ r value n, '&' :: r <:+: t → read? r = some (value, n) → ∀ c ∈ value, K c

/-! ### The body of a reference -/

/-- What a scan took from the start of a text, and the character after it. -/
theorem exists_rest {taken t : Text} (ht : taken <+: t) {c : Char}
    (h : t[taken.length]? = some c) : ∃ rest, t = taken ++ c :: rest := by
  obtain ⟨rest, rfl⟩ := ht
  rcases rest with - | ⟨d, rest⟩
  · simp at h
  · obtain rfl : d = c := by simpa using h
    exact ⟨rest, rfl⟩

/-- A scan that stopped at a character stops there whatever follows. -/
theorem takeWhile_take_append {p : Char → Bool} {taken : Text} (htaken : ∀ c ∈ taken, p c)
    {limit : Nat} (hlimit : taken.length ≤ limit) {c : Char} (hc : p c = false) (rest : Text) :
    ((taken ++ c :: rest).take limit).takeWhile p = taken := by
  rw [List.take_append, List.take_of_length_le hlimit, List.takeWhile_append_of_pos htaken]
  rcases limit - taken.length with - | k <;> simp [hc]

/-- The reference by number that a text begins with, after `skipped` characters. -/
def numeric (base skipped limit : Nat) (t : Text) : Option (Text × Nat) :=
  if (number base t limit).2 ≠ 0 ∧ t[(number base t limit).2]? = some ';' then
    some ([character (number base t limit).1], skipped + (number base t limit).2 + 1)
  else none

/-- The reference by name that a text begins with. -/
def byName (t : Text) : Option (Text × Nat) :=
  let name := t.takeWhile Char.isAlphanum
  if t[name.length]? = some ';' then (named? name).map (·, name.length + 1) else none

theorem read?_hash {t : Text} (hx : t.head? ≠ some 'x') (hX : t.head? ≠ some 'X') :
    read? ('#' :: t) = numeric 10 1 7 t := by
  rcases t with - | ⟨c, t⟩
  · rfl
  · have hcx : c ≠ 'x' := fun heq => hx (by rw [heq]; rfl)
    have hcX : c ≠ 'X' := fun heq => hX (by rw [heq]; rfl)
    simp [read?, numeric, hcx, hcX]

theorem read?_of_head_ne {t : Text} (h : t.head? ≠ some '#') : read? t = byName t := by
  unfold read?
  split
  · exact absurd rfl h
  · rfl

/-- References come by number in hexadecimal or decimal digits, and by name. -/
theorem read?_cases (r : Text) :
    (∃ t, (r = '#' :: 'x' :: t ∨ r = '#' :: 'X' :: t) ∧ read? r = numeric 16 2 6 t) ∨
    (∃ t, r = '#' :: t ∧ read? r = numeric 10 1 7 t) ∨
    (r.head? ≠ some '#' ∧ read? r = byName r) := by
  by_cases hhash : r.head? = some '#'
  · obtain ⟨t, rfl⟩ := List.head?_eq_some_iff.mp hhash
    by_cases hx : t.head? = some 'x'
    · obtain ⟨t, rfl⟩ := List.head?_eq_some_iff.mp hx
      exact .inl ⟨t, .inl rfl, rfl⟩
    by_cases hX : t.head? = some 'X'
    · obtain ⟨t, rfl⟩ := List.head?_eq_some_iff.mp hX
      exact .inl ⟨t, .inr rfl, rfl⟩
    exact .inr (.inl ⟨t, rfl, read?_hash hx hX⟩)
  · exact .inr (.inr ⟨hhash, read?_of_head_ne hhash⟩)

/-- A reference by number: digits, and a semicolon after which anything may follow. -/
theorem exists_digits {base skipped limit : Nat} {t value : Text} {n : Nat}
    (hend : (digit? base ';').isSome = false)
    (h : numeric base skipped limit t = some (value, n)) :
    ∃ digits rest, t = digits ++ ';' :: rest ∧ (∀ c ∈ digits, (digit? base c).isSome) ∧
      digits ≠ [] ∧ ∀ rest, numeric base skipped limit (digits ++ ';' :: rest) = some (value, n) := by
  unfold numeric at h
  split at h
  · rename_i hread
    obtain ⟨hcount, hsemicolon⟩ := hread
    have hprefix := (List.takeWhile_prefix fun c => (digit? base c).isSome).trans
      (List.take_prefix limit t)
    obtain ⟨rest, hrest⟩ := exists_rest hprefix hsemicolon
    generalize htaken : (t.take limit).takeWhile (fun c => (digit? base c).isSome) = digits at hrest
    have hdigits : ∀ c ∈ digits, (digit? base c).isSome := by
      intro c hc
      rw [← htaken] at hc
      exact List.all_eq_true.mp List.all_takeWhile c hc
    have hlimit : digits.length ≤ limit := by
      rw [← htaken]
      exact Nat.le_trans (List.takeWhile_prefix _).length_le (List.length_take_le _ _)
    -- the number depends on the digits alone
    have hnumber (rest : Text) : number base (digits ++ ';' :: rest) limit = number base t limit := by
      unfold number
      rw [takeWhile_take_append hdigits hlimit hend, htaken]
    have hlength : (number base t limit).2 = digits.length := by
      unfold number
      rw [htaken]
    refine ⟨digits, rest, hrest, hdigits, ?_, ?_⟩
    · rintro rfl
      exact hcount hlength
    · intro rest
      unfold numeric
      rw [hnumber, if_pos ⟨hcount, by simp [hlength]⟩]
      exact h
  · cases h

/-- A reference by name: the name, and a semicolon after which anything may follow. -/
theorem exists_name {t value : Text} {n : Nat} (h : byName t = some (value, n)) :
    ∃ name rest, t = name ++ ';' :: rest ∧ (∀ c ∈ name, c.isAlphanum) ∧
      named? name = some value ∧ ∀ rest, byName (name ++ ';' :: rest) = some (value, n) := by
  unfold byName at h
  dsimp only at h
  split at h
  · rename_i hsemicolon
    obtain ⟨rest, hrest⟩ := exists_rest (List.takeWhile_prefix _) hsemicolon
    -- the name is all that is alphanumeric, so it is found again in front of any other text
    generalize htaken : t.takeWhile Char.isAlphanum = name at h hrest
    have hname : ∀ c ∈ name, c.isAlphanum := by
      intro c hc
      rw [← htaken] at hc
      exact List.all_eq_true.mp List.all_takeWhile c hc
    obtain ⟨v, hv, heq⟩ := Option.map_eq_some_iff.mp h
    obtain ⟨rfl, rfl⟩ := Prod.mk.inj heq
    refine ⟨name, rest, hrest, hname, hv, ?_⟩
    intro rest
    have hagain : (name ++ ';' :: rest).takeWhile Char.isAlphanum = name := by
      rw [List.takeWhile_append_of_pos hname]
      simp [show ';'.isAlphanum = false by decide]
    unfold byName
    rw [hagain]
    simp [hv]
  · cases h

/-- **A reference is a body on one line and a semicolon.**  What comes after them has
no part in what it names. -/
theorem exists_body {r value : Text} {n : Nat} (h : read? r = some (value, n)) :
    ∃ body rest, r = body ++ ';' :: rest ∧ '\n' ∉ body ∧
      ∀ rest, read? (body ++ ';' :: rest) = some (value, n) := by
  have hdigits (base : Nat) (hbase : (digit? base '\n').isSome = false) {digits : Text}
      (h : ∀ c ∈ digits, (digit? base c).isSome) : '\n' ∉ digits := by
    intro hmem
    rw [h '\n' hmem] at hbase
    cases hbase
  rcases read?_cases r with ⟨t, hr, hread⟩ | ⟨t, rfl, hread⟩ | ⟨hhash, hread⟩
  · rw [hread] at h
    obtain ⟨digits, rest, rfl, hall, -, hagain⟩ := exists_digits (by decide) h
    have hline := hdigits 16 (by decide) hall
    rcases hr with rfl | rfl
    · exact ⟨'#' :: 'x' :: digits, rest, rfl, by simp [hline], hagain⟩
    · exact ⟨'#' :: 'X' :: digits, rest, rfl, by simp [hline], hagain⟩
  · rw [hread] at h
    obtain ⟨digits, rest, rfl, hall, hne, hagain⟩ := exists_digits (by decide) h
    -- a decimal digit, so the reference cannot pass for a hexadecimal one
    obtain ⟨d, more, rfl⟩ := List.exists_cons_of_ne_nil hne
    have hd := hall d List.mem_cons_self
    have hx : d ≠ 'x' := by rintro rfl; revert hd; decide
    have hX : d ≠ 'X' := by rintro rfl; revert hd; decide
    refine ⟨'#' :: d :: more, rest, rfl, by simpa using hdigits 10 (by decide) hall, ?_⟩
    intro rest
    exact (read?_hash (by simpa using hx) (by simpa using hX)).trans (hagain rest)
  · rw [hread] at h
    obtain ⟨name, rest, rfl, hall, -, hagain⟩ := exists_name h
    refine ⟨name, rest, rfl, ?_, ?_⟩
    · intro hmem
      exact absurd (hall '\n' hmem) (by decide)
    · intro rest
      have hhead : (name ++ ';' :: rest).head? ≠ some '#' := by
        cases name
        · simp
        · simpa using hhash
      exact (read?_of_head_ne hhead).trans (hagain rest)

/-! ### What references name -/

/-- Splitting a text invents no characters. -/
theorem mem_of_mem_splitOn {sep : Char} {t piece : Text} (h : piece ∈ t.splitOn sep) {c : Char}
    (hc : c ∈ piece) : c ∈ t := by
  induction t generalizing piece with
  | nil => simp_all
  | cons d t ih =>
    rw [List.splitOn_cons_eq_if_modifyHead] at h
    split at h
    · rcases List.mem_cons.mp h with rfl | h
      · simp at hc
      · exact List.mem_cons_of_mem _ (ih h hc)
    · -- `d` goes to the front of the first piece
      rcases hpieces : t.splitOn sep with - | ⟨first, more⟩
      · exact absurd hpieces (List.splitOn_ne_nil sep t)
      · rw [hpieces, List.modifyHead_cons] at h
        rcases List.mem_cons.mp h with rfl | h
        · rcases List.mem_cons.mp hc with rfl | hc
          · exact List.mem_cons_self
          · exact List.mem_cons_of_mem _ (ih (hpieces ▸ List.mem_cons_self) hc)
        · exact List.mem_cons_of_mem _ (ih (hpieces ▸ List.mem_cons_of_mem _ h) hc)

/-- The value of an entry is one of the words that the table is written in. -/
theorem mem_of_mem_pairs {words : List Text} {entry : Text × Text} (h : entry ∈ pairs words) :
    entry.2 ∈ words := by
  fun_induction pairs words with
  | case1 name value rest ih =>
    rcases List.mem_cons.mp h with rfl | h
    · simp
    · exact List.mem_cons_of_mem _ (List.mem_cons_of_mem _ (ih h))
  | case2 => simp at h

/-- What a name stands for is written in the table. -/
theorem exists_row {name value : Text} (h : named? name = some value) :
    ∃ row ∈ rows, ∀ c ∈ value, c ∈ row.toList := by
  obtain ⟨before, after, heq, -⟩ := List.lookup_eq_some_iff.mp h
  have hentry : (name, value) ∈ table := by
    rw [heq]
    simp
  obtain ⟨row, hrow, hpair⟩ := List.mem_flatMap.mp hentry
  exact ⟨row, hrow, fun c hc => mem_of_mem_splitOn (mem_of_mem_pairs hpair) hc⟩

/-- No row of the table has a NUL in it, which numbers have to avoid by a rule of their own. -/
theorem nul_notMem_rows : ∀ row ∈ rows, '\x00' ∉ row.toList := by
  unfold rows
  -- row by row, since a literal alone matches `Text.notMem_literal`
  repeat refine List.forall_mem_cons.mpr ⟨Text.notMem_literal (by decide +kernel), ?_⟩
  exact fun _ h => absurd h List.not_mem_nil

/-- No reference names the character zero. -/
theorem nul_notMem {r value : Text} {n : Nat} (h : read? r = some (value, n)) :
    '\x00' ∉ value := by
  have hcharacter (k : Nat) : character k ≠ '\x00' := by
    unfold character
    split
    · rename_i hk
      intro heq
      have := congrArg Char.toNat heq
      rw [Char.ofNat, dif_pos hk.1] at this
      exact hk.2 this
    · decide
  have hnumeric {base skipped limit : Nat} {t : Text}
      (h : numeric base skipped limit t = some (value, n)) : '\x00' ∉ value := by
    unfold numeric at h
    split at h
    · obtain ⟨rfl, -⟩ := Prod.mk.inj (Option.some.inj h)
      simpa using (hcharacter _).symm
    · cases h
  -- a number of either base, or a name of the table
  rcases read?_cases r with ⟨t, -, hread⟩ | ⟨t, -, hread⟩ | ⟨-, hread⟩
  · exact hnumeric (hread ▸ h)
  · exact hnumeric (hread ▸ h)
  · obtain ⟨name, -, -, -, hnamed, -⟩ := exists_name (hread ▸ h)
    obtain ⟨row, hrow, hvalue⟩ := exists_row hnamed
    exact fun hmem => nul_notMem_rows row hrow (hvalue _ hmem)

/-! ### References of the parts of a text -/

theorem NamesOnly.piece {K : Char → Prop} {s t : Text} (h : NamesOnly K t) (hs : s <:+: t) :
    NamesOnly K s := fun r value n hr hread => h r value n (hr.trans hs) hread

/-- No reference reaches across a newline, so two texts can be put together with one. -/
theorem NamesOnly.append_newline {K : Char → Prop} {a b : Text} (ha : NamesOnly K a)
    (hb : NamesOnly K b) : NamesOnly K (a ++ '\n' :: b) := by
  intro r value n hr hread
  obtain ⟨body, rest, rfl, hline, hagain⟩ := exists_body hread
  -- the reference up to its semicolon has no newline, so it lies on one side of this one
  have hpiece : '&' :: body ++ [';'] <:+: a ++ '\n' :: b := by
    refine List.IsInfix.trans ?_ hr
    exact ⟨[], rest, by simp⟩
  rcases Text.infix_append_newline (by simpa using hline) hpiece with hin | hin
  · exact ha (body ++ [';']) value n hin (hagain [])
  · exact hb (body ++ [';']) value n hin (hagain [])

theorem namesOnly_nil {K : Char → Prop} : NamesOnly K [] := by
  intro r value n hr
  simp at hr

/-- Hence rows can be put together. -/
theorem namesOnly_ofRows {K : Char → Prop} {rs : List Text} (h : ∀ row ∈ rs, NamesOnly K row) :
    NamesOnly K (Text.ofRows rs) := by
  induction rs with
  | nil => exact namesOnly_nil
  | cons row below ih =>
    have hrow := h row List.mem_cons_self
    rcases below with - | ⟨next, more⟩
    · exact hrow
    · exact hrow.append_newline (ih fun r hr => h r (List.mem_cons_of_mem _ hr))

/-- If `K` has no controls but newlines and the character zero, which no reference
names, then only inert characters are named. -/
theorem NamesOnly.inert {K : Char → Prop} {t : Text} (h : NamesOnly K t)
    (hK : ∀ c, K c → isControl c → c = '\n' ∨ c = '\x00') : NamesOnly IsInert t := by
  intro r value n hr hread c hc hcontrol
  rcases hK c (h r value n hr hread c hc) hcontrol with heq | rfl
  · exact heq
  · exact absurd hc (nul_notMem hread)

end Entity

/-! ### Tame texts -/

/-- An inert text that stays inert once its references are resolved. -/
structure IsTame (t : Text) : Prop where
  inert : t.IsInert
  names : Entity.NamesOnly IsInert t

namespace IsTame

theorem nil : IsTame [] := ⟨Text.IsInert.nil, Entity.namesOnly_nil⟩

theorem piece {s t : Text} (h : IsTame t) (hs : s <:+: t) : IsTame s :=
  ⟨h.inert.subset hs.subset, h.names.piece hs⟩

theorem front {s t : Text} (h : IsTame t) (hs : s <+: t) : IsTame s := h.piece hs.isInfix

theorem suffix {s t : Text} (h : IsTame t) (hs : s <:+ t) : IsTame s := h.piece hs.isInfix

theorem take {t : Text} (h : IsTame t) (n : Nat) : IsTame (t.take n) :=
  h.front (List.take_prefix n t)

theorem drop {t : Text} (h : IsTame t) (n : Nat) : IsTame (t.drop n) :=
  h.suffix (List.drop_suffix n t)

theorem tail {c : Char} {t : Text} (h : IsTame (c :: t)) : IsTame t :=
  h.suffix (List.suffix_cons c t)

theorem dropWhile {t : Text} (h : IsTame t) (p : Char → Bool) : IsTame (t.dropWhile p) :=
  h.suffix (List.dropWhile_suffix p)

theorem dropEndWhile {t : Text} (h : IsTame t) (p : Char → Bool) :
    IsTame (t.dropEndWhile p) := by
  refine h.front ?_
  have hsuffix : t.reverse.dropWhile p <:+ t.reverse := List.dropWhile_suffix p
  simpa [Text.dropEndWhile] using List.reverse_prefix.mpr hsuffix

/-- Tame rows are tame together. -/
theorem ofRows {rs : List Text} (h : ∀ row ∈ rs, IsTame row) : IsTame (Text.ofRows rs) := by
  refine ⟨?_, Entity.namesOnly_ofRows fun row hrow => (h row hrow).names⟩
  intro c hc
  rcases Text.mem_ofRows hc with rfl | ⟨row, hrow, hc⟩
  · decide
  · exact (h row hrow).inert c hc

/-- A backslash gives back the character behind it, and a reference what it names, which is inert in
a tame text. -/
theorem unescapeFrom {t : Text} (h : IsTame t) (skip : Nat) :
    (CommonMark.unescapeFrom skip t).IsInert := by
  -- characters that were read with the one before are skipped
  induction t generalizing skip with
  | nil => exact Text.IsInert.nil
  | cons c rest ih =>
    have hself : Unicode.IsInert c := h.inert c List.mem_cons_self
    have hrest := ih h.tail
    rcases skip with - | n
    · unfold CommonMark.unescapeFrom
      dsimp only
      by_cases hslash : c = '\\'
      · rw [if_pos hslash]
        split
        · rename_i d hd
          have hnext : Unicode.IsInert d :=
            h.inert d (List.mem_cons_of_mem _ (List.mem_of_head? hd))
          split
          · exact (hrest 1).cons hnext
          · exact (hrest 0).cons hself
        · exact Text.IsInert.nil.cons hself
      · rw [if_neg hslash]
        by_cases hamp : c = '&'
        · -- what the reference names is inert, and is not looked at again
          rw [if_pos hamp]
          split
          · rename_i value n hread
            have hvalue : Text.IsInert value :=
              h.names rest value n (hamp ▸ List.infix_rfl) hread
            exact hvalue.append (hrest n)
          · exact (hrest 0).cons hself
        · rw [if_neg hamp]
          exact (hrest 0).cons hself
    · exact hrest n

/-- Resolving the escapes and references of a tame text leaves it inert. -/
theorem unescape {t : Text} (h : IsTame t) : (CommonMark.unescape t).IsInert := h.unescapeFrom 0

end IsTame

end AgentConsole.CommonMark
