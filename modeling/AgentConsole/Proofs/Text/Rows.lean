import AgentConsole.Text.Basic

/-!
# Rows of a text

`Text.rows` splits a text at its newlines and `Text.ofRows` joins it again.  That
joining undoes splitting stands beside the definitions; here is the other
direction (`rows_ofRows`), which needs rows without newlines, and what rows are
made of when two texts are put side by side.
-/

namespace AgentConsole.Text

/-! ### Splitting -/

@[simp] theorem rows_nil : rows [] = [[]] := rfl

@[simp] theorem rows_newline (t : Text) : rows ('\n' :: t) = [] :: rows t := by
  simp [rows]

/-- A text has a first row and the rows below it. -/
theorem exists_rows (t : Text) : ∃ row below, rows t = row :: below := by
  rcases h : rows t with - | ⟨row, below⟩
  · exact absurd h (rows_ne_nil t)
  · exact ⟨row, below, rfl⟩

theorem rows_cons {c : Char} (hc : c ≠ '\n') {t row : Text} {below : List Text}
    (h : rows t = row :: below) : rows (c :: t) = (c :: row) :: below := by
  simp [rows, hc, h]

/-- What stands before the first newline goes to the first row. -/
theorem rows_append {s : Text} (hs : '\n' ∉ s) {t row : Text} {below : List Text}
    (h : rows t = row :: below) : rows (s ++ t) = (s ++ row) :: below := by
  induction s with
  | nil => exact h
  | cons c s ih =>
    simp only [List.mem_cons, not_or] at hs
    exact rows_cons (Ne.symm hs.1) (ih hs.2)

theorem rows_of_notMem {t : Text} (h : '\n' ∉ t) : rows t = [t] := by
  simpa using rows_append h rows_nil

/-- The rows of two texts with a newline between them. -/
theorem rows_append_newline (s t : Text) : rows (s ++ '\n' :: t) = rows s ++ rows t := by
  induction s with
  | nil => simp
  | cons c s ih =>
    by_cases hc : c = '\n'
    · subst hc
      simp [ih]
    · obtain ⟨row, below, h⟩ := exists_rows s
      have hst : rows (s ++ '\n' :: t) = row :: (below ++ rows t) := by rw [ih, h]; rfl
      rw [rows_cons hc h, List.cons_append, rows_cons hc hst]
      rfl

/-- A row holds no newline. -/
theorem newline_notMem_of_mem_rows {t row : Text} (h : row ∈ rows t) : '\n' ∉ row := by
  induction t generalizing row with
  | nil => simp_all
  | cons c t ih =>
    by_cases hc : c = '\n'
    · subst hc
      rcases List.mem_cons.mp (rows_newline t ▸ h) with rfl | h
      · simp
      · exact ih h
    · obtain ⟨first, below, ht⟩ := exists_rows t
      rcases List.mem_cons.mp (rows_cons hc ht ▸ h) with rfl | h
      · have hfirst : '\n' ∉ first := ih (by simp [ht])
        simpa [Ne.symm hc] using hfirst
      · exact ih (by simp [ht, h])

/-- A row is made of characters of the text. -/
theorem mem_of_mem_rows {t row : Text} (h : row ∈ rows t) {c : Char} (hc : c ∈ row) : c ∈ t := by
  induction t generalizing row with
  | nil => simp_all
  | cons d t ih =>
    by_cases hd : d = '\n'
    · subst hd
      rcases List.mem_cons.mp (rows_newline t ▸ h) with rfl | h
      · simp at hc
      · exact List.mem_cons_of_mem _ (ih h hc)
    · obtain ⟨first, below, ht⟩ := exists_rows t
      rcases List.mem_cons.mp (rows_cons hd ht ▸ h) with rfl | h
      · rcases List.mem_cons.mp hc with rfl | hc
        · exact List.mem_cons_self
        · have hfirst : first ∈ rows t := by simp [ht]
          exact List.mem_cons_of_mem _ (ih hfirst hc)
      · exact List.mem_cons_of_mem _ (ih (by simp [ht, h]) hc)

/-- The first row is what stands before the first newline. -/
theorem rows_eq_firstRow (t : Text) : ∃ below, rows t = firstRow t :: below := by
  induction t with
  | nil => exact ⟨[], rfl⟩
  | cons c t ih =>
    by_cases hc : c = '\n'
    · subst hc
      exact ⟨rows t, by simp [firstRow]⟩
    · obtain ⟨below, h⟩ := ih
      exact ⟨below, by rw [rows_cons hc h]; simp [firstRow, hc]⟩

/-- What begins before a newline and holds none ends before it too. -/
theorem prefix_of_prefix_append_newline {s a b : Text} (hs : '\n' ∉ s)
    (h : s <+: a ++ '\n' :: b) : s <+: a := by
  induction a generalizing s with
  | nil =>
    rcases s with - | ⟨c, s⟩
    · exact List.nil_prefix
    · obtain rfl := (List.cons_prefix_cons.mp h).1
      simp at hs
  | cons d a ih =>
    rcases s with - | ⟨c, s⟩
    · exact List.nil_prefix
    · obtain ⟨rfl, hrest⟩ := List.cons_prefix_cons.mp h
      simp only [List.mem_cons, not_or] at hs
      exact List.cons_prefix_cons.mpr ⟨rfl, ih hs.2 hrest⟩

/-- A piece without a newline lies on one side of it. -/
theorem infix_append_newline {s a b : Text} (hs : '\n' ∉ s) (h : s <:+: a ++ '\n' :: b) :
    s <:+: a ∨ s <:+: b := by
  induction a with
  | nil =>
    rcases List.infix_cons_iff.mp h with hfirst | hlater
    · exact .inl (prefix_of_prefix_append_newline hs hfirst).isInfix
    · exact .inr hlater
  | cons d a ih =>
    rcases List.infix_cons_iff.mp h with hfirst | hlater
    · exact .inl (prefix_of_prefix_append_newline hs hfirst).isInfix
    · rcases ih hlater with hin | hin
      · exact .inl (List.infix_cons hin)
      · exact .inr hin

/-! ### Joining -/

/-- Rows are put together with newlines between them. -/
theorem ofRows_cons (row : Text) {below : List Text} (h : below ≠ []) :
    ofRows (row :: below) = row ++ '\n' :: ofRows below := by
  rcases below with - | ⟨next, more⟩
  · exact absurd rfl h
  · rfl

/-- One more row at the end. -/
theorem ofRows_concat {rs : List Text} (h : rs ≠ []) (row : Text) :
    ofRows (rs ++ [row]) = ofRows rs ++ '\n' :: row := by
  induction rs with
  | nil => exact absurd rfl h
  | cons first below ih =>
    by_cases hbelow : below = []
    · subst hbelow
      rfl
    · rw [List.cons_append, ofRows_cons first (by simp), ofRows_cons first hbelow, ih hbelow,
        List.append_assoc, List.cons_append]

/-- Splitting undoes joining: the rows hold no newlines, and there is at least one. -/
theorem rows_ofRows {rs : List Text} (hne : rs ≠ []) (h : ∀ row ∈ rs, '\n' ∉ row) :
    rows (ofRows rs) = rs := by
  induction rs with
  | nil => exact absurd rfl hne
  | cons row below ih =>
    have hrow : '\n' ∉ row := h row List.mem_cons_self
    rcases below with - | ⟨next, more⟩
    · exact rows_of_notMem hrow
    · have hbelow := ih (by simp) fun r hr => h r (List.mem_cons_of_mem _ hr)
      rw [ofRows_cons row (by simp), rows_append_newline, hbelow, rows_of_notMem hrow]
      rfl

/-- A joined text is made of the characters of its rows, and newlines. -/
theorem mem_ofRows {rs : List Text} {c : Char} (h : c ∈ ofRows rs) :
    c = '\n' ∨ ∃ row ∈ rs, c ∈ row := by
  induction rs with
  | nil => simp [ofRows] at h
  | cons row below ih =>
    rcases below with - | ⟨next, more⟩
    · exact .inr ⟨row, by simp, h⟩
    · rw [ofRows_cons row (by simp)] at h
      rcases List.mem_append.mp h with h | h
      · exact .inr ⟨row, by simp, h⟩
      · rcases List.mem_cons.mp h with rfl | h
        · exact .inl rfl
        · rcases ih h with rfl | ⟨r, hr, hc⟩
          · exact .inl rfl
          · exact .inr ⟨r, List.mem_cons_of_mem _ hr, hc⟩

/-! ### Parts of a text -/

theorem mem_of_mem_dropEndWhile {p : Char → Bool} {t : Text} {c : Char}
    (h : c ∈ dropEndWhile p t) : c ∈ t := by
  have := (List.dropWhile_sublist p (l := t.reverse)).subset (List.mem_reverse.mp h)
  exact List.mem_reverse.mp this

/-- A line is made of characters of the text. -/
theorem mem_of_mem_lines {t line : Text} (h : line ∈ lines t) {c : Char} (hc : c ∈ line) : c ∈ t := by
  have hended : ∀ piece ∈ (if t.rows.getLast? = some [] then t.rows.dropLast else t.rows),
      piece ∈ t.rows := by
    intro piece hpiece
    split at hpiece
    · exact List.dropLast_subset _ hpiece
    · exact hpiece
  unfold lines at h
  dsimp only at h
  generalize (if t.rows.getLast? = some [] then t.rows.dropLast else t.rows) = ended at h hended
  obtain ⟨i, hi, rfl⟩ := List.mem_mapIdx.mp h
  have hpiece := hended _ (List.getElem_mem hi)
  -- a line is a row, or one that loses a character at its end
  split at hc
  · exact mem_of_mem_rows hpiece hc
  · split at hc
    · exact mem_of_mem_rows hpiece (List.dropLast_subset _ hc)
    · exact mem_of_mem_rows hpiece hc

theorem mem_spaces {n : Nat} {c : Char} (h : c ∈ spaces n) : c = ' ' :=
  List.eq_of_mem_replicate h

theorem mem_times {n : Nat} {t : Text} {c : Char} (h : c ∈ times n t) : c ∈ t := by
  obtain ⟨s, hs, hc⟩ := List.mem_flatten.mp h
  exact List.eq_of_mem_replicate hs ▸ hc

/-- A literal is the text of its characters. -/
theorem notMem_literal {c : Char} {t : Text} (h : c ∉ t) : c ∉ (String.ofList t).toList := by
  rwa [String.toList_ofList]

end AgentConsole.Text
