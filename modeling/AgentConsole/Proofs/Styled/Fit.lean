import AgentConsole.Proofs.Styled.Solid
import AgentConsole.Styled.Fit

/-!
# Rows of an exact width

What the fitting of solid texts comes to.  `cut_cases` says what a cut does: it leaves
the row as it is, or it keeps the tokens up to the first glyph that does not fit, and a
reset if a style was in force there.  From it follow the widths (`rowWidth_fit`) and that
every operation gives solid texts back; `rows_rectangle` is the exact block of `height`
rows of `width` columns that every frame ends in.
-/

namespace AgentConsole.Styled

/-! ### Spaces and resets -/

theorem esc_notMem_spaces (n : Nat) : esc ∉ Text.spaces n := fun h =>
  absurd (Text.mem_spaces h) (by decide)

theorem solid_spaces (n : Nat) : Solid (Text.spaces n) := solid_of_notMem (esc_notMem_spaces n)

theorem columnsOf_spaces (n : Nat) : columnsOf ((Text.spaces n).map .glyph) = n := by
  induction n with
  | zero => rfl
  | succ n ih =>
    calc columnsOf ((Text.spaces (n + 1)).map .glyph)
        = 1 + columnsOf ((Text.spaces n).map .glyph) := by
          simp [Text.spaces, List.replicate_succ, Token.width]
      _ = n + 1 := by rw [ih]; omega

@[simp] theorem rowWidth_spaces (n : Nat) : rowWidth (Text.spaces n) = n := by
  rw [rowWidth_eq, tokens_of_notMem (esc_notMem_spaces n), columnsOf_spaces]

theorem isSolid_reset : (Token.escape reset).IsSolid :=
  ⟨by decide, rfl, by rintro s ⟨rfl⟩; decide⟩

theorem solid_closing (styled : Bool) : Solid (closing styled) := by
  cases styled
  · exact Solid.nil
  · have hone : Solid (sources [.escape reset]) := solid_sources (by simpa using isSolid_reset)
    exact hone

@[simp] theorem rowWidth_closing (styled : Bool) : rowWidth (closing styled) = 0 := by
  cases styled <;> decide

theorem newline_notMem_closing (styled : Bool) : '\n' ∉ closing styled := by
  cases styled <;> decide

/-! ### Cutting -/

/-- Is a style in force after these tokens? -/
def styledOver (styled : Bool) (ts : List Token) : Bool :=
  ts.foldl
    (fun styled k =>
      match k with
      | .escape s => styledAfter styled s
      | .glyph _ => styled)
    styled

/-- A cut keeps the tokens `us` up to the first glyph that does not fit. -/
theorem cutTokens_spec (styled : Bool) (room : Nat) (ts : List Token) :
    ∃ us vs, ts = us ++ vs ∧ columnsOf us ≤ room
      ∧ cutTokens styled room ts
          = (sources us ++ (if vs = [] then [] else closing (styledOver styled us)), columnsOf us)
      ∧ ∀ k ∈ vs.head?, room < columnsOf us + k.width := by
  induction ts generalizing styled room with
  | nil => exact ⟨[], [], rfl, by simp, rfl, by simp⟩
  | cons k ts ih =>
    cases k with
    | escape s =>
      obtain ⟨us, vs, rfl, hroom, hcut, hnext⟩ := ih (styledAfter styled s) room
      refine ⟨.escape s :: us, vs, rfl, by simpa [Token.width] using hroom, ?_, ?_⟩
      · simp [cutTokens, hcut, sources, Token.source, Token.width, styledOver]
      · simpa [Token.width] using hnext
    | glyph c =>
      -- the first glyph that does not fit ends what is kept
      by_cases hc : Unicode.columns c ≤ room
      · obtain ⟨us, vs, rfl, hroom, hcut, hnext⟩ := ih styled (room - Unicode.columns c)
        refine ⟨.glyph c :: us, vs, rfl, ?_, ?_, ?_⟩
        · simp [Token.width]
          omega
        · simp [cutTokens, hc, hcut, sources, Token.source, Token.width, styledOver]
        · intro k hk
          have hk : room - Unicode.columns c < columnsOf us + k.width := hnext k hk
          show room < Unicode.columns c + columnsOf us + k.width
          omega
      · refine ⟨[], .glyph c :: ts, rfl, by simp, ?_, ?_⟩
        · simp [cutTokens, hc, sources, styledOver]
        · simpa [Token.width] using hc

/-- A row that fits is kept as it is. -/
theorem cut_of_le {row : Text} {room : Nat} (h : rowWidth row ≤ room) :
    cut row room = (row, rowWidth row) := by
  obtain ⟨us, vs, hts, -, hcut, hnext⟩ := cutTokens_spec false room (tokens row)
  rcases vs with - | ⟨k, vs⟩
  · rw [List.append_nil] at hts
    unfold cut
    rw [hcut, if_pos rfl, List.append_nil, ← hts, sources_tokens]
    rfl
  · -- a token that does not fit would make the row wider
    have hwider : room < columnsOf us + k.width := hnext k rfl
    have hall : rowWidth row = columnsOf us + (k.width + columnsOf vs) := by
      rw [rowWidth_eq, hts, columnsOf_append, columnsOf_cons]
    omega

/-- **What a cut does.**  A row that fits is kept as it is.  Of any other row it keeps what stands before
the first glyph that does not fit, and closes it. -/
theorem cut_cases (row : Text) (room : Nat) :
    (rowWidth row ≤ room ∧ cut row room = (row, rowWidth row))
      ∨ ∃ us c vs, tokens row = us ++ .glyph c :: vs
        ∧ columnsOf us ≤ room ∧ room < columnsOf us + Unicode.columns c
        ∧ cut row room = (sources us ++ closing (styledOver false us), columnsOf us) := by
  by_cases hfits : rowWidth row ≤ room
  · exact .inl ⟨hfits, cut_of_le hfits⟩
  · refine .inr ?_
    obtain ⟨us, vs, hts, hroom, hcut, hnext⟩ := cutTokens_spec false room (tokens row)
    rcases vs with - | ⟨k, vs⟩
    · -- all tokens together do not fit
      rw [List.append_nil] at hts
      rw [← hts] at hroom
      exact absurd hroom hfits
    · have hwider : room < columnsOf us + k.width := hnext k rfl
      cases k with
      | escape e => exact absurd hwider (Nat.not_lt_of_le hroom)
      | glyph c => exact ⟨us, c, vs, hts, hroom, hwider, hcut⟩

theorem rowWidth_closed {us : List Token} (h : ∀ k ∈ us, k.IsSolid) (styled : Bool) :
    rowWidth (sources us ++ closing styled) = columnsOf us := by
  rw [rowWidth_append (settled_sources h), rowWidth_closing, rowWidth_eq, tokens_sources h]
  rfl

/-- The width that a cut tells is that of the row it gives, if no glyph follows a sequence that is not
solid. -/
theorem rowWidth_cut_of_split {row : Text} {room : Nat}
    (h : ∀ us c vs, tokens row = us ++ .glyph c :: vs → ∀ k ∈ us, k.IsSolid) :
    rowWidth (cut row room).1 = (cut row room).2 ∧ (cut row room).2 ≤ room := by
  obtain ⟨hfits, hcut⟩ | ⟨us, c, vs, hts, hroom, -, hcut⟩ := cut_cases row room
  · rw [hcut]
    exact ⟨rfl, hfits⟩
  · rw [hcut]
    exact ⟨rowWidth_closed (h us c vs hts) _, hroom⟩

theorem rowWidth_cut {row : Text} (hrow : '\n' ∉ row) (room : Nat) :
    rowWidth (cut row room).1 = (cut row room).2 ∧ (cut row room).2 ≤ room :=
  rowWidth_cut_of_split fun _ _ _ hts =>
    forall_isSolid_of_split hrow hts (.inl (List.cons_ne_nil _ _))

/-- What a cut keeps of a solid text, and how wide it is. -/
theorem Solid.cut {row : Text} (h : Solid row) (room : Nat) :
    Solid (Styled.cut row room).1 ∧ rowWidth (Styled.cut row room).1 = (Styled.cut row room).2
      ∧ (Styled.cut row room).2 ≤ room := by
  have hsplit : ∀ us c vs, tokens row = us ++ .glyph c :: vs → ∀ k ∈ us, k.IsSolid := by
    intro us c vs hts k hk
    exact h k (by simp [hts, hk])
  refine ⟨?_, rowWidth_cut_of_split hsplit⟩
  obtain ⟨-, hcut⟩ | ⟨us, c, vs, hts, -, -, hcut⟩ := cut_cases row room
  · rw [hcut]
    exact h
  · rw [hcut]
    exact (solid_sources (hsplit us c vs hts)).append (solid_closing _)

theorem newline_notMem_cut {row : Text} (h : '\n' ∉ row) (room : Nat) :
    '\n' ∉ (Styled.cut row room).1 := by
  obtain ⟨-, hcut⟩ | ⟨us, c, vs, hts, -, -, hcut⟩ := cut_cases row room
  · rw [hcut]
    exact h
  · have hrow : row = sources us ++ sources (.glyph c :: vs) := by
      rw [← sources_tokens row, hts]
      simp [sources]
    rw [hcut]
    intro hmem
    rcases List.mem_append.mp hmem with hmem | hmem
    · exact h (hrow ▸ List.mem_append_left _ hmem)
    · exact newline_notMem_closing _ hmem

/-! ### Padding and fitting -/

theorem Solid.pad {row : Text} (h : Solid row) (room : Nat) : Solid (Styled.pad row room) :=
  h.append (solid_spaces _)

theorem rowWidth_pad {row : Text} (h : Solid row) (room : Nat) :
    rowWidth (pad row room) = max (rowWidth row) room := by
  rw [pad, rowWidth_append h.settled, rowWidth_spaces]
  omega

theorem Solid.fit {row : Text} (h : Solid row) (room : Nat) : Solid (Styled.fit row room) :=
  (h.cut room).1.pad room

/-- A row that is fitted is exactly as wide as it is meant to be. -/
theorem rowWidth_fit {row : Text} (h : Solid row) (room : Nat) : rowWidth (fit row room) = room := by
  obtain ⟨hsolid, hwidth, hroom⟩ := h.cut room
  rw [fit, rowWidth_pad hsolid, hwidth]
  omega

/-- The width of a single row is that of its widest row. -/
theorem width_of_notMem {row : Text} (h : '\n' ∉ row) : width row = rowWidth row := by
  unfold width
  rw [Text.rows_of_notMem h]
  exact Nat.zero_max _

theorem newline_notMem_fit {row : Text} (h : '\n' ∉ row) (room : Nat) : '\n' ∉ fit row room := by
  intro hmem
  rcases List.mem_append.mp hmem with hmem | hmem
  · exact newline_notMem_cut h room hmem
  · exact absurd (Text.mem_spaces hmem) (by decide)

theorem Solid.firstRow {t : Text} (h : Solid t) : Solid t.firstRow := by
  obtain ⟨below, hrows⟩ := Text.rows_eq_firstRow t
  exact h.rows _ (by simp [hrows])

theorem Solid.truncate {t : Text} (h : Solid t) (room : Nat) : Solid (Styled.truncate t room) := by
  unfold Styled.truncate
  split
  · exact h
  · split
    · exact (h.firstRow.cut _).1
    · exact (h.firstRow.cut _).1.append (solid_of_notMem (by decide))

/-! ### Blocks -/

theorem Solid.rectangle {t : Text} (h : Solid t) (width height : Nat) :
    Solid (Styled.rectangle t width height) := by
  refine solid_ofRows fun row hrow => ?_
  rcases List.mem_append.mp hrow with hrow | hrow
  · obtain ⟨r, hr, rfl⟩ := List.mem_map.mp hrow
    exact (h.rows r (List.mem_of_mem_take hr)).fit width
  · rw [List.eq_of_mem_replicate hrow]
    exact solid_spaces width

/-- The rows of a rectangle: those of the text that there is room for, and blank ones below. -/
theorem rectangle_rows (t : Text) (width : Nat) {height : Nat} (hh : 0 < height) :
    (rectangle t width height).rows = (t.rows.take height).map (fit · width)
      ++ List.replicate (height - min height t.rows.length) (Text.spaces width) := by
  have hkept : ((t.rows.take height).map (fit · width)).length = min height t.rows.length := by
    rw [List.length_map, List.length_take]
  unfold rectangle
  dsimp only
  rw [hkept]
  -- none of the rows has a newline in it, so they come back as they were put in
  refine Text.rows_ofRows (List.ne_nil_of_length_pos ?_) fun row hrow => ?_
  · rw [List.length_append, hkept, List.length_replicate]
    omega
  · rcases List.mem_append.mp hrow with hrow | hrow
    · obtain ⟨r, hr, rfl⟩ := List.mem_map.mp hrow
      have hr := Text.newline_notMem_of_mem_rows (List.mem_of_mem_take hr)
      exact newline_notMem_fit hr width
    · rw [List.eq_of_mem_replicate hrow]
      exact fun hmem => absurd (Text.mem_spaces hmem) (by decide)

/-- A rectangle is as high as asked for. -/
theorem length_rows_rectangle (t : Text) (width : Nat) {height : Nat} (hh : 0 < height) :
    (rectangle t width height).rows.length = height := by
  rw [rectangle_rows t width hh, List.length_append, List.length_map, List.length_take,
    List.length_replicate]
  omega

/-- A rectangle has exactly `height` rows, and each of them is exactly `width` columns wide. -/
theorem rows_rectangle {t : Text} (h : Solid t) (width : Nat) {height : Nat} (hh : 0 < height) :
    (rectangle t width height).rows.length = height
      ∧ ∀ row ∈ (rectangle t width height).rows, rowWidth row = width := by
  refine ⟨length_rows_rectangle t width hh, fun row hrow => ?_⟩
  rw [rectangle_rows t width hh] at hrow
  rcases List.mem_append.mp hrow with hrow | hrow
  · obtain ⟨r, hr, rfl⟩ := List.mem_map.mp hrow
    exact rowWidth_fit (h.rows r (List.mem_of_mem_take hr)) width
  · rw [List.eq_of_mem_replicate hrow]
    exact rowWidth_spaces width

theorem Solid.beside {blocks : List Text} (h : ∀ t ∈ blocks, Solid t) :
    Solid (Styled.beside blocks) := by
  refine solid_ofRows fun row hrow => ?_
  obtain ⟨i, -, rfl⟩ := List.mem_map.mp hrow
  rw [List.flatMap_def]
  refine Solid.flatten fun part hpart => ?_
  obtain ⟨rows, hrows, rfl⟩ := List.mem_map.mp hpart
  obtain ⟨t, ht, rfl⟩ := List.mem_map.mp hrows
  rcases hi : t.rows[i]? with - | r
  · exact Solid.nil
  · exact (h t ht).rows r (List.mem_of_getElem? hi)

end AgentConsole.Styled
