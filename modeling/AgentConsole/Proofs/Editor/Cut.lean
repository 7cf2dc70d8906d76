import AgentConsole.Editor.Rows
import AgentConsole.Proofs.Editor.Change

/-!
# Where an editor cuts a line

While a line is wrapped only lengths and columns are kept.  They are those of three texts: the rows
that are finished, what the open row has up to its last space, and the word behind that
(`Row.Wrapping.Reads`).

A row is ended in two ways.  At its last space it takes the spaces along, and these may hang over
the edge; what counts is that the row fits without them.  A word is cut only where nothing stands
before it.  Both need a character to be in the row already, so one that is wider than the room still
gets a row, which is as wide as that character then (`Row.Fits`).
-/

namespace AgentConsole

namespace Text

@[simp] theorem columns_nil : columns [] = 0 := rfl

@[simp] theorem columns_cons (c : Char) (t : Text) : columns (c :: t) = Unicode.columns c + columns t :=
  rfl

@[simp] theorem columns_append (s t : Text) : columns (s ++ t) = columns s + columns t := by
  induction s with
  | nil => exact (Nat.zero_add _).symm
  | cons c s ih => rw [List.cons_append, columns_cons, columns_cons, ih, Nat.add_assoc]

theorem columns_dropEndWhile_le (p : Char → Bool) (t : Text) :
    columns (t.dropEndWhile p) ≤ columns t := by
  obtain ⟨rest, hrest⟩ := dropEndWhile_prefix p t
  calc columns (t.dropEndWhile p)
      ≤ columns (t.dropEndWhile p ++ rest) := by
        rw [columns_append]
        exact Nat.le_add_right _ _
    _ = columns t := by rw [hrest]

/-- The columns of the first character. -/
def leading : Text → Nat
  | [] => 0
  | c :: _ => Unicode.columns c

end Text

namespace Editor.Row

open Text

/-! ### Rows that fit -/

/-- Has a row room without the spaces at its end, or no more columns than its first character? -/
def Fits (room : Nat) (t : Text) : Prop := columns (t.dropEndWhile (· = ' ')) ≤ max room (leading t)

theorem fits_nil (room : Nat) : Fits room [] := Nat.zero_le _

theorem fits_of_columns_le {room : Nat} {t : Text} (h : columns t ≤ room) : Fits room t :=
  Nat.le_trans (columns_dropEndWhile_le _ t) (Nat.le_trans h (Nat.le_max_left _ _))

theorem fits_one (room : Nat) (c : Char) : Fits room [c] :=
  Nat.le_trans (columns_dropEndWhile_le _ [c]) (Nat.le_max_right _ _)

/-- A space at the end does not matter. -/
theorem Fits.space {room : Nat} {t : Text} (h : Fits room t) : Fits room (t ++ [' ']) := by
  unfold Fits
  rw [dropEndWhile_concat, if_pos (by decide)]
  cases t with
  | nil => exact Nat.zero_le _
  | cons c t => exact h

/-- A row that another one of its line can follow. -/
structure IsBroken (room : Nat) (t : Text) : Prop where
  ne_nil : t ≠ []
  fits : Fits room t
  atSpace : t.getLast? = some ' ' ∨ ' ' ∉ t

/-! ### One character -/

namespace Wrapping

/-- What a line is cut to so far: the finished rows, the open one up to its last space, and the word
behind that. -/
structure Reads (room : Nat) (s : Wrapping) (parts : List Text) (front word : Text) : Prop where
  done : s.done = (parts.map List.length).reverse
  head : s.head = if front = [] then none else some front.length
  word_length : s.word = word.length
  wordColumns : s.wordColumns = Text.columns word
  columns : s.columns = Text.columns (front ++ word)
  broken : ∀ part ∈ parts, IsBroken room part
  front_fits : Fits room front
  fits : Fits room (front ++ word)
  front_end : front = [] ∨ front.getLast? = some ' '
  word_space : ' ' ∉ word
  word_columns : front ≠ [] → Text.columns word ≤ room
  parts_nil : front ++ word = [] → parts = []

/-- At the start nothing has been read. -/
theorem reads_start (room : Nat) : ({} : Wrapping).Reads room [] [] [] where
  done := rfl
  head := rfl
  word_length := rfl
  wordColumns := rfl
  columns := rfl
  broken := fun _ hpart => absurd hpart List.not_mem_nil
  front_fits := fits_nil room
  fits := fits_nil room
  front_end := .inl rfl
  word_space := List.not_mem_nil
  word_columns := fun h => absurd rfl h
  parts_nil := fun _ => rfl

variable {room : Nat} {s : Wrapping} {parts : List Text} {front word : Text} {c : Char}

/-- A new row begins with a word, or with what goes over to it of one, and the next character. -/
theorem reads_opened (word : Text) (hbroken : ∀ part ∈ parts, IsBroken room part) (hword : ' ' ∉ word)
    (hc : c ≠ ' ') (hroom : word = [] ∨ Text.columns word + Unicode.columns c ≤ room) :
    (add { done := (parts.map List.length).reverse, word := word.length,
           wordColumns := Text.columns word, columns := Text.columns word }
      (Unicode.columns c)).Reads room parts [] (word ++ [c]) where
  done := rfl
  head := rfl
  word_length := by simp [add]
  wordColumns := by simp [add]
  columns := by simp [add]
  broken := hbroken
  front_fits := fits_nil room
  -- the word has been checked against the room, or one character stands alone
  fits := by
    rcases hroom with rfl | hroom
    · exact fits_one room c
    · exact fits_of_columns_le (by simpa using hroom)
  front_end := .inl rfl
  word_space := by simpa using ⟨hword, Ne.symm hc⟩
  word_columns := fun h => absurd rfl h
  parts_nil := fun h => absurd h (by simp)

namespace Reads

variable (h : s.Reads room parts front word)
include h

/-- The characters of the open row are counted. -/
theorem length_eq : s.length = (front ++ word).length := by
  unfold length
  rw [h.head, h.word_length, List.length_append]
  split
  · rename_i hfront
    rw [hfront]
    rfl
  · rfl

/-- A space ends the word. -/
theorem space : (s.step room ' ').Reads room parts (front ++ word ++ [' ']) [] := by
  have hstep : s.step room ' ' = { s with
      head := some (s.length + 1), word := 0, wordColumns := 0, columns := s.columns + 1 } := rfl
  rw [hstep]
  exact {
    done := h.done
    head := by simp [h.length_eq, Nat.add_assoc]
    word_length := rfl
    wordColumns := rfl
    columns := by simp [h.columns, Nat.add_assoc]
    broken := h.broken
    front_fits := h.fits.space
    fits := by simpa using h.fits.space
    -- the open row can be broken behind this space
    front_end := .inr (by simp)
    word_space := List.not_mem_nil
    word_columns := fun _ => Nat.zero_le room
    parts_nil := fun hnil => absurd hnil (by simp) }

/-- A character that has room, or begins the row, is added to the word. -/
theorem added (hc : c ≠ ' ')
    (hroom : front ++ word = [] ∨ Text.columns (front ++ word) + Unicode.columns c ≤ room) :
    (s.add (Unicode.columns c)).Reads room parts front (word ++ [c]) where
  done := h.done
  head := h.head
  word_length := by simp [add, h.word_length]
  wordColumns := by simp [add, h.wordColumns]
  columns := by simp [add, h.columns, Nat.add_assoc]
  broken := h.broken
  front_fits := h.front_fits
  fits := by
    rcases hroom with hnil | hroom
    · obtain ⟨rfl, rfl⟩ := List.append_eq_nil_iff.mp hnil
      exact fits_one room c
    · refine fits_of_columns_le ?_
      rw [← List.append_assoc, columns_append]
      simpa using hroom
  front_end := h.front_end
  word_space := by simpa using ⟨h.word_space, Ne.symm hc⟩
  -- a word behind a space has been checked for room already
  word_columns := by
    intro hfront
    rcases hroom with hnil | hroom
    · exact absurd (List.append_eq_nil_iff.mp hnil).1 hfront
    · rw [columns_append] at hroom ⊢
      simp only [columns_cons, columns_nil]
      omega
  parts_nil := fun hnil => absurd hnil (by simp)

/-- What is left of a row that is broken at its last space. -/
theorem broken_front (hfront : front ≠ []) : IsBroken room front :=
  ⟨hfront, h.front_fits, .inl (h.front_end.resolve_left hfront)⟩

/-- A word that is cut, since nothing stands before it or all of that is in the row before. -/
theorem broken_word (hword : word ≠ []) : IsBroken room word := by
  refine ⟨hword, ?_, .inr h.word_space⟩
  by_cases hfront : front = []
  · have hfits := h.fits
    rwa [hfront] at hfits
  · exact fits_of_columns_le (h.word_columns hfront)

/-- One more character is read, and none is lost. -/
theorem step (c : Char) : ∃ parts' front' word', (s.step room c).Reads room parts' front' word'
    ∧ parts'.flatten ++ front' ++ word' = parts.flatten ++ front ++ word ++ [c] := by
  by_cases hc : c = ' '
  · subst hc
    exact ⟨parts, _, [], h.space, by simp⟩
  · have hlength := h.length_eq
    have hadd (more : List Text) (hmore : ∀ part ∈ more, IsBroken room part) :
        ∀ part ∈ parts ++ more, IsBroken room part := fun part hpart =>
      (List.mem_append.mp hpart).elim (h.broken part) (hmore part)
    unfold Wrapping.step
    dsimp only
    rw [if_neg hc]
    split
    · rename_i hfull
      by_cases hfront : front = []
      · -- the word is all there is, and is cut
        subst hfront
        have hword : word ≠ [] := by
          rintro rfl
          exact absurd hfull.2 (by simp [hlength])
        have hreads := reads_opened [] (hadd [word] (by simpa using h.broken_word hword))
          List.not_mem_nil hc (.inl rfl)
        refine ⟨parts ++ [word], [], [c], ?_, by simp⟩
        simpa [h.head, h.done, hlength] using hreads
      · have hhead : s.head = some front.length := by rw [h.head, if_neg hfront]
        rw [hhead]
        dsimp only
        split
        · -- the word does not fit in a row of its own either
          rename_i hlong
          have hword : word ≠ [] := by
            rintro rfl
            exact absurd hlong.2 (by simp [h.word_length])
          have hboth : ∀ part ∈ [front, word], IsBroken room part := by
            simpa using ⟨h.broken_front hfront, h.broken_word hword⟩
          have hreads := reads_opened [] (hadd [front, word] hboth) List.not_mem_nil hc (.inl rfl)
          refine ⟨parts ++ [front, word], [], [c], ?_, by simp⟩
          simpa [h.done, h.word_length] using hreads
        · -- the word goes to the next row
          rename_i hshort
          have hroom : word = [] ∨ Text.columns word + Unicode.columns c ≤ room := by
            rw [h.wordColumns, h.word_length, not_and_or, List.length_pos_iff] at hshort
            rcases hshort with hshort | hshort
            · exact .inr (by omega)
            · exact .inl (by simpa using hshort)
          have hreads := reads_opened word
            (hadd [front] (by simpa using h.broken_front hfront)) h.word_space hc hroom
          refine ⟨parts ++ [front], [], word ++ [c], ?_, by simp⟩
          simpa [h.done, h.word_length, h.wordColumns] using hreads
    · rename_i hfree
      have hroom : front ++ word = [] ∨ Text.columns (front ++ word) + Unicode.columns c ≤ room := by
        rw [h.columns, hlength, not_and_or, List.length_pos_iff] at hfree
        rcases hfree with hfree | hfree
        · exact .inr (by omega)
        · exact .inl (by simpa using hfree)
      exact ⟨parts, front, word ++ [c], h.added hc hroom, by simp⟩

/-! ### All of a line -/

theorem foldl (line : Text) : ∃ parts' front' word',
    (line.foldl (Wrapping.step room) s).Reads room parts' front' word'
      ∧ parts'.flatten ++ front' ++ word' = parts.flatten ++ front ++ word ++ line := by
  induction line generalizing s parts front word with
  | nil => exact ⟨parts, front, word, h, (List.append_nil _).symm⟩
  | cons c line ih =>
    obtain ⟨parts₁, front₁, word₁, hstep, htext₁⟩ := h.step c
    obtain ⟨parts₂, front₂, word₂, hrun, htext₂⟩ := ih hstep
    refine ⟨parts₂, front₂, word₂, hrun, ?_⟩
    rw [htext₂, htext₁, List.append_assoc, List.singleton_append]

end Reads

end Wrapping

/-- How a line is cut: the rows that another one follows are broken, all fit, and only an empty line
has an empty row. -/
structure IsCut (room : Nat) (line : Text) (parts : List Text) : Prop where
  ne_nil : parts ≠ []
  flatten : parts.flatten = line
  broken : ∀ part ∈ parts.dropLast, IsBroken room part
  fits : ∀ part ∈ parts, Fits room part
  of_nil : line = [] → parts = [[]]
  of_ne_nil : line ≠ [] → ∀ part ∈ parts, part ≠ []

/-- The lengths of the rows of a line are those of its parts. -/
theorem exists_isCut (room : Nat) (line : Text) :
    ∃ parts, IsCut room line parts ∧ lengths room line = parts.map List.length := by
  obtain ⟨parts, front, word, hreads, htext⟩ := (Wrapping.reads_start room).foldl line
  have hline : parts.flatten ++ (front ++ word) = line := by
    rw [← List.append_assoc, htext]
    rfl
  have hempty (hnil : front ++ word = []) : line = [] := by
    rw [← hline, hnil, hreads.parts_nil hnil]
    rfl
  -- the open row is the last one
  refine ⟨parts ++ [front ++ word], ⟨by simp, by simpa using hline, ?_, ?_, ?_, ?_⟩, ?_⟩
  · rw [List.dropLast_concat]
    exact hreads.broken
  · intro part hpart
    rcases List.mem_append.mp hpart with hpart | hpart
    · exact (hreads.broken part hpart).fits
    · rw [List.mem_singleton.mp hpart]
      exact hreads.fits
  · intro hnil
    obtain ⟨-, hopen⟩ := List.append_eq_nil_iff.mp (hline.trans hnil)
    rw [hopen, hreads.parts_nil hopen]
    rfl
  · intro hne part hpart
    rcases List.mem_append.mp hpart with hpart | hpart
    · exact (hreads.broken part hpart).ne_nil
    · rw [List.mem_singleton.mp hpart]
      exact fun hnil => hne (hempty hnil)
  · unfold lengths
    dsimp only
    rw [hreads.length_eq, hreads.done]
    simp

end Editor.Row

end AgentConsole
