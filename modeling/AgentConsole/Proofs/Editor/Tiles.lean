import AgentConsole.Proofs.Editor.Cut
import AgentConsole.Proofs.Editor.Rows
import Mathlib.Data.List.Chain

/-!
# The rows of an editor tile its text

The rows of a line are ranges of positions whose lengths are those of the parts that the line is cut
to (`Row.IsCut`).  So each row shows its part (`Row.map_text_ranges`), and what is known of the parts
is known of the rows (`Row.tiles_ranges`).  The lines follow each other with a newline in between,
which is in none of their rows (`Row.tiled_ofLines`).
-/

namespace AgentConsole.Editor

namespace Row

/-! ### The rows of a line -/

/-- Do the rows tile a line that stands at position `start` of a text and has the number `n`? -/
structure Tiles (room : Nat) (t : Text) (n start : Nat) (line : Text) (rs : List Row) : Prop where
  /-- The rows belong to the line, begin where it does, and end where it does. -/
  number : ∀ r ∈ rs, r.line = n
  first : rs.head?.map Row.start = some start
  last : rs.getLast?.map Row.stop = some (start + line.length)
  /-- No character is between two rows, and together they show the line. -/
  contiguous : rs.IsChain fun r s => s.start = r.stop
  texts : rs.flatMap (Row.text · t) = line
  /-- An empty line is one empty row, and there are no other empty ones. -/
  of_nil : line = [] → rs = [⟨n, start, start⟩]
  of_ne_nil : line ≠ [] → ∀ r ∈ rs, r.start < r.stop
  /-- A row is broken behind a space, or has none. -/
  broken : ∀ r ∈ rs.dropLast, (r.text t).getLast? = some ' ' ∨ ' ' ∉ r.text t
  fits : ∀ r ∈ rs, Fits room (r.text t)

/-- Do the rows tile the lines of a text from position `start` on, which are counted from `n`? -/
inductive Tiled (room : Nat) (t : Text) : Nat → Nat → List Text → List Row → Prop
  | last {n start : Nat} {line : Text} {rs : List Row} (h : Tiles room t n start line rs)
      (stop : start + line.length = t.length) : Tiled room t n start [line] rs
  /-- The newline after a line is in no row. -/
  | next {n start : Nat} {line : Text} {lines : List Text} {rs below : List Row}
      (h : Tiles room t n start line rs) (newline : t[start + line.length]? = some '\n')
      (hbelow : Tiled room t (n + 1) (start + line.length + 1) lines below) :
      Tiled room t n start (line :: lines) (rs ++ below)

/-! ### Ranges and parts -/

section

variable (n start : Nat) (parts : List Text)

/-- Rows know the line they are of. -/
theorem line_of_mem_ranges {r : Row} {ns : List Nat} (h : r ∈ ranges n start ns) : r.line = n := by
  induction ns generalizing start with
  | nil => exact absurd h List.not_mem_nil
  | cons m ns ih =>
    rcases List.mem_cons.mp h with rfl | h
    · rfl
    · exact ih _ h

/-- The first row begins with the line. -/
theorem head?_ranges {ns : List Nat} (h : ns ≠ []) :
    (ranges n start ns).head?.map Row.start = some start := by
  cases ns with
  | nil => exact absurd rfl h
  | cons m ns => rfl

/-- Each other one begins where the one before it ends. -/
theorem isChain_ranges (ns : List Nat) : (ranges n start ns).IsChain fun r s => s.start = r.stop := by
  induction ns generalizing start with
  | nil => exact .nil
  | cons m ns ih =>
    refine List.isChain_cons.mpr ⟨fun s hs => ?_, ih (start + m)⟩
    cases ns with
    | nil => cases hs
    | cons k ns =>
      obtain rfl := Option.some.inj hs
      rfl

theorem getLast?_ranges {ns : List Nat} (h : ns ≠ []) :
    (ranges n start ns).getLast?.map Row.stop = some (start + ns.sum) := by
  induction ns generalizing start with
  | nil => exact absurd rfl h
  | cons m ns ih =>
    cases ns with
    | nil => rfl
    | cons k ns =>
      have hlast := ih (start + m) (List.cons_ne_nil k ns)
      rw [List.sum_cons, ← Nat.add_assoc]
      exact hlast

/-- Each row shows its part, wherever the parts stand in a text. -/
theorem map_text_ranges (before after : Text) :
    (ranges n before.length (parts.map List.length)).map
        (Row.text · (before ++ (parts.flatten ++ after))) = parts := by
  induction parts generalizing before with
  | nil => rfl
  | cons part parts ih =>
    have hmore := ih (before ++ part)
    rw [List.length_append, List.append_assoc] at hmore
    show _ :: _ = _
    refine congrArg₂ List.cons ?_ ?_
    · simp [text]
    · rw [List.flatten_cons, List.append_assoc]
      exact hmore

end

/-- The rows of a line tile it. -/
theorem tiles_ranges (room n : Nat) (before line after : Text) :
    Tiles room (before ++ (line ++ after)) n before.length line
      (ranges n before.length (lengths room line)) := by
  obtain ⟨parts, hcut, hlengths⟩ := exists_isCut room line
  have hne : parts.map List.length ≠ [] := by simpa using hcut.ne_nil
  have hsum : (parts.map List.length).sum = line.length := by rw [← hlengths, sum_lengths]
  have htexts := map_text_ranges n parts before after
  rw [hcut.flatten] at htexts
  rw [hlengths]
  generalize hrs : ranges n before.length (parts.map List.length) = rs at htexts
  generalize ht : before ++ (line ++ after) = t at htexts
  have hmem {r : Row} (hr : r ∈ rs) : r.text t ∈ parts := htexts ▸ List.mem_map_of_mem hr
  exact {
    number := fun r hr => line_of_mem_ranges n _ (hrs ▸ hr)
    first := hrs ▸ head?_ranges n _ hne
    last := by rw [← hrs, getLast?_ranges n _ hne, hsum]
    contiguous := hrs ▸ isChain_ranges n _ _
    texts := by rw [List.flatMap_def, htexts, hcut.flatten]
    of_nil := by
      intro hnil
      rw [← hrs, hcut.of_nil hnil]
      rfl
    of_ne_nil := by
      intro hline r hr
      have hpart := hcut.of_ne_nil hline _ (hmem hr)
      -- a row without positions shows nothing
      refine Nat.lt_of_not_le fun hle => hpart ?_
      rw [text, Nat.sub_eq_zero_of_le hle, List.take_zero]
    broken := by
      intro r hr
      have hdrop : r.text t ∈ parts.dropLast := by
        rw [← htexts, ← List.map_dropLast]
        exact List.mem_map_of_mem hr
      exact (hcut.broken _ hdrop).atSpace
    fits := fun r hr => hcut.fits _ (hmem hr) }

/-- The rows of lines tile them, wherever the lines stand in a text. -/
theorem tiled_ofLines (room n : Nat) (before : Text) {lines : List Text} (h : lines ≠ []) :
    Tiled room (before ++ Text.ofRows lines) n before.length lines
      (ofLines room n before.length lines) := by
  induction lines generalizing n before with
  | nil => exact absurd rfl h
  | cons line below ih =>
    -- the last line ends with the text, any other with a newline
    cases below with
    | nil =>
      have htiles := tiles_ranges room n before line []
      rw [List.append_nil] at htiles
      have hrows : ofLines room n before.length [line]
          = ranges n before.length (lengths room line) := List.append_nil _
      rw [hrows]
      exact .last htiles (by simp [Text.ofRows])
    | cons next more =>
      have htext : Text.ofRows (line :: next :: more) = line ++ '\n' :: Text.ofRows (next :: more) :=
        Text.ofRows_cons line (List.cons_ne_nil next more)
      have htiles := tiles_ranges room n before line ('\n' :: Text.ofRows (next :: more))
      have hbelow := ih (n + 1) (before ++ line ++ ['\n']) (List.cons_ne_nil next more)
      simp only [List.length_append, List.length_singleton, List.append_assoc,
        List.singleton_append, ← Nat.add_assoc] at hbelow
      rw [htext]
      exact .next htiles (by simp) hbelow

/-- The rows of a text tile it. -/
theorem tiled_ofText (room : Nat) (t : Text) : Tiled room t 0 0 t.rows (ofText room t) := by
  have htiled := tiled_ofLines room 0 [] (Text.rows_ne_nil t)
  rwa [Text.ofRows_rows] at htiled

end Row

/-- **The rows of an editor tile its text.**  The lines follow each other, and the newlines between
them are in no row.  The rows of a line are contiguous, from its first character to its end; a row is
empty only if the line is.  A row is broken behind a space, or where it has none, and without the
spaces at its end it fits, unless it has more columns than that in its first character. -/
theorem tiled_rows (e : Editor) :
    Row.Tiled e.textWidth e.buffer.text 0 0 e.buffer.text.rows e.rows :=
  Row.tiled_ofText e.textWidth e.buffer.text

/-- In a single column a wide character has a row of its own, and the space behind it hangs over the
edge. -/
example : Row.ofText 1 "世 a\n".toList = [⟨0, 0, 2⟩, ⟨0, 2, 3⟩, ⟨1, 4, 4⟩] := by decide +kernel

end AgentConsole.Editor
