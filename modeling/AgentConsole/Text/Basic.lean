import AgentConsole.Unicode.Blank

/-!
# Texts

A text is the list of its characters.  Several rows are kept in one text with
newlines between them; `rows` and `ofRows` go from one form to the other, and
`ofRows_rows` says that nothing is lost on the way.
-/

namespace AgentConsole

/-- A text is the list of its characters. -/
abbrev Text := List Char

namespace Text

instance : Coe String Text := ⟨String.toList⟩

/-- The rows of a text: the pieces between its newlines, of which there is at least one. -/
def rows : Text → List Text
  | [] => [[]]
  | c :: rest =>
    if c = '\n' then [] :: rows rest
    else
      match rows rest with
      | [] => [[c]]
      | row :: below => (c :: row) :: below

/-- Rows joined by newlines. -/
def ofRows : List Text → Text
  | [] => []
  | [row] => row
  | row :: below => row ++ '\n' :: ofRows below

/-- Texts joined by a separator. -/
def join (separator : Text) : List Text → Text
  | [] => []
  | [t] => t
  | t :: rest => t ++ separator ++ join separator rest

/-- `n` spaces. -/
def spaces (n : Nat) : Text := List.replicate n ' '

/-- `n` copies of a text, one after the other. -/
def times (n : Nat) (t : Text) : Text := (List.replicate n t).flatten

/-- The decimal form of a number. -/
def ofNat (n : Nat) : Text := Nat.toDigits 10 n

/-- The first row. -/
def firstRow (t : Text) : Text := t.takeWhile (· ≠ '\n')

/-- The text without the blanks at its start. -/
def trimStart (t : Text) : Text := t.dropWhile Unicode.isBlank

/-- The text without the characters at its end that satisfy `p`. -/
def dropEndWhile (p : Char → Bool) (t : Text) : Text := (t.reverse.dropWhile p).reverse

/-- The text without the blanks at its end. -/
def trimEnd (t : Text) : Text := t.dropEndWhile Unicode.isBlank

/-- The text without the blanks at its start and end. -/
def trim (t : Text) : Text := (t.trimStart).trimEnd

/-- Does the text consist of blanks only? -/
def isBlank (t : Text) : Bool := t.all Unicode.isBlank

/-- Does the second text occur in the first, its characters side by side? -/
def hasInfix : Text → Text → Bool
  | [], pattern => pattern.isEmpty
  | c :: rest, pattern => pattern.isPrefixOf (c :: rest) || hasInfix rest pattern

/-- How many bytes the text takes in UTF-8. -/
def byteLength (t : Text) : Nat := t.foldr (fun c n => c.utf8Size + n) 0

/-- The lines of a text as a reader of lines sees them: a newline ends a line,
a carriage return before it goes with it, and what follows the last newline is
a line only if it is not empty. -/
def lines (t : Text) : List Text :=
  let pieces := t.rows
  let ended := if pieces.getLast? = some [] then pieces.dropLast else pieces
  let open? := pieces.getLast? != some []
  let n := ended.length
  ended.mapIdx fun i line =>
    if i + 1 = n && open? then line
    else if line.getLast? = some '\r' then line.dropLast else line

theorem rows_ne_nil (t : Text) : t.rows ≠ [] := by
  cases t with
  | nil => simp [rows]
  | cons c rest => unfold rows; split <;> (try split) <;> simp

/-- Joining the rows of a text gives the text back. -/
theorem ofRows_rows (t : Text) : ofRows t.rows = t := by
  induction t with
  | nil => rfl
  | cons c rest ih =>
    unfold rows
    split
    · rename_i h
      cases hr : rows rest with
      | nil => exact absurd hr (rows_ne_nil rest)
      | cons row below => rw [hr] at ih; simp [ofRows, ih, h]
    · cases hr : rows rest with
      | nil => exact absurd hr (rows_ne_nil rest)
      | cons row below =>
        rw [hr] at ih
        cases below with
        | nil => simpa [ofRows] using ih
        | cons next more => simpa [ofRows] using ih

@[simp] theorem length_spaces (n : Nat) : (spaces n).length = n := by simp [spaces]

end Text

end AgentConsole
