import AgentConsole.Key
import AgentConsole.Text.Case

/-!
# Pickers

A list from which one entry is picked, narrowed down by typing.  Headings group
the entries and are never selected.  While there is a filter, the picker shows
the entries whose label contains the query in any case; the selection is a
position in what is shown, and dropping the filter keeps the selected entry
selected.
-/

namespace AgentConsole

/-- An entry that can be picked. -/
structure Choice where
  id : String
  label : Text
  subtitle : Option Text := none
  icon : Option Text := none
  badge : Option Text := none
  deriving DecidableEq, Repr

/-- A row of a picker. -/
inductive Item where
  | heading (label : Text)
  | choice (entry : Choice)
  deriving DecidableEq, Repr

namespace Item

/-- The identity of a row. -/
def id : Item → String
  | heading label => "--" ++ String.ofList label
  | choice entry => entry.id

/-- The text of a row. -/
def label : Item → Text
  | heading label => label
  | choice entry => entry.label

/-- Can the row be picked? -/
def isChoice : Item → Bool
  | heading _ => false
  | choice _ => true

end Item

/-- A list with a filter, a selection and a view of a few rows. -/
structure Picker where
  title : Text := []
  items : Array Item := #[]
  query : Text := []
  /-- The positions in `items` that match the query. -/
  filter : Option (Array Nat) := none
  /-- The selected position in what is shown. -/
  selected : Option Nat := none
  /-- The position in `items` that was selected when the filter began. -/
  anchor : Option Nat := none
  /-- The first row of the view. -/
  scroll : Nat := 0
  isOpen : Bool := false
  /-- The rows of the view. -/
  capacity : Nat := 8
  deriving Repr

namespace Picker

/-! ### What is shown -/

/-- How many rows are shown. -/
def size (p : Picker) : Nat :=
  match p.filter with
  | some matching => matching.size
  | none => p.items.size

/-- The position in `items` of a shown row. -/
def position? (p : Picker) (i : Nat) : Option Nat :=
  match p.filter with
  | some matching => matching[i]?
  | none => if i < p.items.size then some i else none

/-- A shown row. -/
def item? (p : Picker) (i : Nat) : Option Item :=
  (p.position? i).bind (p.items[·]?)

/-- The shown rows, from the top. -/
def shown (p : Picker) : List Item := (List.range p.size).filterMap p.item?

/-- Is there an entry at this place, and no heading? -/
def isChoiceAt (p : Picker) (i : Nat) : Bool := (p.item? i).any Item.isChoice

/-! ### Looking for an entry -/

/-- The first of the `n` places from `i` on that satisfies `q`. -/
def seek (q : Nat → Bool) (i : Nat) : Nat → Option Nat
  | 0 => none
  | n + 1 => if q i then some i else seek q (i + 1) n

/-- The last place before `i` that satisfies `q`. -/
def seekBack (q : Nat → Bool) : Nat → Option Nat
  | 0 => none
  | i + 1 => if q i then some i else seekBack q i

/-- The first entry at or after a place, else the last one before it. -/
def nearest (p : Picker) (i : Nat) : Option Nat :=
  (seek p.isChoiceAt i (p.size - i)).or (seekBack p.isChoiceAt (min i p.size))

/-- The entry after a place. -/
def next? (p : Picker) (i : Nat) : Option Nat :=
  seek p.isChoiceAt (i + 1) (p.size - (i + 1))

/-- The entry before a place. -/
def previous? (p : Picker) (i : Nat) : Option Nat := seekBack p.isChoiceAt i

/-! ### The selection -/

/-- The position in `items` of the selected row. -/
def selectedPosition? (p : Picker) : Option Nat := p.selected.bind p.position?

/-- The selected entry. -/
def choice? (p : Picker) : Option Choice :=
  (p.selectedPosition?.bind (p.items[·]?)).bind fun
    | .choice entry => some entry
    | .heading _ => none

/-- The identity of the selected entry. -/
def selectedId? (p : Picker) : Option String := p.choice?.map (·.id)

/-- Moves the view so that it holds the selected row and does not run past the end. -/
def reveal (p : Picker) : Picker :=
  let scroll :=
    match p.selected with
    | none => p.scroll
    | some i =>
      if i < p.scroll then i
      else if p.scroll + p.capacity ≤ i then i + 1 - p.capacity
      else p.scroll
  { p with scroll := min scroll (p.size - p.capacity) }

/-- Follows `next` for at most `n` steps. -/
def walk (next : Nat → Option Nat) : Nat → Nat → Nat
  | 0, i => i
  | n + 1, i =>
    match next i with
    | none => i
    | some j => walk next n j

/-- Moves the selection by that many entries, down where `delta` is positive.
It stops at either end. -/
def move (p : Picker) (delta : Int) : Picker :=
  match p.selected with
  | none => { p with selected := p.nearest 0 }.reveal
  | some i =>
    let steps := min delta.natAbs (p.size + 1)
    { p with selected := some (walk (if delta < 0 then p.previous? else p.next?) steps i) }.reveal

/-- Selects the first entry. -/
def selectFirst (p : Picker) : Picker := { p with selected := p.nearest 0 }.reveal

/-- Selects the last entry. -/
def selectLast (p : Picker) : Picker := { p with selected := p.nearest (p.size - 1) }.reveal

/-! ### The filter -/

/-- Does the row match a query that is in lower case? -/
def Matches (needle : Text) (item : Item) : Bool :=
  item.isChoice && item.label.lower.hasInfix needle

/-- Shows what matches the query and selects the first of it. -/
def refilter (p : Picker) : Picker :=
  let needle := p.query.lower
  let matching :=
    (Array.range p.items.size).filter fun i => (p.items[i]?).any (Matches needle)
  { p with
    filter := some matching
    selected := if matching.isEmpty then none else some 0
    scroll := 0 }

/-- Adds a character to the query. -/
def typeChar (p : Picker) (c : Char) : Picker :=
  let anchor := if p.filter.isNone then p.selectedPosition? else p.anchor
  { p with anchor, query := p.query ++ [c] }.refilter

/-- Drops the filter.  The selected entry stays selected; if nothing matched,
the one selected before the filter comes back. -/
def clearFilter (p : Picker) : Picker :=
  match p.filter with
  | none => { p with query := [] }
  | some matching =>
    let p := { p with filter := none, query := [] }
    let kept := ((p.selected.bind (matching[·]?)).or p.anchor).filter (· < p.items.size)
    { p with selected := kept.or (p.nearest 0), anchor := none }.reveal

/-- Takes the last character off the query; an empty query is no filter. -/
def backspace (p : Picker) : Picker :=
  if p.filter.isNone then p
  else
    let p := { p with query := p.query.dropLast }
    if p.query.isEmpty then p.clearFilter else p.refilter

/-! ### The list -/

/-- Replaces the list.  The filter goes, and the selection stays where it was
or moves to the nearest entry. -/
def setItems (p : Picker) (items : List Item) : Picker :=
  let previous := p.selectedPosition?
  let p := { p with items := items.toArray, query := [], filter := none, anchor := none }
  let kept := previous.bind fun i => p.nearest (min i (p.items.size - 1))
  { p with selected := kept.or (p.nearest 0) }.reveal

/-- A picker over a list. -/
def ofItems (title : Text) (items : List Item) : Picker :=
  { title : Picker }.setItems items

/-- Shows the picker, without a filter. -/
def «open» (p : Picker) : Picker :=
  let p := { p.clearFilter with isOpen := true }
  { p with selected := p.selected.or (p.nearest 0) }.reveal

/-- Hides the picker. -/
def close (p : Picker) : Picker := { p with isOpen := false }

/-- Selects an entry by its identity, dropping the filter; `none` if there is none. -/
def selectId (p : Picker) (id : String) : Picker × Bool :=
  let p := p.clearFilter
  match p.items.findIdx? fun item => item.isChoice && item.id = id with
  | some i => ({ p with selected := some i }.reveal, true)
  | none => (p, false)

/-- Selects the entry at a position of the whole list, dropping the filter. -/
def selectIndex (p : Picker) (i : Nat) : Picker × Bool :=
  let p := p.clearFilter
  if (p.items[i]?).any Item.isChoice then ({ p with selected := some i }.reveal, true)
  else (p, false)

/-- Gives the view that many rows, and at least one. -/
def setCapacity (p : Picker) (capacity : Nat) : Picker :=
  { p with capacity := max capacity 1 }.reveal

/-! ### Keys -/

/-- What a key came to. -/
inductive Outcome where
  | handled
  /-- The selected entry is picked. -/
  | confirm
  /-- The picker is given up. -/
  | dismiss
  | unhandled
  deriving DecidableEq, Repr

/-- Reads a key. -/
def handle (p : Picker) (key : Key) : Picker × Outcome :=
  if key.kind = .release then (p, .unhandled)
  else
    match key.code with
    | .up => (p.move (-1), .handled)
    | .down => (p.move 1, .handled)
    | .pageUp => (p.move (-p.capacity), .handled)
    | .pageDown => (p.move p.capacity, .handled)
    | .home => (p.selectFirst, .handled)
    | .«end» => (p.selectLast, .handled)
    | .enter => (p, .confirm)
    | .escape => if p.filter.isSome then (p.clearFilter, .handled) else (p, .dismiss)
    | .backspace => (p.backspace, .handled)
    | .char c =>
      if key.control then
        if c = 'p' then (p.move (-1), .handled)
        else if c = 'n' then (p.move 1, .handled)
        else (p, .unhandled)
      else (p.typeChar c, .handled)
    | _ => (p, .unhandled)

end Picker

end AgentConsole
