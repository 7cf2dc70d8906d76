import AgentConsole.Picker.Basic
import AgentConsole.Styled.Fit
import AgentConsole.Theme.Basic

/-!
# Drawing a picker

A line with the query and the count of what is shown, and below it the rows of
the view; the selected row is drawn in the colours of the selection.
-/

namespace AgentConsole.Picker

/-- The rows the picker is drawn in: the line of the query and the view. -/
def height (p : Picker) : Nat := 1 + min (max p.size 1) p.capacity

/-- A heading, with a rule after it. -/
def headingRow (theme : Theme) (label : Text) (width : Nat) : Text :=
  let label := "── ".toList ++ label ++ [' ']
  Styled.fit (theme.muted (label ++ Text.times (width - Styled.width label) ['─'])) width

/-- The part of an entry's row before its subtitle. -/
def lead (entry : Choice) (marker : Char) : Text :=
  [marker, ' '] ++ (entry.icon.map (· ++ [' '])).getD [] ++ entry.label

/-- The row of an entry that is not selected. -/
def choiceRow (theme : Theme) (entry : Choice) (width : Nat) : Text :=
  let subtitle := (entry.subtitle.map (' ' :: ' ' :: theme.muted ·)).getD []
  Styled.spread (lead entry ' ' ++ subtitle) (theme.muted (entry.badge.getD [])) width

/-- The row of the selected entry, in one style throughout. -/
def selectedRow (theme : Theme) (entry : Choice) (width : Nat) : Text :=
  let badge := entry.badge.getD []
  let room := width - (Styled.width badge + 1)
  let plain := lead entry '›' ++ (entry.subtitle.map (' ' :: ' ' :: ·)).getD []
  let body := Styled.fit (Styled.truncate plain room) room
  theme.selected (Styled.fit (body ++ ' ' :: badge) width)

/-- One row of the view. -/
def row (theme : Theme) (item : Item) (selected : Bool) (width : Nat) : Text :=
  match item with
  | .heading label => headingRow theme label width
  | .choice entry =>
    if selected then selectedRow theme entry width else choiceRow theme entry width

/-- The line of the query, with the count of what is shown at its end. -/
def queryRow (p : Picker) (theme : Theme) (width : Nat) : Text :=
  let ask :=
    if p.query.isEmpty then theme.muted "type to filter".toList
    else theme.accent.paint ['/'] ++ ' ' :: p.query
  let count := theme.muted (Text.ofNat p.size ++ '/' :: Text.ofNat p.items.size)
  Styled.spread ask count width

/-- The picker, in rows of `width` columns. -/
def render (p : Picker) (theme : Theme) (width : Nat) : Text :=
  let top := p.queryRow theme width
  if p.size = 0 then
    Text.ofRows [top, Styled.fit (theme.muted "  no matches".toList) width]
  else
    let stop := min (p.scroll + p.capacity) p.size
    let view := (List.range' p.scroll (stop - p.scroll)).filterMap fun i =>
      (p.item? i).map fun item => row theme item (p.selected = some i) width
    Text.ofRows (top :: view)

end AgentConsole.Picker
