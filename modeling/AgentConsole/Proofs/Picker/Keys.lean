import AgentConsole.Picker.Basic

/-!
# What a picker makes of a key

The keys of a picker are told apart in one place.  `Picker.Reads` lists what a key can come to,
each outcome with the picker after it, and every key comes to one of these (`reads_handle`): only
an outcome of `handled` is listed with a picker that may have changed, and only Enter confirms.
What the operations of a picker keep is then kept by every key.
-/

namespace AgentConsole.Picker

/-- What a key can come to: the picker after it, and the outcome. -/
inductive Reads (p : Picker) (key : Key) : Picker → Outcome → Prop
  | ignore : Reads p key p .unhandled
  | confirm (hkey : key.code = .enter) : Reads p key p .confirm
  | dismiss : Reads p key p .dismiss
  | move (delta : Int) : Reads p key (p.move delta) .handled
  | selectFirst : Reads p key p.selectFirst .handled
  | selectLast : Reads p key p.selectLast .handled
  | clearFilter : Reads p key p.clearFilter .handled
  | backspace : Reads p key p.backspace .handled
  | typeChar (x : Char) : Reads p key (p.typeChar x) .handled

/-- Every key comes to something that is listed. -/
theorem reads_handle (p : Picker) (key : Key) :
    p.Reads key (p.handle key).1 (p.handle key).2 := by
  unfold handle
  split
  · exact .ignore
  · split
    case h_1 => exact .move _
    case h_2 => exact .move _
    case h_3 => exact .move _
    case h_4 => exact .move _
    case h_5 => exact .selectFirst
    case h_6 => exact .selectLast
    case h_7 hkey => exact .confirm hkey
    case h_8 =>
      -- Escape drops the filter first
      split
      · exact .clearFilter
      · exact .dismiss
    case h_9 => exact .backspace
    case h_10 =>
      -- a character with control moves the selection or does nothing
      split
      · split
        · exact .move _
        · split
          · exact .move _
          · exact .ignore
      · exact .typeChar _
    case h_11 => exact .ignore

variable {p q : Picker} {key : Key} {outcome : Outcome}

theorem Reads.of_handle (h : p.handle key = (q, outcome)) : p.Reads key q outcome := by
  have hreads := p.reads_handle key
  rwa [h] at hreads

/-- Enter confirms what is selected. -/
theorem handle_enter (p : Picker) (hkind : key.kind ≠ .release) (hkey : key.code = .enter) :
    p.handle key = (p, .confirm) := by
  unfold handle
  rw [if_neg hkind, hkey]

end AgentConsole.Picker
