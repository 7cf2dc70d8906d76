import AgentConsole.Styled.Token

/-!
# Plain text

What remains of a text when nothing of it may act on the terminal: foreign
output before it is rendered, and rendered rows before they are copied.
-/

namespace AgentConsole.Styled

/-- The text without escape sequences and controls; newlines stay, and a tab
becomes a space. -/
def sanitize (t : Text) : Text :=
  ((strip t).filter fun c => c = '\n' || c = '\t' || !Unicode.isControl c).map fun c =>
    if c = '\t' then ' ' else c

/-- The rows as plain text, without styles and without the padding at their ends. -/
def plain (rows : List Text) : Text := Text.ofRows (rows.map fun row => Text.trimEnd (strip row))

end AgentConsole.Styled
