import AgentConsole.Text.Basic
import AgentConsole.Unicode.Width

/-!
# Styled text

Every frame is a text that may hold escape sequences between its characters.
`tokens` takes such a text apart into escape sequences, which occupy no column,
and glyphs, which occupy the columns of their character.  Three forms of escape
are known:

* control sequences, `ESC [` up to a final character between `@` and `~`;
* operating system commands, `ESC ]` up to BEL or `ESC \`;
* `ESC` and one other character.

A sequence that the text does not finish runs to its end.  Nothing is lost:
the sources of the tokens, joined, are the text (`sources_tokens`).
-/

namespace AgentConsole

/-- One visual unit of a styled text. -/
inductive Token where
  /-- An escape sequence, with its leading ESC. -/
  | escape (sequence : Text)
  /-- A character that is shown. -/
  | glyph (char : Char)
  deriving DecidableEq, Repr

namespace Token

/-- The columns a token occupies. -/
def width : Token → Nat
  | escape _ => 0
  | glyph c => Unicode.columns c

/-- The characters a token stands for. -/
def source : Token → Text
  | escape s => s
  | glyph c => [c]

end Token

namespace Styled

/-- The escape character. -/
def esc : Char := '\x1b'

/-- Where a reader of styled text stands.  The characters of an unfinished
escape sequence are kept newest first. -/
inductive Scan where
  /-- Between tokens. -/
  | ground
  /-- After `ESC`. -/
  | introduced
  /-- Inside a control sequence. -/
  | control (read : Text)
  /-- Inside an operating system command. -/
  | command (read : Text)
  /-- Inside an operating system command, after an `ESC` that may end it. -/
  | commandEscape (read : Text)

/-- May this character end a control sequence? -/
def isFinal (c : Char) : Bool := 0x40 ≤ c.toNat && c.toNat ≤ 0x7E

/-- The tokens of a text, read from the given state on. -/
def scan : Scan → Text → List Token
  | .ground, [] => []
  | .introduced, [] => [.escape [esc]]
  | .control read, [] => [.escape read.reverse]
  | .command read, [] => [.escape read.reverse]
  | .commandEscape read, [] => [.escape read.reverse]
  | .ground, c :: rest =>
    if c = esc then scan .introduced rest else .glyph c :: scan .ground rest
  | .introduced, c :: rest =>
    if c = '[' then scan (.control ['[', esc]) rest
    else if c = ']' then scan (.command [']', esc]) rest
    else .escape [esc, c] :: scan .ground rest
  | .control read, c :: rest =>
    if isFinal c then .escape (c :: read).reverse :: scan .ground rest
    else scan (.control (c :: read)) rest
  | .command read, c :: rest =>
    if c = '\x07' then .escape (c :: read).reverse :: scan .ground rest
    else if c = esc then scan (.commandEscape (c :: read)) rest
    else scan (.command (c :: read)) rest
  | .commandEscape read, c :: rest =>
    if c = '\x07' || c = '\\' then .escape (c :: read).reverse :: scan .ground rest
    else if c = esc then scan (.commandEscape (c :: read)) rest
    else scan (.command (c :: read)) rest

/-- The tokens of a styled text. -/
def tokens (t : Text) : List Token := scan .ground t

/-- The characters that a list of tokens stands for. -/
def sources (ts : List Token) : Text := ts.flatMap Token.source

/-- The text without its escape sequences. -/
def strip (t : Text) : Text :=
  (tokens t).filterMap fun
    | .glyph c => some c
    | .escape _ => none

/-- The columns of a single row. -/
def rowWidth (row : Text) : Nat := (tokens row).foldr (fun k n => k.width + n) 0

/-- The columns of the widest row. -/
def width (t : Text) : Nat := (t.rows.map rowWidth).foldl max 0

/-! ### Graphic rendition

A control sequence that ends in `m` changes the style of what follows it; the
empty one and `0` give all styles up. -/

/-- The sequence that gives all styles up. -/
def reset : Text := ['\x1b', '[', '0', 'm']

/-- Does the sequence change the style? -/
def isRendition (sequence : Text) : Bool :=
  [esc, '['].isPrefixOf sequence && sequence.getLast? == some 'm'

/-- Does the sequence give all styles up? -/
def isReset (sequence : Text) : Bool :=
  sequence == reset || sequence == [esc, '[', 'm']

/-! ### What a state of the reader has read -/

/-- The characters read since the last token ended. -/
def Scan.pending : Scan → Text
  | .ground => []
  | .introduced => [esc]
  | .control read | .command read | .commandEscape read => read.reverse

theorem sources_scan (s : Scan) (t : Text) : sources (scan s t) = s.pending ++ t := by
  induction t generalizing s with
  | nil => cases s <;> simp [scan, sources, Token.source, Scan.pending]
  | cons c rest ih =>
    have step (tok : Token) (s' : Scan) :
        sources (tok :: scan s' rest) = tok.source ++ (s'.pending ++ rest) := by
      simp [sources] at ih ⊢; exact ih s'
    -- what is pending is written out with the token that ends it, or carried into the next state
    cases s with
    | ground =>
      unfold scan
      split
      · rename_i h; rw [ih]; simp [Scan.pending, h]
      · rw [step]; simp [Scan.pending, Token.source]
    | introduced =>
      unfold scan
      split
      · rename_i h; rw [ih]; simp [Scan.pending, h]
      · split
        · rename_i h; rw [ih]; simp [Scan.pending, h]
        · rw [step]; simp [Scan.pending, Token.source]
    | control read =>
      unfold scan
      split
      · rw [step]; simp [Scan.pending, Token.source]
      · rw [ih]; simp [Scan.pending]
    | command read =>
      unfold scan
      split
      · rw [step]; simp [Scan.pending, Token.source]
      · split <;> (rw [ih]; simp [Scan.pending])
    | commandEscape read =>
      unfold scan
      split
      · rw [step]; simp [Scan.pending, Token.source]
      · split <;> (rw [ih]; simp [Scan.pending])

/-- Taking a text apart loses nothing. -/
theorem sources_tokens (t : Text) : sources (tokens t) = t := sources_scan .ground t

end Styled

end AgentConsole
