import AgentConsole.Theme.Color

/-!
# Themes

A theme is a name and one colour for every role.  Everything that is painted
takes its colours from the theme in force, so exchanging the theme shows on the
next frame.
-/

namespace AgentConsole

/-- A colour for every role. -/
structure Theme where
  name : String
  foreground : Color
  border : Color
  accent : Color
  dim : Color
  error : Color
  warning : Color
  selection : Color
  selectionText : Color
  running : Color
  idle : Color
  pending : Color
  done : Color
  deriving DecidableEq, Repr

namespace Theme

/-- The text in the dim colour. -/
def muted (theme : Theme) (t : Text) : Text := theme.dim.paint t

/-- The text as a selected row. -/
def selected (theme : Theme) (t : Text) : Text :=
  if t.isEmpty then []
  else
    theme.selection.background ++ theme.selectionText.foreground ++ t
      ++ Color.backgroundEnd ++ Color.foregroundEnd

/-- The theme used where no other can be found. -/
def fallback : Theme where
  name := "Agentdeck Dark (Fallback)"
  foreground := .rgb 220 223 228
  border := .rgb 92 99 112
  accent := .rgb 97 175 239
  dim := .rgb 127 132 142
  error := .rgb 224 108 117
  warning := .rgb 229 192 123
  selection := .rgb 62 68 81
  selectionText := .rgb 220 223 228
  running := .rgb 152 195 121
  idle := .rgb 127 132 142
  pending := .rgb 229 192 123
  done := .rgb 86 182 194

/-- The themes that are always there, in the order in which they are offered. -/
def bundled : List Theme :=
  [ { name := "Agentdeck Dark"
      foreground := .rgb 0xdc 0xdf 0xe4
      border := .rgb 0x5c 0x63 0x70
      accent := .rgb 0x61 0xaf 0xef
      dim := .rgb 0x7f 0x84 0x8e
      error := .rgb 0xe0 0x6c 0x75
      warning := .rgb 0xe5 0xc0 0x7b
      selection := .rgb 0x3e 0x44 0x51
      selectionText := .rgb 0xdc 0xdf 0xe4
      running := .rgb 0x98 0xc3 0x79
      idle := .rgb 0x7f 0x84 0x8e
      pending := .rgb 0xe5 0xc0 0x7b
      done := .rgb 0x56 0xb6 0xc2 },
    { name := "Nord"
      foreground := .rgb 0xd8 0xde 0xe9
      border := .rgb 0x4c 0x56 0x6a
      accent := .rgb 0x88 0xc0 0xd0
      dim := .rgb 0x61 0x6e 0x88
      error := .rgb 0xbf 0x61 0x6a
      warning := .rgb 0xeb 0xcb 0x8b
      selection := .rgb 0xec 0xef 0xf4
      selectionText := .rgb 0x2e 0x34 0x40
      running := .rgb 0xa3 0xbe 0x8c
      idle := .rgb 0x61 0x6e 0x88
      pending := .rgb 0xeb 0xcb 0x8b
      done := .rgb 0x81 0xa1 0xc1 },
    { name := "Gruvbox Dark"
      foreground := .rgb 0xeb 0xdb 0xb2
      border := .rgb 0x66 0x5c 0x54
      accent := .rgb 0x68 0x9d 0x6a
      dim := .rgb 0x92 0x83 0x74
      error := .rgb 0xfb 0x49 0x34
      warning := .rgb 0xfa 0xbd 0x2f
      selection := .rgb 0x66 0x5c 0x54
      selectionText := .rgb 0xeb 0xdb 0xb2
      running := .rgb 0xb8 0xbb 0x26
      idle := .rgb 0x92 0x83 0x74
      pending := .rgb 0xfa 0xbd 0x2f
      done := .rgb 0x83 0xa5 0x98 },
    { name := "Tokyo Night"
      foreground := .rgb 0xc0 0xca 0xf5
      border := .rgb 0x41 0x48 0x68
      accent := .rgb 0x7a 0xa2 0xf7
      dim := .rgb 0x56 0x5f 0x89
      error := .rgb 0xf7 0x76 0x8e
      warning := .rgb 0xe0 0xaf 0x68
      selection := .rgb 0x33 0x46 0x7c
      selectionText := .rgb 0xc0 0xca 0xf5
      running := .rgb 0x9e 0xce 0x6a
      idle := .rgb 0x56 0x5f 0x89
      pending := .rgb 0xe0 0xaf 0x68
      done := .rgb 0x7d 0xcf 0xff },
    { name := "Terminal ANSI"
      foreground := .terminal
      border := .ansi 8
      accent := .ansi 6
      dim := .ansi 8
      error := .ansi 1
      warning := .ansi 3
      selection := .ansi 8
      selectionText := .terminal
      running := .ansi 2
      idle := .ansi 8
      pending := .ansi 3
      done := .ansi 4 } ]

/-- The name under which a theme is looked up: spaces count as underscores, and
the case of ASCII letters does not matter. -/
def key (name : String) : Text :=
  name.toList.map fun c => if c = ' ' then '_' else c.toLower

/-- The bundled theme of that name. -/
def bundled? (name : String) : Option Theme :=
  bundled.find? fun theme => key theme.name = key name

/-- The bundled theme of that name, or the fallback. -/
def named (name : String) : Theme := (bundled? name).getD fallback

end Theme

end AgentConsole
