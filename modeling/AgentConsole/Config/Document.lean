import AgentConsole.Config.Basic
import AgentConsole.Toml.Fields
import AgentConsole.Toml.Printer
import AgentConsole.Toml.Reader

/-!
# The configuration as a document

`Config.document` writes a configuration with comments that explain it, and
`Stated.ofText?` reads what a document states.
-/

namespace AgentConsole.Config

/-- The lines of the document. -/
def lines (c : Config) : List Toml.Line :=
  [ .comment "agentdeck configuration",
    .blank,
    .comment "Theme: Agentdeck Dark, Nord, Gruvbox Dark, Tokyo Night, Terminal ANSI,",
    .comment "or the name of a file in ~/.config/agentdeck/themes/",
    .comment "Switch at runtime from the settings view (press 's')",
    .pair "theme" (Toml.quote c.theme) [],
    .blank,
    .comment "Status refresh cadences, in milliseconds",
    .header "refresh",
    .pair "local_status_ms" (Text.ofNat c.tuning.localEvery) "    # worktrees and sessions",
    .pair "remote_status_ms" (Text.ofNat c.tuning.remoteEvery) "  # pull requests and checks",
    .blank,
    .comment "Notifications in the bottom-right corner",
    .header "toasts",
    .pair "max" (Text.ofNat c.tuning.toastLimit) [],
    .pair "ttl_ms" (Text.ofNat c.tuning.toastLife) [],
    .blank,
    .comment "Prompt editor height, in rows",
    .header "editor",
    .pair "min_height" (Text.ofNat c.tuning.editorMin) [],
    .pair "max_height" (Text.ofNat c.tuning.editorMax) [],
    .blank,
    .comment "Logging configuration (RUST_LOG env var overrides)",
    .header "logging",
    .pair "level" (Toml.quote c.logging.level) [],
    .comment "JSON file logging (in addition to the in-memory buffer)",
    .pair "file_enabled" (Toml.ofBool c.logging.toFile) [],
    .pair "file_dir" (Toml.quote c.logging.directory) [],
    .pair "file_rotation" (Toml.quote c.logging.rotation.label.toList) "  # hourly, daily, never",
    .pair "file_prefix" (Toml.quote c.logging.stem) [] ]

/-- The configuration, written out. -/
def document (c : Config) : Text := Toml.print c.lines

/-- A number of 64 bits without a sign. -/
def natural? : Toml.Value → Option Nat := Toml.Value.natural? UInt64.size

/-- What a document states. -/
def Stated.ofToml? (document : Toml.Value) : Option Stated := do
  let fields ← document.fields? [] 0
  let refresh ← Toml.part? fields "refresh" ["local_status_ms", "remote_status_ms"]
  let toasts ← Toml.part? fields "toasts" ["max", "ttl_ms"]
  let editor ← Toml.part? fields "editor" ["min_height", "max_height"]
  let logging ←
    Toml.part? fields "logging"
      ["level", "file_enabled", "file_dir", "file_rotation", "file_prefix"]
  return {
    theme := ← Toml.optional Toml.Value.text? fields "theme"
    localEvery := ← Toml.optional natural? refresh "local_status_ms"
    remoteEvery := ← Toml.optional natural? refresh "remote_status_ms"
    toastLimit := ← Toml.optional natural? toasts "max"
    toastLife := ← Toml.optional natural? toasts "ttl_ms"
    editorMin := ← Toml.optional natural? editor "min_height"
    editorMax := ← Toml.optional natural? editor "max_height"
    level := ← Toml.optional Toml.Value.text? logging "level"
    toFile := ← Toml.optional Toml.Value.truth? logging "file_enabled"
    directory := ← Toml.optional Toml.Value.text? logging "file_dir"
    rotation := ← Toml.optional Toml.Value.text? logging "file_rotation"
    stem := ← Toml.optional Toml.Value.text? logging "file_prefix" }

/-- What the text of a document states; `none` if it is no TOML or a field has
a value of the wrong kind. -/
def Stated.ofText? (t : Text) : Option Stated := (Toml.read? t).bind Stated.ofToml?

end AgentConsole.Config
