import AgentConsole.File
import AgentConsole.Journal
import AgentConsole.Theme.Basic
import AgentConsole.Toml.Fields
import AgentConsole.Toml.Reader

/-!
# Themes from files

A theme can be kept in a file that gives a colour for every role.  A name is
looked up among the files first, then among the bundled themes.
-/

namespace AgentConsole

/-- A theme as a file gives it, colours as they are written. -/
structure ThemeFile where
  name : Text
  version : Nat
  author : Option Text
  foreground : Text
  border : Text
  accent : Text
  dim : Text
  error : Text
  selection : Text
  selectionText : Text
  warning : Option Text
  running : Text
  idle : Text
  pending : Text
  done : Text
  deriving DecidableEq, Repr

namespace ThemeFile

/-- The theme that a document gives. -/
def ofToml? (document : Toml.Value) : Option ThemeFile := do
  let fields ← document.fields? [] 0
  let information ← Toml.required (·.fields? ["name", "version", "author"] 1) fields "meta"
  let chrome ←
    Toml.required
      (·.fields?
        ["foreground", "border", "accent", "dim", "error", "selection_bg", "selection_fg",
          "warning"] 0)
      fields "ui"
  let states ← Toml.required (·.fields? ["running", "idle", "pending", "done"] 0) fields "status"
  return {
    name := ← Toml.required Toml.Value.text? information "name"
    version := ← Toml.required (Toml.Value.natural? UInt32.size) information "version"
    author := ← Toml.optional Toml.Value.text? information "author"
    foreground := ← Toml.required Toml.Value.text? chrome "foreground"
    border := ← Toml.required Toml.Value.text? chrome "border"
    accent := ← Toml.required Toml.Value.text? chrome "accent"
    dim := ← Toml.required Toml.Value.text? chrome "dim"
    error := ← Toml.required Toml.Value.text? chrome "error"
    selection := ← Toml.required Toml.Value.text? chrome "selection_bg"
    selectionText := ← Toml.required Toml.Value.text? chrome "selection_fg"
    warning := ← Toml.optional Toml.Value.text? chrome "warning"
    running := ← Toml.required Toml.Value.text? states "running"
    idle := ← Toml.required Toml.Value.text? states "idle"
    pending := ← Toml.required Toml.Value.text? states "pending"
    done := ← Toml.required Toml.Value.text? states "done" }

/-- The theme that a text gives; `none` if it is no TOML, a colour is missing
or a field has a value of the wrong kind. -/
def ofText? (t : Text) : Option ThemeFile := (Toml.read? t).bind ofToml?

/-- The theme.  Warnings that have no colour take that of pending sessions. -/
def theme (f : ThemeFile) : Theme where
  name := String.ofList f.name
  foreground := Color.parse f.foreground
  border := Color.parse f.border
  accent := Color.parse f.accent
  dim := Color.parse f.dim
  error := Color.parse f.error
  warning := Color.parse (f.warning.getD f.pending)
  selection := Color.parse f.selection
  selectionText := Color.parse f.selectionText
  running := Color.parse f.running
  idle := Color.parse f.idle
  pending := Color.parse f.pending
  done := Color.parse f.done

end ThemeFile

namespace Theme

/-- Where themes are kept, below the home directory. -/
def directory (home : Text) : Text := home ++ "/.config/agentdeck/themes/".toList

/-- The names of the files in which a theme may be: its own name, and that name
with underscores for spaces. -/
def fileNames (name : String) : List Text :=
  [ name.toList ++ ".toml".toList,
    name.toList.map (fun c => if c = ' ' then '_' else c) ++ ".toml".toList ]

/-- The first theme among the files of these names, and what is wrong with
those before it. -/
def fromFiles (directory : Text) (files : Text → File) : List Text → Option Theme × List Note
  | [] => (none, [])
  | fileName :: rest =>
    let next := fromFiles directory files rest
    let skipping (failure cause : String) : Option Theme × List Note :=
      (next.1, ⟨.warn, failure.toList ++ directory ++ fileName ++ ": ".toList ++ cause.toList⟩ :: next.2)
    match files fileName with
    | .missing | .blocked => next
    | .text t =>
      match ThemeFile.ofText? t with
      | some f => (some f.theme, [])
      | none => skipping "Failed to parse " "not a theme"
    | f => skipping "Failed to read " (f.trouble?.getD "")

/-- The theme of a name: from a file, else bundled, else the fallback. -/
def find (directory : Text) (files : Text → File) (name : String) : Theme × List Note :=
  match fromFiles directory files (fileNames name) with
  | (some theme, notes) => (theme, notes)
  | (none, notes) =>
    match bundled? name with
    | some theme => (theme, notes)
    | none =>
      (fallback,
        notes ++ [⟨.debug, "Theme '".toList ++ name.toList ++ "' not found, using fallback".toList⟩])

end Theme

end AgentConsole
