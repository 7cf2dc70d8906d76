import AgentConsole.CommandLine.Basic
import AgentConsole.Config.Load

/-!
# Inspecting the configuration

What the program prints about its configuration instead of starting the
console.
-/

namespace AgentConsole.CommandLine

/-- Flags win over everything else. -/
def Invocation.apply (i : Invocation) (c : Config) : Config :=
  { c with demo := i.demo || c.demo, theme := i.theme.getD c.theme }

/-- What is printed, and the warning that goes with it. -/
structure Report where
  output : Text
  warning : Option Config.Warning := none

/-- Lines of output. -/
def ofLines (lines : List String) : Text := lines.flatMap fun line => line.toList ++ ['\n']

/-- How the subcommand is used. -/
def usage : Text :=
  ofLines
    [ "Usage: agentdeck config [--show|--path]",
      "",
      "Options:",
      "  --show    Display effective configuration",
      "  --path    Show config file path" ]

/-- The configuration in force, written out. -/
def effective (i : Invocation) (home : Text) (f : File) (v : Config.Variables) : Report :=
  let (c, warning) := Config.load f v
  let c := i.apply c
  let source :=
    if f.isThere then "# Source: ".toList ++ Config.path home
    else "# Source: defaults (no config file)".toList
  { output :=
      ofLines ["# Effective configuration (flags > env > file > defaults)"]
        ++ "# demo_mode = ".toList ++ Toml.ofBool c.demo ++ ['\n', '\n']
        ++ c.document ++ '\n' :: source ++ ['\n']
    warning }

/-- What the program prints instead of starting the console; the path goes
before the configuration if both are asked for. -/
def Invocation.report? (i : Invocation) (home : Text) (f : File) (v : Config.Variables) :
    Option Report :=
  i.inspection.map fun what =>
    if what.path then { output := Config.path home ++ ['\n'] }
    else if what.show? then effective i home f v
    else { output := usage }

end AgentConsole.CommandLine
