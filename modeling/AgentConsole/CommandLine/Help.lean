import AgentConsole.CommandLine.Inspect

/-!
# Help on the command line

What is printed when the arguments ask for help or for the version, and when
they are refused.
-/

namespace AgentConsole.CommandLine

/-- The version of the program. -/
def version : Text := "0.1.0".toList

/-- How the program is used. -/
def help : Text :=
  ofLines
    [ "Terminal console for coding-agent sessions across git worktrees",
      "",
      "Usage: agentdeck [OPTIONS] [COMMAND]",
      "",
      "Commands:",
      "  config  Inspect configuration",
      "  help    Print this message or the help of the given subcommand(s)",
      "",
      "Options:",
      "      --demo          Run against the built-in demo backend (simulated worktrees and sessions)",
      "      --theme <NAME>  Theme name (overrides config file and AGENTDECK_THEME)",
      "  -h, --help          Print help",
      "  -V, --version       Print version" ]

/-- What is printed instead of doing anything. -/
def Refusal.message : Refusal → Text
  | help => CommandLine.help
  | version => "agentdeck ".toList ++ CommandLine.version ++ ['\n']
  | unknownArgument => ofLines ["error: unexpected argument found"]
  | missingValue => ofLines ["error: a value is required for '--theme <NAME>' but none was supplied"]
  | unexpectedValue => ofLines ["error: unexpected value for a flag"]
  | repeated => ofLines ["error: an argument cannot be used multiple times"]
  | unknownSubcommand => ofLines ["error: unrecognized subcommand"]

/-- Why the console is not started without simulated agents. -/
def noAgents : Text :=
  ofLines
    [ "Error: no session backend configured; run `agentdeck --demo` (or set AGENTDECK_DEMO=1) "
        ++ "to try the console with simulated agents" ]

end AgentConsole.CommandLine
