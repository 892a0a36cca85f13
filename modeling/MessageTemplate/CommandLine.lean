/-
The program: its arguments and the files it can read determine what it leaves behind.
-/
import MessageTemplate.CommandLine.Arguments
import MessageTemplate.CommandLine.Check
import MessageTemplate.CommandLine.Evaluate
import MessageTemplate.CommandLine.Function
import MessageTemplate.CommandLine.Listing

namespace MessageTemplate

namespace CommandLine

/-- The commands at a glance. -/
def overview : List String :=
  ["ICU message template tools",
   "",
   "Usage: icumsg [OPTIONS] <COMMAND>",
   "",
   "Commands:",
   "  eval      Render a template with values",
   "  check     Check template syntax",
   "  tokens    Show the tokens of a template",
   "  generate  Print the Rust function generated for a template",
   "  help      Print this message or the help of the given subcommand(s)",
   "",
   "Options:",
   "      --color <COLOR>  Color output control [default: auto] " ++
    "[possible values: auto, always, never]",
   "  -v, --verbose        Enable verbose output",
   "  -h, --help           Print help",
   "  -V, --version        Print version"]

/-- What a run leaves behind when no command is carried out. -/
def Stop.outcome : Stop → Outcome
  | usage => Outcome.ofLines .badArguments [] overview
  | help => Outcome.ofLines .success overview []
  | version => Outcome.ofLines .success ["icumsg 0.1.0"] []

/-- Carries out a request; `files` gives the content of a file that can be read. -/
def Request.run (files : String → Option String) : Request → Outcome
  | eval template params json => evaluate template params json
  | check templates file json => CommandLine.check files templates file json
  | tokens template json => listTokens template json
  | generate template name runtimePath => CommandLine.generate template name runtimePath

/-- Runs the program with arguments. -/
def run (files : String → Option String) (words : List String) : Outcome :=
  match Request.ofArguments words with
  | .ok request => request.run files
  | .error stop => stop.outcome

/-- The file that the program reads when it runs with arguments. -/
def fileNeeded (words : List String) : Option String :=
  match Request.ofArguments words with
  | .ok (.check _ file _) => file
  | _ => none

end CommandLine

end MessageTemplate
