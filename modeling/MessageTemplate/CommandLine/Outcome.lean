/-
What a run of the program leaves behind: an exit status and the text on its two output
streams.
-/
import MessageTemplate.ErrorReport

namespace MessageTemplate

namespace CommandLine

/-- How a run ended. -/
inductive ExitStatus where
  | success
  /-- The arguments make no request. -/
  | badArguments
  /-- There was no template to check. -/
  | noTemplates
  | invalidTemplate
  | unreadableFile
deriving DecidableEq

/-- The number of an exit status. -/
def ExitStatus.code : ExitStatus → Nat
  | success => 0
  | badArguments => 2
  | noTemplates => 64
  | invalidTemplate => 65
  | unreadableFile => 66

/-- What a run leaves behind. -/
structure Outcome where
  status : ExitStatus
  /-- The text on the standard output. -/
  output : String
  /-- The text on the standard error stream. -/
  messages : String
deriving DecidableEq

/-- Lines, each with its end. -/
def unlines (lines : List String) : String :=
  String.join (lines.map (· ++ "\n"))

/-- The outcome with the given lines on the two streams. -/
def Outcome.ofLines (status : ExitStatus) (output messages : List String) : Outcome :=
  { status, output := unlines output, messages := unlines messages }

/-! ### Marked words -/

/-- A text in a color of the terminal. -/
def colored (color : String) (text : String) : String :=
  "\x1b[" ++ color ++ "m" ++ text ++ "\x1b[39m"

/-- A bold text. -/
def bold (text : String) : String :=
  "\x1b[1m" ++ text ++ "\x1b[0m"

/-- A line with a word in front of it that says all is well. -/
def okLine (text : String) : String :=
  colored "32" "ok" ++ " " ++ text

/-- A line that warns. -/
def warningLine (text : String) : String :=
  bold (colored "33" "warning:") ++ " " ++ text

/-- A line that tells of an error. -/
def errorLine (text : String) : String :=
  bold (colored "31" "error:") ++ " " ++ text

/-- The lines for a template that does not parse. -/
def faultLines (source template : String) (error : ParseError) : List String :=
  let report := error.report template
  let (line, column) := error.lineColumn template
  errorLine (source ++ ":" ++ toString line ++ ":" ++ toString column ++ ": " ++
      report.message)
    :: (report.help.map ("help: " ++ ·)).toList

end CommandLine

end MessageTemplate
