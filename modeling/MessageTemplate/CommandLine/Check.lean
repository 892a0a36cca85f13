/-
Checking templates from the command line.

The templates are the operands, each named by its position, and the lines of a file that
are not blank, each named by the file and the number of the line.  Blank lines are
counted.
-/
import MessageTemplate.CommandLine.Outcome
import MessageTemplate.Json
import MessageTemplate.Parser
import MessageTemplate.Text.Blank
import MessageTemplate.Text.Lines

namespace MessageTemplate

namespace CommandLine

/-- A template that was checked. -/
structure CheckedTemplate where
  /-- Where the template came from. -/
  source : String
  template : String
  /-- Why it does not parse, if it does not. -/
  error : Option ParseError
deriving DecidableEq

namespace CheckedTemplate

/-- Checks a template. -/
def ofTemplate (source template : String) : CheckedTemplate :=
  { source, template
    error :=
      match parse template with
      | .ok _ => none
      | .error error => some error }

/-- Whether a template parses. -/
def isValid (checked : CheckedTemplate) : Bool :=
  checked.error.isNone

/-- The line and the column of the error as JSON. -/
def positionJson (checked : CheckedTemplate) : Json :=
  match checked.error with
  | none => .null
  | some error =>
    let (line, column) := error.lineColumn checked.template
    .array [.integer line, .integer column]

/-- The result of a check as JSON. -/
def toJson (checked : CheckedTemplate) : Json :=
  .object [("source", .string checked.source), ("template", .string checked.template),
    ("valid", .bool checked.isValid),
    ("error", (checked.error.map fun error => Json.string error.message).getD .null),
    ("position", checked.positionJson)]

/-- The lines about a template that does not parse. -/
def faultLines (checked : CheckedTemplate) : List String :=
  match checked.error with
  | none => []
  | some error => CommandLine.faultLines checked.source checked.template error

end CheckedTemplate

/-- Whether a text consists of blanks. -/
def isBlankText (text : String) : Bool :=
  text.toList.all isBlank

/-- Checks the operands. -/
def checkOperands (templates : List String) : List CheckedTemplate :=
  (templates.zipIdx 1).map fun (template, position) =>
    CheckedTemplate.ofTemplate ("argument " ++ toString position) template

/-- Checks the lines of a file. -/
def checkLines (file content : String) : List CheckedTemplate :=
  (((linesOf content).zipIdx 1).filter fun (line, _) => !isBlankText line).map
    fun (line, number) => CheckedTemplate.ofTemplate (file ++ ":" ++ toString number) line

/-- Tells of templates that were checked. -/
def reportChecks (results : List CheckedTemplate) (json : Bool) : Outcome :=
  let invalid := results.filter (!·.isValid)
  let status := if invalid.isEmpty then ExitStatus.success else .invalidTemplate
  if results.isEmpty then
    Outcome.ofLines .noTemplates [] [errorLine "no templates given"]
  else if json then
    Outcome.ofLines status [(Json.array (results.map CheckedTemplate.toJson)).pretty] []
  else
    Outcome.ofLines status ((results.filter (·.isValid)).map (okLine ·.source))
      (invalid.flatMap CheckedTemplate.faultLines ++
        if invalid.isEmpty then []
        else [errorLine (toString invalid.length ++ " of " ++ toString results.length ++
          " templates failed to parse")])

/-- Checks templates; `files` gives the content of a file that can be read. -/
def check (files : String → Option String) (templates : List String) (file : Option String)
    (json : Bool) : Outcome :=
  match file with
  | none => reportChecks (checkOperands templates) json
  | some file =>
    match files file with
    | some content => reportChecks (checkOperands templates ++ checkLines file content) json
    | none =>
      Outcome.ofLines .unreadableFile [] [errorLine ("cannot read '" ++ file ++ "'")]

end CommandLine

end MessageTemplate
