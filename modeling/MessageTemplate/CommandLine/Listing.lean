/-
Listing the tokens of a template from the command line.
-/
import MessageTemplate.CommandLine.Outcome
import MessageTemplate.Json
import MessageTemplate.Token.Table

namespace MessageTemplate

/-- A row of a token listing as JSON. -/
def Token.Row.toJson (row : Token.Row) : Json :=
  .object [("index", .integer row.index), ("offset", .integer row.offset),
    ("kind", .string row.kind), ("text", .string row.text)]

namespace CommandLine

/-- Lists the tokens of a template, as a table or as JSON. -/
def listTokens (template : String) (json : Bool) : Outcome :=
  let rows := Token.rows (lex template)
  Outcome.ofLines .success
    (if json then [(Json.array (rows.map Token.Row.toJson)).pretty] else Token.tableLines rows)
    []

end CommandLine

end MessageTemplate
