/-
Rendering a template from the command line.

Values come as text, and the kind of a value is read off its text: a whole number that
fits into sixty-four bits, else a floating-point number, else a truth value, else the
text itself.
-/
import MessageTemplate.CommandLine.Outcome
import MessageTemplate.Render

namespace MessageTemplate

/-- The value that a text on the command line stands for. -/
def Value.ofArgument (text : String) : Value :=
  let fits (n : Int) : Bool := Int64.minValue.toInt ≤ n && n ≤ Int64.maxValue.toInt
  match (Numeral.readInt? text.toList).filter fits with
  | some n => .ofInt n
  | none =>
    match Binary64.read? text with
    | some x => .float x
    | none =>
      if text == "true" then .bool true
      else if text == "false" then .bool false
      else .string text

/-- The values that pairs of names and texts give; the last pair for a name counts. -/
def Values.ofArguments (params : List (String × String)) : Values :=
  params.foldl (fun values (name, text) => values.insert name (Value.ofArgument text)) ∅

namespace CommandLine

/-- The result of rendering as JSON. -/
def evaluationJson (result : String) (diagnostics : List Diagnostic) : Json :=
  .object [("result", .string result),
    ("diagnostics", .array (diagnostics.map Diagnostic.toJson))]

/-- The lines that tell of a diagnostic. -/
def diagnosticLines : Diagnostic → List String
  | .invalidTemplate template error => faultLines "template" template error
  | diagnostic => [warningLine diagnostic.message]

/-- Whether a diagnostic says that the template does not parse. -/
def isInvalidTemplate (diagnostic : Diagnostic) : Bool :=
  diagnostic.toClass == .invalidTemplate

/-- Renders a template. -/
def evaluate (template : String) (params : List (String × String)) (json : Bool) : Outcome :=
  let (result, diagnostics) :=
    (interpret Sink.collector (Values.ofArguments params) template).run []
  let status :=
    if diagnostics.any isInvalidTemplate then ExitStatus.invalidTemplate else .success
  if json then Outcome.ofLines status [(evaluationJson result diagnostics).pretty] []
  else Outcome.ofLines status [result] (diagnostics.flatMap diagnosticLines)

end CommandLine

end MessageTemplate
