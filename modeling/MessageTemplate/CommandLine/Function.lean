/-
Printing the function compiled from a template.

The template itself stands above the function as its documentation, on one line.
-/
import MessageTemplate.Catalog
import MessageTemplate.CommandLine.Outcome
import MessageTemplate.Compiled.Layout

namespace MessageTemplate

namespace CommandLine

/-- A character of the documentation line: a line feed is shown by its escape. -/
def documentationChar (c : Char) : List Char :=
  if c == '\n' then ['\\', 'n'] else [c]

/-- The line that documents a function by its template. -/
def documentationLine (template : String) : String :=
  "/// " ++ String.ofList (template.toList.flatMap documentationChar)

/-- The first line of a function. -/
def headLine (name : String) (function : CompiledFunction) : String :=
  "pub fn " ++ name ++ "(" ++ function.values ++ ": &::icumsg::Values, " ++ function.sink ++
    ": &mut dyn ::icumsg::DiagnosticSink) -> String \x7b"

/-- The lines of the function for a template. -/
def functionLines (template name runtimePath : String) (node : Node) : List String :=
  let function := CompiledFunction.ofNode node
  let style := { SourceStyle.standard with path := runtimePath }
  documentationLine template :: headLine name function ::
    function.body.source style 1 ++ ["\x7d"]

/-- Prints the function for a template. -/
def generate (template name runtimePath : String) : Outcome :=
  match parse template with
  | .ok node => Outcome.ofLines .success (functionLines template name runtimePath node) []
  | .error error => Outcome.ofLines .invalidTemplate [] (faultLines "template" template error)

end CommandLine

end MessageTemplate
