/-
Rendering: what a template says for given values.

Rendering walks the tree once.  It carries the active number, which a plural branch
sets for the option it chooses and a number field shows; the option gives it back
simply by being over.  Contents of options are rendered only when they are chosen, so
that only what appears in the output is reported on.

A value that is missing or of no use leaves its name in braces in the output and one
diagnostic in the sink.  The two kinds of branches differ there: a select branch
without its value still renders `other`, a plural branch without a number does not.
-/
import MessageTemplate.Parser
import MessageTemplate.Plural
import MessageTemplate.Sink
import MessageTemplate.Value

namespace MessageTemplate

/-- What stands in the output for a value that cannot be shown. -/
def standIn (name : String) : String :=
  "\x7b" ++ name ++ "\x7d"

/-- What a number field shows, given the active number. -/
def numberFieldText : Option Binary64 → String
  | some n => n.display
  | none => "\x7b#\x7d"

/-- The content of an option, waiting for the active number. -/
abbrev Rendering (σ : Type) : Type :=
  Option Binary64 → StateM σ String

section

variable {σ : Type} (sink : Sink σ) (values : Values)

/-- The text of a value. -/
def renderPlaceholder (name : String) : StateM σ String :=
  match values[name]? with
  | some value => pure value.display
  | none => do
    sink.warn (.missingValue name)
    return standIn name

/-- The content chosen by the text of a value. -/
def renderSelect (branch : Branch (Rendering σ)) (number : Option Binary64) :
    StateM σ String :=
  match values[branch.name]? with
  | none => do
    sink.warn (.missingValue branch.name)
    match branch.option? otherKey with
    | some content => content number
    | none => return standIn branch.name
  | some value =>
    match branch.select value.display with
    | some content => content number
    | none => do
      sink.warn (.missingOption branch.name value.display)
      return standIn branch.name

/-- The content chosen by the category of a number, which becomes the active number. -/
def renderPlural (branch : Branch (Rendering σ)) : StateM σ String :=
  match values[branch.name]? with
  | none => do
    sink.warn (.missingValue branch.name)
    return standIn branch.name
  | some value =>
    match value.pluralOperand? with
    | none => do
      sink.warn (.notNumeric branch.name value.display)
      return standIn branch.name
    | some n =>
      match branch.select (pluralCategory n).key with
      | some content => content (some n)
      | none => do
        sink.warn (.missingOption branch.name (pluralCategory n).key)
        return standIn branch.name

/-- The content that a branch chooses. -/
def renderBranch (branch : Branch (Rendering σ)) (number : Option Binary64) :
    StateM σ String :=
  match branch.kind with
  | .select => renderSelect sink values branch number
  | .plural => renderPlural sink values branch

mutual

/-- Renders a tree under an active number. -/
def Node.renderUnder : Node → Rendering σ
  | .sequence parts, number => renderParts parts number
  | .literal text, _ => pure text
  | .numberField, number => pure (numberFieldText number)
  | .placeholder name, _ => renderPlaceholder sink values name
  | .branch choice, number =>
    renderBranch sink values
      { name := choice.name, kind := choice.kind, options := optionRenderings choice.options }
      number

/-- Renders parts from left to right. -/
def Node.renderParts : List Node → Rendering σ
  | [], _ => pure ""
  | part :: rest, number => do
    let text ← part.renderUnder number
    let texts ← renderParts rest number
    return text ++ texts

/-- The renderings of the contents of options, of which none runs before it is chosen. -/
def Node.optionRenderings : List (String × Node) → List (String × Rendering σ)
  | [] => []
  | (key, content) :: rest => (key, content.renderUnder) :: optionRenderings rest

end

/-- Renders a template. -/
def Node.render (node : Node) : StateM σ String :=
  node.renderUnder sink values none

/-- Parses and renders a template.  One that does not parse is reported and stands for
itself. -/
def interpret (template : String) : StateM σ String :=
  match parse template with
  | .ok node => node.render sink values
  | .error error => do
    sink.warn (.invalidTemplate template error)
    return template

end

end MessageTemplate
