/-
What compiled templates call when they run.

These functions decide at run time what the compiler could not know: the text of a
value, the number of a value, and which arm of a branch is chosen.  An arm that is a
text needs no work; any other arm runs only when it is chosen.
-/
import MessageTemplate.Plural
import MessageTemplate.Branch
import MessageTemplate.Sink
import MessageTemplate.Value

namespace MessageTemplate

/-- The content of an option in running code. -/
inductive Arm (σ : Type) where
  | text (text : String)
  | lazy (run : StateM σ String)

namespace Arm

variable {σ : Type}

/-- The text of an arm. -/
def render : Arm σ → StateM σ String
  | text t => pure t
  | lazy run => run

end Arm

namespace Resolve

variable {σ : Type} (sink : Sink σ) (values : Values)

/-- A name in braces. -/
def braced (name : String) : String :=
  "\x7b" ++ name ++ "\x7d"

/-- The text of a value, or its name in braces when it is missing. -/
def text (name : String) : StateM σ String :=
  match values[name]? with
  | some value => pure value.display
  | none => do
    sink.warn (.missingValue name)
    return braced name

/-- The text of the number that a value stands for. -/
def number (name : String) : String :=
  match values[name]?.bind Value.pluralOperand? with
  | some n => n.display
  | none => braced "#"

/-- Reports that a branch has no arm for a key. -/
def missingOption (name key : String) : StateM σ String := do
  sink.warn (.missingOption name key)
  return braced name

/-- The arm chosen by the text of a value; without a value, the arm `other`. -/
def select (name : String) (arms : List (String × Arm σ)) : StateM σ String :=
  match values[name]? with
  | none => do
    sink.warn (.missingValue name)
    match arms.lookup otherKey with
    | some arm => arm.render
    | none => return braced name
  | some value =>
    match selectOption arms value.display with
    | some arm => arm.render
    | none => missingOption sink name value.display

/-- The arm chosen by the category of a value's number. -/
def plural (name : String) (arms : List (String × Arm σ)) : StateM σ String :=
  match values[name]? with
  | none => do
    sink.warn (.missingValue name)
    return braced name
  | some value =>
    match value.pluralOperand? with
    | none => do
      sink.warn (.notNumeric name value.display)
      return braced name
    | some n =>
      match selectOption arms (pluralCategory n).key with
      | some arm => arm.render
      | none => missingOption sink name (pluralCategory n).key

/-- The resolver for a kind of branch. -/
def branch (kind : BranchKind) (name : String) (arms : List (String × Arm σ)) :
    StateM σ String :=
  match kind with
  | .plural => plural sink values name arms
  | .select => select sink values name arms

end Resolve

end MessageTemplate
