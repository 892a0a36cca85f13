/-
Running compiled templates.

Code is resolved first and run afterwards.  Resolving looks up every identifier in the
scope of its place, arms and statements included, and fails if one of them is not bound
to what its use needs.  What is left is a computation that cannot fail.

A lazy arm binds its parameter to the sink.  A block binds its buffer; its statements
may append only to that buffer, and only that buffer may be its result.
-/
import MessageTemplate.Compiled.Code
import MessageTemplate.Compiled.Resolve

namespace MessageTemplate

/-- What an identifier is bound to. -/
inductive Binding where
  | values
  | sink
  | buffer
deriving DecidableEq

/-- The identifiers in scope, the innermost first. -/
abbrev Scope : Type :=
  List (String × Binding)

/-- Whether an identifier is bound to something of the given sort. -/
def Scope.binds (scope : Scope) (identifier : String) (binding : Binding) : Bool :=
  scope.lookup identifier == some binding

/-- The scope of a function with parameters for the values and the sink. -/
def Scope.ofParameters (values sink : String) : Scope :=
  [(sink, .sink), (values, .values)]

section

variable {σ : Type} (sink : Sink σ) (values : Values)

/-- The computation of a call. -/
def Call.run? (scope : Scope) : Call → Option (StateM σ String)
  | text v s name =>
    if scope.binds v .values && scope.binds s .sink then
      some (Resolve.text sink values name)
    else none
  | number v name =>
    if scope.binds v .values then some (pure (Resolve.number values name)) else none

/-- The computation of calls, each with the fixed text after it. -/
def Flat.runHoles? (scope : Scope) : List (Call × String) → Option (StateM σ String)
  | [] => some (pure "")
  | (call, after) :: rest => do
    let run ← call.run? sink values scope
    let runRest ← runHoles? scope rest
    return do
      let text ← run
      let texts ← runRest
      return text ++ after ++ texts

/-- The computation of flat code. -/
def Flat.run? (scope : Scope) (flat : Flat) : Option (StateM σ String) := do
  let run ← Flat.runHoles? sink values scope flat.holes
  return do
    let texts ← run
    return flat.first ++ texts

mutual

/-- The computation that code stands for in a scope. -/
def Code.run? : Code → Scope → Option (StateM σ String)
  | .flat pieces, scope => pieces.run? sink values scope
  | .resolve kind v s name arms, scope =>
    if scope.binds v .values && scope.binds s .sink then do
      let arms ← runArms? arms scope
      return Resolve.branch sink values kind name arms
    else none
  | .block buffer statements result, scope =>
    if result = buffer then runStatements? statements buffer ((buffer, .buffer) :: scope)
    else none

/-- The arms of a resolver call, ready to be chosen from. -/
def Code.runArms? : List (String × ArmCode Code) → Scope → Option (List (String × Arm σ))
  | [], _ => some []
  | (key, .text text) :: rest, scope => do
    let arms ← runArms? rest scope
    return (key, .text text) :: arms
  | (key, .lazy parameter body) :: rest, scope => do
    let inner := match parameter with
      | some name => (name, Binding.sink) :: scope
      | none => scope
    let run ← body.run? inner
    let arms ← runArms? rest scope
    return (key, .lazy run) :: arms

/-- What the statements of a block append to its buffer. -/
def Code.runStatements? :
    List (Statement Code) → String → Scope → Option (StateM σ String)
  | [], _, _ => some (pure "")
  | .pushText target text :: rest, buffer, scope =>
    if target = buffer then do
      let runRest ← runStatements? rest buffer scope
      return do
        let texts ← runRest
        return text ++ texts
    else none
  | .pushCode target code :: rest, buffer, scope =>
    if target = buffer then do
      let run ← code.run? scope
      let runRest ← runStatements? rest buffer scope
      return do
        let text ← run
        let texts ← runRest
        return text ++ texts
    else none

end

end

end MessageTemplate
