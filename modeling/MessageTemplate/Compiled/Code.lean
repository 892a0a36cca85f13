/-
Compiled templates.

A template compiles to one Rust expression of type `String`.  `Code` is the syntax of
the expressions that occur, with every identifier in its place, and `Code.ofNode` is
the compiler.

There are three shapes.  A tree without branches is flat: fixed texts with calls in
between, one format string in source.  A branch is a call of a resolver with one arm
for each option.  A sequence with branches is a block that appends its parts to a
buffer, with neighbouring flat parts appended as one.

The number of a plural branch is not passed to its arms.  Instead the compiler knows at
each number field which plural branch is the nearest around it, and the code asks again
for the number of that branch's value.
-/
import MessageTemplate.Node

namespace MessageTemplate

/-- The identifiers that code uses for the things it reads and writes. -/
structure CodeNames where
  /-- The values. -/
  values : String
  /-- The sink of diagnostics. -/
  sink : String
  /-- The output buffer of a block. -/
  buffer : String
deriving DecidableEq

/-- The identifiers used unless the caller says otherwise. -/
def CodeNames.standard : CodeNames :=
  { values := "values", sink := "sink", buffer := "out" }

/-- A call that gives the text of a value or of a number. -/
inductive Call where
  | text (values sink name : String)
  | number (values name : String)
deriving DecidableEq

/-- Fixed texts with calls in between: a first text, and then for each call the text
after it. -/
structure Flat where
  first : String
  holes : List (Call × String)
deriving DecidableEq

namespace Flat

/-- No text and no call. -/
def empty : Flat :=
  { first := "", holes := [] }

/-- A fixed text. -/
def ofText (text : String) : Flat :=
  { first := text, holes := [] }

/-- One call. -/
def ofCall (call : Call) : Flat :=
  { first := "", holes := [(call, "")] }

/-- Adds a text at the end of texts that follow calls, or of `first` if there is no
call. -/
def appendText (first : String) (text : String) :
    List (Call × String) → String × List (Call × String)
  | [] => (first ++ text, [])
  | (call, after) :: rest =>
    let (after, rest) := appendText after text rest
    (first, (call, after) :: rest)

/-- One piece after another; the texts that meet become one. -/
def append (a b : Flat) : Flat :=
  let (first, holes) := appendText a.first b.first a.holes
  { first, holes := holes ++ b.holes }

/-- Whether there is no call. -/
def isText (flat : Flat) : Bool :=
  flat.holes.isEmpty

end Flat

/-- The value of an arm: a text, or code that runs when the arm is chosen, with its
own name for the sink if it has one. -/
inductive ArmCode (γ : Type) where
  | text (text : String)
  | lazy (parameter : Option String) (body : γ)

/-- A statement of a block: it appends something to a buffer. -/
inductive Statement (γ : Type) where
  | pushText (buffer text : String)
  | pushCode (buffer : String) (code : γ)

/-- An expression. -/
inductive Code where
  /-- A fixed text, or a format string with its arguments. -/
  | flat (pieces : Flat)
  /-- A call of the resolver for a kind of branch. -/
  | resolve (kind : BranchKind) (values sink name : String)
    (arms : List (String × ArmCode Code))
  /-- A block that declares a buffer, runs statements and gives a buffer back. -/
  | block (buffer : String) (statements : List (Statement Code)) (result : String)

namespace Code

variable (names : CodeNames)

mutual

/-- The flat code for a tree without branches; `number` names the value of the nearest
plural branch around it.  A branch has no flat code and contributes nothing. -/
def flatten (number : Option String) : Node → Flat
  | .sequence parts => flattenParts number parts
  | .literal text => Flat.ofText text
  | .numberField =>
    match number with
    | some name => Flat.ofCall (.number names.values name)
    | none => Flat.ofText "\x7b#\x7d"
  | .placeholder name => Flat.ofCall (.text names.values names.sink name)
  | .branch _ => Flat.empty

/-- The flat code for parts without branches. -/
def flattenParts (number : Option String) : List Node → Flat
  | [] => Flat.empty
  | part :: rest => (flatten number part).append (flattenParts number rest)

end

/-- The statement for a run of flat parts, if the run has any part. -/
def flushRun : Option Flat → List (Statement Code)
  | none => []
  | some run =>
    if run.isText then [.pushText names.buffer run.first]
    else [.pushCode names.buffer (.flat run)]

/-- The name under which an arm gets the sink: none if its content reads no value. -/
def armParameter (content : Node) : Option String :=
  if content.valueNames.isEmpty then none else some names.sink

/-- The arm for flat content. -/
def flatArm (content : Node) (flat : Flat) : ArmCode Code :=
  if flat.isText then .text flat.first else .lazy (armParameter names content) (.flat flat)

/-- The name of the value whose number the number fields of an option show. -/
def optionNumber (kind : BranchKind) (name : String) (number : Option String) :
    Option String :=
  match kind with
  | .plural => some name
  | .select => number

mutual

/-- The code for a tree; `number` names the value of the nearest plural branch around
it. -/
def ofNode : Node → Option String → Code
  | .branch choice, number =>
    .resolve choice.kind names.values names.sink choice.name
      (armsOf choice.options (optionNumber choice.kind choice.name number))
  | .sequence parts, number =>
    if Node.anyContainsBranch parts then
      .block names.buffer (statementsOf parts none number) names.buffer
    else .flat (flattenParts names number parts)
  | .literal text, number => .flat (flatten names number (.literal text))
  | .numberField, number => .flat (flatten names number .numberField)
  | .placeholder name, number => .flat (flatten names number (.placeholder name))

/-- The statements for the parts of a sequence; `run` is what the flat parts just
before them amount to. -/
def statementsOf : List Node → Option Flat → Option String → List (Statement Code)
  | [], run, _ => flushRun names run
  | part :: rest, run, number =>
    if part.containsBranch then
      flushRun names run ++
        .pushCode names.buffer (ofNode part number) :: statementsOf rest none number
    else
      statementsOf rest (some ((run.getD Flat.empty).append (flatten names number part))) number

/-- The arms for options. -/
def armsOf : List (String × Node) → Option String → List (String × ArmCode Code)
  | [], _ => []
  | (key, content) :: rest, number =>
    let arm :=
      if content.containsBranch then .lazy (armParameter names content) (ofNode content number)
      else flatArm names content (flatten names number content)
    (key, arm) :: armsOf rest number

end

end Code

/-- Compiles a template. -/
def Node.compile (node : Node) (names : CodeNames) : Code :=
  Code.ofNode names node none

end MessageTemplate
