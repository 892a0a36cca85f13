/-
Parsed templates.

A template is a tree: literal text, placeholders for values, branches, the number
field `#` of a plural option, and sequences of these.  The parser makes only trees
whose sequences are flat and have no two literals side by side, but every function
here is defined on all trees.

Three views of a tree decide how a message is stored and compiled: whether it has a
branch, whether it is nothing but text, and which values it reads.
-/
import MessageTemplate.Branch

namespace MessageTemplate

/-- A parsed template. -/
inductive Node where
  /-- The parts one after the other. -/
  | sequence (parts : List Node)
  /-- Text that stands for itself. -/
  | literal (text : String)
  /-- The number that chose the nearest plural option. -/
  | numberField
  /-- The text of a value. -/
  | placeholder (name : String)
  /-- A choice by a value. -/
  | branch (choice : Branch Node)

namespace Node

/-- The node for the parts of a sequence: a single part stands for itself. -/
def ofParts : List Node → Node
  | [part] => part
  | parts => .sequence parts

mutual

/-- Whether a tree contains a branch. -/
def containsBranch : Node → Bool
  | .sequence parts => anyContainsBranch parts
  | .literal _ => false
  | .numberField => false
  | .placeholder _ => false
  | .branch _ => true

/-- Whether one of the parts contains a branch. -/
def anyContainsBranch : List Node → Bool
  | [] => false
  | part :: rest => part.containsBranch || anyContainsBranch rest

end

mutual

/-- The text of a tree that is nothing but literals. -/
def literalText : Node → Option String
  | .sequence parts => literalTexts parts
  | .literal text => some text
  | .numberField => none
  | .placeholder _ => none
  | .branch _ => none

/-- The texts of the parts, put together. -/
def literalTexts : List Node → Option String
  | [] => some ""
  | part :: rest => do
    let text ← part.literalText
    let texts ← literalTexts rest
    return text ++ texts

end

mutual

/-- The names of the values a tree reads, in the order in which they occur. -/
def occurringNames : Node → List String
  | .sequence parts => partNames parts
  | .literal _ => []
  | .numberField => []
  | .placeholder name => [name]
  | .branch choice => choice.name :: optionNames choice.options

/-- The names that occur in parts. -/
def partNames : List Node → List String
  | [] => []
  | part :: rest => part.occurringNames ++ partNames rest

/-- The names that occur in the contents of options. -/
def optionNames : List (String × Node) → List String
  | [] => []
  | (_, content) :: rest => content.occurringNames ++ optionNames rest

end

/-- Puts a name into an increasing list that has each name once. -/
def insertName (name : String) : List String → List String
  | [] => [name]
  | first :: rest =>
    if name = first then first :: rest
    else if name < first then name :: first :: rest
    else first :: insertName name rest

/-- The names of the values a tree reads, each once and in increasing order. -/
def valueNames (node : Node) : List String :=
  node.occurringNames.foldr insertName []

end Node

end MessageTemplate
