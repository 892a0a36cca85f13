/-
Why a template does not parse, and where.

An error names its cause, the token at fault and the number of characters before that
token.  The place can be told in two more ways once the template is known: by line and
column, and by bytes.  All of them count from the same offset, so they denote one
place.
-/
import MessageTemplate.EditDistance
import MessageTemplate.Node
import MessageTemplate.Token

namespace MessageTemplate

/-- What the parser waits for. -/
inductive ParserState where
  | text
  | quotedText
  /-- Right after an opening brace. -/
  | variableName
  | afterVariableName
  | operatorName
  | afterOperatorName
  /-- A key of the next option, or the brace that closes the branch. -/
  | optionKey
  | afterOptionKey
deriving DecidableEq

/-- What an error message says was expected. -/
def ParserState.describe : ParserState → String
  | text => "text"
  | quotedText => "quoted text"
  | variableName => "a variable name"
  | afterVariableName => "',' or '\x7d' after the variable name"
  | operatorName => "an operator name"
  | afterOperatorName => "',' after the operator name"
  | optionKey => "an option key or '\x7d'"
  | afterOptionKey => "'\x7b' after the option key"

/-- The first of the kinds of branches whose names are nearest to a misspelt operator, of
those at most two edits away. -/
def BranchKind.nearest? (kinds : List BranchKind) (operator : String) : Option BranchKind :=
  let distances := kinds.map fun kind => (editDistance operator kind.operator, kind)
  ((distances.filter (·.1 ≤ 2)).minOn? (·.1)).map (·.2)

/-- The kind of branch that a misspelt operator was probably meant to name. -/
def BranchKind.suggestion (operator : String) : Option BranchKind :=
  nearest? all operator

/-- Why a template does not parse. -/
inductive ParseFault where
  /-- A closing brace with nothing open. -/
  | unmatchedClosingBrace
  /-- The end of the input inside braces. -/
  | unclosedBrace
  /-- The end of the input inside a quoted run. -/
  | unclosedQuote
  | invalidOperator (operator : String)
  | unexpectedToken (token : Token) (state : ParserState)
  /-- A branch that closes without any option. -/
  | emptyBranch (name : String)
  | nestingTooDeep (maxDepth : Nat)
deriving DecidableEq

/-- The wording of a fault. -/
def ParseFault.message : ParseFault → String
  | unmatchedClosingBrace => "encountered '\x7d' without a prior '\x7b'"
  | unclosedBrace => "encountered unclosed '\x7b'"
  | unclosedQuote => "encountered unclosed quote"
  | invalidOperator operator =>
    "invalid operator '" ++ operator ++ "', expected 'plural' or 'select'" ++
      match BranchKind.suggestion operator with
      | some kind => " (did you mean '" ++ kind.operator ++ "'?)"
      | none => ""
  | unexpectedToken token state =>
    "unexpected " ++ token.describe ++ ", expected " ++ state.describe
  | emptyBranch name => "branch '" ++ name ++ "' has no options"
  | nestingTooDeep maxDepth =>
    "nesting exceeds the maximum depth of " ++ toString maxDepth

/-- A fault and its place. -/
structure ParseError where
  fault : ParseFault
  /-- The number of characters before the token at fault. -/
  offset : Nat
  /-- The position of the token at fault, or the number of tokens at the end of the
  input. -/
  tokenIndex : Nat
deriving DecidableEq

namespace ParseError

/-- The wording of an error. -/
def message (error : ParseError) : String :=
  error.fault.message ++ " at character " ++ toString error.offset

/-- One character further in a text, in lines and columns. -/
def advance (place : Nat × Nat) (c : Char) : Nat × Nat :=
  if c = '\n' then (place.1 + 1, 1) else (place.1, place.2 + 1)

/-- The line and the column of an error, both counted from one. -/
def lineColumn (error : ParseError) (template : String) : Nat × Nat :=
  (template.toList.take error.offset).foldl advance (1, 1)

/-- The bytes at which characters start, if the first of them starts at the given byte. -/
def startBytes (first : Nat) : List Char → List Nat
  | [] => []
  | c :: rest => first :: startBytes (first + c.utf8Size) rest

/-- The byte at which the character of an error starts; past the end of the template it is
the end. -/
def byteOffset (error : ParseError) (template : String) : Nat :=
  (startBytes 0 template.toList)[error.offset]?.getD template.utf8ByteSize

end ParseError

end MessageTemplate
