/-
Reports of parse errors: what a user is shown.

A report says what is wrong, marks the token at fault by its bytes in the template, and
in the common cases says what to do.  At the end of the input there is no token, and the
mark is empty.
-/
import MessageTemplate.ParseError

namespace MessageTemplate

/-- A parse error as it is shown to a user. -/
structure ErrorReport where
  message : String
  help : Option String
  code : String
  /-- The first byte of the marked part of the template. -/
  byteOffset : Nat
  /-- The number of marked bytes. -/
  byteLength : Nat
  label : String
deriving DecidableEq

/-- Advice for a fault. -/
def ParseFault.help : ParseFault → Option String
  | unmatchedClosingBrace => some "quote it as '\x7d' to print a literal brace"
  | unclosedBrace => some "add the missing '\x7d'"
  | unclosedQuote => some "use '' for a literal apostrophe"
  | invalidOperator operator =>
    (BranchKind.suggestion operator).map fun kind => "did you mean '" ++ kind.operator ++ "'?"
  | emptyBranch _ => some "add at least an 'other\x7b...\x7d' option"
  | unexpectedToken _ _ => none
  | nestingTooDeep _ => none

/-- The report of an error in a template. -/
def ParseError.report (error : ParseError) (template : String) : ErrorReport :=
  { message := "syntax error: " ++ error.fault.message
    help := error.fault.help
    code := "icumsg::syntax"
    byteOffset := error.byteOffset template
    byteLength := ((lex template)[error.tokenIndex]?.map (·.source.utf8ByteSize)).getD 0
    label := "error here" }

end MessageTemplate
