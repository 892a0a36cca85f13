/-
The lexemes of Rust source.

Source consists of lexemes with layout between them.  A delimiter and each character of
an operator is a lexeme by itself.  The value of a string literal matters here, that of
any other literal does not.
-/
namespace MessageTemplate

namespace Source

/-- The delimiters, which come in pairs. -/
inductive Delimiter where
  | parenthesis
  | bracket
  | brace
deriving DecidableEq

/-- A lexeme of Rust source. -/
inductive Lexeme where
  | opening (delimiter : Delimiter)
  | closing (delimiter : Delimiter)
  /-- A character of an operator. -/
  | punct (c : Char)
  /-- An identifier or a keyword; a raw identifier includes its mark. -/
  | word (name : String)
  /-- A string literal, by its value. -/
  | string (value : String)
  /-- Any other literal. -/
  | literal
deriving DecidableEq

/-- Whether the delimiters of lexemes match, given those that are open, the innermost
first. -/
def matchDelimiters : List Delimiter → List Lexeme → Bool
  | unclosed, [] => unclosed.isEmpty
  | unclosed, .opening delimiter :: rest => matchDelimiters (delimiter :: unclosed) rest
  | innermost :: unclosed, .closing delimiter :: rest =>
    innermost == delimiter && matchDelimiters unclosed rest
  | [], .closing _ :: _ => false
  | unclosed, _ :: rest => matchDelimiters unclosed rest

/-- Whether the delimiters of lexemes match in pairs. -/
def isBalanced (lexemes : List Lexeme) : Bool :=
  matchDelimiters [] lexemes

/-! ### Runs of lexemes -/

/-- Lexemes between a pair of delimiters. -/
def group (delimiter : Delimiter) (lexemes : List Lexeme) : List Lexeme :=
  .opening delimiter :: lexemes ++ [.closing delimiter]

/-- The lexemes between which there is nothing but commas. -/
def separated (runs : List (List Lexeme)) : List Lexeme :=
  List.intercalate [.punct ','] runs

/-- A path: two colons in front of each of its names. -/
def path (names : List String) : List Lexeme :=
  names.flatMap fun name => [.punct ':', .punct ':', .word name]

/-- The attribute without its hash that holds a documentation text. -/
def documentationItem (text : String) : List Lexeme :=
  group .bracket [.word "doc", .punct '=', .string text]

/-- Documentation of what follows. -/
def documentation (text : String) : List Lexeme :=
  .punct '#' :: documentationItem text

/-- Documentation of what encloses it. -/
def innerDocumentation (text : String) : List Lexeme :=
  .punct '#' :: .punct '!' :: documentationItem text

end Source

end MessageTemplate
