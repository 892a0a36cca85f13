/-
Tokens of a message template.

A template is text in which five characters have a meaning of their own: the two
braces, the comma, the hash and the quote.  Every other character belongs to a run,
and there are two kinds of runs, spaces and text.  The lexer only classifies; what a
quote quotes and what a hash means is decided by the parser.

The lexer is total and loses nothing.  Neighbouring characters fall into one run
exactly when `joins` says so, and a run becomes one token, so the sources of the
tokens, put side by side, are the template again and no two runs of one kind stand
next to each other.
-/
namespace MessageTemplate

/-- A lexical token of a message template. -/
inductive Token where
  | leftBrace
  | rightBrace
  | comma
  | hash
  | quote
  /-- A run of spaces. -/
  | spaces (run : String)
  /-- A run of characters with no meaning of their own. -/
  | text (run : String)
deriving DecidableEq

namespace Token

/-- The part of the template that a token stands for. -/
def source : Token → String
  | leftBrace => "\x7b"
  | rightBrace => "\x7d"
  | comma => ","
  | hash => "#"
  | quote => "'"
  | spaces run => run
  | text run => run

/-- The number of characters that a token stands for. -/
def length (token : Token) : Nat :=
  token.source.length

/-- How an error message names a token: text by its characters, spaces as a whole, and
the other tokens by the character between quotes. -/
def describe : Token → String
  | spaces _ => "whitespace"
  | text run => "text \"" ++ run ++ "\""
  | sign => "'" ++ sign.source ++ "'"

/-- The characters that are tokens by themselves. -/
def isSign (c : Char) : Bool :=
  c == '{' || c == '}' || c == ',' || c == '#' || c == '\''

/-- Whether two neighbouring characters belong to one run. -/
def joins (a b : Char) : Bool :=
  !isSign a && !isSign b && (a == ' ') == (b == ' ')

/-- The token that a run of joined characters makes. -/
def ofRun : List Char → Token
  | ['{'] => leftBrace
  | ['}'] => rightBrace
  | [','] => comma
  | ['#'] => hash
  | ['\''] => quote
  | ' ' :: rest => spaces (String.ofList (' ' :: rest))
  | run => text (String.ofList run)

end Token

/-- The tokens of a template: one for each run of joined characters. -/
def lex (template : String) : List Token :=
  (template.toList.splitBy Token.joins).map Token.ofRun

end MessageTemplate
