/-
From Rust source to its lexemes.

A literal is tried first, then a character of an operator, then a word; what is none of
these cannot be scanned.  A comment that documents something stands for an attribute
with the text of the comment.  Scanning also checks that the delimiters match.
-/
import MessageTemplate.Source.Layout
import MessageTemplate.Source.Lexeme
import MessageTemplate.Source.NumberLiteral
import MessageTemplate.Source.StringLiteral

namespace MessageTemplate

namespace Source

/-! ### Literals -/

/-- A literal by its value or without it, and the text after its suffix. -/
def withSuffix {α : Type} (lexeme : α → Lexeme) (reading : Reading α) : Reading Lexeme :=
  reading.map fun (value, rest) => (lexeme value, afterSuffix rest)

/-- A literal whose value does not matter. -/
def withoutValue {α : Type} (_ : α) : Lexeme :=
  .literal

/-- A string literal with the given value. -/
def ofCharacters (value : List Char) : Lexeme :=
  .string (String.ofList value)

/-- The literal at the start of a text. -/
def readLiteral : List Char → Reading Lexeme
  | '"' :: rest => withSuffix ofCharacters (readCooked .text false rest)
  | 'r' :: rest => withSuffix ofCharacters (readRawLiteral .text rest)
  | 'b' :: '"' :: rest => withSuffix withoutValue (readCooked .bytes false rest)
  | 'b' :: 'r' :: rest => withSuffix withoutValue (readRawLiteral .bytes rest)
  | 'c' :: '"' :: rest => withSuffix withoutValue (readCooked .c false rest)
  | 'c' :: 'r' :: rest => withSuffix withoutValue (readRawLiteral .c rest)
  | 'b' :: '\'' :: rest => withSuffix withoutValue (readCharacter .bytes rest)
  | '\'' :: rest => withSuffix withoutValue (readCharacter .text rest)
  | c :: rest =>
    if c.isDigit then (afterNumberLiteral? (c :: rest)).map (.literal, ·) else none
  | [] => none

/-! ### Words -/

/-- An identifier without a mark, and the rest. -/
def readPlainWord (text : List Char) : Reading (List Char) :=
  match text with
  | c :: _ =>
    if isIdentifierStart c then
      some (text.takeWhile isIdentifierContinue, text.dropWhile isIdentifierContinue)
    else none
  | [] => none

/-- The words that cannot be raw. -/
def neverRaw : List String :=
  ["_", "super", "self", "Self", "crate"]

/-- An identifier or a keyword, and the rest. -/
def readWord (text : List Char) : Reading String :=
  match text with
  | 'r' :: '#' :: rest =>
    match readPlainWord rest with
    | some (name, rest) =>
      if neverRaw.contains (String.ofList name) then none
      else some (String.ofList ('r' :: '#' :: name), rest)
    | none => none
  | _ => (readPlainWord text).map fun (name, rest) => (String.ofList name, rest)

/-- What starts a literal, so that no word starts with it. -/
def literalStarts : List String :=
  ["r\"", "r#\"", "r##", "b\"", "b'", "br\"", "br#", "c\"", "cr\"", "cr#"]

/-- Whether a text starts like a literal with a letter in front. -/
def startsLiteral (text : List Char) : Bool :=
  literalStarts.any (·.toList.isPrefixOf text)

/-! ### Characters of operators -/

/-- The characters of operators, apart from the apostrophe. -/
def isOperatorChar (c : Char) : Bool :=
  "~!@#$%^&*-=+|;:,<.>/?".contains c

/-- Whether a text continues an apostrophe to a lifetime: a word that is neither followed
by another apostrophe nor, unless it is raw, by a hash. -/
def continuesLifetime (text : List Char) : Bool :=
  match readWord text with
  | some (_, '\'' :: _) => false
  | some (_, '#' :: _) => ['r', '#'].isPrefixOf text
  | some _ => true
  | none => false

/-- Whether a text starts with a comment. -/
def startsComment (text : List Char) : Bool :=
  ['/', '/'].isPrefixOf text || ['/', '*'].isPrefixOf text

/-- The character of an operator at the start of a text. -/
def readPunct (text : List Char) : Reading Lexeme :=
  match text with
  | '\'' :: rest => if continuesLifetime rest then some (.punct '\'', rest) else none
  | c :: rest =>
    if isOperatorChar c && !startsComment text then some (.punct c, rest) else none
  | [] => none

/-! ### Lexemes -/

/-- The delimiter at the start of a text. -/
def readDelimiter : List Char → Reading Lexeme
  | '(' :: rest => some (.opening .parenthesis, rest)
  | '[' :: rest => some (.opening .bracket, rest)
  | '{' :: rest => some (.opening .brace, rest)
  | ')' :: rest => some (.closing .parenthesis, rest)
  | ']' :: rest => some (.closing .bracket, rest)
  | '}' :: rest => some (.closing .brace, rest)
  | _ => none

/-- The lexeme at the start of a text. -/
def readLexeme (text : List Char) : Reading Lexeme :=
  (readDelimiter text).or <| (readLiteral text).or <| (readPunct text).or <|
    if startsLiteral text then none
    else (readWord text).map fun (name, rest) => (.word name, rest)

/-- Whether every carriage return has a line feed after it. -/
def hasWholeLineBreaks : List Char → Bool
  | [] => true
  | '\r' :: '\n' :: rest => hasWholeLineBreaks rest
  | c :: rest => c != '\r' && hasWholeLineBreaks rest

/-- The lexemes for a comment. -/
def Comment.lexemes? : Comment → Option (List Lexeme)
  | ordinary => some []
  | outer text =>
    if hasWholeLineBreaks text then some (documentation (String.ofList text)) else none
  | inner text =>
    if hasWholeLineBreaks text then
      some (innerDocumentation (String.ofList text))
    else none

/-- The lexemes for the first piece of a text: nothing for a blank or an ordinary
comment. -/
def readPiece (text : List Char) : Reading (List Lexeme) :=
  match text with
  | [] => none
  | c :: rest =>
    if isLayoutBlank c then some ([], rest)
    else
      match readComment text with
      | some (comment, rest) => comment.lexemes?.map (·, rest)
      | none => (readLexeme text).map fun (lexeme, rest) => ([lexeme], rest)

/-- The lexemes of a text.  A piece takes at least one character, so none is refused for
being empty. -/
def scanAll (text : List Char) : Option (List Lexeme) :=
  if text.isEmpty then some []
  else
    match readPiece text with
    | some (lexemes, rest) =>
      if rest.length < text.length then (scanAll rest).map (lexemes ++ ·) else none
    | none => none
termination_by text.length

/-- The lexemes of source with matching delimiters.  A byte order mark at the start is
ignored. -/
def scan? (source : String) : Option (List Lexeme) :=
  let text :=
    match source.toList with
    | '\ufeff' :: rest => rest
    | text => text
  (scanAll text).filter isBalanced

end Source

end MessageTemplate
