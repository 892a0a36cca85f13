/-
The lexemes of compiled templates.

Code has the same lexemes however its lines are laid out.  Here they are given straight
from the expression, without any text in between.
-/
import MessageTemplate.Compiled.Layout
import MessageTemplate.Source.Lexeme

namespace MessageTemplate

open Source

section

variable (items : List Lexeme)

/-- An item of the module that code calls; `items` is the path of the module. -/
def itemLexemes (name : String) : List Lexeme :=
  items ++ path [name]

/-- The lexemes of a call. -/
def Call.lexemes : Call → List Lexeme
  | text values sink name =>
    itemLexemes items "text" ++
      group .parenthesis (separated [[.word values], [.word sink], [.string name]])
  | number values name =>
    itemLexemes items "number" ++
      group .parenthesis (separated [[.word values], [.string name]])

/-- The lexemes of flat code. -/
def Flat.lexemes (flat : Flat) : List Lexeme :=
  if flat.isText then
    .word "String" :: path ["from"] ++ group .parenthesis [.string flat.first]
  else
    .word "format" :: .punct '!' :: group .parenthesis
      (separated ([.string flat.formatString] :: flat.holes.map (·.1.lexemes items)))

namespace Code

/-- What stands before the body of a lazy arm. -/
def lazyLexemes (parameter : Option String) : List Lexeme :=
  [.punct '&', .punct '|', .word (parameter.getD "_"), .punct ':', .punct '&', .word "mut",
    .word "dyn"] ++ itemLexemes items "DiagnosticSink" ++ [.punct '|']

/-- A statement that appends to a buffer. -/
def pushLexemes (buffer : String) (argument : List Lexeme) : List Lexeme :=
  [.word buffer, .punct '.', .word "push_str"] ++ group .parenthesis argument ++ [.punct ';']

/-- An arm of a call. -/
def armLexemesOf (key variant : String) (content : List Lexeme) : List Lexeme :=
  group .parenthesis (separated [[.string key],
    itemLexemes items "Arm" ++ path [variant] ++ group .parenthesis content]) ++ [.punct ',']

mutual

/-- The lexemes of an expression. -/
def lexemes : Code → List Lexeme
  | .flat pieces => pieces.lexemes items
  | .resolve kind values sink name arms =>
    itemLexemes items kind.resolver ++ group .parenthesis
      (separated [[.word values], [.word sink], [.string name],
        .punct '&' :: group .bracket (armLexemes arms)])
  | .block buffer statements result =>
    group .brace
      ([.word "let", .word "mut", .word buffer, .punct '=', .word "String"] ++ path ["new"] ++
        group .parenthesis [] ++ [.punct ';'] ++ statementLexemes statements ++ [.word result])

/-- The lexemes of arms. -/
def armLexemes : List (String × ArmCode Code) → List Lexeme
  | [] => []
  | (key, .text text) :: rest =>
    armLexemesOf items key "Text" [.string text] ++ armLexemes rest
  | (key, .lazy parameter body) :: rest =>
    armLexemesOf items key "Lazy" (lazyLexemes items parameter ++ body.lexemes) ++
      armLexemes rest

/-- The lexemes of statements. -/
def statementLexemes : List (Statement Code) → List Lexeme
  | [] => []
  | .pushText buffer text :: rest =>
    pushLexemes buffer [.string text] ++ statementLexemes rest
  | .pushCode buffer code :: rest =>
    pushLexemes buffer (.punct '&' :: code.lexemes) ++ statementLexemes rest

end

end Code

end

end MessageTemplate
