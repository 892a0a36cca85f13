/-
String literals and format strings of Rust source.

Text goes into source through two layers.  In a format string braces stand for holes,
so braces that are text are doubled; then, as in every string literal, backslashes,
quotes and control characters are escaped.  A character is escaped without regard to
its neighbours, so both layers can be put on piece by piece.
-/
import MessageTemplate.Text.Quoted

namespace MessageTemplate

namespace Literal

/-- Whether a character is a control character. -/
def isControl (c : Char) : Bool :=
  c.toNat < 0x20 || (0x7f ≤ c.toNat && c.toNat < 0xa0)

/-- A character between the quotes of a string literal. -/
def escapedChar (c : Char) : List Char :=
  if c == '\\' then ['\\', '\\']
  else if c == '"' then ['\\', '"']
  else if c == '\n' then ['\\', 'n']
  else if c == '\r' then ['\\', 'r']
  else if c == '\t' then ['\\', 't']
  else if isControl c then Text.escapedByCode c
  else [c]

/-- A character of a format string: a brace is doubled. -/
def formatChar (c : Char) : List Char :=
  if c == '{' then ['{', '{'] else if c == '}' then ['}', '}'] else [c]

/-- Text between the quotes of a string literal. -/
def escape (text : String) : String :=
  String.ofList (text.toList.flatMap escapedChar)

/-- The format string that stands for a text without any holes. -/
def formatText (text : String) : String :=
  String.ofList (text.toList.flatMap formatChar)

/-- Text between the quotes of the string literal of a format string. -/
def escapeFormat (text : String) : String :=
  escape (formatText text)

end Literal

end MessageTemplate
