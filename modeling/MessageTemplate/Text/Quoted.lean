/-
Quoted text: a text shown so that every character in it can be seen.

Quotes and backslashes are escaped, so is whatever would not be shown as it is.  The
apostrophe stands for itself.
-/
import MessageTemplate.Text.Printable

namespace MessageTemplate

namespace Text

/-- A character by its code point in hexadecimal digits. -/
def escapedByCode (c : Char) : List Char :=
  '\\' :: 'u' :: '{' :: Nat.toDigits 16 c.toNat ++ ['}']

/-- A character of a quoted text. -/
def quotedChar (c : Char) : List Char :=
  if c == '\x00' then ['\\', '0']
  else if c == '\t' then ['\\', 't']
  else if c == '\r' then ['\\', 'r']
  else if c == '\n' then ['\\', 'n']
  else if c == '"' then ['\\', '"']
  else if c == '\\' then ['\\', '\\']
  else if isPrintable c then [c]
  else escapedByCode c

end Text

/-- A text between quotes, with every character visible. -/
def quotedText (text : String) : String :=
  String.ofList ('"' :: text.toList.flatMap Text.quotedChar ++ ['"'])

end MessageTemplate
