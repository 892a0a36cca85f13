/-
JSON texts.

Objects keep their fields in order, because a text shows it.  There are two layouts of
a value: on one line without blanks, and over several lines with two spaces for each
level.
-/
import MessageTemplate.Number.Layout

namespace MessageTemplate

/-- A JSON value whose objects keep the order of their fields. -/
inductive Json where
  | null
  | bool (b : Bool)
  | integer (n : Int)
  | float (x : Binary64)
  | string (text : String)
  | array (items : List Json)
  | object (fields : List (String × Json))

namespace Json

/-- A character inside a string.  Quotes, backslashes and the characters below the
space are escaped, and nothing else. -/
def escape (c : Char) : List Char :=
  if c == '"' then ['\\', '"']
  else if c == '\\' then ['\\', '\\']
  else if c == '\x08' then ['\\', 'b']
  else if c == '\t' then ['\\', 't']
  else if c == '\n' then ['\\', 'n']
  else if c == '\x0c' then ['\\', 'f']
  else if c == '\r' then ['\\', 'r']
  else if c.toNat < 0x20 then
    ['\\', 'u', '0', '0', Nat.digitChar (c.toNat / 16), Nat.digitChar (c.toNat % 16)]
  else [c]

/-- A string between its quotes. -/
def quoted (text : String) : String :=
  String.ofList ('"' :: text.toList.flatMap escape ++ ['"'])

/-- A value that is no list and no object. -/
def scalar : Json → String
  | null => "null"
  | bool b => if b then "true" else "false"
  | integer n => integerText n
  | float x => x.jsonText
  | string text => quoted text
  | array _ => ""
  | object _ => ""

mutual

/-- A value on one line. -/
def compact : Json → String
  | .array items => "[" ++ compactItems items ++ "]"
  | .object fields => "\x7b" ++ compactFields fields ++ "\x7d"
  | value => value.scalar

/-- The items of a list, with commas between them. -/
def compactItems : List Json → String
  | [] => ""
  | [item] => item.compact
  | item :: rest => item.compact ++ "," ++ compactItems rest

/-- The fields of an object, with commas between them. -/
def compactFields : List (String × Json) → String
  | [] => ""
  | [(name, value)] => quoted name ++ ":" ++ value.compact
  | (name, value) :: rest => quoted name ++ ":" ++ value.compact ++ "," ++ compactFields rest

end

/-- The start of a line at some level. -/
def newline (level : Nat) : String :=
  String.ofList ('\n' :: List.replicate (2 * level) ' ')

mutual

/-- A value over several lines, of which the first is already indented. -/
def prettyAt (level : Nat) : Json → String
  | .array [] => "[]"
  | .array items => "[" ++ prettyItems (level + 1) items ++ newline level ++ "]"
  | .object [] => "\x7b\x7d"
  | .object fields =>
    "\x7b" ++ prettyFields (level + 1) fields ++ newline level ++ "\x7d"
  | value => value.scalar

/-- The items of a list, each on lines of its own. -/
def prettyItems (level : Nat) : List Json → String
  | [] => ""
  | [item] => newline level ++ item.prettyAt level
  | item :: rest => newline level ++ item.prettyAt level ++ "," ++ prettyItems level rest

/-- The fields of an object, each on lines of its own. -/
def prettyFields (level : Nat) : List (String × Json) → String
  | [] => ""
  | [(name, value)] => newline level ++ quoted name ++ ": " ++ value.prettyAt level
  | (name, value) :: rest =>
    newline level ++ quoted name ++ ": " ++ value.prettyAt level ++ "," ++
      prettyFields level rest

end

/-- A value over several lines. -/
def pretty (value : Json) : String :=
  value.prettyAt 0

end Json

end MessageTemplate
