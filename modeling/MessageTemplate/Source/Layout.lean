/-
Layout of Rust source: blanks and comments.

Line comments go to the end of the line, and block comments nest.  A comment that
starts with three slashes, or with two and an exclamation mark, documents something and
is no layout; neither is a block comment that starts with two asterisks or with one and
an exclamation mark.  Four slashes and three asterisks are ordinary again.
-/
import MessageTemplate.Text.Blank

namespace MessageTemplate

namespace Source

/-- Whether a character is a blank between lexemes.  The two marks for the direction of
writing count as blanks. -/
def isLayoutBlank (c : Char) : Bool :=
  isBlank c || c == '\u200e' || c == '\u200f'

/-- The characters up to the end of the line, and the rest.  A carriage return belongs
to a line break if a line feed follows. -/
def splitLine : List Char → List Char × List Char
  | [] => ([], [])
  | '\r' :: '\n' :: rest => ([], '\n' :: rest)
  | c :: rest =>
    if c == '\n' then ([], c :: rest)
    else
      let (line, rest) := splitLine rest
      (c :: line, rest)

/-- The characters of a block comment up to its end, and the rest; `depth` counts the
comments inside it that are open. -/
def splitBlock (depth : Nat) : List Char → Option (List Char × List Char)
  | [] => none
  | '/' :: '*' :: rest =>
    (splitBlock (depth + 1) rest).map fun (text, rest) => ('/' :: '*' :: text, rest)
  | '*' :: '/' :: rest =>
    match depth with
    | 0 => some ([], rest)
    | depth + 1 =>
      (splitBlock depth rest).map fun (text, rest) => ('*' :: '/' :: text, rest)
  | c :: rest => (splitBlock depth rest).map fun (text, rest) => (c :: text, rest)

/-- A comment. -/
inductive Comment where
  | ordinary
  /-- Documentation of what follows. -/
  | outer (text : List Char)
  /-- Documentation of what encloses it. -/
  | inner (text : List Char)
deriving DecidableEq

/-- A block comment of some sort. -/
def readBlock (comment : List Char → Comment) (text : List Char) :
    Option (Comment × List Char) :=
  (splitBlock 0 text).map fun (text, rest) => (comment text, rest)

/-- A line comment of some sort. -/
def readLine (comment : List Char → Comment) (text : List Char) : Comment × List Char :=
  let (line, rest) := splitLine text
  (comment line, rest)

/-- The comment at the start of a text, and the rest; a block comment has to end. -/
def readComment : List Char → Option (Comment × List Char)
  | '/' :: '/' :: '/' :: '/' :: rest => some (readLine (fun _ => .ordinary) rest)
  | '/' :: '/' :: '/' :: rest => some (readLine .outer rest)
  | '/' :: '/' :: '!' :: rest => some (readLine .inner rest)
  | '/' :: '/' :: rest => some (readLine (fun _ => .ordinary) rest)
  | '/' :: '*' :: '*' :: '/' :: rest => some (.ordinary, rest)
  | '/' :: '*' :: '*' :: '*' :: rest => readBlock (fun _ => .ordinary) ('*' :: '*' :: rest)
  | '/' :: '*' :: '*' :: rest => readBlock .outer rest
  | '/' :: '*' :: '!' :: rest => readBlock .inner rest
  | '/' :: '*' :: rest => readBlock (fun _ => .ordinary) rest
  | _ => none

end Source

end MessageTemplate
