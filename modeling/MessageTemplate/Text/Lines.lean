/-
The lines of a text.

A line ends at a line feed, and a carriage return just before the line feed is no part
of it.  After the last line feed there is a line only if there is text.
-/
namespace MessageTemplate

namespace Text

/-- The lines of characters. -/
def splitLines : List Char → List (List Char)
  | [] => []
  | '\r' :: '\n' :: rest => [] :: splitLines rest
  | '\n' :: rest => [] :: splitLines rest
  | c :: rest =>
    match splitLines rest with
    | [] => [[c]]
    | line :: others => (c :: line) :: others

end Text

/-- The lines of a text. -/
def linesOf (text : String) : List String :=
  (Text.splitLines text.toList).map String.ofList

end MessageTemplate
