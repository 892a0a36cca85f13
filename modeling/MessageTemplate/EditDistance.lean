/-
Edit distance.

The distance of two texts is the least number of characters to insert, delete or
replace that turns the one into the other.  It is computed a row at a time: for a
fixed second text, `distances` holds the distance to each of its suffixes, the whole
text first and the empty one last, and one more character in front of the first text
makes a new row out of the old one.
-/
namespace MessageTemplate

namespace EditDistance

/-- The distances from the empty text to the suffixes of a text. -/
def emptyRow : List Char → List Nat
  | [] => [0]
  | _ :: rest => (rest.length + 1) :: emptyRow rest

/-- The row for `x :: xs` out of the row for `xs`: each entry takes the cheapest of
deleting `x`, inserting the first character of the suffix, and matching the two. -/
def extendRow (x : Char) : List Char → List Nat → List Nat
  | y :: ys, whole :: shorter :: row =>
    let tail := extendRow x ys (shorter :: row)
    let matched := shorter + if x = y then 0 else 1
    min (whole + 1) (min (tail.headD 0 + 1) matched) :: tail
  | _, row => row.map (· + 1)

/-- The distances from a text to the suffixes of `target`. -/
def distances (target : List Char) : List Char → List Nat
  | [] => emptyRow target
  | x :: xs => extendRow x target (distances target xs)

end EditDistance

/-- The least number of single-character insertions, deletions and replacements that
turn one text into the other. -/
def editDistance (a b : String) : Nat :=
  (EditDistance.distances b.toList a.toList).headD 0

end MessageTemplate
