/-
Sets of characters given by ranges.

A set is a list of code points in increasing order, two for each range: its first and
its last member.
-/
namespace MessageTemplate

/-- Whether a code point lies in one of the ranges. -/
def inRanges (n : Nat) : List Nat → Bool
  | first :: last :: rest =>
    if n < first then false else if n ≤ last then true else inRanges n rest
  | _ => false

end MessageTemplate
