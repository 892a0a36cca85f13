/-
Plural categories.

There is one table of buckets for all languages.  Zero, one and two have a bucket each,
the numbers strictly between two and five are few, those from five on are many, and
everything else (negative numbers, other fractions below two, infinities) is other.
-/
import MessageTemplate.Number.Binary64

namespace MessageTemplate

/-- A bucket of numbers. -/
inductive PluralCategory where
  | zero
  | one
  | two
  | few
  | many
  | other
deriving DecidableEq

/-- The option key that stands for a bucket. -/
def PluralCategory.key : PluralCategory → String
  | zero => "=0"
  | one => "=1"
  | two => "=2"
  | few => "few"
  | many => "many"
  | other => "other"

/-- The bucket of a number. -/
def pluralCategory : Binary64 → PluralCategory
  | .finite negative rank =>
    let unit := BinaryFormat.double.one
    let magnitude := BinaryFormat.double.units rank.val
    if magnitude = 0 then .zero
    else if negative then .other
    else if magnitude = unit then .one
    else if magnitude = 2 * unit then .two
    else if 2 * unit < magnitude && magnitude < 5 * unit then .few
    else if 5 * unit ≤ magnitude then .many
    else .other
  | _ => .other

end MessageTemplate
