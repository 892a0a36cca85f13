/-
Number texts.

How the digits of a number are laid out is one record, `NumberStyle`: which way a tie
between two shortest decimals goes, for which powers of ten the digits are written in
their places, and whether a whole number keeps a place after its point.  Templates show
numbers in one style and JSON texts in another.
-/
import MessageTemplate.Number.Binary64
import MessageTemplate.Number.Shortest

namespace MessageTemplate

/-- The text of an integer. -/
def integerText (n : Int) : String :=
  String.ofList ((if n < 0 then ['-'] else []) ++ Nat.toDigits 10 n.natAbs)

/-- The decisions of a number format. -/
structure NumberStyle where
  tie : TieRule
  /-- Whether a number whose leading digit has this power of ten is written without an
  exponent. -/
  positional : Int → Bool
  /-- What follows the digits of a whole number. -/
  afterWhole : String

namespace NumberStyle

/-- Templates never show an exponent or an empty place. -/
def template : NumberStyle :=
  { tie := .upward, positional := fun _ => true, afterWhole := "" }

/-- JSON texts show an exponent outside `10 ^ -5` to `10 ^ 15`, and keep numbers apart
from integers. -/
def json : NumberStyle :=
  { tie := .toEven, positional := fun power => -5 ≤ power && power ≤ 15, afterWhole := ".0" }

variable (style : NumberStyle)

/-- Digits with a point after the first `point` of them. -/
def placed (digits : List Char) (point : Int) : String :=
  if point ≤ 0 then
    String.ofList ('0' :: '.' :: List.replicate point.natAbs '0' ++ digits)
  else if digits.length ≤ point then
    String.ofList (digits ++ List.replicate (point.natAbs - digits.length) '0')
      ++ style.afterWhole
  else
    String.ofList (digits.take point.natAbs ++ '.' :: digits.drop point.natAbs)

/-- Digits with a point after the first of them, and the power of ten of the first. -/
def scientific (digits : List Char) (power : Int) : String :=
  let significand := match digits with
    | first :: next :: rest => first :: '.' :: next :: rest
    | digits => digits
  String.ofList significand ++ (if power < 0 then "e-" else "e+") ++
    String.ofList (Nat.toDigits 10 power.natAbs)

/-- The text of the magnitude of a rank. -/
def magnitude (rank : Nat) : String :=
  if rank = 0 then "0" ++ style.afterWhole
  else
    let decimal := Shortest.decimal style.tie rank
    let all := Nat.toDigits 10 decimal.significand
    let power := decimal.exponent + all.length - 1
    let digits := (all.reverse.dropWhile (· == '0')).reverse
    if style.positional power then style.placed digits (power + 1)
    else scientific digits power

/-- The text of a finite number. -/
def signed (negative : Bool) (rank : Nat) : String :=
  (if negative then "-" else "") ++ style.magnitude rank

end NumberStyle

/-- The text of a number in a template.  Both zeros are `0`. -/
def Binary64.display : Binary64 → String
  | nan => "NaN"
  | infinite negative => if negative then "-inf" else "inf"
  | finite negative rank => NumberStyle.template.signed (negative && rank.val != 0) rank.val

/-- The text of a number in a JSON text, which has no words for infinities. -/
def Binary64.jsonText : Binary64 → String
  | finite negative rank => NumberStyle.json.signed negative rank.val
  | _ => "null"

end MessageTemplate
