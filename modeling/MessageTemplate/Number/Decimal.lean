/-
Decimal numerals.

A numeral is what a text can say about a floating-point number: a decimal fraction with
an exponent, an infinity, or that it is not a number at all.  Reading a numeral keeps
it exact.  Rounding comes after reading, so that each format rounds once.
-/
import MessageTemplate.Number.BinaryFormat

namespace MessageTemplate

/-- The decimal fraction `significand · 10 ^ exponent`. -/
structure Decimal where
  significand : Nat
  exponent : Int
deriving DecidableEq

/-- The rank in a format of the magnitude nearest to a decimal fraction.  A fraction
below `2 ^ -1100` or above `10 ^ 400` is told by its size alone, as it is far outside
the magnitudes of double precision, so the powers that are computed stay small. -/
def Decimal.nearestRank (format : BinaryFormat) (decimal : Decimal) : Nat :=
  match decimal.exponent with
  | .ofNat exponent =>
    if decimal.significand = 0 then 0
    else if 400 < exponent then format.infinityRank
    else format.nearestRank (decimal.significand * Nat.pow 10 exponent) 1
  | .negSucc exponent =>
    if decimal.significand.log2 + 1101 < 3 * (exponent + 1) then 0
    else format.nearestRank decimal.significand (Nat.pow 10 (exponent + 1))

/-- What a text says about a floating-point number. -/
inductive Numeral where
  | nan
  | infinite (negative : Bool)
  | finite (negative : Bool) (decimal : Decimal)
deriving DecidableEq

namespace Numeral

/-- A sign, if there is one, and the rest. -/
def splitSign : List Char → Bool × List Char
  | '-' :: rest => (true, rest)
  | '+' :: rest => (false, rest)
  | rest => (false, rest)

/-- The value of digits. -/
def digitsValue (digits : List Char) : Nat :=
  Nat.ofDigitChars 10 digits 0

/-- A whole number with an optional sign. -/
def readInt? (text : List Char) : Option Int :=
  let (negative, digits) := splitSign text
  if digits.isEmpty || !digits.all Char.isDigit then none
  else some (if negative then -(digitsValue digits : Int) else digitsValue digits)

/-- The exponent at the end of a decimal fraction; none at all is zero. -/
def readExponent? : List Char → Option Int
  | [] => some 0
  | c :: rest => if c == 'e' || c == 'E' then readInt? rest else none

/-- An unsigned decimal fraction: digits with an optional point among or beside them,
and an optional exponent. -/
def readDecimal? (text : List Char) : Option Decimal := do
  let whole := text.takeWhile Char.isDigit
  let rest := text.dropWhile Char.isDigit
  let (places, tail) := match rest with
    | '.' :: after => (after.takeWhile Char.isDigit, after.dropWhile Char.isDigit)
    | _ => ([], rest)
  if whole.isEmpty && places.isEmpty then none
  let exponent ← readExponent? tail
  return { significand := digitsValue (whole ++ places), exponent := exponent - places.length }

/-- The numeral that a text spells: a decimal fraction, `inf`, `infinity` or `nan` in
any case, each with an optional sign. -/
def read? (text : String) : Option Numeral :=
  let (negative, body) := splitSign text.toList
  let word := body.map Char.toLower
  if word == "inf".toList || word == "infinity".toList then some (infinite negative)
  else if word == "nan".toList then some nan
  else (readDecimal? body).map (finite negative)

end Numeral

end MessageTemplate
