/-
Binary floating-point formats and rounding to them.

The finite magnitudes of a format are numbered in increasing order, starting with
zero; the number of a magnitude is its rank.  Ranks are at the same time the encodings
without the sign bit, and every magnitude is a whole number of units, a unit being the
least positive one.  So rounding needs nothing but natural numbers: bring the ratio to
units, keep as many leading bits as the format has, and round the rest.

A significand that is rounded up to one bit more than the format has needs no special
case, because its rank is then the rank of the next power of two.
-/
namespace MessageTemplate

/-- A quotient rounded to the nearest whole number, a half to the even one. -/
def roundHalfEven (numerator denominator : Nat) : Nat :=
  let quotient := numerator / denominator
  let twice := 2 * (numerator % denominator)
  if twice < denominator then quotient
  else if denominator < twice then quotient + 1
  else quotient + quotient % 2

/-- A binary floating-point format. -/
structure BinaryFormat where
  /-- The number of bits of a significand after the leading one. -/
  fractionBits : Nat
  /-- The unit is two to the power of minus this. -/
  unitExponent : Nat
  /-- The number of exponent fields that belong to finite magnitudes. -/
  exponentFields : Nat

namespace BinaryFormat

/-- Double precision. -/
def double : BinaryFormat :=
  { fractionBits := 52, unitExponent := 1074, exponentFields := 2047 }

/-- Single precision. -/
def single : BinaryFormat :=
  { fractionBits := 23, unitExponent := 149, exponentFields := 255 }

variable (format : BinaryFormat)

/-- The number of significands with the same exponent. -/
def significands : Nat :=
  Nat.pow 2 format.fractionBits

/-- The number one in units. -/
def one : Nat :=
  Nat.pow 2 format.unitExponent

/-- The number of finite magnitudes, which is the rank of infinity. -/
def infinityRank : Nat :=
  format.exponentFields * format.significands

/-- A magnitude in units. -/
def units (rank : Nat) : Nat :=
  let exponent := rank / format.significands
  let fraction := rank % format.significands
  if exponent = 0 then fraction
  else (format.significands + fraction) * Nat.pow 2 (exponent - 1)

/-- The rank of the magnitude nearest to a ratio, with the even rank on a tie; at least
`infinityRank` if the ratio is too large for the format. -/
def nearestRank (numerator denominator : Nat) : Nat :=
  let scaled := numerator * format.one
  let shift := (scaled / denominator).log2 - format.fractionBits
  shift * format.significands + roundHalfEven scaled (denominator * Nat.pow 2 shift)

end BinaryFormat

end MessageTemplate
