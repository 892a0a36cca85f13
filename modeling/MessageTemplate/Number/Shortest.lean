/-
The shortest decimal that reads back.

A magnitude is written with as few digits as possible under the condition that reading
them gives the magnitude again.  For a given number of digits only two decimals can do
that, the neighbours of the magnitude on the grid of decimals with so many digits.  The
first grid with a hit wins; of two hits the nearer is taken, and on an exact tie the
writer's rule decides.

Seventeen digits are always enough for double precision, but nothing has to rest on
that: if no grid had a hit, the exact decimal expansion would be written, which reads
back in any case.
-/
import MessageTemplate.Number.Decimal

namespace MessageTemplate

/-- Which of two equally near decimals is written. -/
inductive TieRule where
  | upward
  | toEven
deriving DecidableEq

namespace Shortest

/-- The power of ten of the leading digit of a magnitude of the given rank. -/
def leadingExponent (rank : Nat) : Int :=
  let scaled := BinaryFormat.double.units rank * Nat.pow 10 400 / BinaryFormat.double.one
  ((Nat.toDigits 10 scaled).length : Int) - 401

/-- Whether a decimal reads back as the magnitude of a rank. -/
def readsBack (rank : Nat) (decimal : Decimal) : Bool :=
  decimal.nearestRank .double == rank

/-- The nearer neighbour of a magnitude among the multiples of `10 ^ exponent` that
read back. -/
def onGrid? (tie : TieRule) (rank : Nat) (exponent : Int) : Option Decimal :=
  let units := BinaryFormat.double.units rank
  let unit := BinaryFormat.double.one
  let (numerator, denominator) := match exponent with
    | .ofNat e => (units, unit * Nat.pow 10 e)
    | .negSucc e => (units * Nat.pow 10 (e + 1), unit)
  let low : Decimal := { significand := numerator / denominator, exponent }
  let high : Decimal := { significand := numerator / denominator + 1, exponent }
  let twice := 2 * (numerator % denominator)
  let takeLow := twice < denominator ||
    (twice == denominator && tie == .toEven && low.significand % 2 == 0)
  match readsBack rank low, readsBack rank high with
  | true, true => some (if takeLow then low else high)
  | true, false => some low
  | false, true => some high
  | false, false => none

/-- The exact decimal expansion of a magnitude. -/
def exact (rank : Nat) : Decimal :=
  { significand := BinaryFormat.double.units rank * Nat.pow 5 BinaryFormat.double.unitExponent
    exponent := -(BinaryFormat.double.unitExponent : Int) }

/-- The shortest decimal that reads back as the magnitude of a rank. -/
def decimal (tie : TieRule) (rank : Nat) : Decimal :=
  let leading := leadingExponent rank
  ((List.range 17).findSome? fun more : Nat => onGrid? tie rank (leading - more)).getD (exact rank)

end Shortest

end MessageTemplate
