/-
Double-precision numbers.

A number is a sign and a rank, or an infinity, or not a number.  All numbers that are
not a number are one value here, since nothing tells them apart.  Operations are exact
on ratios of natural numbers and round once.
-/
import MessageTemplate.Number.Decimal

namespace MessageTemplate

/-- A double-precision number. -/
inductive Binary64 where
  | nan
  | infinite (negative : Bool)
  /-- A sign and the rank of the magnitude; zero has both signs. -/
  | finite (negative : Bool) (rank : Fin BinaryFormat.double.infinityRank)
deriving DecidableEq

namespace Binary64

/-- The number with a magnitude of the given rank. -/
def ofRank (negative : Bool) (rank : Nat) : Binary64 :=
  if h : rank < BinaryFormat.double.infinityRank then finite negative ⟨rank, h⟩
  else infinite negative

/-- The number nearest to a ratio. -/
def ofRatio (negative : Bool) (numerator denominator : Nat) : Binary64 :=
  ofRank negative (BinaryFormat.double.nearestRank numerator denominator)

/-- The number nearest to an integer. -/
def ofInt (n : Int) : Binary64 :=
  ofRatio (n < 0) n.natAbs 1

/-- The number nearest to what a numeral says. -/
def ofNumeral : Numeral → Binary64
  | .nan => nan
  | .infinite negative => infinite negative
  | .finite negative decimal => ofRank negative (decimal.nearestRank .double)

/-- The number that a text spells, rounded to double precision. -/
def read? (text : String) : Option Binary64 :=
  (Numeral.read? text).map ofNumeral

/-- The number that a text spells, rounded to single precision. -/
def readSingle? (text : String) : Option Binary64 :=
  (Numeral.read? text).map fun
    | .nan => nan
    | .infinite negative => infinite negative
    | .finite negative decimal =>
      let rank := decimal.nearestRank .single
      if rank < BinaryFormat.single.infinityRank then
        ofRatio negative (BinaryFormat.single.units rank) BinaryFormat.single.one
      else infinite negative

/-- Whether a number is neither infinite nor not a number. -/
def isFinite : Binary64 → Bool
  | finite _ _ => true
  | _ => false

/-- Whether a number is one of the zeros. -/
def isZero : Binary64 → Bool
  | finite _ rank => rank.val == 0
  | _ => false

/-- The bit that encodes a sign. -/
def signBit (negative : Bool) : Nat :=
  if negative then Nat.pow 2 63 else 0

/-- The sixty-four bits that encode a number. -/
def bits : Binary64 → Nat
  | nan => BinaryFormat.double.infinityRank + Nat.pow 2 51
  | infinite negative => signBit negative + BinaryFormat.double.infinityRank
  | finite negative rank => signBit negative + rank.val

end Binary64

end MessageTemplate
