import RaceTape.Text.Integer

/-!
# Decimal literals

The written form of a decimal number: an optional sign, digits with at most one point
among or around them, and an optional power of ten.

    literal  ::= [sign] (digits ["." [digits]] | "." digits) [("e" | "E") [sign] digits]
-/

namespace RaceTape
namespace Decimal

open Text

/-- The number `coefficient * 10 ^ exponent`, with its sign kept apart so that zero has one. -/
structure Literal where
  negative : Bool
  coefficient : Nat
  exponent : Int
deriving DecidableEq, Repr

/-- The number `10 ^ e` for a nonnegative `e`, else one. -/
def tenTo (e : Int) : Nat :=
  Nat.pow 10 e.toNat

/-- The number `2 ^ e` for a nonnegative `e`, else one. -/
def twoTo (e : Int) : Nat :=
  Nat.pow 2 e.toNat

namespace Literal

/-- The digits after a point at the front, and what follows them. -/
def splitFraction : List Char -> List Char × List Char
  | '.' :: rest => (rest.takeWhile Char.isDigit, rest.dropWhile Char.isDigit)
  | cs => ([], cs)

/-- The power of ten at the end of a literal; none written means zero. -/
def power? : List Char -> Option Int
  | [] => some 0
  | c :: rest => if c = 'e' || c = 'E' then integer? rest else none

def parse? (cs : List Char) : Option Literal :=
  let (negative, body) := splitSign cs
  let whole := body.takeWhile Char.isDigit
  let (fraction, tail) := splitFraction (body.dropWhile Char.isDigit)
  if (whole ++ fraction).isEmpty then none
  else
    (power? tail).map fun power =>
      { negative
        coefficient := digitsValue (whole ++ fraction)
        exponent := power - fraction.length }

end Literal

end Decimal
end RaceTape
