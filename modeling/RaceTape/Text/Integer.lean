/-!
# Whole numbers in text

A whole number is written as an optional sign and at least one of the digits 0 to 9.
-/

namespace RaceTape
namespace Text

/-- The number that a row of decimal digits spells. -/
def digitsValue (cs : List Char) : Nat :=
  cs.foldl (fun n c => 10 * n + (c.toNat - '0'.toNat)) 0

/-- At least one character, and all of them decimal digits. -/
def isDigits (cs : List Char) : Bool :=
  !cs.isEmpty && cs.all Char.isDigit

def natural? (cs : List Char) : Option Nat :=
  if isDigits cs then some (digitsValue cs) else none

/-- A sign at the front, as "is it a minus", and what follows it. -/
def splitSign : List Char -> Bool × List Char
  | '-' :: rest => (true, rest)
  | '+' :: rest => (false, rest)
  | cs => (false, cs)

def signed (negative : Bool) (n : Nat) : Int :=
  if negative then -(Int.ofNat n) else Int.ofNat n

/-- Reads a whole number with an optional sign. -/
def integer? (cs : List Char) : Option Int :=
  let (negative, rest) := splitSign cs
  (natural? rest).map (signed negative)

/-- Reads a whole number that lies between `low` and `high`. -/
def integerWithin? (low high : Int) (cs : List Char) : Option Int :=
  (integer? cs).filter (fun n => low ≤ n && n ≤ high)

def int16? (cs : List Char) : Option Int16 :=
  (integerWithin? (-32768) 32767 cs).map Int16.ofInt

def int32? (cs : List Char) : Option Int32 :=
  (integerWithin? (-2147483648) 2147483647 cs).map Int32.ofInt

end Text
end RaceTape
