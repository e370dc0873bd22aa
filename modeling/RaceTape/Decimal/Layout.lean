import RaceTape.Decimal.Shortest

/-!
# Layouts of numbers

How the shortest digits of a number are set out: where the point stands, when a power of
ten is written, and what stands for values that are no number.
-/

namespace RaceTape
namespace Decimal

structure Layout where
  tie : Tie
  /-- The powers of the leading digit that are written without a power of ten; none means all. -/
  plain : Option (Int × Int)
  /-- What follows the digits of a whole number in plain notation. -/
  wholeEnding : List Char
  nan : List Char
  infinity : List Char
  negativeInfinity : List Char

namespace Layout

def zeros (n : Nat) : List Char :=
  List.replicate n '0'

/-- Digits whose leading one has power `leading`, written with a point and no power of ten. -/
def plainText (layout : Layout) (digits : List Char) (leading : Int) : List Char :=
  if leading < 0 then
    ['0', '.'] ++ zeros (-leading - 1).toNat ++ digits
  else
    let places := leading.toNat + 1
    if digits.length ≤ places then
      digits ++ zeros (places - digits.length) ++ layout.wholeEnding
    else
      digits.take places ++ ['.'] ++ digits.drop places

/-- Digits with a point after the first and a signed power of ten. -/
def powerText (digits : List Char) (leading : Int) : List Char :=
  let mantissa :=
    match digits with
    | first :: second :: rest => first :: '.' :: second :: rest
    | row => row
  mantissa ++ ['e', if leading < 0 then '-' else '+'] ++ Nat.toDigits 10 leading.natAbs

def digitsText (layout : Layout) (d : Digits) : List Char :=
  let digits := Nat.toDigits 10 d.coefficient
  let leading := d.exponent + digits.length - 1
  match layout.plain with
  | none => layout.plainText digits leading
  | some (low, high) =>
      if low ≤ leading && leading ≤ high then layout.plainText digits leading
      else powerText digits leading

/-- The text of a magnitude that is finite. -/
def finiteText (layout : Layout) (x : Binary32) : List Char :=
  if x.magnitude = 0 then '0' :: layout.wholeEnding
  else layout.digitsText (x.basin.shortest layout.tie)

def render (layout : Layout) (x : Binary32) : String :=
  String.ofList <|
    if x.isNaN then layout.nan
    else if x.isInfinite then
      if x.isNegative then layout.negativeInfinity else layout.infinity
    else if x.isNegative then '-' :: layout.finiteText x
    else layout.finiteText x

end Layout

end Decimal
end RaceTape
