/-!
# Hexadecimal numbers

Numbers are written with small letters, with as many leading zeros as a given width asks
for, and read with letters of either case.
-/

namespace RaceTape
namespace Text

/-- The hexadecimal digits of a number, without leading zeros. -/
def hexDigits (n : Nat) : List Char :=
  Nat.toDigits 16 n

/-- At least `width` hexadecimal digits. -/
def paddedHex (width n : Nat) : List Char :=
  let digits := hexDigits n
  List.replicate (width - digits.length) '0' ++ digits

def isHexDigit (c : Char) : Bool :=
  c.isDigit || ('a' ≤ c && c ≤ 'f') || ('A' ≤ c && c ≤ 'F')

def hexValue (c : Char) : Nat :=
  if c.isDigit then c.toNat - '0'.toNat
  else c.toLower.toNat - 'a'.toNat + 10

/-- The number that a row of digits in the given base spells. -/
def valueInBase (base : Nat) (cs : List Char) : Nat :=
  cs.foldl (fun n c => base * n + hexValue c) 0

end Text
end RaceTape
