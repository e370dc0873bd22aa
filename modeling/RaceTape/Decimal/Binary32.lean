import RaceTape.Decimal.Rounding

/-!
# Single-precision numbers

A number is kept as its 32-bit pattern, so that every pattern, each of the many
not-a-number patterns included, is a value of its own and equality is decidable.
-/

namespace RaceTape
namespace Decimal

open Text

structure Binary32 where
  bits : UInt32
deriving DecidableEq, Repr, Inhabited

namespace Binary32

def isNegative (x : Binary32) : Bool :=
  0x80000000 ≤ x.bits

/-- The pattern without its sign. -/
def magnitude (x : Binary32) : Nat :=
  x.bits.toNat % 0x80000000

def isNaN (x : Binary32) : Bool :=
  Format.binary32.infinity < x.magnitude

def isInfinite (x : Binary32) : Bool :=
  x.magnitude == Format.binary32.infinity

def isFinite (x : Binary32) : Bool :=
  x.magnitude < Format.binary32.infinity

def ofMagnitude (negative : Bool) (magnitude : Nat) : Binary32 :=
  ⟨UInt32.ofNat (if negative then 0x80000000 + magnitude else magnitude)⟩

/-- The pattern written for a number that is not one. -/
def quietNaN : Nat := 0x7FC00000

def ofLiteral (literal : Literal) : Binary32 :=
  ofMagnitude literal.negative (literal.magnitude Format.binary32)

/-- The magnitudes that have a name, in any letter case. -/
def named? (cs : List Char) : Option Nat :=
  let name := cs.map Char.toLower
  if name = "inf".toList || name = "infinity".toList then some Format.binary32.infinity
  else if name = "nan".toList then some quietNaN
  else none

/-- Reads a decimal literal, or a name with an optional sign. -/
def parse? (cs : List Char) : Option Binary32 :=
  let (negative, body) := splitSign cs
  match named? body with
  | some magnitude => some (ofMagnitude negative magnitude)
  | none => (Literal.parse? cs).map ofLiteral

end Binary32

end Decimal
end RaceTape
