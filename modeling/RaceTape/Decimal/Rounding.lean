import RaceTape.Decimal.Literal

/-!
# Rounding to binary floating point

The magnitudes of a binary format are numbered from zero upwards, in the order of their
values, by the bits that encode them.  A decimal number is rounded once, from its exact
value, to the nearest of them; of two equally near ones the one with an even number is
taken.
-/

namespace RaceTape
namespace Decimal

/--
A binary format: `fractionBits` bits after the leading one, magnitudes that are multiples
of `2 ^ -leastPower`, and infinity numbered `infinity`.
-/
structure Format where
  fractionBits : Nat
  leastPower : Nat
  infinity : Nat

namespace Format

def binary32 : Format := ⟨23, 149, 0x7F800000⟩

def binary64 : Format := ⟨52, 1074, 0x7FF0000000000000⟩

end Format

/-- The whole number nearest to `num / den`, and the even one of two equally near. -/
def roundQuotient (num den : Nat) : Nat :=
  let quotient := num / den
  let rest := num % den
  if 2 * rest < den then quotient
  else if 2 * rest > den then quotient + 1
  else quotient + quotient % 2

/-- The greatest power of two that is not above `num / den`, for positive numbers. -/
def floorLog2 (num den : Nat) : Int :=
  let guess := Int.ofNat num.log2 - Int.ofNat den.log2
  let fits :=
    if guess < 0 then den ≤ num * twoTo (-guess) else den * twoTo guess ≤ num
  if fits then guess else guess - 1

/-- The bits of the magnitude nearest to `num / den`. -/
def nearestMagnitude (format : Format) (num den : Nat) : Nat :=
  if num = 0 then 0
  else
    let unit := max (floorLog2 num den - format.fractionBits) (-Int.ofNat format.leastPower)
    let units :=
      if unit < 0 then roundQuotient (num * twoTo (-unit)) den
      else roundQuotient num (den * twoTo unit)
    min ((unit + format.leastPower).toNat * twoTo format.fractionBits + units) format.infinity

namespace Literal

/-- Beyond this power of ten every supported format is at infinity, and below its inverse at zero. -/
def horizon : Int := 400

/-- The number of decimal digits of the coefficient. -/
def width (literal : Literal) : Nat :=
  (Nat.toDigits 10 literal.coefficient).length

/-- The bits of the magnitude nearest to the number written. -/
def magnitude (format : Format) (literal : Literal) : Nat :=
  let top := literal.exponent + literal.width
  if literal.coefficient = 0 || top < -horizon then 0
  else if top > horizon then format.infinity
  else if literal.exponent < 0 then
    nearestMagnitude format literal.coefficient (tenTo (-literal.exponent))
  else
    nearestMagnitude format (literal.coefficient * tenTo literal.exponent) 1

end Literal

end Decimal
end RaceTape
