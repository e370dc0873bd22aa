import RaceTape.Decimal.Binary32

/-!
# The fewest digits that read back

A finite number is shown with as few decimal digits as still round to it.  Among numbers
with that many digits the nearest one is taken.  For each count of digits only the two
neighbours of the exact value on that decimal grid have to be tried: if any point of the
grid rounds to the number, one of these two does.
-/

namespace RaceTape
namespace Decimal

/-- Which of two equally near digit rows is taken. -/
inductive Tie where
  | up
  | even
deriving DecidableEq, Repr

/-- The positive number `coefficient * 10 ^ exponent`. -/
structure Digits where
  coefficient : Nat
  exponent : Int
deriving DecidableEq, Repr

/--
The positive number `4 * units * 2 ^ power` with the reals that round to it, which lie
between `low` and `high` quarters of a unit.  The ends belong to it when `closed` holds.
-/
structure Basin where
  units : Nat
  power : Int
  low : Nat
  high : Nat
  closed : Bool

namespace Binary32

def basin (x : Binary32) : Basin :=
  let fraction := x.magnitude % 0x800000
  let field := x.magnitude / 0x800000
  let units := if field = 0 then fraction else fraction + 0x800000
  let power := if field = 0 then -149 else Int.ofNat field - 150
  { units
    power := power - 2
    low := if fraction = 0 && 1 < field then 4 * units - 1 else 4 * units - 2
    high := 4 * units + 2
    closed := units % 2 == 0 }

end Binary32

namespace Basin

/-- One step of the grid of multiples of `10 ^ grid`, on the scale of `onScale`. -/
def gridStep (b : Basin) (grid : Int) : Nat :=
  tenTo grid * twoTo (-b.power)

/-- A count of quarter units on the scale on which `gridStep` is whole. -/
def onScale (b : Basin) (grid : Int) (quarters : Nat) : Nat :=
  quarters * twoTo b.power * tenTo (-grid)

/-- Whether `count` grid steps round to the number. -/
def holds (b : Basin) (grid : Int) (count : Nat) : Bool :=
  let point := count * b.gridStep grid
  let low := b.onScale grid b.low
  let high := b.onScale grid b.high
  if b.closed then low ≤ point && point ≤ high else low < point && point < high

/-- The greatest power of ten that is not above the number. -/
def leading (b : Basin) : Int :=
  let powers := (List.range 85).map fun i => (39 : Int) - Int.ofNat i
  (powers.find? fun p => b.gridStep p ≤ b.onScale p (4 * b.units)).getD (-45)

/-- The grid neighbour of the number that rounds to it, the nearer one if both do. -/
def neighbour? (b : Basin) (tie : Tie) (grid : Int) : Option Nat :=
  let step := b.gridStep grid
  let value := b.onScale grid (4 * b.units)
  let below := value / step
  let above := below + 1
  match b.holds grid below, b.holds grid above with
  | false, false => none
  | true, false => some below
  | false, true => some above
  | true, true =>
      let down := value - below * step
      let up := above * step - value
      if down < up then some below
      else if up < down then some above
      else
        match tie with
        | .up => some above
        | .even => if below % 2 = 0 then some below else some above

/-- A digit row in which a carry over all places is written as the single digit one. -/
def collect (count : Nat) (grid : Int) (width : Nat) : Digits :=
  if count = tenTo width then ⟨1, grid + width⟩ else ⟨count, grid⟩

/-- The fewest digits that round to the number; nine are always enough. -/
def shortest (b : Basin) (tie : Tie) : Digits :=
  let leading := b.leading
  let rows := (List.range 9).findSome? fun i =>
    let grid := leading - Int.ofNat i
    (b.neighbour? tie grid).map fun count => collect count grid (i + 1)
  rows.getD ⟨b.units, 0⟩

end Basin

end Decimal
end RaceTape
