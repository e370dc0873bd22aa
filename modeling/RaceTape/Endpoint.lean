import RaceTape.Text.Hex
import RaceTape.Text.Integer
import RaceTape.Text.Reader

/-!
# Endpoints

An endpoint is an internet address with a port.  In text the address of the newer kind
stands in brackets, and a run of zero groups in it may be left out.

    endpoint  ::= ipv4 ":" port | "[" ipv6 ["%" scope] "]" ":" port
-/

namespace RaceTape

open Text

/-- An internet address: four octets, or eight groups of 16 bits with a scope. -/
inductive Address where
  | v4 (a b c d : UInt8)
  | v6 (groups : List UInt16) (scope : UInt32)
deriving DecidableEq, Repr

structure Endpoint where
  address : Address
  port : UInt16
deriving DecidableEq, Repr

namespace Endpoint

/-!
## Reading
-/

/-- A decimal number up to 255 of at most three digits, without needless zeros in front. -/
def octet? : Reader UInt8 := fun cs =>
  let digits := cs.takeWhile Char.isDigit
  let value := digitsValue digits
  if digits.isEmpty || 3 < digits.length || 255 < value then none
  else if digits.head? = some '0' && 1 < digits.length then none
  else some (UInt8.ofNat value, cs.dropWhile Char.isDigit)

/-- A hexadecimal number of at most four digits. -/
def group? : Reader UInt16 := fun cs =>
  let digits := cs.takeWhile isHexDigit
  if digits.isEmpty || 4 < digits.length then none
  else some (UInt16.ofNat (valueInBase 16 digits), cs.dropWhile isHexDigit)

/-- A decimal number up to `limit`, of any number of digits. -/
def numberUpTo? (limit : Nat) : Reader Nat := fun cs =>
  let digits := cs.takeWhile Char.isDigit
  let value := digitsValue digits
  if digits.isEmpty || limit < value then none
  else some (value, cs.dropWhile Char.isDigit)

def octets? : Reader (UInt8 × UInt8 × UInt8 × UInt8) := fun cs => do
  let (a, cs) ← octet? cs
  let (b, cs) ← octet? (← after? '.' cs)
  let (c, cs) ← octet? (← after? '.' cs)
  let (d, cs) ← octet? (← after? '.' cs)
  return ((a, b, c, d), cs)

def joinOctets (high low : UInt8) : UInt16 :=
  UInt16.ofNat (256 * high.toNat + low.toNat)

/-- Groups read from the front of a text, whether four octets ended them, and the rest. -/
structure GroupRun where
  groups : List UInt16
  endsInOctets : Bool
  rest : List Char

/--
Reads at most `slots` groups with colons between them.  Where two slots are left, four
octets may fill them and end the run.
-/
def groupRun (isFirst : Bool) : Nat -> List Char -> GroupRun
  | 0, cs => ⟨[], false, cs⟩
  | slots + 1, cs =>
      let start := if isFirst then some cs else after? ':' cs
      match if 0 < slots then start.bind octets? else none with
      | some ((a, b, c, d), rest) => ⟨[joinOctets a b, joinOctets c d], true, rest⟩
      | none =>
          match start.bind group? with
          | none => ⟨[], false, cs⟩
          | some (g, rest) =>
              let run := groupRun false slots rest
              { run with groups := g :: run.groups }

/-- The eight groups of an address.  Two colons in a row stand for one zero group or more. -/
def groups? : Reader (List UInt16) := fun cs =>
  let head := groupRun true 8 cs
  if head.groups.length = 8 then some (head.groups, head.rest)
  else if head.endsInOctets then none
  else do
    let rest ← after? ':' (← after? ':' head.rest)
    let tail := groupRun true (7 - head.groups.length) rest
    let zeros := List.replicate (8 - head.groups.length - tail.groups.length) 0
    return (head.groups ++ zeros ++ tail.groups, tail.rest)

def port? : Reader UInt16 := fun cs => do
  let (n, rest) ← numberUpTo? 65535 (← after? ':' cs)
  return (UInt16.ofNat n, rest)

/-- The number after a percent sign, or zero where there is none. -/
def scope (cs : List Char) : UInt32 × List Char :=
  match (after? '%' cs).bind (numberUpTo? 4294967295) with
  | some (n, rest) => (UInt32.ofNat n, rest)
  | none => (0, cs)

def v4? : Reader Endpoint := fun cs => do
  let ((a, b, c, d), cs) ← octets? cs
  let (port, cs) ← port? cs
  return (⟨.v4 a b c d, port⟩, cs)

def v6? : Reader Endpoint := fun cs => do
  let (groups, cs) ← groups? (← after? '[' cs)
  let (scope, cs) := scope cs
  let (port, cs) ← port? (← after? ']' cs)
  return (⟨.v6 groups scope, port⟩, cs)

def parse? (s : String) : Option Endpoint :=
  match (v4? s.toList).or (v6? s.toList) with
  | some (endpoint, []) => some endpoint
  | _ => none

/-- What is said of a text that is no endpoint. -/
def parseFailure : String := "invalid socket address syntax"

/-!
## Writing
-/

/-- The start and the length of the first longest run of zeros. -/
def longestZeros (groups : List UInt16) : Nat × Nat :=
  let step (state : Nat × Nat × Nat × Nat) (g : UInt16) : Nat × Nat × Nat × Nat :=
    let (index, current, start, length) := state
    if g = 0 then
      let current := current + 1
      if length < current then (index + 1, current, index + 1 - current, current)
      else (index + 1, current, start, length)
    else (index + 1, 0, start, length)
  let (_, _, start, length) := groups.foldl step (0, 0, 0, 0)
  (start, length)

def groupsText (groups : List UInt16) : String :=
  ":".intercalate (groups.map fun g => String.ofList (hexDigits g.toNat))

def octetsText (a b c d : UInt8) : String :=
  ".".intercalate ([a, b, c, d].map fun n => toString n.toNat)

/-- Octets that are written as such behind eighty zero bits and sixteen ones. -/
def mapped? : List UInt16 -> Option (UInt16 × UInt16)
  | [0, 0, 0, 0, 0, 0xFFFF, high, low] => some (high, low)
  | _ => none

def v6Text (groups : List UInt16) : String :=
  match mapped? groups with
  | some (high, low) =>
      "::ffff:" ++ octetsText (high >>> 8).toUInt8 high.toUInt8 (low >>> 8).toUInt8 low.toUInt8
  | none =>
      let (start, length) := longestZeros groups
      if 1 < length then
        groupsText (groups.take start) ++ "::" ++ groupsText (groups.drop (start + length))
      else groupsText groups

def text (e : Endpoint) : String :=
  let port := ":" ++ toString e.port.toNat
  match e.address with
  | .v4 a b c d => octetsText a b c d ++ port
  | .v6 groups scope =>
      let scopeText := if scope = 0 then "" else "%" ++ toString scope.toNat
      "[" ++ v6Text groups ++ scopeText ++ "]" ++ port

end Endpoint

end RaceTape
