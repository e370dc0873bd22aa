import RaceTape.Decimal.Rounding
import RaceTape.Text.Hex
import RaceTape.Text.Integer
import RaceTape.Text.Reader

/-!
# Numbers in TOML

Whole numbers of 64 bits in four bases, and numbers with a fraction or a power of ten.
An underscore may stand between two digits.
-/

namespace RaceTape
namespace Toml

open Decimal Text

/-- Digits with single underscores among them, which are dropped, and the rest. -/
def moreDigits (isDigit : Char -> Bool) : List Char -> List Char × List Char
  | [] => ([], [])
  | [c] => if isDigit c then ([c], []) else ([], [c])
  | c :: d :: rest =>
      if isDigit c then
        let (digits, rest) := moreDigits isDigit (d :: rest)
        (c :: digits, rest)
      else if c = '_' && isDigit d then
        let (digits, rest) := moreDigits isDigit rest
        (d :: digits, rest)
      else ([], c :: d :: rest)

/-- At least one digit, with underscores between digits. -/
def digitRow (isDigit : Char -> Bool) : Reader (List Char)
  | [] => none
  | c :: rest =>
      if isDigit c then
        let (digits, rest) := moreDigits isDigit rest
        some (c :: digits, rest)
      else none

/-- A digit row that begins with zero only if that is all of it. -/
def unsignedRow : Reader (List Char)
  | '0' :: rest => some (['0'], rest)
  | cs => digitRow Char.isDigit cs

/-- The sign, if there is one, as it is written. -/
def signText : List Char -> List Char × List Char
  | '+' :: rest => (['+'], rest)
  | '-' :: rest => (['-'], rest)
  | cs => ([], cs)

/-- A decimal number with an optional sign, as it is written without underscores. -/
def decimalRow : Reader (List Char) := fun cs => do
  let (sign, cs) := signText cs
  let (digits, cs) ← unsignedRow cs
  return (sign ++ digits, cs)

def fitsWord (n : Int) : Bool :=
  -9223372036854775808 ≤ n && n ≤ 9223372036854775807

def isOctalDigit (c : Char) : Bool :=
  '0' ≤ c && c ≤ '7'

def isBinaryDigit (c : Char) : Bool :=
  c = '0' || c = '1'

/-- A whole number after the mark of its base. -/
def basedInteger (base : Nat) (isDigit : Char -> Bool) : Reader Int := fun cs => do
  let (digits, rest) ← digitRow isDigit cs
  let n := Int.ofNat (valueInBase base digits)
  if fitsWord n then some (n, rest) else none

def integer : Reader Int
  | '0' :: 'x' :: rest => basedInteger 16 isHexDigit rest
  | '0' :: 'o' :: rest => basedInteger 8 isOctalDigit rest
  | '0' :: 'b' :: rest => basedInteger 2 isBinaryDigit rest
  | cs => do
      let (row, rest) ← decimalRow cs
      let n ← integer? row
      if fitsWord n then some (n, rest) else none

/-- The fraction of a number, with its point. -/
def fractionText : Reader (List Char) := fun cs => do
  let (digits, rest) ← digitRow Char.isDigit (← after? '.' cs)
  return ('.' :: digits, rest)

/-- The power of ten of a number, with its mark. -/
def powerText : Reader (List Char)
  | [] => none
  | c :: rest =>
      if c = 'e' || c = 'E' then do
        let (sign, rest) := signText rest
        let (digits, rest) ← digitRow Char.isDigit rest
        return ('e' :: sign ++ digits, rest)
      else none

/-- Whether a number is too large for a double and not negative. -/
def isOverflow (row : List Char) : Bool :=
  match Literal.parse? row with
  | none => false
  | some literal =>
      !literal.negative && literal.magnitude Format.binary64 == Format.binary64.infinity

/-- What makes a number more than a whole one: a fraction, a power of ten, or both. -/
def floatTail : Reader (List Char) := fun cs =>
  match powerText cs with
  | some (power, rest) => some (power, rest)
  | none => do
      let (fraction, cs) ← fractionText cs
      match powerText cs with
      | some (power, rest) => return (fraction ++ power, rest)
      | none => return (fraction, cs)

def finiteFloat : Reader String := fun cs => do
  let (whole, cs) ← decimalRow cs
  let (tail, rest) ← floatTail cs
  let row := whole ++ tail
  if isOverflow row then none else some (String.ofList row, rest)

/-- Infinity, or what is no number, with an optional sign. -/
def namedFloat : Reader String := fun cs => do
  let (sign, cs) := signText cs
  match afterWord? "inf" cs with
  | some rest => return (String.ofList sign ++ "inf", rest)
  | none => return (String.ofList sign ++ "nan", ← afterWord? "nan" cs)

def float : Reader String :=
  Reader.orElse finiteFloat namedFloat

end Toml
end RaceTape
