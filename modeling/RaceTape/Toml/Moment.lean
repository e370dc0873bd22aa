import RaceTape.Text.Integer
import RaceTape.Text.Reader

/-!
# Moments in TOML

Dates, times of day, and dates with a time, which may have an offset.
-/

namespace RaceTape
namespace Toml

open Text

/-- A number of exactly `width` digits between `low` and `high`, as it is written. -/
def fixedNumber (width low high : Nat) : Reader (List Char) := fun cs => do
  let (digits, rest) ← exactly width Char.isDigit cs
  let n := digitsValue digits
  if low ≤ n && n ≤ high then some (digits, rest) else none

def isLeapYear (year : Nat) : Bool :=
  year % 4 = 0 && (year % 100 ≠ 0 || year % 400 = 0)

def daysInMonth (year month : Nat) : Nat :=
  if month = 2 then (if isLeapYear year then 29 else 28)
  else if month = 4 || month = 6 || month = 9 || month = 11 then 30
  else 31

def date : Reader (List Char) := fun cs => do
  let (year, cs) ← fixedNumber 4 0 9999 cs
  let (month, cs) ← fixedNumber 2 1 12 (← after? '-' cs)
  let (day, cs) ← fixedNumber 2 1 31 (← after? '-' cs)
  if digitsValue day ≤ daysInMonth (digitsValue year) (digitsValue month) then
    return (year ++ '-' :: month ++ '-' :: day, cs)
  else none

/-- The digits after the point of a second. -/
def secondFraction (cs : List Char) : List Char × List Char :=
  match after? '.' cs with
  | none => ([], cs)
  | some rest =>
      match rest.takeWhile Char.isDigit with
      | [] => ([], cs)
      | digits => ('.' :: digits, rest.dropWhile Char.isDigit)

/-- A time of day.  The second may be sixty. -/
def time : Reader (List Char) := fun cs => do
  let (hour, cs) ← fixedNumber 2 0 23 cs
  let (minute, cs) ← fixedNumber 2 0 59 (← after? ':' cs)
  let (second, cs) ← fixedNumber 2 0 60 (← after? ':' cs)
  let (fraction, cs) := secondFraction cs
  return (hour ++ ':' :: minute ++ ':' :: second ++ fraction, cs)

/-- The offset of a time of day. -/
def offset : Reader (List Char)
  | [] => none
  | c :: rest =>
      if c = 'Z' || c = 'z' then some (['Z'], rest)
      else if c = '+' || c = '-' then do
        let (hour, cs) ← fixedNumber 2 0 23 rest
        let (minute, cs) ← fixedNumber 2 0 59 (← after? ':' cs)
        return (c :: hour ++ ':' :: minute, cs)
      else none

/-- The time that may follow a date, with its offset. -/
def timeAfterDate : Reader (List Char)
  | [] => none
  | c :: rest =>
      if c = 'T' || c = 't' || c = ' ' then do
        let (time, cs) ← time rest
        match offset cs with
        | some (offset, cs) => return ('T' :: time ++ offset, cs)
        | none => return ('T' :: time, cs)
      else none

def dateAndTime : Reader (List Char) := fun cs => do
  let (date, cs) ← date cs
  match timeAfterDate cs with
  | some (time, cs) => return (date ++ time, cs)
  | none => return (date, cs)

def moment : Reader String := fun cs =>
  (Reader.orElse dateAndTime time cs).map fun (text, rest) => (String.ofList text, rest)

end Toml
end RaceTape
