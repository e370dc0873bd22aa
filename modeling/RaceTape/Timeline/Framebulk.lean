import RaceTape.Decimal.Layout
import RaceTape.Log.Event
import RaceTape.Tape.Fault
import RaceTape.Tape.Line
import RaceTape.Text.Hex
import RaceTape.Text.Integer
import RaceTape.Timeline.Controls

/-!
# Framebulks

The timeline of a tape is a list of framebulks, one to a line.  A line sets the playback
speed or holds controls for a number of ticks.

    line      ::= "playspeed" blanks literal [blanks]
                | acceleration "|" misc "|" angle "|" ticks "|"

Fields that are blank do not count, so bars may be doubled and the last may be left out.
The characters of the first two fields count from the bar on, blanks included; the angle
and the ticks are trimmed.
-/

namespace RaceTape
namespace Timeline

open Decimal Text

structure Framebulk where
  ticks : Int16
  /-- The steering angle, or the new speed in a framebulk that sets one. -/
  angle : Binary32
  controls : Controls
deriving DecidableEq, Repr

namespace Framebulk

/-- Holds controls for some ticks. -/
def hold (ticks : Int16) (angle : Binary32) (controls : Controls) : Framebulk :=
  { ticks, angle, controls := controls.remove Controls.setSpeed }

/-- Sets the playback speed. -/
def speed (value : Binary32) : Framebulk :=
  { ticks := 0, angle := value, controls := ⟨Controls.setSpeed⟩ }

def isSpeed (f : Framebulk) : Bool :=
  f.controls.contains Controls.setSpeed

end Framebulk

def speedWord : String := "playspeed"

/-- A decimal literal after at least one blank, with blanks allowed behind it. -/
def blankThenLiteral? : List Char -> Option Literal
  | [] => none
  | c :: rest => if isBlank c then Literal.parse? (trim (c :: rest)) else none

/-- The speed that a line sets. -/
def speed? (text : List Char) : Option Binary32 :=
  (speedWord.toList.isPrefixOf? text).bind fun rest =>
    (blankThenLiteral? rest).map Binary32.ofLiteral

/-- The fields between bars that are not blank. -/
def fields (text : List Char) : List (List Char) :=
  (text.splitOn '|').filter fun field => !(trim field).isEmpty

/-- The bit `bit` if `c` is the letter that stands for it. -/
def bitIf (c letter : Char) (bit : UInt16) : UInt16 :=
  if c = letter then bit else 0

def accelerationBits? : List Char -> Option UInt16
  | c :: d :: _ => some (bitIf c 'a' Controls.accelerate ||| bitIf d 'b' Controls.brake)
  | _ => none

def miscBits? : List Char -> Option UInt16
  | c :: d :: e :: _ =>
      some (bitIf c 'f' Controls.ability ||| bitIf d 'n' Controls.nitro |||
        bitIf e 's' Controls.skid)
  | _ => none

/-- The framebulk of four fields, or the first flaw among them. -/
def ofFields : List (List Char) -> Except LineFlaw Framebulk
  | [acceleration, misc, angle, ticks] =>
      match accelerationBits? acceleration with
      | none => .error .shortAcceleration
      | some first =>
          match miscBits? misc with
          | none => .error .shortMisc
          | some second =>
              match Binary32.parse? (trim angle) with
              | none => .error (.angle (String.ofList (trim angle)))
              | some value =>
                  match int16? (trim ticks) with
                  | none => .error (.ticks (String.ofList (trim ticks)))
                  | some count => .ok (Framebulk.hold count value ⟨first ||| second⟩)
  | others => .error (.fieldCount others.length)

/-- The framebulk that a text describes. -/
def parseText (text : List Char) : Except LineFlaw Framebulk :=
  match speed? text with
  | some value => .ok (Framebulk.speed value)
  | none => ofFields (fields text)

def parseLine (line : Line) : Except Fault Framebulk :=
  match parseText line.text.toList with
  | .ok framebulk => .ok framebulk
  | .error flaw => .error (.framebulkFlaw line.number flaw)

/-- The framebulks of all lines, or the fault of the first line that has one. -/
def parseLines : List Line -> Except Fault (List Framebulk)
  | [] => .ok []
  | line :: rest =>
      match parseLine line with
      | .error fault => .error fault
      | .ok framebulk =>
          match parseLines rest with
          | .error fault => .error fault
          | .ok framebulks => .ok (framebulk :: framebulks)

/-!
## Log
-/

/-- Numbers in the log never have a power of ten, and whole ones have no point. -/
def shownNumber : Layout :=
  { tie := .up
    plain := none
    wholeEnding := []
    nan := "NaN".toList
    infinity := "inf".toList
    negativeInfinity := "-inf".toList }

/-- What is logged about a line that has been read. -/
def describe (line : Line) (f : Framebulk) : Log.Event :=
  let start := "line " ++ toString line.number ++ ": "
  let angle := shownNumber.render f.angle
  { level := .debug
    part := .timeline
    message :=
      if f.isSpeed then start ++ "playspeed " ++ angle
      else
        start ++ toString f.ticks.toInt ++ " ticks, angle " ++ angle ++ ", flags " ++
          "0x" ++ String.ofList (paddedHex 2 f.controls.bits.toNat) }

/-- The log of reading lines up to the first fault. -/
def events : List Line -> List Log.Event
  | [] => []
  | line :: rest =>
      match parseLine line with
      | .error _ => []
      | .ok framebulk => describe line framebulk :: events rest

end Timeline
end RaceTape
