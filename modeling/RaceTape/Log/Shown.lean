import RaceTape.Log.Event
import RaceTape.Text.Hex

/-!
# The printed log

An event is printed on a line of its own.  Characters by which a terminal could be
controlled are written out.  A message of several lines goes on below its first line.
-/

namespace RaceTape
namespace Log

open Text

/-- A character of a message as it is printed. -/
def shownChar (c : Char) : List Char :=
  let n := c.toNat
  if n = 0x1B || n = 0x07 || n = 0x08 || n = 0x0C || n = 0x7F then
    ['\\', 'x'] ++ paddedHex 2 n
  else if 0x80 ≤ n && n ≤ 0x9F then ['\\', 'u', '\x7b'] ++ hexDigits n ++ ['\x7d']
  else [c]

/-- The lines of a message. -/
def shownLines (message : String) : List String :=
  (message.toList.flatMap shownChar).splitOn '\n' |>.map String.ofList

namespace Event

/-- The event with the first line of its message. -/
def firstLine (e : Event) : Event :=
  { e with message := (shownLines e.message).headD "" }

/-- The lines of the message below the first. -/
def furtherLines (e : Event) : List String :=
  (shownLines e.message).tail

end Event

end Log
end RaceTape
