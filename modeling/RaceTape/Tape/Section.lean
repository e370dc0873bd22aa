import RaceTape.Log.Event
import RaceTape.Tape.Fault
import RaceTape.Tape.Line

/-!
# Sections of a tape

A line of its own, the sentinel, ends the header; the timeline follows it.
-/

namespace RaceTape

open Text

/-- The lines before the sentinel, the sentinel, and the lines after it. -/
structure Sections where
  header : List Line
  sentinel : Line
  timeline : List Line
deriving Repr

namespace Sections

/-- The text that the sentinel line has to have: the given word trimmed, in lower case. -/
def sentinelText (word : String) : String :=
  String.ofList (lower (trim word.toList))

/-- Cuts lines at the first one with the given text. -/
def cut? (text : String) : List Line -> Option Sections
  | [] => none
  | line :: rest =>
      if line.text = text then some ⟨[], line, rest⟩
      else (cut? text rest).map fun s => { s with header := line :: s.header }

def ofLines (sentinel : String) (lines : List Line) : Except Fault Sections :=
  match cut? (sentinelText sentinel) lines with
  | some sections => .ok sections
  | none => .error (.sentinelNotFound (sentinelText sentinel))

def event (s : Sections) : Log.Event :=
  { level := .debug
    part := .tape
    message := "header ends at line " ++ toString s.sentinel.number }

end Sections

end RaceTape
