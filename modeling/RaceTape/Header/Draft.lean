import RaceTape.Log.Event
import RaceTape.Tape.Fault
import RaceTape.Tape.Line
import RaceTape.Text.Quoted

/-!
# Header drafts

The values that header lines give to keys, before any of them is checked.  A key that is
set more than once keeps its last value.
-/

namespace RaceTape
namespace Header

structure Draft where
  value? : Key -> Option String

namespace Draft

def empty : Draft :=
  ⟨fun _ => none⟩

def set (draft : Draft) (key : Key) (value : String) : Draft :=
  ⟨fun other => if other = key then some value else draft.value? other⟩

/-- The value of a key, or the one it has when it is absent. -/
def valueOrStandard? (draft : Draft) (key : Key) : Option String :=
  (draft.value? key).or key.standard?

/-- Takes one header line into account. -/
def addLine (draft : Draft) (line : Line) : Draft :=
  match entry? line.text with
  | some (key, value) => draft.set key value
  | none => draft

def ofLines (lines : List Line) : Draft :=
  lines.foldl addLine empty

end Draft

def warning? (line : Line) : Option Warning :=
  match entry? line.text with
  | some _ => none
  | none => some ⟨line.number, line.text⟩

/-- The header lines that set no key, in order. -/
def warnings (lines : List Line) : List Warning :=
  lines.filterMap warning?

/-- What is logged about one header line. -/
def lineEvent (line : Line) : Log.Event :=
  match entry? line.text with
  | some (key, value) =>
      { level := .debug
        part := .header
        message :=
          "line " ++ toString line.number ++ ": header " ++ key.word ++ " = " ++ Text.quoted value }
  | none =>
      { level := .warn
        part := .header
        message := (Warning.mk line.number line.text).message }

def events (lines : List Line) : List Log.Event :=
  lines.map lineEvent

end Header
end RaceTape
