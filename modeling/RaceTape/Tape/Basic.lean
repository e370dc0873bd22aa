import RaceTape.Header.Setup
import RaceTape.Payload
import RaceTape.Tape.Section
import RaceTape.Timeline.Framebulk

/-!
# Tapes

A tape is read from its source text: the header up to the sentinel gives the setup and the
warnings, the lines after it give the timeline.  Compiling a tape also writes its payload.
Of several faults the first is reported: a missing sentinel, then the header, then the
timeline from its first line on.
-/

namespace RaceTape

open Header Timeline

structure Tape where
  setup : Setup
  framebulks : List Framebulk
  warnings : List Warning
deriving DecidableEq, Repr

/-- The word that ends the header unless another one is chosen. -/
def standardSentinel : String := "framebulks"

namespace Tape

def ofSections (s : Sections) : Except Fault Tape :=
  match Setup.ofLines s.header with
  | .error fault => .error fault
  | .ok setup =>
      match Timeline.parseLines s.timeline with
      | .error fault => .error fault
      | .ok framebulks => .ok { setup, framebulks, warnings := Header.warnings s.header }

def ofLines (sentinel : String) (lines : List Line) : Except Fault Tape :=
  match Sections.ofLines sentinel lines with
  | .error fault => .error fault
  | .ok sections => ofSections sections

def parse (sentinel source : String) : Except Fault Tape :=
  ofLines sentinel (Line.ofSource source)

def payload (tape : Tape) : Bytes :=
  Payload.encode tape.setup tape.framebulks

/-- What is logged about a tape that has been read. -/
def summary (tape : Tape) : Log.Event :=
  { level := .info
    part := .tape
    message :=
      "parsed script: map=" ++ tape.setup.track ++ ", kart=" ++ tape.setup.kart ++ ", " ++
        toString tape.framebulks.length ++ " framebulks, " ++ toString tape.warnings.length ++
        " warnings" }

/-- The log of reading a tape that has been cut into sections. -/
def sectionEvents (s : Sections) : List Log.Event :=
  s.event :: Header.events s.header ++
    match Setup.ofLines s.header with
    | .error _ => []
    | .ok _ =>
        Timeline.events s.timeline ++
          match ofSections s with
          | .error _ => []
          | .ok tape => [tape.summary]

/-- The log of reading a tape, up to its first fault. -/
def events (sentinel source : String) : List Log.Event :=
  match Sections.ofLines sentinel (Line.ofSource source) with
  | .error _ => []
  | .ok sections => sectionEvents sections

end Tape

/-- A tape with its payload. -/
structure Compiled where
  tape : Tape
  payload : Bytes
deriving DecidableEq, Repr

namespace Compiled

def ofTape (tape : Tape) : Compiled :=
  { tape, payload := tape.payload }

def ofSource (sentinel source : String) : Except Fault Compiled :=
  match Tape.parse sentinel source with
  | .error fault => .error fault
  | .ok tape => .ok (ofTape tape)

def summary (c : Compiled) : Log.Event :=
  { level := .info
    part := .compiler
    message :=
      "compiled " ++ toString c.tape.framebulks.length ++ " framebulks into " ++
        toString c.payload.length ++ " payload bytes" }

/-- The log of compiling a tape, up to its first fault. -/
def events (sentinel source : String) : List Log.Event :=
  Tape.events sentinel source ++
    match ofSource sentinel source with
    | .error _ => []
    | .ok compiled => [compiled.summary]

end Compiled

end RaceTape
