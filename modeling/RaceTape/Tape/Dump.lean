import RaceTape.Json
import RaceTape.Tape.Basic

/-!
# Tapes as JSON

The model of a tape as a document, for people and tools to look at.
-/

namespace RaceTape

open Decimal Header Timeline

namespace Tape

/-- Numbers have a point or a signed power of ten; what is no finite number is null. -/
def documentNumber : Layout :=
  { tie := .even
    plain := some (-6, 12)
    wholeEnding := ".0".toList
    nan := "null".toList
    infinity := "null".toList
    negativeInfinity := "null".toList }

def setupDocument (setup : Setup) : Json :=
  .object
    [("map", .string setup.track),
     ("kart_name", .string setup.kart),
     ("num_laps", .ofInt setup.laps.toInt),
     ("difficulty", .ofInt setup.difficulty.toInt),
     ("num_ai_karts", .ofInt setup.opponents.toInt),
     ("quick_reset", .bool setup.quickReset)]

def framebulkDocument (f : Framebulk) : Json :=
  .object
    [("num_ticks", .ofInt f.ticks.toInt),
     ("angle", .number (documentNumber.render f.angle)),
     ("flags", .ofNat f.controls.bits.toNat)]

def warningDocument (w : Warning) : Json :=
  .object [("line", .ofNat w.line), ("text", .string w.text)]

def document (tape : Tape) : Json :=
  .object
    [("header", setupDocument tape.setup),
     ("framebulks", .array (tape.framebulks.map framebulkDocument)),
     ("warnings", .array (tape.warnings.map warningDocument))]

end Tape

namespace Compiled

/-- The document of a compiled tape, which leaves the payload out. -/
def document (c : Compiled) : Json :=
  .object [("script", c.tape.document)]

end Compiled

end RaceTape
