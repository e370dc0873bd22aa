import RaceTape.Bytes
import RaceTape.Header.Setup
import RaceTape.Text.Hex
import RaceTape.Text.Utf8
import RaceTape.Timeline.Framebulk

/-!
# Payloads

The bytes of a tape.  A payload is the setup followed by a record of eight bytes for each
framebulk.

    payload  ::= track 0 kart 0 opponents:4 laps:4 difficulty:4 quickReset:1 record*
    record   ::= controls:2 ticks:2 angle:4
-/

namespace RaceTape
namespace Payload

open Header Text Timeline

/-- The names stored in a payload. -/
inductive NameField where
  | track
  | kart
deriving DecidableEq, Repr

def NameField.word : NameField -> String
  | .track => Key.word .track
  | .kart => Key.word .kart

/-- What is wrong with a value in bytes of the right number. -/
inductive Malformation where
  | quickReset (found : UInt8)
  | controls (found : Int16)
  | name (field : NameField) (defect : Utf8.Defect)
deriving DecidableEq, Repr

namespace Malformation

def text : Malformation -> String
  | .quickReset found => "quick_reset byte must be 0 or 1, got " ++ toString found.toNat
  | .controls found =>
      "undefined framebulk flag bits: 0x" ++
        String.ofList (paddedHex 4 found.toUInt16.toNat)
  | .name field defect => field.word ++ ": invalid UTF-8: " ++ defect.message

end Malformation

inductive Flaw where
  | insufficientData (needed available : Nat)
  | unterminatedName (field : NameField) (offset : Nat)
  | malformed (what : Malformation)
  | trailingBytes (count : Nat)
deriving DecidableEq, Repr

namespace Flaw

def message : Flaw -> String
  | .insufficientData needed available =>
      "insufficient data: need at least " ++ toString needed ++ " bytes, got " ++
        toString available
  | .unterminatedName field offset =>
      "string field '" ++ field.word ++ "' starting at offset " ++ toString offset ++
        " has no NUL terminator"
  | .malformed what => "malformed payload: " ++ what.text
  | .trailingBytes count =>
      toString count ++ " trailing bytes do not form a complete framebulk record"

end Flaw

/-- The number of bytes of a record. -/
def recordSize : Nat := 8

/-- The number of bytes of a setup after its two names. -/
def tailSize : Nat := 13

/-!
## Writing
-/

def encodeName (name : String) : Bytes :=
  Utf8.ofString name ++ [0]

def encodeSetup (setup : Setup) : Bytes :=
  encodeName setup.track ++ encodeName setup.kart ++ Bytes.ofInt32 setup.opponents ++
    Bytes.ofInt32 setup.laps ++ Bytes.ofInt32 setup.difficulty ++
    [if setup.quickReset then 1 else 0]

/-- A record holds the controls as a signed word. -/
def encodeFramebulk (f : Framebulk) : Bytes :=
  Bytes.ofInt16 f.controls.bits.toInt16 ++ Bytes.ofInt16 f.ticks ++
    Bytes.ofWord32 f.angle.bits

def encodeFramebulks (framebulks : List Framebulk) : Bytes :=
  framebulks.flatMap encodeFramebulk

def encode (setup : Setup) (framebulks : List Framebulk) : Bytes :=
  encodeSetup setup ++ encodeFramebulks framebulks

/-!
## Reading
-/

/-- The bytes before the first zero byte and those after it. -/
def splitAtZero : Bytes -> Option (Bytes × Bytes)
  | [] => none
  | b :: rest =>
      if b = 0 then some ([], rest)
      else (splitAtZero rest).map fun (front, back) => (b :: front, back)

/-- Reads the name at the front of `bytes`, which stand at `offset` of the payload. -/
def decodeName (field : NameField) (offset : Nat) (bytes : Bytes) :
    Except Flaw (String × Nat × Bytes) :=
  match splitAtZero bytes with
  | none => .error (.unterminatedName field offset)
  | some (front, back) =>
      match Utf8.decode front with
      | .ok cs => .ok (String.ofList cs, offset + front.length + 1, back)
      | .error defect => .error (.malformed (.name field defect))

/-- Reads the fixed part of a setup of which `offset` bytes are names. -/
def decodeTail (track kart : String) (offset : Nat) : Bytes -> Except Flaw (Setup × Bytes)
  | a0 :: a1 :: a2 :: a3 :: l0 :: l1 :: l2 :: l3 :: d0 :: d1 :: d2 :: d3 :: q :: rest =>
      let setup (quickReset : Bool) : Setup :=
        { track
          kart
          laps := Bytes.toInt32 l0 l1 l2 l3
          difficulty := Bytes.toInt32 d0 d1 d2 d3
          opponents := Bytes.toInt32 a0 a1 a2 a3
          quickReset }
      if q = 0 then .ok (setup false, rest)
      else if q = 1 then .ok (setup true, rest)
      else .error (.malformed (.quickReset q))
  | short => .error (.insufficientData (offset + tailSize) (offset + short.length))

/-- Reads a setup, and gives the number of its bytes and the bytes after it. -/
def decodeFront (bytes : Bytes) : Except Flaw (Setup × Nat × Bytes) :=
  match decodeName .track 0 bytes with
  | .error flaw => .error flaw
  | .ok (track, afterTrack, bytes) =>
      match decodeName .kart afterTrack bytes with
      | .error flaw => .error flaw
      | .ok (kart, afterKart, bytes) =>
          match decodeTail track kart afterKart bytes with
          | .error flaw => .error flaw
          | .ok (setup, rest) => .ok (setup, afterKart + tailSize, rest)

/-- Reads a setup, and gives the number of its bytes. -/
def decodeSetup (bytes : Bytes) : Except Flaw (Setup × Nat) :=
  match decodeFront bytes with
  | .error flaw => .error flaw
  | .ok (setup, consumed, _) => .ok (setup, consumed)

/-- The controls that a signed word stands for; a negative one stands for none. -/
def controlsOfWord? (word : Int16) : Option Controls :=
  if word < 0 then none else Controls.ofBits? word.toUInt16

/-- Reads the record at the front. -/
def decodeFramebulk : Bytes -> Except Flaw Framebulk
  | c0 :: c1 :: t0 :: t1 :: a0 :: a1 :: a2 :: a3 :: _ =>
      match controlsOfWord? (Bytes.toInt16 c0 c1) with
      | none => .error (.malformed (.controls (Bytes.toInt16 c0 c1)))
      | some controls =>
          .ok { ticks := Bytes.toInt16 t0 t1, angle := ⟨Bytes.toWord32 a0 a1 a2 a3⟩, controls }
  | short => .error (.insufficientData recordSize short.length)

/-- Reads records one after the other; fewer bytes than a record at the end are left out. -/
def decodeFramebulks : Bytes -> Except Flaw (List Framebulk)
  | c0 :: c1 :: t0 :: t1 :: a0 :: a1 :: a2 :: a3 :: rest =>
      match decodeFramebulk [c0, c1, t0, t1, a0, a1, a2, a3] with
      | .error flaw => .error flaw
      | .ok framebulk =>
          match decodeFramebulks rest with
          | .error flaw => .error flaw
          | .ok framebulks => .ok (framebulk :: framebulks)
  | _ => .ok []

/-- Reads a whole payload.  Bytes that make no whole record are reported before any record is read. -/
def decode (bytes : Bytes) : Except Flaw (Setup × List Framebulk) :=
  match decodeFront bytes with
  | .error flaw => .error flaw
  | .ok (setup, _, rest) =>
      if rest.length % recordSize ≠ 0 then .error (.trailingBytes (rest.length % recordSize))
      else
        match decodeFramebulks rest with
        | .error flaw => .error flaw
        | .ok framebulks => .ok (setup, framebulks)

end Payload
end RaceTape
