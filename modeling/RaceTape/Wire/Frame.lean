import RaceTape.Text.Hex
import RaceTape.Wire.Message

/-!
# Frames

Messages and replies travel in frames.  A frame begins with the number of bytes that
follow, as a signed 32-bit word.

    frame  ::= length:4 kind:1 payload     length counts the kind and the payload
    reply  ::= length:4 payload            length counts the payload
-/

namespace RaceTape
namespace Wire

open Text

inductive FrameError where
  | insufficientData (needed available : Nat)
  | negativeLength (length : Int32)
  | emptyFrame (length : Nat)
  | payloadTooLarge (length : Nat)
  | unknownKind (code : UInt8)
  | unexpectedPayload (length : Nat)
deriving DecidableEq, Repr

namespace FrameError

def message : FrameError -> String
  | .insufficientData needed available =>
      "insufficient data: need at least " ++ toString needed ++ " bytes, got " ++
        toString available
  | .negativeLength length => "negative frame length: " ++ toString length.toInt
  | .emptyFrame length =>
      "outbound frame length " ++ toString length ++ " does not cover the type byte"
  | .payloadTooLarge length =>
      "payload of " ++ toString length ++ " bytes is too large to frame"
  | .unknownKind code =>
      "unknown message type: 0x" ++
        String.ofList ((paddedHex 2 code.toNat).map Char.toUpper)
  | .unexpectedPayload length =>
      "unload message carries " ++ toString length ++ " unexpected payload bytes"

end FrameError

/-- The number of bytes of a length. -/
def lengthSize : Nat := 4

/-- The greatest length that a frame can have. -/
def maxLength : Nat := 2147483647

/-- The bytes of the length of a frame with `extra` bytes before a payload of `payload` bytes. -/
def announce (extra payload : Nat) : Except FrameError Bytes :=
  if payload + extra ≤ maxLength then .ok (Bytes.ofInt32 (Int32.ofNat (payload + extra)))
  else .error (.payloadTooLarge payload)

def encodeFrame (m : Message) : Except FrameError Bytes :=
  match announce 1 m.payload.length with
  | .error e => .error e
  | .ok length => .ok (length ++ m.kind.code :: m.payload)

def encodeReply (payload : Bytes) : Except FrameError Bytes :=
  match announce 0 payload.length with
  | .error e => .error e
  | .ok length => .ok (length ++ payload)

/-- The number that a length spells, which may not be negative. -/
def parseLength (b0 b1 b2 b3 : UInt8) : Except FrameError Nat :=
  let length := Bytes.toInt32 b0 b1 b2 b3
  if length < 0 then .error (.negativeLength length) else .ok length.toInt.toNat

/-- The length at the front of bytes, and the bytes after it. -/
def splitLength : Bytes -> Except FrameError (Nat × Bytes)
  | b0 :: b1 :: b2 :: b3 :: rest =>
      match parseLength b0 b1 b2 b3 with
      | .error e => .error e
      | .ok length => .ok (length, rest)
  | short => .error (.insufficientData lengthSize short.length)

/-- The message of a kind with a payload. -/
def messageOf (code : UInt8) (payload : Bytes) : Except FrameError Message :=
  match Kind.ofCode? code with
  | none => .error (.unknownKind code)
  | some .script => .ok (.script payload)
  | some .unload =>
      if payload.isEmpty then .ok .unload else .error (.unexpectedPayload payload.length)

/-- The first `length` of the bytes that follow a length. -/
def takeAnnounced (length : Nat) (rest : Bytes) : Except FrameError Bytes :=
  if rest.length < length then
    .error (.insufficientData (lengthSize + length) (lengthSize + rest.length))
  else .ok (rest.take length)

/-- Reads the frame at the front, and gives the number of its bytes. -/
def decodeFrame (bytes : Bytes) : Except FrameError (Message × Nat) :=
  match splitLength bytes with
  | .error e => .error e
  | .ok (length, rest) =>
      if length = 0 then .error (.emptyFrame 0)
      else
        match takeAnnounced length rest with
        | .error e => .error e
        | .ok [] => .error (.emptyFrame 0)
        | .ok (code :: payload) =>
            match messageOf code payload with
            | .error e => .error e
            | .ok m => .ok (m, lengthSize + length)

/-- Reads the reply at the front, and gives the number of its bytes. -/
def decodeReply (bytes : Bytes) : Except FrameError (Bytes × Nat) :=
  match splitLength bytes with
  | .error e => .error e
  | .ok (length, rest) =>
      match takeAnnounced length rest with
      | .error e => .error e
      | .ok payload => .ok (payload, lengthSize + length)

end Wire
end RaceTape
