import RaceTape.Wire.Frame

/-!
# Streams of frames

Frames that stand one after the other are read from the front until the bytes are used up
or one of them cannot be read.
-/

namespace RaceTape
namespace Wire

/--
The results of reading with `decode` again and again, at most `fuel` times.  The last one
may be an error.
-/
def readAll (decode : Bytes -> Except FrameError (α × Nat)) :
    Nat -> Bytes -> List (Except FrameError (α × Nat))
  | 0, _ => []
  | fuel + 1, bytes =>
      if bytes.isEmpty then []
      else
        match decode bytes with
        | .error e => [.error e]
        | .ok (a, consumed) => .ok (a, consumed) :: readAll decode fuel (bytes.drop consumed)

/-- The frames of a stream.  Each of them takes at least one byte. -/
def readFrames (bytes : Bytes) : List (Except FrameError (Message × Nat)) :=
  readAll decodeFrame bytes.length bytes

/-- The replies of a stream. -/
def readReplies (bytes : Bytes) : List (Except FrameError (Bytes × Nat)) :=
  readAll decodeReply bytes.length bytes

end Wire
end RaceTape
