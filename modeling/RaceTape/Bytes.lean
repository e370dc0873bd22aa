/-!
# Bytes

Sequences of bytes, and words written with the least byte first.
-/

namespace RaceTape

abbrev Bytes := List UInt8

namespace Bytes

/-- The two bytes of a 16-bit word. -/
def ofWord16 (w : UInt16) : Bytes :=
  [w.toUInt8, (w >>> 8).toUInt8]

def toWord16 (b0 b1 : UInt8) : UInt16 :=
  b0.toUInt16 ||| (b1.toUInt16 <<< 8)

/-- The four bytes of a 32-bit word. -/
def ofWord32 (w : UInt32) : Bytes :=
  [w.toUInt8, (w >>> 8).toUInt8, (w >>> 16).toUInt8, (w >>> 24).toUInt8]

def toWord32 (b0 b1 b2 b3 : UInt8) : UInt32 :=
  b0.toUInt32 ||| (b1.toUInt32 <<< 8) ||| (b2.toUInt32 <<< 16) ||| (b3.toUInt32 <<< 24)

def ofInt16 (n : Int16) : Bytes :=
  ofWord16 n.toUInt16

def toInt16 (b0 b1 : UInt8) : Int16 :=
  (toWord16 b0 b1).toInt16

def ofInt32 (n : Int32) : Bytes :=
  ofWord32 n.toUInt32

def toInt32 (b0 b1 b2 b3 : UInt8) : Int32 :=
  (toWord32 b0 b1 b2 b3).toInt32

end Bytes

end RaceTape
