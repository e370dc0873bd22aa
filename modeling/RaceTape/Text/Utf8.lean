import RaceTape.Bytes

/-!
# UTF-8

Characters as one to four bytes each.  Reading cuts the bytes into pieces: a character,
a row of bytes that begins like a character and then cannot be one, or a character that
the end of the bytes cuts off.
-/

namespace RaceTape
namespace Text
namespace Utf8

def encodeChar (c : Char) : Bytes :=
  let n := c.toNat
  if n < 0x80 then [UInt8.ofNat n]
  else if n < 0x800 then
    [UInt8.ofNat (0xC0 + n / 0x40), UInt8.ofNat (0x80 + n % 0x40)]
  else if n < 0x10000 then
    [UInt8.ofNat (0xE0 + n / 0x1000), UInt8.ofNat (0x80 + n / 0x40 % 0x40),
      UInt8.ofNat (0x80 + n % 0x40)]
  else
    [UInt8.ofNat (0xF0 + n / 0x40000), UInt8.ofNat (0x80 + n / 0x1000 % 0x40),
      UInt8.ofNat (0x80 + n / 0x40 % 0x40), UInt8.ofNat (0x80 + n % 0x40)]

def encode (cs : List Char) : Bytes :=
  cs.flatMap encodeChar

def ofString (s : String) : Bytes :=
  encode s.toList

inductive Piece where
  | char (c : Char)
  /-- The first `length` bytes rule each other out. -/
  | invalid (length : Nat)
  /-- The bytes end inside a character, `length` bytes from here. -/
  | truncated (length : Nat)
deriving DecidableEq, Repr

namespace Piece

/-- The number of bytes that a piece covers. -/
def size : Piece -> Nat
  | .char c => (encodeChar c).length
  | .invalid length => length
  | .truncated length => length

end Piece

def isContinuation (b : UInt8) : Bool :=
  0x80 ≤ b && b ≤ 0xBF

/-- The number of bytes that a first byte announces, or zero if it cannot be one. -/
def announced (b : UInt8) : Nat :=
  if b ≤ 0x7F then 1
  else if 0xC2 ≤ b && b ≤ 0xDF then 2
  else if 0xE0 ≤ b && b ≤ 0xEF then 3
  else if 0xF0 ≤ b && b ≤ 0xF4 then 4
  else 0

/--
Whether a second byte may follow a first byte.  This rules out forms that are longer than
needed, surrogates, and code points past the last one.
-/
def isSecond (first second : UInt8) : Bool :=
  isContinuation second &&
    (first != 0xE0 || 0xA0 ≤ second) &&
    (first != 0xED || second ≤ 0x9F) &&
    (first != 0xF0 || 0x90 ≤ second) &&
    (first != 0xF4 || second ≤ 0x8F)

/-- The six low bits of a byte that is not the first. -/
def low6 (b : UInt8) : Nat :=
  b.toNat % 0x40

/-- The piece at the front of `first :: rest`. -/
def piece (first : UInt8) (rest : Bytes) : Piece :=
  match announced first, rest with
  | 1, _ => .char (Char.ofNat first.toNat)
  | 2, [] => .truncated 1
  | 2, b :: _ =>
      if isSecond first b then .char (Char.ofNat (first.toNat % 0x20 * 0x40 + low6 b))
      else .invalid 1
  | 3, [] => .truncated 1
  | 3, b :: tail =>
      if isSecond first b then
        match tail with
        | [] => .truncated 2
        | c :: _ =>
            if isContinuation c then
              .char (Char.ofNat (first.toNat % 0x10 * 0x1000 + low6 b * 0x40 + low6 c))
            else .invalid 2
      else .invalid 1
  | 4, [] => .truncated 1
  | 4, b :: tail =>
      if isSecond first b then
        match tail with
        | [] => .truncated 2
        | c :: tail =>
            if isContinuation c then
              match tail with
              | [] => .truncated 3
              | d :: _ =>
                  if isContinuation d then
                    .char (Char.ofNat
                      (first.toNat % 0x8 * 0x40000 + low6 b * 0x1000 + low6 c * 0x40 + low6 d))
                  else .invalid 3
            else .invalid 2
      else .invalid 1
  | _, _ => .invalid 1

/-- The pieces of bytes of which the first `skip` belong to a piece already seen. -/
def piecesAfter (skip : Nat) : Bytes -> List Piece
  | [] => []
  | b :: rest =>
      match skip with
      | n + 1 => piecesAfter n rest
      | 0 =>
          let p := piece b rest
          p :: piecesAfter (p.size - 1) rest

def pieces (bytes : Bytes) : List Piece :=
  piecesAfter 0 bytes

/-- Where bytes stop being UTF-8: at `index`, for `length` bytes unless they just end. -/
structure Defect where
  index : Nat
  length : Option Nat
deriving DecidableEq, Repr

namespace Defect

def message (d : Defect) : String :=
  match d.length with
  | some n =>
      "invalid utf-8 sequence of " ++ toString n ++ " bytes from index " ++ toString d.index
  | none => "incomplete utf-8 byte sequence from index " ++ toString d.index

end Defect

/-- The characters of pieces of which the first begins at `index`. -/
def characters (index : Nat) : List Piece -> Except Defect (List Char)
  | [] => .ok []
  | .char c :: rest =>
      match characters (index + (encodeChar c).length) rest with
      | .ok cs => .ok (c :: cs)
      | .error defect => .error defect
  | .invalid length :: _ => .error ⟨index, some length⟩
  | .truncated _ :: _ => .error ⟨index, none⟩

def decode (bytes : Bytes) : Except Defect (List Char) :=
  characters 0 (pieces bytes)

/-- Reads bytes as text, with a replacement character for each piece that is none. -/
def decodeLossy (bytes : Bytes) : List Char :=
  (pieces bytes).map fun
    | .char c => c
    | _ => Char.ofNat 0xFFFD

end Utf8
end Text
end RaceTape
