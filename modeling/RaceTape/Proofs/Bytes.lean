import RaceTape.Bytes

/-!
# Words and their bytes

A word is the sum of its bytes, each times a power of 256.  So the bytes of a word spell
that word again, and no other bytes do.
-/

namespace RaceTape
namespace Bytes

/-!
## The number that bytes spell
-/

theorem or_shiftLeft {a k : Nat} (b : Nat) (h : a < 1 <<< k) :
    a ||| b <<< k = a + b <<< k := by
  rw [Nat.one_shiftLeft] at h
  rw [Nat.or_comm, Nat.add_comm]
  exact (Nat.shiftLeft_add_eq_or_of_lt h b).symm

theorem toNat_shifted16 (b : UInt8) : (b.toUInt16 <<< 8).toNat = b.toNat <<< 8 := by
  have hb := b.toNat_lt
  simp only [UInt16.toNat_shiftLeft, UInt8.toNat_toUInt16, UInt16.reduceToNat,
    Nat.reduceMod]
  omega

theorem toNat_shifted32 (b : UInt8) :
    (b.toUInt32 <<< 8).toNat = b.toNat <<< 8 ∧
      (b.toUInt32 <<< 16).toNat = b.toNat <<< 16 ∧
      (b.toUInt32 <<< 24).toNat = b.toNat <<< 24 := by
  have hb := b.toNat_lt
  simp only [UInt32.toNat_shiftLeft, UInt8.toNat_toUInt32, UInt32.reduceToNat,
    Nat.reduceMod]
  omega

theorem toNat_toWord16 (b0 b1 : UInt8) :
    (toWord16 b0 b1).toNat = b0.toNat + b1.toNat <<< 8 := by
  have h0 := b0.toNat_lt
  simp only [toWord16, UInt16.toNat_or, UInt8.toNat_toUInt16, toNat_shifted16]
  exact or_shiftLeft b1.toNat h0

theorem toNat_toWord32 (b0 b1 b2 b3 : UInt8) :
    (toWord32 b0 b1 b2 b3).toNat =
      b0.toNat + b1.toNat <<< 8 + b2.toNat <<< 16 + b3.toNat <<< 24 := by
  have h0 := b0.toNat_lt
  have h1 := b1.toNat_lt
  have h2 := b2.toNat_lt
  simp only [toWord32, UInt32.toNat_or, UInt8.toNat_toUInt32, toNat_shifted32]
  rw [or_shiftLeft b1.toNat h0, or_shiftLeft b2.toNat (by omega),
    or_shiftLeft b3.toNat (by omega)]

/-!
## Unsigned words
-/

@[simp] theorem length_ofWord16 (w : UInt16) : (ofWord16 w).length = 2 := rfl

@[simp] theorem length_ofWord32 (w : UInt32) : (ofWord32 w).length = 4 := rfl

theorem toWord16_bytes (w : UInt16) :
    toWord16 w.toUInt8 (w >>> 8).toUInt8 = w := by
  have hw := w.toNat_lt
  apply UInt16.toNat_inj.mp
  simp only [toNat_toWord16, UInt16.toNat_toUInt8, UInt16.toNat_shiftRight,
    UInt16.reduceToNat, Nat.reduceMod, Nat.shiftRight_eq_div_pow]
  omega

theorem toWord32_bytes (w : UInt32) :
    toWord32 w.toUInt8 (w >>> 8).toUInt8 (w >>> 16).toUInt8 (w >>> 24).toUInt8 = w := by
  have hw := w.toNat_lt
  apply UInt32.toNat_inj.mp
  simp only [toNat_toWord32, UInt32.toNat_toUInt8, UInt32.toNat_shiftRight,
    UInt32.reduceToNat, Nat.reduceMod, Nat.shiftRight_eq_div_pow]
  omega

theorem ofWord16_toWord16 (b0 b1 : UInt8) :
    ofWord16 (toWord16 b0 b1) = [b0, b1] := by
  have h0 := b0.toNat_lt
  have h1 := b1.toNat_lt
  simp only [ofWord16, List.cons.injEq, and_true, ← UInt8.toNat_inj,
    UInt16.toNat_toUInt8, UInt16.toNat_shiftRight, toNat_toWord16, UInt16.reduceToNat,
    Nat.reduceMod, Nat.shiftRight_eq_div_pow]
  omega

theorem ofWord32_toWord32 (b0 b1 b2 b3 : UInt8) :
    ofWord32 (toWord32 b0 b1 b2 b3) = [b0, b1, b2, b3] := by
  have h0 := b0.toNat_lt
  have h1 := b1.toNat_lt
  have h2 := b2.toNat_lt
  have h3 := b3.toNat_lt
  simp only [ofWord32, List.cons.injEq, and_true, ← UInt8.toNat_inj,
    UInt32.toNat_toUInt8, UInt32.toNat_shiftRight, toNat_toWord32, UInt32.reduceToNat,
    Nat.reduceMod, Nat.shiftRight_eq_div_pow]
  omega

/-!
## Signed words
-/

@[simp] theorem length_ofInt16 (n : Int16) : (ofInt16 n).length = 2 := rfl

@[simp] theorem length_ofInt32 (n : Int32) : (ofInt32 n).length = 4 := rfl

theorem toInt16_bytes (n : Int16) :
    toInt16 n.toUInt16.toUInt8 (n.toUInt16 >>> 8).toUInt8 = n := by
  rw [toInt16, toWord16_bytes]
  exact Int16.toInt16_toUInt16 n

theorem toInt32_bytes (n : Int32) :
    toInt32 n.toUInt32.toUInt8 (n.toUInt32 >>> 8).toUInt8 (n.toUInt32 >>> 16).toUInt8
      (n.toUInt32 >>> 24).toUInt8 = n := by
  rw [toInt32, toWord32_bytes]
  exact Int32.toInt32_toUInt32 n

theorem ofInt16_toInt16 (b0 b1 : UInt8) :
    ofInt16 (toInt16 b0 b1) = [b0, b1] := by
  rw [ofInt16, toInt16, UInt16.toUInt16_toInt16]
  exact ofWord16_toWord16 b0 b1

theorem ofInt32_toInt32 (b0 b1 b2 b3 : UInt8) :
    ofInt32 (toInt32 b0 b1 b2 b3) = [b0, b1, b2, b3] := by
  rw [ofInt32, toInt32, UInt32.toUInt32_toInt32]
  exact ofWord32_toWord32 b0 b1 b2 b3

end Bytes
end RaceTape
