import RaceTape.Timeline.Controls

/-!
# Sets of controls

The sets whose bits all have a meaning.  They are small numbers, so a signed word holds
them as they are.
-/

namespace RaceTape
namespace Timeline
namespace Controls

def IsDefined (c : Controls) : Prop :=
  c.bits &&& ~~~defined = 0

instance (c : Controls) : Decidable c.IsDefined :=
  inferInstanceAs (Decidable (c.bits &&& ~~~defined = 0))

theorem ofBits?_eq_some_iff (bits : UInt16) (c : Controls) :
    ofBits? bits = some c ↔ c.IsDefined ∧ c.bits = bits := by
  cases c with
  | mk found =>
      rw [ofBits?, IsDefined]
      constructor
      · intro h
        split at h
        · next hbits =>
            cases h
            exact ⟨hbits, rfl⟩
        · cases h
      · intro h
        rcases h with ⟨hbits, rfl⟩
        rw [if_pos hbits]

/-!
## Bits outside a mask
-/

theorem or_and_distrib (a b mask : UInt16) :
    (a ||| b) &&& mask = (a &&& mask) ||| (b &&& mask) := by
  apply UInt16.toBitVec_inj.mp
  exact BitVec.and_or_distrib_right

theorem and_eq_self_of_and_not {bits mask : UInt16} (h : bits &&& ~~~mask = 0) :
    bits &&& mask = bits := by
  calc
    bits &&& mask = (mask &&& bits) ||| (~~~mask &&& bits) := by
      rw [UInt16.and_comm (~~~mask), h, UInt16.or_zero, UInt16.and_comm]
    _ = bits := by
      rw [← or_and_distrib, UInt16.or_not_self, UInt16.and_comm, UInt16.and_neg_one]

namespace IsDefined

theorem toNat_lt {c : Controls} (h : c.IsDefined) : c.bits.toNat < 64 := by
  have hmask : c.bits.toNat &&& defined.toNat = c.bits.toNat := by
    rw [← UInt16.toNat_and, and_eq_self_of_and_not h]
  have hle : c.bits.toNat ≤ defined.toNat := hmask ▸ Nat.and_le_right
  exact Nat.lt_succ_of_le hle

theorem toInt_toInt16 {c : Controls} (h : c.IsDefined) :
    c.bits.toInt16.toInt = c.bits.toNat := by
  have hlt := h.toNat_lt
  show c.bits.toBitVec.toInt = c.bits.toBitVec.toNat
  apply BitVec.toInt_eq_toNat_of_lt
  show 2 * c.bits.toNat < 2 ^ 16
  omega

end IsDefined

end Controls
end Timeline
end RaceTape
