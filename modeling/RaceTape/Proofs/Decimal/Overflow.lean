import RaceTape.Decimal.Binary32
import Mathlib.Algebra.Order.Field.Power
import Mathlib.Data.Rat.Cast.Order
import Mathlib.Tactic.FieldSimp
import Mathlib.Tactic.Linarith
import Mathlib.Tactic.NormNum

/-!
# Numbers that are rounded to infinity

A decimal literal always gives a number, never the pattern for none.  It gives infinity exactly
if it is at least halfway between the greatest single-precision number and the power of two
above it, because there the even neighbour is taken.
-/

namespace RaceTape
namespace Decimal

/-!
## Rounding to a whole number
-/

theorem div_le_roundQuotient (num den : Nat) : num / den ≤ roundQuotient num den := by
  simp only [roundQuotient]
  split
  · exact Nat.le_refl _
  · split
    · exact Nat.le_succ _
    · exact Nat.le_add_right _ _

theorem roundQuotient_le (num den : Nat) : roundQuotient num den ≤ num / den + 1 := by
  simp only [roundQuotient]
  split
  · exact Nat.le_succ _
  · split
    · exact Nat.le_refl _
    · exact Nat.add_le_add_left (Nat.le_of_lt_succ (Nat.mod_lt _ (Nat.succ_pos 1))) _

/-- A quotient stays below an even number unless it is at most one half away from it. -/
theorem roundQuotient_lt_iff {num den n : Nat} (hden : 0 < den) (hn : n % 2 = 0) :
    roundQuotient num den < n ↔ 2 * num + den < 2 * (n * den) := by
  have hnum : num / den * den + num % den = num := Nat.div_add_mod' num den
  have hrest : num % den < den := Nat.mod_lt num hden
  simp only [roundQuotient]
  generalize num / den = quotient at hnum ⊢
  generalize num % den = rest at hnum hrest ⊢
  subst hnum
  have hle : forall j, quotient + j ≤ n -> quotient * den + j * den ≤ n * den := by
    intro j h
    rw [← Nat.add_mul]
    exact Nat.mul_le_mul_right den h
  have hge : forall j, n ≤ quotient + j -> n * den ≤ quotient * den + j * den := by
    intro j h
    rw [← Nat.add_mul]
    exact Nat.mul_le_mul_right den h
  have hone := hle 1
  have htwo := hle 2
  have hsame := hge 0
  have hnext := hge 1
  split
  · omega
  · split
    · omega
    · omega

/-!
## Powers

The power of two that is found for a quotient is the greatest one that is not above it.
-/

theorem twoTo_cast {e : Int} (h : 0 ≤ e) : (twoTo e : ℚ) = 2 ^ e := by
  rw [twoTo, Nat.pow_eq, Nat.cast_pow, ← zpow_natCast, Int.toNat_of_nonneg h, Nat.cast_ofNat]

theorem tenTo_cast {e : Int} (h : 0 ≤ e) : (tenTo e : ℚ) = 10 ^ e := by
  rw [tenTo, Nat.pow_eq, Nat.cast_pow, ← zpow_natCast, Int.toNat_of_nonneg h, Nat.cast_ofNat]

theorem log2_bounds {n : Nat} (h : n ≠ 0) :
    (2 : ℚ) ^ (n.log2 : Int) ≤ n ∧ (n : ℚ) < 2 ^ ((n.log2 : Int) + 1) := by
  constructor
  · rw [zpow_natCast]
    exact_mod_cast Nat.log2_self_le h
  · have hlt : n < 2 ^ (n.log2 + 1) := Nat.lt_log2_self
    exact_mod_cast hlt

section

variable {num den : Nat}

theorem fits_iff (hden : 0 < den) (guess : Int) :
    (if guess < 0 then den ≤ num * twoTo (-guess) else den * twoTo guess ≤ num) ↔
      (2 : ℚ) ^ guess ≤ num / den := by
  have hdenQ : (0 : ℚ) < den := Nat.cast_pos.mpr hden
  have hpow : (0 : ℚ) < 2 ^ guess := zpow_pos two_pos guess
  rw [le_div_iff₀ hdenQ]
  split
  · next hneg =>
      rw [← Nat.cast_le (α := ℚ), Nat.cast_mul, twoTo_cast (by omega), zpow_neg, ← div_eq_mul_inv,
        le_div_iff₀ hpow, mul_comm]
  · next hpos =>
      rw [← Nat.cast_le (α := ℚ), Nat.cast_mul, twoTo_cast (by omega), mul_comm]

theorem floorLog2_bounds (hnum : num ≠ 0) (hden : 0 < den) :
    (2 : ℚ) ^ floorLog2 num den ≤ num / den ∧
      (num : ℚ) / den < 2 ^ (floorLog2 num den + 1) := by
  have hdenQ : (0 : ℚ) < den := Nat.cast_pos.mpr hden
  rcases log2_bounds hnum with ⟨hnumLow, hnumHigh⟩
  rcases log2_bounds (Nat.ne_of_gt hden) with ⟨hdenLow, hdenHigh⟩
  have hlow : (2 : ℚ) ^ ((num.log2 : Int) - den.log2 - 1) ≤ num / den := by
    rw [sub_sub, zpow_sub₀ two_ne_zero]
    exact div_le_div₀ (Nat.cast_nonneg num) hnumLow hdenQ hdenHigh.le
  have hhigh : (num : ℚ) / den < 2 ^ ((num.log2 : Int) - den.log2 + 1) := by
    rw [sub_add_eq_add_sub, zpow_sub₀ two_ne_zero]
    exact div_lt_div₀ hnumHigh hdenLow (zpow_nonneg two_pos.le _) (zpow_pos two_pos _)
  simp only [floorLog2, fits_iff hden, Int.ofNat_eq_natCast]
  split
  · next hfits => exact ⟨hfits, hhigh⟩
  · next hfits =>
      rw [sub_add_cancel]
      exact ⟨hlow, not_le.mp hfits⟩

/-!
## Rounding to a multiple of a power of two
-/

/-- The multiple of `2 ^ unit` nearest to `num / den`. -/
def units (unit : Int) (num den : Nat) : Nat :=
  if unit < 0 then roundQuotient (num * twoTo (-unit)) den
  else roundQuotient num (den * twoTo unit)

theorem exists_units_eq (num : Nat) (hden : 0 < den) (unit : Int) :
    exists a b, 0 < b ∧ units unit num den = roundQuotient a b ∧
      (num : ℚ) / den = a / b * 2 ^ unit := by
  have hdenQ : (den : ℚ) ≠ 0 := Nat.cast_ne_zero.mpr (Nat.ne_of_gt hden)
  have hpow : (2 : ℚ) ^ unit ≠ 0 := zpow_ne_zero unit two_ne_zero
  rw [units]
  split
  · next hneg =>
      refine ⟨_, _, hden, rfl, ?_⟩
      rw [Nat.cast_mul, twoTo_cast (by omega), zpow_neg]
      field_simp
  · next hpos =>
      have htwo : 0 < twoTo unit := Nat.pow_pos two_pos
      refine ⟨_, _, Nat.mul_pos hden htwo, rfl, ?_⟩
      rw [Nat.cast_mul, twoTo_cast (by omega)]
      field_simp

variable {n : Nat} {unit : Int}

theorem units_lt_iff (hden : 0 < den) (hn : n % 2 = 0) :
    units unit num den < n ↔ (num : ℚ) / den < (n - 1 / 2) * 2 ^ unit := by
  rcases exists_units_eq num hden unit with ⟨a, b, hb, hunits, hvalue⟩
  have hbQ : (0 : ℚ) < b := Nat.cast_pos.mpr hb
  rw [hunits, hvalue, mul_lt_mul_iff_left₀ (zpow_pos two_pos unit), roundQuotient_lt_iff hb hn,
    div_lt_iff₀ hbQ, ← Nat.cast_lt (α := ℚ)]
  push_cast
  constructor
  · intro h
    linarith
  · intro h
    linarith

theorem le_units (hden : 0 < den) (h : (n : ℚ) * 2 ^ unit ≤ num / den) :
    n ≤ units unit num den := by
  rcases exists_units_eq num hden unit with ⟨a, b, hb, hunits, hvalue⟩
  rw [hvalue, mul_le_mul_iff_left₀ (zpow_pos two_pos unit), le_div_iff₀ (Nat.cast_pos.mpr hb)] at h
  rw [hunits]
  apply Nat.le_trans _ (div_le_roundQuotient a b)
  exact (Nat.le_div_iff_mul_le hb).mpr (by exact_mod_cast h)

theorem units_le (hden : 0 < den) (h : (num : ℚ) / den < n * 2 ^ unit) :
    units unit num den ≤ n := by
  rcases exists_units_eq num hden unit with ⟨a, b, hb, hunits, hvalue⟩
  rw [hvalue, mul_lt_mul_iff_left₀ (zpow_pos two_pos unit), div_lt_iff₀ (Nat.cast_pos.mpr hb)] at h
  rw [hunits]
  apply Nat.le_trans (roundQuotient_le a b)
  exact (Nat.div_lt_iff_lt_mul hb).mpr (by exact_mod_cast h)

/-!
## Single precision

The limit is halfway between the greatest single-precision number and the power of two above it.  A
magnitude that is not zero is a number of units, and it is capped at infinity.
-/

def overflowLimit : ℚ :=
  2 ^ 128 - 2 ^ 103

theorem overflowLimit_pos : 0 < overflowLimit := by
  norm_num [overflowLimit]

theorem nearestMagnitude_eq {g : Int} (hnum : num ≠ 0) (hg : floorLog2 num den = g) :
    nearestMagnitude Format.binary32 num den =
      min ((max (g - 23) (-149) + 149).toNat * 8388608 + units (max (g - 23) (-149)) num den)
        Format.binary32.infinity := by
  rw [nearestMagnitude, if_neg hnum, hg]
  rfl

theorem nearestMagnitude_lt_infinity_iff (hden : 0 < den) :
    nearestMagnitude Format.binary32 num den < Format.binary32.infinity ↔
      (num : ℚ) / den < overflowLimit := by
  rcases Nat.eq_zero_or_pos num with rfl | hnum
  · have hzero : nearestMagnitude Format.binary32 0 den < Format.binary32.infinity :=
      Nat.succ_pos _
    rw [Nat.cast_zero, zero_div]
    exact iff_of_true hzero overflowLimit_pos
  rcases floorLog2_bounds (Nat.ne_of_gt hnum) hden with ⟨hlow, hhigh⟩
  rw [nearestMagnitude_eq (Nat.ne_of_gt hnum) rfl, min_lt_iff, or_iff_left (lt_irrefl _)]
  generalize floorLog2 num den = g at hlow hhigh ⊢
  -- The last power of two below the limit is 2 ^ 127; only there does the rounding decide.
  rcases lt_trichotomy g 127 with hsmall | rfl | hlarge
  · have hunits : units (max (g - 23) (-149)) num den ≤ 16777216 := by
      apply units_le hden
      refine lt_of_lt_of_le hhigh ?_
      rw [show ((16777216 : Nat) : ℚ) = 2 ^ (24 : Int) by norm_num, ← zpow_add₀ two_ne_zero]
      exact zpow_le_zpow_right₀ one_le_two (by omega)
    have hvalue : (num : ℚ) / den < overflowLimit := by
      calc
        (num : ℚ) / den < 2 ^ (g + 1) := hhigh
        _ ≤ 2 ^ (127 : Int) := zpow_le_zpow_right₀ one_le_two (by omega)
        _ < overflowLimit := by norm_num [overflowLimit]
    refine iff_of_true ?_ hvalue
    show _ < 2139095040
    omega
  · have hlast : units 104 num den < 16777216 ↔ (num : ℚ) / den < overflowLimit := by
      rw [units_lt_iff hden rfl]
      norm_num [overflowLimit]
    rw [← hlast]
    show (253 * 8388608 + units 104 num den < 2139095040) ↔ _
    omega
  · have hunit : max (g - 23) (-149) = g - 23 := by omega
    have hunits : 8388608 ≤ units (g - 23) num den := by
      apply le_units hden
      rw [show ((8388608 : Nat) : ℚ) = 2 ^ (23 : Int) by norm_num, ← zpow_add₀ two_ne_zero,
        add_sub_cancel]
      exact hlow
    have hvalue : overflowLimit ≤ (num : ℚ) / den := by
      calc
        overflowLimit ≤ 2 ^ (128 : Int) := by norm_num [overflowLimit]
        _ ≤ 2 ^ g := zpow_le_zpow_right₀ one_le_two hlarge
        _ ≤ (num : ℚ) / den := hlow
    rw [hunit]
    refine iff_of_false ?_ (not_lt.mpr hvalue)
    show ¬_ < 2139095040
    omega

end

/-!
## Literals

The size of a literal is the number written, without its sign.  Numbers beyond the horizon are not
computed; they are on the side of the limit that they are taken to be on.
-/

namespace Literal

def size (literal : Literal) : ℚ :=
  literal.coefficient * 10 ^ literal.exponent

section

variable {literal : Literal}

theorem width_bounds (h : literal.coefficient ≠ 0) :
    (10 : ℚ) ^ (literal.exponent + literal.width - 1) ≤ literal.size ∧
      literal.size < 10 ^ (literal.exponent + literal.width) := by
  have hpos : 0 < literal.width := Nat.length_toDigits_pos
  have hhigh : literal.coefficient < 10 ^ literal.width :=
    (Nat.length_toDigits_le_iff (by decide) hpos).mp (Nat.le_refl _)
  have hlow : 10 ^ (literal.width - 1) ≤ literal.coefficient := by
    rcases Nat.eq_zero_or_pos (literal.width - 1) with hone | hmore
    · rw [hone]
      exact Nat.one_le_iff_ne_zero.mpr h
    · apply Nat.le_of_not_lt
      intro hlt
      have hle := (Nat.length_toDigits_le_iff (by decide) hmore).mpr hlt
      exact absurd hle (Nat.not_le_of_lt (Nat.sub_lt hpos Nat.one_pos))
  have hpow : (0 : ℚ) < 10 ^ literal.exponent := zpow_pos (by norm_num) _
  constructor
  · calc
      (10 : ℚ) ^ (literal.exponent + literal.width - 1) =
          ((10 ^ (literal.width - 1) : Nat) : ℚ) * 10 ^ literal.exponent := by
        rw [add_sub_assoc, zpow_add₀ (by norm_num), mul_comm, Nat.cast_pow, ← zpow_natCast,
          Nat.cast_sub hpos]
        rfl
      _ ≤ literal.size := mul_le_mul_of_nonneg_right (Nat.cast_le.mpr hlow) hpow.le
  · calc
      literal.size < ((10 ^ literal.width : Nat) : ℚ) * 10 ^ literal.exponent :=
        mul_lt_mul_of_pos_right (Nat.cast_lt.mpr hhigh) hpow
      _ = 10 ^ (literal.exponent + literal.width) := by
        rw [zpow_add₀ (by norm_num), mul_comm, Nat.cast_pow, ← zpow_natCast]
        rfl

theorem magnitude_le_infinity (format : Format) :
    literal.magnitude format ≤ format.infinity := by
  have hnearest : forall num den, nearestMagnitude format num den ≤ format.infinity := by
    intro num den
    rw [nearestMagnitude]
    split
    · exact Nat.zero_le _
    · exact Nat.min_le_right _ _
  simp only [magnitude]
  split
  · exact Nat.zero_le _
  · split
    · exact Nat.le_refl _
    · split
      · exact hnearest _ _
      · exact hnearest _ _

theorem size_lt_overflowLimit
    (h : literal.coefficient = 0 ∨ literal.exponent + literal.width < -horizon) :
    literal.size < overflowLimit := by
  rcases eq_or_ne literal.coefficient 0 with hzero | hne
  · rw [size, hzero, Nat.cast_zero, zero_mul]
    exact overflowLimit_pos
  · have htop : literal.exponent + literal.width ≤ 0 :=
      (h.resolve_left hne).le.trans (by decide)
    calc
      literal.size < 10 ^ (literal.exponent + literal.width) := (width_bounds hne).2
      _ ≤ 10 ^ (0 : Int) := zpow_le_zpow_right₀ (by norm_num) htop
      _ < overflowLimit := by norm_num [overflowLimit]

theorem overflowLimit_le_size (hne : literal.coefficient ≠ 0)
    (h : literal.exponent + literal.width > horizon) : overflowLimit ≤ literal.size := by
  have htop : 39 ≤ literal.exponent + literal.width - 1 := by
    rw [horizon] at h
    omega
  calc
    overflowLimit ≤ 10 ^ (39 : Int) := by norm_num [overflowLimit]
    _ ≤ 10 ^ (literal.exponent + literal.width - 1) := zpow_le_zpow_right₀ (by norm_num) htop
    _ ≤ literal.size := (width_bounds hne).1

theorem magnitude_lt_infinity_iff :
    literal.magnitude Format.binary32 < Format.binary32.infinity ↔
      literal.size < overflowLimit := by
  simp only [magnitude, Bool.or_eq_true, decide_eq_true_eq]
  split
  · next htiny => exact iff_of_true (Nat.succ_pos _) (size_lt_overflowLimit htiny)
  · next hseen =>
      split
      · next hhuge =>
          have hne : literal.coefficient ≠ 0 := fun hzero => hseen (Or.inl hzero)
          exact iff_of_false (Nat.lt_irrefl _) (not_lt.mpr (overflowLimit_le_size hne hhuge))
      · split
        · next hneg =>
            have hden : 0 < tenTo (-literal.exponent) := Nat.pow_pos (by decide)
            rw [nearestMagnitude_lt_infinity_iff hden, tenTo_cast (by omega), zpow_neg,
              div_inv_eq_mul]
            rfl
        · next hpos =>
            rw [nearestMagnitude_lt_infinity_iff Nat.one_pos, Nat.cast_mul, tenTo_cast (by omega),
              Nat.cast_one, div_one]
            rfl

end

end Literal

/-!
## Patterns
-/

namespace Binary32

theorem magnitude_ofMagnitude {negative : Bool} {m : Nat} (h : m < 0x80000000) :
    (ofMagnitude negative m).magnitude = m := by
  rw [magnitude, ofMagnitude, UInt32.toNat_ofNat']
  cases negative with
  | false =>
      show m % 4294967296 % 0x80000000 = m
      omega
  | true =>
      show (0x80000000 + m) % 4294967296 % 0x80000000 = m
      omega

theorem magnitude_ofLiteral (literal : Literal) :
    (ofLiteral literal).magnitude = literal.magnitude Format.binary32 :=
  magnitude_ofMagnitude (Nat.lt_of_le_of_lt (Literal.magnitude_le_infinity _) (by decide))

theorem isNaN_ofLiteral (literal : Literal) : (ofLiteral literal).isNaN = false := by
  rw [isNaN, magnitude_ofLiteral, decide_eq_false_iff_not]
  exact Nat.not_lt_of_le (Literal.magnitude_le_infinity _)

theorem isFinite_ofLiteral_iff (literal : Literal) :
    (ofLiteral literal).isFinite = true ↔ literal.size < overflowLimit := by
  rw [isFinite, magnitude_ofLiteral, decide_eq_true_eq]
  exact Literal.magnitude_lt_infinity_iff

end Binary32

end Decimal
end RaceTape
