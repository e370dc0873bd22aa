import RaceTape.Decimal.Literal
import RaceTape.Proofs.Text.Integer

/-!
# The grammar of decimal literals

    literal   ::= sign mantissa power
    mantissa  ::= digits | digits "." [digits] | "." digits
    power     ::= "" | ("e" | "E") integer

The reader accepts exactly these texts, and what it gives is the number that the digits, the
place of the point and the power stand for.
-/

namespace RaceTape
namespace Decimal

open Text

namespace Literal

inductive Mantissa : List Char -> List Char -> List Char -> Prop where
  | whole {digits : List Char} (digits_isDigits : isDigits digits = true) :
      Mantissa digits digits []
  | point {digits fraction : List Char} (digits_isDigits : isDigits digits = true)
      (fraction_digits : forall c, c ∈ fraction -> c.isDigit = true) :
      Mantissa (digits ++ '.' :: fraction) digits fraction
  | fraction {fraction : List Char} (fraction_isDigits : isDigits fraction = true) :
      Mantissa ('.' :: fraction) [] fraction

inductive Power : List Char -> Int -> Prop where
  | absent : Power [] 0
  | present {mark : Char} {text : List Char} {n : Int} (mark_is : mark = 'e' ∨ mark = 'E')
      (text_spells : SpellsInteger text n) : Power (mark :: text) n

inductive Spells : List Char -> Literal -> Prop where
  | mk {sign mantissa power digits fraction : List Char} {negative : Bool} {n : Int}
      (sign_spells : Sign sign negative) (mantissa_spells : Mantissa mantissa digits fraction)
      (power_spells : Power power n) :
      Spells (sign ++ (mantissa ++ power))
        { negative
          coefficient := Nat.ofDigitChars 10 (digits ++ fraction) 0
          exponent := n - fraction.length }

/-!
## Powers

A power begins with a letter or is empty, so digits in front of it end there.
-/

def NoDigit (cs : List Char) : Prop :=
  forall c, cs.head? = some c -> c.isDigit = false

theorem power?_eq_some_iff {cs : List Char} {n : Int} : power? cs = some n ↔ Power cs n := by
  constructor
  · intro h
    cases cs with
    | nil =>
        cases h
        exact .absent
    | cons c rest =>
        rw [power?] at h
        split at h
        · next hmark =>
            rw [Bool.or_eq_true, decide_eq_true_eq, decide_eq_true_eq] at hmark
            exact .present hmark (integer?_eq_some_iff.mp h)
        · cases h
  · intro h
    cases h with
    | absent => rfl
    | present hmark hspells =>
        rw [power?, if_pos]
        · exact integer?_eq_some_iff.mpr hspells
        · rw [Bool.or_eq_true, decide_eq_true_eq, decide_eq_true_eq]
          exact hmark

theorem Power.head?_cases {cs : List Char} {n : Int} (h : Power cs n) :
    cs.head? = none ∨ cs.head? = some 'e' ∨ cs.head? = some 'E' := by
  cases h with
  | absent => exact Or.inl rfl
  | present hmark _ =>
      rcases hmark with rfl | rfl
      · exact Or.inr (Or.inl rfl)
      · exact Or.inr (Or.inr rfl)

theorem Power.noDigit {cs : List Char} {n : Int} (h : Power cs n) : NoDigit cs := by
  intro c hc
  rcases h.head?_cases with hnone | he | hE
  · rw [hnone] at hc
    cases hc
  · rw [he] at hc
    cases hc
    rfl
  · rw [hE] at hc
    cases hc
    rfl

theorem Power.splitFraction_eq {cs : List Char} {n : Int} (h : Power cs n) :
    splitFraction cs = ([], cs) := by
  unfold splitFraction
  split
  · next rest =>
      rcases h.head?_cases with hnone | he | hE
      · cases hnone
      · cases he
      · cases hE
  · rfl

/-!
## Mantissas

A mantissa begins with a digit or a point.  It is given with the digits before and after the point,
and the first digits of a text, with those after a point, are the mantissa at its front.
-/

theorem exists_head_of_isDigits {digits : List Char} (h : isDigits digits = true) :
    exists c rest, digits = c :: rest ∧ c.toNat < 0x41 := by
  rcases isDigits_iff.mp h with ⟨hne, hall⟩
  cases digits with
  | nil => exact absurd rfl hne
  | cons c rest =>
      have hc := toNat_le_of_isDigit (hall c List.mem_cons_self)
      exact ⟨c, rest, rfl, Nat.lt_of_le_of_lt hc (by decide)⟩

theorem Mantissa.unsigned {mantissa digits fraction : List Char}
    (h : Mantissa mantissa digits fraction) (rest : List Char) : Unsigned (mantissa ++ rest) := by
  cases h with
  | whole hdigits => exact unsigned_append hdigits rest
  | point hdigits _ =>
      rw [List.append_assoc]
      exact unsigned_append hdigits _
  | fraction _ => exact unsigned_cons (Or.inr rfl) _

theorem Mantissa.exists_head {mantissa digits fraction : List Char}
    (h : Mantissa mantissa digits fraction) :
    exists c rest, mantissa = c :: rest ∧ c.toNat < 0x41 := by
  cases h with
  | whole hdigits => exact exists_head_of_isDigits hdigits
  | point hdigits _ =>
      rcases exists_head_of_isDigits hdigits with ⟨c, rest, rfl, hc⟩
      exact ⟨c, _, List.cons_append, hc⟩
  | fraction _ => exact ⟨'.', _, rfl, by decide⟩

theorem Mantissa.digits_ne {mantissa digits fraction : List Char}
    (h : Mantissa mantissa digits fraction) : digits ++ fraction ≠ [] := by
  cases h with
  | whole hdigits => exact List.append_ne_nil_of_left_ne_nil (isDigits_iff.mp hdigits).1 _
  | point hdigits _ => exact List.append_ne_nil_of_left_ne_nil (isDigits_iff.mp hdigits).1 _
  | fraction hfraction => exact (isDigits_iff.mp hfraction).1

/-- The reader finds the parts of a mantissa again, whatever power follows it. -/
theorem Mantissa.parts {mantissa digits fraction power : List Char} {n : Int}
    (h : Mantissa mantissa digits fraction) (hpower : Power power n) :
    (mantissa ++ power).takeWhile Char.isDigit = digits ∧
      splitFraction ((mantissa ++ power).dropWhile Char.isDigit) = (fraction, power) := by
  have hpoint : forall rest, NoDigit ('.' :: rest) := by
    intro rest c hc
    cases hc
    rfl
  cases h with
  | whole hdigits =>
      have hall := (isDigits_iff.mp hdigits).2
      rw [takeWhile_run hall hpower.noDigit, dropWhile_run hall hpower.noDigit]
      exact ⟨rfl, hpower.splitFraction_eq⟩
  | point hdigits hfraction =>
      have hall := (isDigits_iff.mp hdigits).2
      rw [List.append_assoc, List.cons_append, takeWhile_run hall (hpoint _),
        dropWhile_run hall (hpoint _), splitFraction, takeWhile_run hfraction hpower.noDigit,
        dropWhile_run hfraction hpower.noDigit]
      exact ⟨rfl, rfl⟩
  | fraction hfraction =>
      have hall := (isDigits_iff.mp hfraction).2
      show _ ∧ splitFraction ('.' :: (fraction ++ power)) = _
      rw [splitFraction, takeWhile_run hall hpower.noDigit, dropWhile_run hall hpower.noDigit]
      exact ⟨rfl, rfl⟩

theorem exists_mantissa {body fraction tail : List Char}
    (hsplit : splitFraction (body.dropWhile Char.isDigit) = (fraction, tail))
    (hne : body.takeWhile Char.isDigit ++ fraction ≠ []) :
    exists mantissa, Mantissa mantissa (body.takeWhile Char.isDigit) fraction ∧
      body = mantissa ++ tail := by
  have hbody : body = body.takeWhile Char.isDigit ++ body.dropWhile Char.isDigit :=
    List.takeWhile_append_dropWhile.symm
  have hdigits := of_mem_takeWhile (p := Char.isDigit) body
  generalize body.takeWhile Char.isDigit = digits at hbody hdigits hne ⊢
  generalize body.dropWhile Char.isDigit = rest at hbody hsplit
  subst hbody
  unfold splitFraction at hsplit
  split at hsplit
  · next rest =>
      cases hsplit
      have hrest := List.takeWhile_append_dropWhile (p := Char.isDigit) (l := rest)
      have hfraction := of_mem_takeWhile (p := Char.isDigit) rest
      cases digits with
      | nil =>
          refine ⟨_, .fraction (isDigits_iff.mpr ⟨hne, hfraction⟩), ?_⟩
          rw [List.cons_append, hrest, List.nil_append]
      | cons c digits =>
          refine ⟨_, .point (isDigits_iff.mpr ⟨List.cons_ne_nil c digits, hdigits⟩) hfraction, ?_⟩
          rw [List.append_assoc (c :: digits)]
          exact congrArg (fun rest => c :: digits ++ '.' :: rest) hrest.symm
  · cases hsplit
    rw [List.append_nil] at hne
    exact ⟨digits, .whole (isDigits_iff.mpr ⟨hne, hdigits⟩), rfl⟩

/-!
## Literals
-/

/-- The reader of literals accepts exactly their grammar. -/
theorem parse?_eq_some_iff {cs : List Char} {literal : Literal} :
    parse? cs = some literal ↔ Spells cs literal := by
  constructor
  · intro h
    rcases exists_sign cs with ⟨sign, negative, body, hsign, hspells, rfl⟩
    rcases hsplit : splitFraction (body.dropWhile Char.isDigit) with ⟨fraction, tail⟩
    simp only [parse?, hsign, hsplit, Option.ite_none_left_eq_some, List.isEmpty_iff] at h
    rcases h with ⟨hne, h⟩
    rcases Option.map_eq_some_iff.mp h with ⟨n, hpower, rfl⟩
    rcases exists_mantissa hsplit hne with ⟨mantissa, hmantissa, rfl⟩
    exact .mk hspells hmantissa (power?_eq_some_iff.mp hpower)
  · intro h
    cases h with
    | mk hsign hmantissa hpower =>
        rcases hmantissa.parts hpower with ⟨hdigits, hsplit⟩
        simp only [parse?, splitSign_append hsign (hmantissa.unsigned _), hdigits, hsplit,
          List.isEmpty_iff, if_neg hmantissa.digits_ne, power?_eq_some_iff.mpr hpower]
        rfl

/-!
## Literals have no blanks
-/

theorem Mantissa.isUnbroken {mantissa digits fraction : List Char}
    (h : Mantissa mantissa digits fraction) : IsUnbroken mantissa := by
  cases h with
  | whole hdigits => exact isUnbroken_of_isDigits hdigits
  | point hdigits hfraction =>
      exact (isUnbroken_of_isDigits hdigits).append ((isUnbroken_of_digits hfraction).cons rfl)
  | fraction hfraction => exact (isUnbroken_of_isDigits hfraction).cons rfl

theorem Power.isUnbroken {power : List Char} {n : Int} (h : Power power n) :
    IsUnbroken power := by
  cases h with
  | absent => exact isUnbroken_nil
  | present hmark hspells =>
      rcases hmark with rfl | rfl
      · exact hspells.isUnbroken.cons rfl
      · exact hspells.isUnbroken.cons rfl

theorem Spells.isUnbroken {cs : List Char} {literal : Literal} (h : Spells cs literal) :
    IsUnbroken cs := by
  cases h with
  | mk hsign hmantissa hpower =>
      exact hsign.isUnbroken.append (hmantissa.isUnbroken.append hpower.isUnbroken)

end Literal

end Decimal
end RaceTape
