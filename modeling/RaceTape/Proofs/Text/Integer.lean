import RaceTape.Proofs.Text.Blank
import RaceTape.Proofs.Text.LowerCase
import RaceTape.Text.Integer

/-!
# The grammar of whole numbers

    integer  ::= ["+" | "-"] digits

The readers of whole numbers accept exactly these texts, and those with a range exactly the ones
whose value lies in it.
-/

namespace RaceTape
namespace Text

/-!
A sign is given with whether it is a minus, and the value of the digits is their value in base ten.
-/

inductive Sign : List Char -> Bool -> Prop where
  | absent : Sign [] false
  | plus : Sign ['+'] false
  | minus : Sign ['-'] true

inductive SpellsInteger : List Char -> Int -> Prop where
  | mk {sign digits : List Char} {negative : Bool} (sign_spells : Sign sign negative)
      (digits_isDigits : isDigits digits = true) :
      SpellsInteger (sign ++ digits)
        (if negative then -(Nat.ofDigitChars 10 digits 0) else Nat.ofDigitChars 10 digits 0)

theorem isDigits_iff {cs : List Char} :
    isDigits cs = true ↔ cs ≠ [] ∧ forall c, c ∈ cs -> c.isDigit = true := by
  simp [isDigits]

theorem toNat_le_of_isDigit {c : Char} (h : c.isDigit = true) : c.toNat ≤ 0x39 := by
  rw [Char.isDigit, Bool.and_eq_true, decide_eq_true_eq, decide_eq_true_eq] at h
  exact UInt32.le_iff_toNat_le.mp h.2

/-!
## Signs

A text that does not begin with a sign is found again behind one.
-/

def Unsigned (cs : List Char) : Prop :=
  cs.head? ≠ some '+' ∧ cs.head? ≠ some '-'

theorem unsigned_cons {c : Char} (h : c.isDigit = true ∨ c = '.') (cs : List Char) :
    Unsigned (c :: cs) := by
  constructor
  · intro hc
    cases hc
    exact absurd h (by decide)
  · intro hc
    cases hc
    exact absurd h (by decide)

theorem unsigned_append {cs : List Char} (h : isDigits cs = true) (rest : List Char) :
    Unsigned (cs ++ rest) := by
  rcases isDigits_iff.mp h with ⟨hne, hall⟩
  cases cs with
  | nil => exact absurd rfl hne
  | cons c cs => exact unsigned_cons (Or.inl (hall c List.mem_cons_self)) _

theorem splitSign_append {sign rest : List Char} {negative : Bool} (h : Sign sign negative)
    (hrest : Unsigned rest) : splitSign (sign ++ rest) = (negative, rest) := by
  cases h with
  | plus => rfl
  | minus => rfl
  | absent =>
      rw [List.nil_append]
      unfold splitSign
      split
      · exact absurd rfl hrest.2
      · exact absurd rfl hrest.1
      · rfl

theorem exists_sign (cs : List Char) :
    exists sign negative rest,
      splitSign cs = (negative, rest) ∧ Sign sign negative ∧ cs = sign ++ rest := by
  unfold splitSign
  split
  · next rest => exact ⟨['-'], true, rest, rfl, .minus, rfl⟩
  · next rest => exact ⟨['+'], false, rest, rfl, .plus, rfl⟩
  · exact ⟨[], false, cs, rfl, .absent, rfl⟩

/-!
## Readers
-/

theorem digitsValue_eq (cs : List Char) : digitsValue cs = Nat.ofDigitChars 10 cs 0 := rfl

theorem natural?_eq_some_iff {cs : List Char} {n : Nat} :
    natural? cs = some n ↔ isDigits cs = true ∧ n = Nat.ofDigitChars 10 cs 0 := by
  rw [natural?, digitsValue_eq]
  split
  · next h => simp [h, eq_comm]
  · next h => simp [h]

theorem integer?_eq_some_iff {cs : List Char} {n : Int} :
    integer? cs = some n ↔ SpellsInteger cs n := by
  constructor
  · intro h
    rcases exists_sign cs with ⟨sign, negative, digits, hsplit, hsign, hcs⟩
    rw [integer?, hsplit] at h
    rcases Option.map_eq_some_iff.mp h with ⟨value, hvalue, rfl⟩
    rcases natural?_eq_some_iff.mp hvalue with ⟨hdigits, rfl⟩
    rw [hcs]
    exact .mk hsign hdigits
  · intro h
    cases h with
    | mk hsign hdigits =>
        have hunsigned := unsigned_append hdigits []
        rw [List.append_nil] at hunsigned
        rw [integer?, splitSign_append hsign hunsigned]
        exact Option.map_eq_some_iff.mpr ⟨_, natural?_eq_some_iff.mpr ⟨hdigits, rfl⟩, rfl⟩

theorem isSome_integer? (cs : List Char) :
    (integer? cs).isSome = isDigits (splitSign cs).2 := by
  rw [integer?, Option.isSome_map, natural?]
  split
  · next h => exact h.symm
  · next h => exact (Bool.eq_false_iff.mpr h).symm

theorem integerWithin?_eq_some_iff {low high n : Int} {cs : List Char} :
    integerWithin? low high cs = some n ↔ SpellsInteger cs n ∧ low ≤ n ∧ n ≤ high := by
  rw [integerWithin?, Option.filter_eq_some_iff, integer?_eq_some_iff, Bool.and_eq_true,
    decide_eq_true_eq, decide_eq_true_eq]

/-- Words with a sign are the whole numbers of a range, so a reader for a range is one for them. -/
theorem map_integerWithin?_eq_some_iff {ofInt : Int -> α} {toInt : α -> Int} {low high : Int}
    (hofInt : forall n, low ≤ n -> n ≤ high -> toInt (ofInt n) = n)
    (htoInt : forall k, ofInt (toInt k) = k ∧ low ≤ toInt k ∧ toInt k ≤ high)
    {cs : List Char} {k : α} :
    (integerWithin? low high cs).map ofInt = some k ↔ SpellsInteger cs (toInt k) := by
  rw [Option.map_eq_some_iff]
  constructor
  · intro h
    rcases h with ⟨n, hn, rfl⟩
    rcases integerWithin?_eq_some_iff.mp hn with ⟨hspells, hlow, hhigh⟩
    rw [hofInt n hlow hhigh]
    exact hspells
  · intro h
    rcases htoInt k with ⟨hk, hlow, hhigh⟩
    exact ⟨toInt k, integerWithin?_eq_some_iff.mpr ⟨h, hlow, hhigh⟩, hk⟩

theorem int16?_eq_some_iff {cs : List Char} {k : Int16} :
    int16? cs = some k ↔ SpellsInteger cs k.toInt :=
  map_integerWithin?_eq_some_iff
    (fun _ hlow hhigh => Int16.toInt_ofInt_of_le hlow (Int.lt_add_one_of_le hhigh))
    (fun k => ⟨Int16.ofInt_toInt k, k.le_toInt, Int.le_of_lt_add_one k.toInt_lt⟩)

theorem int32?_eq_some_iff {cs : List Char} {k : Int32} :
    int32? cs = some k ↔ SpellsInteger cs k.toInt :=
  map_integerWithin?_eq_some_iff
    (fun _ hlow hhigh => Int32.toInt_ofInt_of_le hlow (Int.lt_add_one_of_le hhigh))
    (fun k => ⟨Int32.ofInt_toInt k, k.le_toInt, Int.le_of_lt_add_one k.toInt_lt⟩)

/-!
## Numbers have no blanks
-/

theorem isUnbroken_of_digits {cs : List Char} (h : forall c, c ∈ cs -> c.isDigit = true) :
    IsUnbroken cs := by
  intro c hc
  have hdigit := h c hc
  have hmiss : rangesMiss 48 57 blankRanges = true := by decide
  rw [Char.isDigit, Bool.and_eq_true, decide_eq_true_eq, decide_eq_true_eq] at hdigit
  exact inRanges_of_rangesMiss hmiss hdigit.1 hdigit.2

theorem isUnbroken_of_isDigits {cs : List Char} (h : isDigits cs = true) : IsUnbroken cs :=
  isUnbroken_of_digits (isDigits_iff.mp h).2

theorem Sign.isUnbroken {sign : List Char} {negative : Bool} (h : Sign sign negative) :
    IsUnbroken sign := by
  cases h with
  | absent => exact isUnbroken_nil
  | plus => exact isUnbroken_nil.cons rfl
  | minus => exact isUnbroken_nil.cons rfl

theorem SpellsInteger.isUnbroken {cs : List Char} {n : Int} (h : SpellsInteger cs n) :
    IsUnbroken cs := by
  cases h with
  | mk hsign hdigits => exact hsign.isUnbroken.append (isUnbroken_of_isDigits hdigits)

end Text
end RaceTape
