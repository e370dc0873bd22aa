import RaceTape.Proofs.Decimal.Literal
import RaceTape.Proofs.Text.Utf8
import Mathlib.Data.List.TakeWhile

/-!
# Literals by position

A literal is read from the front of a text.  It can also be recognised by position: one position
moves over the bytes of the text, and each byte is looked at only behind a check that there is
one.  Such a scan never leaves the bytes, and it accepts exactly the texts that are read.

The invariant of all its loops and branches is that the position stands before the characters that
the reader has left.  Only characters of a single byte are ever passed over, so the position never
comes to stand inside a character.
-/

namespace RaceTape
namespace Decimal

open Text

namespace Scanner

/-!
## The scan

Every look at a byte comes to none if the position is outside.  The scan goes over a sign, digits,
a point with digits and a power of ten, and it accepts if it ends where the bytes end.
-/

/--
Is there a byte at a position that a test accepts?  This comes to none if a byte outside is looked
at.
-/
def passes (test : Char -> Bool) (bytes : Bytes) (position : Nat) : Option Bool :=
  if position < bytes.length then bytes[position]?.map fun b => test (Char.ofUInt8 b)
  else some false

theorem lt_length_of_passes {test : Char -> Bool} {bytes : Bytes} {position : Nat}
    (h : passes test bytes position = some true) : position < bytes.length := by
  unfold passes at h
  split at h
  · assumption
  · cases h

def pastDigits (bytes : Bytes) (position : Nat) : Option Nat :=
  match h : passes Char.isDigit bytes position with
  | none => none
  | some false => some position
  | some true => pastDigits bytes (position + 1)
termination_by bytes.length - position
decreasing_by exact Nat.sub_succ_lt_self _ _ (lt_length_of_passes h)

theorem pastDigits_of_false {bytes : Bytes} {position : Nat}
    (h : passes Char.isDigit bytes position = some false) :
    pastDigits bytes position = some position := by
  rw [pastDigits]
  split
  · next hnone => cases h.symm.trans hnone
  · rfl
  · next htrue => cases h.symm.trans htrue

theorem pastDigits_of_true {bytes : Bytes} {position : Nat}
    (h : passes Char.isDigit bytes position = some true) :
    pastDigits bytes position = pastDigits bytes (position + 1) := by
  rw [pastDigits]
  split
  · next hnone => cases h.symm.trans hnone
  · next hfalse => cases h.symm.trans hfalse
  · rfl

def isSign (c : Char) : Bool :=
  c = '+' || c = '-'

def isMark (c : Char) : Bool :=
  c = 'e' || c = 'E'

theorem isSign_iff {c : Char} : isSign c = true ↔ c = '+' ∨ c = '-' := by
  rw [isSign, Bool.or_eq_true, decide_eq_true_eq, decide_eq_true_eq]

theorem isMark_iff {c : Char} : isMark c = true ↔ c = 'e' ∨ c = 'E' := by
  rw [isMark, Bool.or_eq_true, decide_eq_true_eq, decide_eq_true_eq]

def pastSign (bytes : Bytes) (position : Nat) : Option Nat := do
  if ← passes isSign bytes position then return position + 1 else return position

/-- The position behind a point and the digits after it, and how many digits these are. -/
def pastFraction (bytes : Bytes) (position : Nat) : Option (Nat × Nat) := do
  if ← passes (· = '.') bytes position then
    let stop ← pastDigits bytes (position + 1)
    return (stop, stop - (position + 1))
  else return (position, 0)

def scanPower (bytes : Bytes) (position : Nat) : Option Bool := do
  if ← passes isMark bytes position then
    let start ← pastSign bytes (position + 1)
    let stop ← pastDigits bytes start
    if stop = start then return false else return stop = bytes.length
  else return position = bytes.length

def scan (bytes : Bytes) : Option Bool := do
  let start ← pastSign bytes 0
  let point ← pastDigits bytes start
  let (stop, digits) ← pastFraction bytes point
  if point - start + digits = 0 then return false else scanPower bytes stop

/-!
## Characters of a single byte

A narrow test lets only characters of a single byte pass.  On the first byte of a character it
tells what it tells on the character.
-/

def IsNarrow (test : Char -> Bool) : Prop :=
  forall c, test c = true -> c.toNat < 0x80

theorem isNarrow_isDigit : IsNarrow Char.isDigit := by
  intro c h
  exact Nat.lt_of_le_of_lt (toNat_le_of_isDigit h) (by decide)

theorem isNarrow_isPoint : IsNarrow (· = '.') := by
  intro c h
  rw [decide_eq_true_eq] at h
  subst h
  decide

theorem isNarrow_isSign : IsNarrow isSign := by
  intro c h
  rcases isSign_iff.mp h with rfl | rfl
  · decide
  · decide

theorem isNarrow_isMark : IsNarrow isMark := by
  intro c h
  rcases isMark_iff.mp h with rfl | rfl
  · decide
  · decide

theorem toNat_ofUInt8 (b : UInt8) : (Char.ofUInt8 b).toNat = b.toNat :=
  UInt8.toNat_toUInt32 b

theorem IsNarrow.exists_first {test : Char -> Bool} (htest : IsNarrow test) (c : Char) :
    exists first tail, Utf8.encodeChar c = first :: tail ∧ test (Char.ofUInt8 first) = test c := by
  have hspells := Utf8.spells_encodeChar c
  rcases hspells.exists_cons with ⟨first, tail, hc⟩
  rw [hc] at hspells
  refine ⟨first, tail, hc, ?_⟩
  rcases Nat.lt_or_ge first.toNat 0x80 with hnarrow | hwide
  · apply congrArg test
    rw [← Char.toNat_inj, toNat_ofUInt8, hspells.eq_of_first_lt hnarrow]
  · -- A byte from 0x80 on belongs to a character from 0x80 on, and the test refuses both.
    rw [Bool.eq_iff_iff]
    constructor
    · intro hfirst
      have hlt := htest _ hfirst
      rw [toNat_ofUInt8] at hlt
      exact absurd hlt (Nat.not_lt_of_le hwide)
    · intro htestc
      have hlt := htest c htestc
      have hone := Utf8.encodeChar_one hlt
      rw [hc, List.cons.injEq] at hone
      rw [hone.1, Utf8.toNat_byte (Nat.lt_trans hlt (by decide))] at hwide
      exact absurd hlt (Nat.not_lt_of_le hwide)

/-!
## Positions in a text

A position stands before a text if the bytes from there on are the bytes of the text.  Each part of
the scan takes such a position to one that stands before what the reader leaves.
-/

theorem isDigits_iff_takeWhile {cs : List Char} :
    isDigits cs = true ↔ cs.takeWhile Char.isDigit ≠ [] ∧ cs.dropWhile Char.isDigit = [] := by
  rw [isDigits_iff, List.dropWhile_eq_nil_iff]
  constructor
  · rintro ⟨hne, hall⟩
    rw [List.takeWhile_eq_self_iff.mpr hall]
    exact ⟨hne, hall⟩
  · rintro ⟨hne, hall⟩
    rw [List.takeWhile_eq_self_iff.mpr hall] at hne
    exact ⟨hne, hall⟩

theorem any_head?_eq_false {test : Char -> Bool} {cs : List Char}
    (h : forall c rest, test c = true -> cs ≠ c :: rest) : cs.head?.any test = false := by
  cases cs with
  | nil => rfl
  | cons c cs =>
      apply Bool.eq_false_iff.mpr
      intro hc
      exact h c cs hc rfl

structure Before (bytes : Bytes) (position : Nat) (cs : List Char) : Prop where
  inside : position ≤ bytes.length
  drop_eq : bytes.drop position = Utf8.encode cs

theorem before_encode (cs : List Char) : Before (Utf8.encode cs) 0 cs where
  inside := Nat.zero_le _
  drop_eq := List.drop_zero

namespace Before

variable {bytes : Bytes} {position : Nat} {c : Char} {cs : List Char}

theorem at_end_iff (h : Before bytes position cs) : position = bytes.length ↔ cs = [] := by
  have hend : bytes.drop position = [] ↔ cs = [] := by
    rw [h.drop_eq]
    cases cs with
    | nil => exact iff_of_true rfl rfl
    | cons c cs =>
        rcases (Utf8.spells_encodeChar c).exists_cons with ⟨first, tail, hc⟩
        rw [Utf8.encode, List.flatMap_cons, hc]
        exact iff_of_false (List.cons_ne_nil _ _) (List.cons_ne_nil _ _)
  rw [← hend, List.drop_eq_nil_iff]
  exact ⟨Nat.le_of_eq ∘ Eq.symm, Nat.le_antisymm h.inside⟩

theorem lt_length (h : Before bytes position (c :: cs)) : position < bytes.length := by
  apply Nat.lt_of_le_of_ne h.inside
  intro hend
  cases h.at_end_iff.mp hend

theorem passes_eq {test : Char -> Bool} (htest : IsNarrow test) (h : Before bytes position cs) :
    passes test bytes position = some (cs.head?.any test) := by
  have hbyte : bytes[position]? = (Utf8.encode cs).head? := by
    rw [← List.head?_drop, h.drop_eq]
  unfold passes
  cases cs with
  | nil =>
      rw [if_neg (Nat.not_lt.mpr (Nat.le_of_eq (h.at_end_iff.mpr rfl).symm))]
      rfl
  | cons c cs =>
      rcases htest.exists_first c with ⟨first, tail, hc, hfirst⟩
      rw [if_pos h.lt_length, hbyte, Utf8.encode, List.flatMap_cons, hc]
      exact congrArg some hfirst

theorem next (h : Before bytes position (c :: cs)) (hc : c.toNat < 0x80) :
    Before bytes (position + 1) cs := by
  have hdrop := h.drop_eq
  rw [Utf8.encode, List.flatMap_cons, Utf8.encodeChar_one hc] at hdrop
  constructor
  · exact h.lt_length
  · rw [← List.drop_drop, hdrop]
    rfl

theorem passes_cons {test : Char -> Bool} (htest : IsNarrow test)
    (h : Before bytes position (c :: cs)) : passes test bytes position = some (test c) :=
  h.passes_eq htest

theorem pastDigits_eq (h : Before bytes position cs) :
    pastDigits bytes position = some (position + (cs.takeWhile Char.isDigit).length) ∧
      Before bytes (position + (cs.takeWhile Char.isDigit).length)
        (cs.dropWhile Char.isDigit) := by
  -- The induction is on the characters that are left, and the position moves along with them.
  induction cs generalizing position with
  | nil => exact ⟨pastDigits_of_false (h.passes_eq isNarrow_isDigit), h⟩
  | cons c cs ih =>
      have hpasses := h.passes_cons isNarrow_isDigit
      by_cases hc : c.isDigit = true
      · rw [hc] at hpasses
        have hrest := ih (h.next (isNarrow_isDigit c hc))
        rw [Nat.add_assoc, Nat.add_comm 1, ← List.length_cons] at hrest
        rw [pastDigits_of_true hpasses, List.takeWhile_cons_of_pos hc,
          List.dropWhile_cons_of_pos hc]
        exact hrest
      · rw [Bool.eq_false_iff.mpr hc] at hpasses
        rw [List.takeWhile_cons_of_neg hc, List.dropWhile_cons_of_neg hc]
        exact ⟨pastDigits_of_false hpasses, h⟩

theorem exists_pastSign (h : Before bytes position cs) :
    exists start, pastSign bytes position = some start ∧ Before bytes start (splitSign cs).2 := by
  rw [pastSign, h.passes_eq isNarrow_isSign]
  unfold splitSign
  split
  · exact ⟨position + 1, rfl, h.next (by decide)⟩
  · exact ⟨position + 1, rfl, h.next (by decide)⟩
  · next hminus hplus =>
      have hhead : cs.head?.any isSign = false := by
        apply any_head?_eq_false
        intro c rest hc
        rcases isSign_iff.mp hc with rfl | rfl
        · exact hplus rest
        · exact hminus rest
      rw [hhead]
      exact ⟨position, rfl, h⟩

theorem exists_pastFraction (h : Before bytes position cs) :
    exists stop, pastFraction bytes position = some (stop, (Literal.splitFraction cs).1.length) ∧
      Before bytes stop (Literal.splitFraction cs).2 := by
  rw [pastFraction, h.passes_eq isNarrow_isPoint]
  unfold Literal.splitFraction
  split
  · next rest =>
      rcases (h.next (by decide)).pastDigits_eq with ⟨hdigits, hbefore⟩
      refine ⟨_, ?_, hbefore⟩
      simp only [List.head?_cons, Option.any_some, decide_true, hdigits, Option.bind_eq_bind,
        Option.bind_some, if_true, Nat.add_sub_cancel_left]
      rfl
  · next hpoint =>
      have hhead : cs.head?.any (· = '.') = false := by
        apply any_head?_eq_false
        intro c rest hc
        rw [of_decide_eq_true hc]
        exact hpoint rest
      rw [hhead]
      exact ⟨position, rfl, h⟩

theorem scanPower_of_mark (h : Before bytes position (c :: cs)) (hc : isMark c = true) :
    scanPower bytes position = some (integer? cs).isSome := by
  rcases (h.next (isNarrow_isMark c hc)).exists_pastSign with ⟨start, hstart, hdigits⟩
  rcases hdigits.pastDigits_eq with ⟨hstop, hrest⟩
  rw [scanPower, h.passes_cons isNarrow_isMark, hc, isSome_integer?]
  simp only [Option.bind_eq_bind, Option.bind_some, if_true, hstart, hstop, hrest.at_end_iff,
    Nat.add_eq_left, List.length_eq_zero_iff]
  split
  · next hnone =>
      have hnot : isDigits (splitSign cs).2 = false := by
        apply Bool.eq_false_iff.mpr
        intro hall
        exact (isDigits_iff_takeWhile.mp hall).1 hnone
      rw [hnot]
      rfl
  · next hsome =>
      apply congrArg some
      rw [Bool.eq_iff_iff, decide_eq_true_eq, isDigits_iff_takeWhile]
      exact (and_iff_right hsome).symm

theorem scanPower_eq (h : Before bytes position cs) :
    scanPower bytes position = some (Literal.power? cs).isSome := by
  cases cs with
  | nil =>
      rw [scanPower, h.passes_eq isNarrow_isMark]
      exact congrArg some (decide_eq_true (h.at_end_iff.mpr rfl))
  | cons c cs =>
      have hpower : Literal.power? (c :: cs) = if isMark c then integer? cs else none := rfl
      by_cases hc : isMark c = true
      · rw [h.scanPower_of_mark hc, hpower, if_pos hc]
      · rw [scanPower, h.passes_cons isNarrow_isMark, hpower, if_neg hc, Bool.eq_false_iff.mpr hc]
        exact congrArg some (decide_eq_false (Nat.ne_of_lt h.lt_length))

end Before

/-- A scan never leaves the bytes of a text, and it accepts exactly the texts that are read. -/
theorem scan_encode (cs : List Char) :
    scan (Utf8.encode cs) = some (Literal.parse? cs).isSome := by
  -- Each part of the scan takes over where the part before it stands.
  rcases (before_encode cs).exists_pastSign with ⟨start, hstart, hbody⟩
  rcases hbody.pastDigits_eq with ⟨hpoint, hrest⟩
  rcases hrest.exists_pastFraction with ⟨stop, hstop, htail⟩
  simp only [scan, hstart, hpoint, hstop, htail.scanPower_eq, Option.bind_eq_bind,
    Option.bind_some, Nat.add_sub_cancel_left, ← List.length_append, List.length_eq_zero_iff,
    Literal.parse?, List.isEmpty_iff]
  split
  · rfl
  · rw [Option.isSome_map]

end Scanner

end Decimal
end RaceTape
