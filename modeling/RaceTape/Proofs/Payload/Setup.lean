import RaceTape.Payload
import RaceTape.Proofs.Bytes
import RaceTape.Proofs.Text.Utf8

/-!
# Setups in payloads

A name can be read back if it does not hold the character that ends it.  The front of a
payload is read as a setup exactly if it is what writing that setup gives.
-/

namespace RaceTape
namespace Payload

open Header Text

/-!
## Names

A name is read exactly where it is written.
-/

/-- The name does not hold the character whose byte ends a name. -/
def NulFree (name : String) : Prop :=
  '\x00' ∉ name.toList

instance (name : String) : Decidable (NulFree name) :=
  inferInstanceAs (Decidable ('\x00' ∉ name.toList))

theorem nulFree_iff (name : String) : NulFree name ↔ 0 ∉ Utf8.ofString name := by
  rw [NulFree, Utf8.ofString, Utf8.zero_mem_encode]

theorem splitAtZero_append {front : Bytes} (back : Bytes) (h : 0 ∉ front) :
    splitAtZero (front ++ 0 :: back) = some (front, back) := by
  induction front with
  | nil => simp [splitAtZero]
  | cons b front ih =>
      have hb : b ≠ 0 := by
        intro hzero
        exact h (hzero ▸ List.mem_cons_self)
      have hfront : 0 ∉ front := fun hmem => h (List.mem_cons_of_mem b hmem)
      rw [List.cons_append, splitAtZero, if_neg hb, ih hfront]
      rfl

theorem of_splitAtZero {bytes front back : Bytes}
    (h : splitAtZero bytes = some (front, back)) :
    bytes = front ++ 0 :: back ∧ 0 ∉ front := by
  induction bytes generalizing front with
  | nil => cases h
  | cons b rest ih =>
      rw [splitAtZero] at h
      by_cases hb : b = 0
      · rw [if_pos hb] at h
        cases h
        exact ⟨by rw [hb]; rfl, List.not_mem_nil⟩
      · rw [if_neg hb] at h
        rcases Option.map_eq_some_iff.mp h with ⟨⟨inner, outer⟩, hrest, hcons⟩
        cases hcons
        rcases ih hrest with ⟨rfl, hinner⟩
        refine ⟨rfl, ?_⟩
        intro hmem
        rcases List.mem_cons.mp hmem with hzero | htail
        · exact hb hzero.symm
        · exact hinner htail

theorem length_encodeName (name : String) :
    (encodeName name).length = (Utf8.ofString name).length + 1 := by
  simp [encodeName]

theorem decodeName_eq_ok_iff (field : NameField) (offset : Nat) (bytes : Bytes)
    (name : String) (next : Nat) (rest : Bytes) :
    decodeName field offset bytes = .ok (name, next, rest) ↔
      NulFree name ∧ bytes = encodeName name ++ rest ∧
        next = offset + (encodeName name).length := by
  rw [decodeName, nulFree_iff, length_encodeName]
  constructor
  · intro h
    cases hsplit : splitAtZero bytes with
    | none =>
        rw [hsplit] at h
        cases h
    | some cut =>
        rcases cut with ⟨front, back⟩
        rcases of_splitAtZero hsplit with ⟨rfl, hfront⟩
        rw [hsplit] at h
        cases hdecode : Utf8.decode front with
        | error defect => simp [hdecode] at h
        | ok cs =>
            have hcs := (Utf8.decode_eq_ok_iff front cs).mp hdecode
            simp only [hdecode, Except.ok.injEq, Prod.mk.injEq] at h
            rcases h with ⟨rfl, rfl, rfl⟩
            have hname : Utf8.ofString (String.ofList cs) = front := by
              rw [Utf8.ofString, String.toList_ofList, hcs]
            rw [encodeName, hname]
            exact ⟨hfront, by simp, by omega⟩
  · intro h
    rcases h with ⟨hzero, rfl, rfl⟩
    have hsplit :
        splitAtZero (encodeName name ++ rest) = some (Utf8.ofString name, rest) := by
      rw [encodeName, List.append_assoc]
      exact splitAtZero_append rest hzero
    have hdecode : Utf8.decode (Utf8.ofString name) = .ok name.toList :=
      (Utf8.decode_eq_ok_iff _ _).mpr rfl
    rw [hsplit]
    simp only [hdecode, String.ofList_toList]
    rfl

/-!
## The fixed part

After its two names a setup has bytes of a fixed number.
-/

def encodeTail (setup : Setup) : Bytes :=
  Bytes.ofInt32 setup.opponents ++ Bytes.ofInt32 setup.laps ++
    Bytes.ofInt32 setup.difficulty ++ [if setup.quickReset then 1 else 0]

theorem encodeSetup_eq (setup : Setup) :
    encodeSetup setup =
      encodeName setup.track ++ (encodeName setup.kart ++ encodeTail setup) := by
  simp [encodeSetup, encodeTail]

theorem length_encodeTail (setup : Setup) :
    (encodeTail setup).length = tailSize := by
  simp [encodeTail, tailSize]

theorem decodeTail_append (setup : Setup) (offset : Nat) (rest : Bytes) :
    decodeTail setup.track setup.kart offset (encodeTail setup ++ rest) =
      .ok (setup, rest) := by
  cases setup with
  | mk track kart laps difficulty opponents quickReset =>
      cases quickReset <;>
        simp [encodeTail, Bytes.ofInt32, Bytes.ofWord32, decodeTail, Bytes.toInt32_bytes]

theorem of_decodeTail {track kart : String} {offset : Nat} {bytes rest : Bytes}
    {setup : Setup} (h : decodeTail track kart offset bytes = .ok (setup, rest)) :
    setup.track = track ∧ setup.kart = kart ∧ bytes = encodeTail setup ++ rest := by
  unfold decodeTail at h
  split at h
  · next a0 a1 a2 a3 l0 l1 l2 l3 d0 d1 d2 d3 q back =>
      by_cases hoff : q = 0
      · simp only [if_pos hoff, Except.ok.injEq, Prod.mk.injEq] at h
        rcases h with ⟨rfl, rfl⟩
        refine ⟨rfl, rfl, ?_⟩
        simp [encodeTail, Bytes.ofInt32_toInt32, hoff]
      · by_cases hon : q = 1
        · simp only [if_neg hoff, if_pos hon, Except.ok.injEq, Prod.mk.injEq] at h
          rcases h with ⟨rfl, rfl⟩
          refine ⟨rfl, rfl, ?_⟩
          simp [encodeTail, Bytes.ofInt32_toInt32, hon]
        · simp [hoff, hon] at h
  · cases h

/-!
## Whole setups
-/

structure NamesNulFree (setup : Setup) : Prop where
  track : NulFree setup.track
  kart : NulFree setup.kart

/-- The front of a payload is read as a setup exactly where that setup is written. -/
theorem decodeFront_eq_ok_iff (bytes : Bytes) (setup : Setup) (consumed : Nat)
    (rest : Bytes) :
    decodeFront bytes = .ok (setup, consumed, rest) ↔
      NamesNulFree setup ∧ bytes = encodeSetup setup ++ rest ∧
        consumed = (encodeSetup setup).length := by
  rw [decodeFront]
  constructor
  · intro h
    cases htrack : decodeName .track 0 bytes with
    | error flaw => simp [htrack] at h
    | ok read =>
        rcases read with ⟨track, afterTrack, bytes1⟩
        rw [htrack] at h
        cases hkart : decodeName .kart afterTrack bytes1 with
        | error flaw => simp [hkart] at h
        | ok read =>
            rcases read with ⟨kart, afterKart, bytes2⟩
            simp only [hkart] at h
            cases htail : decodeTail track kart afterKart bytes2 with
            | error flaw => simp [htail] at h
            | ok read =>
                rcases read with ⟨setup1, rest1⟩
                simp only [htail, Except.ok.injEq, Prod.mk.injEq] at h
                rcases h with ⟨rfl, rfl, rfl⟩
                -- From the last part to the first: each part fixes what the one before it left.
                rcases of_decodeTail htail with ⟨rfl, rfl, rfl⟩
                rcases (decodeName_eq_ok_iff _ _ _ _ _ _).mp hkart with
                  ⟨hkartFree, rfl, rfl⟩
                rcases (decodeName_eq_ok_iff _ _ _ _ _ _).mp htrack with
                  ⟨htrackFree, rfl, rfl⟩
                refine ⟨⟨htrackFree, hkartFree⟩, ?_, ?_⟩
                · simp [encodeSetup_eq]
                · simp [encodeSetup_eq, length_encodeTail]
                  omega
  · intro h
    rcases h with ⟨⟨htrackFree, hkartFree⟩, rfl, rfl⟩
    have htrack :
        decodeName .track 0 (encodeSetup setup ++ rest) =
          .ok (setup.track, 0 + (encodeName setup.track).length,
            encodeName setup.kart ++ (encodeTail setup ++ rest)) := by
      apply (decodeName_eq_ok_iff _ _ _ _ _ _).mpr
      exact ⟨htrackFree, by simp [encodeSetup_eq], rfl⟩
    have hkart (offset : Nat) :
        decodeName .kart offset (encodeName setup.kart ++ (encodeTail setup ++ rest)) =
          .ok (setup.kart, offset + (encodeName setup.kart).length,
            encodeTail setup ++ rest) := by
      apply (decodeName_eq_ok_iff _ _ _ _ _ _).mpr
      exact ⟨hkartFree, rfl, rfl⟩
    simp only [htrack, hkart, decodeTail_append]
    simp [encodeSetup_eq, length_encodeTail]
    omega

theorem decodeSetup_eq_ok_iff (bytes : Bytes) (setup : Setup) (consumed : Nat) :
    decodeSetup bytes = .ok (setup, consumed) ↔
      exists rest, decodeFront bytes = .ok (setup, consumed, rest) := by
  rw [decodeSetup]
  cases decodeFront bytes with
  | error flaw => simp
  | ok read =>
      rcases read with ⟨setup1, consumed1, rest1⟩
      simp

end Payload
end RaceTape
