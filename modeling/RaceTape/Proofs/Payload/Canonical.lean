import RaceTape.Proofs.Payload.Setup
import RaceTape.Proofs.Timeline.Controls

/-!
# Canonical payloads

Every payload that can be read is what writing the result gives, and writing can be undone
exactly for the setups and framebulks that the format can hold: names without the character
that ends a name, and controls that all have a meaning.
-/

namespace RaceTape
namespace Payload

open Decimal Header Text Timeline

/-!
## Records

A record is read as a framebulk exactly where that framebulk is written.
-/

theorem controlsOfWord?_eq_some_iff (word : Int16) (c : Controls) :
    controlsOfWord? word = some c ↔ c.IsDefined ∧ word = c.bits.toInt16 := by
  rw [controlsOfWord?]
  constructor
  · intro h
    split at h
    · cases h
    · rcases (Controls.ofBits?_eq_some_iff _ _).mp h with ⟨hdefined, hbits⟩
      refine ⟨hdefined, ?_⟩
      rw [hbits, Int16.toInt16_toUInt16]
  · intro h
    rcases h with ⟨hdefined, rfl⟩
    have hnonneg : ¬c.bits.toInt16 < 0 := by
      rw [Int16.lt_iff_toInt_lt, hdefined.toInt_toInt16]
      simp
    rw [if_neg hnonneg, UInt16.toUInt16_toInt16]
    exact (Controls.ofBits?_eq_some_iff _ _).mpr ⟨hdefined, rfl⟩

theorem length_encodeFramebulk (f : Framebulk) :
    (encodeFramebulk f).length = recordSize := rfl

theorem decodeFramebulk_eq_ok_iff (bytes : Bytes) (f : Framebulk) :
    decodeFramebulk bytes = .ok f ↔
      f.controls.IsDefined ∧ exists rest, bytes = encodeFramebulk f ++ rest := by
  constructor
  · intro h
    unfold decodeFramebulk at h
    split at h
    · next c0 c1 t0 t1 a0 a1 a2 a3 rest =>
        cases hcontrols : controlsOfWord? (Bytes.toInt16 c0 c1) with
        | none => simp [hcontrols] at h
        | some controls =>
            simp only [hcontrols, Except.ok.injEq] at h
            subst h
            rcases (controlsOfWord?_eq_some_iff _ _).mp hcontrols with ⟨hdefined, hword⟩
            refine ⟨hdefined, rest, ?_⟩
            simp [encodeFramebulk, ← hword, Bytes.ofInt16_toInt16, Bytes.ofWord32_toWord32]
    · cases h
  · intro h
    rcases h with ⟨hdefined, rest, rfl⟩
    have hcontrols := (controlsOfWord?_eq_some_iff _ _).mpr ⟨hdefined, rfl⟩
    simp only [encodeFramebulk, Bytes.ofInt16, Bytes.ofWord16, Bytes.ofWord32,
      List.cons_append, List.nil_append, decodeFramebulk, Bytes.toInt16_bytes,
      Bytes.toWord32_bytes, hcontrols]

theorem decodeFramebulks_append {f : Framebulk} (hdefined : f.controls.IsDefined)
    (rest : Bytes) :
    decodeFramebulks (encodeFramebulk f ++ rest) =
      (decodeFramebulks rest).map (f :: ·) := by
  have hrecord : decodeFramebulk (encodeFramebulk f) = .ok f :=
    (decodeFramebulk_eq_ok_iff _ f).mpr ⟨hdefined, [], (List.append_nil _).symm⟩
  simp only [encodeFramebulk, Bytes.ofInt16, Bytes.ofWord16, Bytes.ofWord32,
    List.cons_append, List.nil_append] at hrecord ⊢
  rw [decodeFramebulks, hrecord]
  cases decodeFramebulks rest <;> rfl

theorem decodeFramebulks_encode {framebulks : List Framebulk}
    (hdefined : forall f, f ∈ framebulks -> f.controls.IsDefined) :
    decodeFramebulks (encodeFramebulks framebulks) = .ok framebulks := by
  induction framebulks with
  | nil => rfl
  | cons f framebulks ih =>
      have hhead : f.controls.IsDefined := hdefined f List.mem_cons_self
      have htail := ih fun g hg => hdefined g (List.mem_cons_of_mem f hg)
      rw [encodeFramebulks, List.flatMap_cons, decodeFramebulks_append hhead]
      rw [encodeFramebulks] at htail
      rw [htail]
      rfl

theorem eq_nil_of_short {bytes : Bytes} (hlength : bytes.length % recordSize = 0)
    (hshort : bytes.length < recordSize) : bytes = [] := by
  rw [Nat.mod_eq_of_lt hshort] at hlength
  exact List.eq_nil_of_length_eq_zero hlength

theorem of_decodeFramebulks {bytes : Bytes} {framebulks : List Framebulk}
    (hlength : bytes.length % recordSize = 0)
    (h : decodeFramebulks bytes = .ok framebulks) :
    (forall f, f ∈ framebulks -> f.controls.IsDefined) ∧
      bytes = encodeFramebulks framebulks := by
  fun_induction decodeFramebulks bytes generalizing framebulks with
  | case1 c0 c1 t0 t1 a0 a1 a2 a3 rest flaw hrecord => cases h
  | case2 c0 c1 t0 t1 a0 a1 a2 a3 rest f hrecord flaw hrest => cases h
  | case3 c0 c1 t0 t1 a0 a1 a2 a3 rest f hrecord found hrest ih =>
      cases h
      rcases (decodeFramebulk_eq_ok_iff _ f).mp hrecord with ⟨hhead, back, hbytes⟩
      -- The record was read from eight bytes, and its form has eight, so none follow it.
      have hback : back = [] := by
        have hlen := congrArg List.length hbytes
        simpa [length_encodeFramebulk, recordSize] using hlen
      rw [hback, List.append_nil] at hbytes
      have hrestLength : rest.length % recordSize = 0 := by
        simp only [List.length_cons, recordSize] at hlength ⊢
        omega
      rcases ih hrestLength hrest with ⟨htail, hrestBytes⟩
      refine ⟨?_, ?_⟩
      · intro g hg
        rcases List.mem_cons.mp hg with rfl | hg
        · exact hhead
        · exact htail g hg
      · rw [encodeFramebulks, List.flatMap_cons, ← hbytes, hrestBytes]
        rfl
  | case4 bytes hshort =>
      cases h
      have hlt : bytes.length < recordSize := by
        rcases bytes with
          _ | ⟨c0, _ | ⟨c1, _ | ⟨t0, _ | ⟨t1, _ | ⟨a0, _ | ⟨a1, _ | ⟨a2, _ | ⟨a3, rest⟩⟩⟩⟩⟩⟩⟩⟩
        case cons.cons.cons.cons.cons.cons.cons.cons =>
          exact absurd rfl (hshort c0 c1 t0 t1 a0 a1 a2 a3 rest)
        all_goals simp [recordSize]
      rw [eq_nil_of_short hlength hlt]
      exact ⟨fun f hf => absurd hf List.not_mem_nil, rfl⟩

theorem length_encodeFramebulks (framebulks : List Framebulk) :
    (encodeFramebulks framebulks).length % recordSize = 0 := by
  induction framebulks with
  | nil => rfl
  | cons f framebulks ih =>
      rw [encodeFramebulks, List.flatMap_cons, List.length_append, length_encodeFramebulk,
        Nat.add_mod_left]
      exact ih

/-!
## Whole payloads

The setup at the end has an empty name and one of two characters that takes three bytes, and the
angle of its framebulk is no number.
-/

theorem decode_eq_ok_iff (bytes : Bytes) (setup : Setup) (framebulks : List Framebulk) :
    decode bytes = .ok (setup, framebulks) ↔
      NamesNulFree setup ∧ (forall f, f ∈ framebulks -> f.controls.IsDefined) ∧
        bytes = encode setup framebulks := by
  rw [decode]
  constructor
  · intro h
    cases hfront : decodeFront bytes with
    | error flaw => simp [hfront] at h
    | ok read =>
        rcases read with ⟨setup1, consumed, rest⟩
        rcases (decodeFront_eq_ok_iff _ _ _ _).mp hfront with ⟨hnames, rfl, _⟩
        simp only [hfront] at h
        by_cases hlength : rest.length % recordSize = 0
        · rw [if_neg (not_not_intro hlength)] at h
          cases hrecords : decodeFramebulks rest with
          | error flaw => simp [hrecords] at h
          | ok found =>
              simp only [hrecords, Except.ok.injEq, Prod.mk.injEq] at h
              rcases h with ⟨rfl, rfl⟩
              rcases of_decodeFramebulks hlength hrecords with ⟨hdefined, rfl⟩
              exact ⟨hnames, hdefined, rfl⟩
        · rw [if_pos hlength] at h
          cases h
  · intro h
    rcases h with ⟨hnames, hdefined, rfl⟩
    have hfront :=
      (decodeFront_eq_ok_iff (encode setup framebulks) setup _ _).mpr ⟨hnames, rfl, rfl⟩
    have hlength := length_encodeFramebulks framebulks
    simp only [hfront]
    rw [if_neg (not_not_intro hlength), decodeFramebulks_encode hdefined]

/--
Reading undoes writing exactly where it can: when the names do not hold the character that
ends a name and every control has a meaning.  The setup alone is read back whatever follows
it.
-/
theorem decode_encode_iff (setup : Setup) (framebulks : List Framebulk) :
    (decode (encode setup framebulks) = .ok (setup, framebulks) ↔
      (NulFree setup.track ∧ NulFree setup.kart) ∧
        forall f, f ∈ framebulks -> f.controls.IsDefined) ∧
    (NulFree setup.track -> NulFree setup.kart ->
      forall rest,
        decodeSetup (encodeSetup setup ++ rest) =
          .ok (setup, (encodeSetup setup).length)) := by
  constructor
  · rw [decode_eq_ok_iff]
    constructor
    · intro h
      rcases h with ⟨hnames, hdefined, _⟩
      exact ⟨⟨hnames.track, hnames.kart⟩, hdefined⟩
    · intro h
      rcases h with ⟨⟨htrack, hkart⟩, hdefined⟩
      exact ⟨⟨htrack, hkart⟩, hdefined, rfl⟩
  · intro htrack hkart rest
    apply (decodeSetup_eq_ok_iff _ _ _).mpr
    exact ⟨rest, (decodeFront_eq_ok_iff _ _ _ _).mpr ⟨⟨htrack, hkart⟩, rfl, rfl⟩⟩

def icySetup : Setup :=
  { track := "ís"
    kart := ""
    laps := -1
    difficulty := -2147483648
    opponents := 7
    quickReset := true }

def lostFramebulk : Framebulk :=
  { ticks := -3, angle := ⟨0xFFC00001⟩, controls := ⟨0x25⟩ }

theorem decode_encode_icySetup :
    decode (encode icySetup [lostFramebulk]) = .ok (icySetup, [lostFramebulk]) ∧
      decodeSetup (encodeSetup icySetup ++ [0, 255]) = .ok (icySetup, 18) ∧
      decode (encode { icySetup with kart := "\x00" } []) ≠
        .ok ({ icySetup with kart := "\x00" }, []) := by
  have hnames : NulFree icySetup.track ∧ NulFree icySetup.kart := by decide
  have hdefined : forall f, f ∈ [lostFramebulk] -> f.controls.IsDefined := by decide
  have h := decode_encode_iff icySetup [lostFramebulk]
  refine ⟨h.1.mpr ⟨hnames, hdefined⟩, h.2 hnames.1 hnames.2 [0, 255], ?_⟩
  intro hread
  have hfree := ((decode_encode_iff _ _).1.mp hread).1.2
  exact absurd hfree (by decide)

/--
Reading accepts canonical bytes only: it accepts exactly what writing gives for names
without the character that ends a name and controls that have a meaning, and never gives
the same result for different bytes.
-/
theorem decode_canonical :
    (forall bytes setup framebulks,
      decode bytes = .ok (setup, framebulks) -> encode setup framebulks = bytes) ∧
    (forall bytes setup consumed,
      decodeSetup bytes = .ok (setup, consumed) ->
        consumed ≤ bytes.length ∧ encodeSetup setup = bytes.take consumed) ∧
    (forall bytes1 bytes2 result,
      decode bytes1 = .ok result -> decode bytes2 = .ok result -> bytes1 = bytes2) ∧
    (forall bytes,
      (exists result, decode bytes = .ok result) ↔
        exists setup framebulks,
          NulFree setup.track ∧ NulFree setup.kart ∧
            (forall f, f ∈ framebulks -> f.controls.IsDefined) ∧
            bytes = encode setup framebulks) := by
  refine ⟨?_, ?_, ?_, ?_⟩
  · intro bytes setup framebulks h
    exact ((decode_eq_ok_iff _ _ _).mp h).2.2.symm
  · intro bytes setup consumed h
    rcases (decodeSetup_eq_ok_iff _ _ _).mp h with ⟨rest, hfront⟩
    rcases (decodeFront_eq_ok_iff _ _ _ _).mp hfront with ⟨_, rfl, rfl⟩
    simp
  · intro bytes1 bytes2 result h1 h2
    rcases result with ⟨setup, framebulks⟩
    rw [((decode_eq_ok_iff _ _ _).mp h1).2.2, ((decode_eq_ok_iff _ _ _).mp h2).2.2]
  · intro bytes
    constructor
    · intro h
      rcases h with ⟨⟨setup, framebulks⟩, h⟩
      rcases (decode_eq_ok_iff _ _ _).mp h with ⟨hnames, hdefined, hbytes⟩
      exact ⟨setup, framebulks, hnames.track, hnames.kart, hdefined, hbytes⟩
    · intro h
      rcases h with ⟨setup, framebulks, htrack, hkart, hdefined, hbytes⟩
      exact ⟨(setup, framebulks),
        (decode_eq_ok_iff _ _ _).mpr ⟨⟨htrack, hkart⟩, hdefined, hbytes⟩⟩

theorem decode_canonical_icySetup :
    let bytes : Bytes :=
      [0xC3, 0xAD, 115, 0, 0, 7, 0, 0, 0, 255, 255, 255, 255, 0, 0, 0, 128, 1]
    decode bytes = .ok (icySetup, []) ∧ encode icySetup [] = bytes ∧
      encodeSetup icySetup = bytes.take 18 := by
  intro bytes
  have hdecode : decode bytes = .ok (icySetup, []) := by rfl
  have hsetup : decodeSetup bytes = .ok (icySetup, 18) := by rfl
  exact ⟨hdecode, decode_canonical.1 _ _ _ hdecode, (decode_canonical.2.1 _ _ _ hsetup).2⟩

end Payload
end RaceTape
