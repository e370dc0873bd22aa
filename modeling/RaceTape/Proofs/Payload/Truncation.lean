import RaceTape.Proofs.Payload.Canonical

/-!
# Payloads that are cut short

A payload may be cut behind any of its bytes.  Which part the cut falls into decides what reading
makes of the rest: a name without its end, a setup with bytes missing, a record with bytes missing,
or whole records.  Only in the last case is anything read, and then it is the setup and the first
framebulks.
-/

namespace RaceTape
namespace Payload

open Header Text Timeline

/-!
## Names
-/

theorem splitAtZero_eq_none {bytes : Bytes} (h : 0 ∉ bytes) : splitAtZero bytes = none := by
  induction bytes with
  | nil => rfl
  | cons b rest ih =>
      rw [List.mem_cons, not_or] at h
      rw [splitAtZero, if_neg (Ne.symm h.1), ih h.2]
      rfl

theorem length_encodeName_eq (name : String) :
    (encodeName name).length = name.utf8ByteSize + 1 := by
  rw [length_encodeName, Utf8.length_ofString]

section

variable {name : String} (hfree : NulFree name) {k : Nat} (field : NameField) (offset : Nat)
variable (rest : Bytes)

include hfree

/-- Before its end a name is not known to end, also where a character is cut apart. -/
theorem decodeName_take_of_le (hk : k ≤ name.utf8ByteSize) :
    decodeName field offset ((encodeName name ++ rest).take k) =
      .error (.unterminatedName field offset) := by
  rw [← Utf8.length_ofString] at hk
  have htake : (encodeName name ++ rest).take k = (Utf8.ofString name).take k := by
    rw [encodeName, List.append_assoc, List.take_append_of_le_length hk]
  have hzero : 0 ∉ (Utf8.ofString name).take k := fun hmem =>
    (nulFree_iff name).mp hfree (List.mem_of_mem_take hmem)
  rw [decodeName, htake, splitAtZero_eq_none hzero]

theorem decodeName_take_of_lt (hk : name.utf8ByteSize < k) :
    decodeName field offset ((encodeName name ++ rest).take k) =
      .ok (name, offset + (name.utf8ByteSize + 1), rest.take (k - (name.utf8ByteSize + 1))) := by
  apply (decodeName_eq_ok_iff _ _ _ _ _ _).mpr
  rw [List.take_append, length_encodeName_eq, List.take_of_length_le]
  · exact ⟨hfree, rfl, rfl⟩
  · rw [length_encodeName_eq]
    exact hk

end

/-!
## The setup
-/

theorem decodeTail_of_short (track kart : String) (offset : Nat) {bytes : Bytes}
    (h : bytes.length < tailSize) :
    decodeTail track kart offset bytes =
      .error (.insufficientData (offset + tailSize) (offset + bytes.length)) := by
  unfold decodeTail
  split
  · next =>
      simp only [List.length_cons, tailSize] at h
      omega
  · rfl

/-- The number of bytes of a setup. -/
def setupSize (setup : Setup) : Nat :=
  setup.track.utf8ByteSize + setup.kart.utf8ByteSize + 15

theorem length_encodeSetup (setup : Setup) : (encodeSetup setup).length = setupSize setup := by
  rw [encodeSetup_eq, List.length_append, List.length_append, length_encodeName_eq,
    length_encodeName_eq, length_encodeTail, setupSize, tailSize]
  omega

section

variable {setup : Setup} (hnames : NamesNulFree setup) {k : Nat} (rest : Bytes)

include hnames

theorem decodeFront_take_in_track (hk : k ≤ setup.track.utf8ByteSize) :
    decodeFront ((encodeSetup setup ++ rest).take k) = .error (.unterminatedName .track 0) := by
  rw [decodeFront, encodeSetup_eq, List.append_assoc,
    decodeName_take_of_le hnames.track _ _ _ hk]

theorem decodeFront_take_in_kart (hlow : setup.track.utf8ByteSize < k)
    (hhigh : k ≤ setup.track.utf8ByteSize + setup.kart.utf8ByteSize + 1) :
    decodeFront ((encodeSetup setup ++ rest).take k) =
      .error (.unterminatedName .kart (setup.track.utf8ByteSize + 1)) := by
  have hkart : k - (setup.track.utf8ByteSize + 1) ≤ setup.kart.utf8ByteSize := by omega
  rw [decodeFront, encodeSetup_eq, List.append_assoc,
    decodeName_take_of_lt hnames.track _ _ _ hlow]
  simp only [List.append_assoc, decodeName_take_of_le hnames.kart _ _ _ hkart, Nat.zero_add]

theorem decodeFront_take_in_tail
    (hlow : setup.track.utf8ByteSize + setup.kart.utf8ByteSize + 1 < k)
    (hhigh : k < setupSize setup) :
    decodeFront ((encodeSetup setup ++ rest).take k) =
      .error (.insufficientData (setupSize setup) k) := by
  rw [setupSize] at hhigh
  have htrack : setup.track.utf8ByteSize < k := by omega
  have hkart : setup.kart.utf8ByteSize < k - (setup.track.utf8ByteSize + 1) := by omega
  -- All bytes of the cut setup but the names are bytes of the fixed part.
  have hlength : ((encodeTail setup ++ rest).take (k - (setup.track.utf8ByteSize + 1) -
      (setup.kart.utf8ByteSize + 1))).length =
        k - (setup.track.utf8ByteSize + 1) - (setup.kart.utf8ByteSize + 1) := by
    apply List.length_take_of_le
    rw [List.length_append, length_encodeTail, tailSize]
    omega
  have hshort := decodeTail_of_short setup.track setup.kart
    (setup.track.utf8ByteSize + 1 + (setup.kart.utf8ByteSize + 1))
    (show _ < tailSize by rw [hlength, tailSize]; omega)
  rw [decodeFront, encodeSetup_eq, List.append_assoc,
    decodeName_take_of_lt hnames.track _ _ _ htrack]
  simp only [List.append_assoc, decodeName_take_of_lt hnames.kart _ _ _ hkart, Nat.zero_add,
    hshort, hlength, setupSize, tailSize]
  congr 2
  · omega
  · omega

theorem decodeFront_take_behind (hk : setupSize setup ≤ k) :
    decodeFront ((encodeSetup setup ++ rest).take k) =
      .ok (setup, setupSize setup, rest.take (k - setupSize setup)) := by
  apply (decodeFront_eq_ok_iff _ _ _ _).mpr
  rw [List.take_append, List.take_of_length_le, length_encodeSetup]
  · exact ⟨hnames, rfl, rfl⟩
  · rw [length_encodeSetup]
    exact hk

end

/-!
## Records
-/

theorem take_encodeFramebulks (n : Nat) (framebulks : List Framebulk) :
    (encodeFramebulks framebulks).take (recordSize * n) = encodeFramebulks (framebulks.take n) := by
  induction n generalizing framebulks with
  | zero => rfl
  | succ n ih =>
      cases framebulks with
      | nil => rfl
      | cons f framebulks =>
          rw [List.take_succ_cons, encodeFramebulks, encodeFramebulks, List.flatMap_cons,
            List.flatMap_cons, Nat.mul_succ, Nat.add_comm, ← length_encodeFramebulk f,
            List.take_length_add_append, length_encodeFramebulk]
          exact congrArg _ (ih framebulks)

section

variable {setup : Setup} (hnames : NamesNulFree setup) {framebulks : List Framebulk} {k : Nat}
variable (hlow : setupSize setup ≤ k)

include hnames hlow

theorem decode_take_in_record (hk : k ≤ (encode setup framebulks).length)
    (hrest : (k - setupSize setup) % recordSize ≠ 0) :
    decode ((encode setup framebulks).take k) =
      .error (.trailingBytes ((k - setupSize setup) % recordSize)) := by
  have hlength : ((encodeFramebulks framebulks).take (k - setupSize setup)).length =
      k - setupSize setup := by
    apply List.length_take_of_le
    rw [encode, List.length_append, length_encodeSetup] at hk
    exact Nat.sub_le_iff_le_add'.mpr hk
  rw [decode, encode, decodeFront_take_behind hnames _ hlow]
  simp only [hlength, if_pos hrest]

theorem decode_take_between_records
    (hdefined : forall f, f ∈ framebulks -> f.controls.IsDefined)
    (hrest : (k - setupSize setup) % recordSize = 0) :
    decode ((encode setup framebulks).take k) =
      .ok (setup, framebulks.take ((k - setupSize setup) / recordSize)) := by
  have hrecords : (encodeFramebulks framebulks).take (k - setupSize setup) =
      encodeFramebulks (framebulks.take ((k - setupSize setup) / recordSize)) := by
    rw [← take_encodeFramebulks, Nat.mul_div_cancel' (Nat.dvd_of_mod_eq_zero hrest)]
  apply (decode_eq_ok_iff _ _ _).mpr
  refine ⟨hnames, fun f hf => hdefined f (List.mem_of_mem_take hf), ?_⟩
  rw [encode, encode, List.take_append, length_encodeSetup, hrecords, List.take_of_length_le]
  rw [length_encodeSetup]
  exact hlow

end

theorem decode_of_front_error {bytes : Bytes} {flaw : Flaw}
    (h : decodeFront bytes = .error flaw) : decode bytes = .error flaw := by
  rw [decode, h]

/-!
## Every cut

The cuts at the end fall inside a character, right behind the end of a name, one byte before the
end of the setup, right behind the setup, inside a record, and behind everything.
-/

/--
What is read from the first `k` bytes of a payload follows from `k` and the sizes of its parts.  So
a payload that is cut short is never read as anything but its setup and first framebulks.
-/
theorem decode_take_encode (setup : Setup) (framebulks : List Framebulk) (k : Nat)
    (htrack : NulFree setup.track) (hkart : NulFree setup.kart)
    (hdefined : forall f, f ∈ framebulks -> f.controls.IsDefined)
    (hk : k ≤ (encode setup framebulks).length) :
    let m := setup.track.utf8ByteSize
    let c := setup.kart.utf8ByteSize
    let size := m + c + 15
    let outcome := decode ((encode setup framebulks).take k)
    (k ≤ m -> outcome = .error (.unterminatedName .track 0)) ∧
      (m < k -> k ≤ m + c + 1 -> outcome = .error (.unterminatedName .kart (m + 1))) ∧
      (m + c + 1 < k -> k < size -> outcome = .error (.insufficientData size k)) ∧
      (size ≤ k -> (k - size) % 8 ≠ 0 -> outcome = .error (.trailingBytes ((k - size) % 8))) ∧
      (size ≤ k -> (k - size) % 8 = 0 ->
        outcome = .ok (setup, framebulks.take ((k - size) / 8))) ∧
      forall found others, outcome = .ok (found, others) ->
        found = setup ∧ others <+: framebulks := by
  intro m c size outcome
  have hnames : NamesNulFree setup := ⟨htrack, hkart⟩
  have hinTrack (h : k ≤ m) : outcome = .error (.unterminatedName .track 0) :=
    decode_of_front_error (decodeFront_take_in_track hnames _ h)
  have hinKart (hlow : m < k) (hhigh : k ≤ m + c + 1) :
      outcome = .error (.unterminatedName .kart (m + 1)) :=
    decode_of_front_error (decodeFront_take_in_kart hnames _ hlow hhigh)
  have hinTail (hlow : m + c + 1 < k) (hhigh : k < size) :
      outcome = .error (.insufficientData size k) :=
    decode_of_front_error (decodeFront_take_in_tail hnames _ hlow hhigh)
  have hinRecord (hlow : size ≤ k) (hrest : (k - size) % 8 ≠ 0) :
      outcome = .error (.trailingBytes ((k - size) % 8)) :=
    decode_take_in_record hnames hlow hk hrest
  have hbetween (hlow : size ≤ k) (hrest : (k - size) % 8 = 0) :
      outcome = .ok (setup, framebulks.take ((k - size) / 8)) :=
    decode_take_between_records hnames hlow hdefined hrest
  refine ⟨hinTrack, hinKart, hinTail, hinRecord, hbetween, ?_⟩
  intro found others hread
  -- Of the five parts that a cut can fall into, only the last one gives a result.
  rcases Nat.lt_or_ge m k with hm | hm
  · rcases Nat.lt_or_ge (m + c + 1) k with hc | hc
    · rcases Nat.lt_or_ge k size with hsize | hsize
      · rw [hinTail hc hsize] at hread
        cases hread
      · rcases Classical.em ((k - size) % 8 = 0) with hrest | hrest
        · rw [hbetween hsize hrest] at hread
          cases hread
          exact ⟨rfl, List.take_prefix _ _⟩
        · rw [hinRecord hsize hrest] at hread
          cases hread
    · rw [hinKart hm hc] at hread
      cases hread
  · rw [hinTrack hm] at hread
    cases hread

theorem decode_take_icySetup :
    decode ((encode icySetup [lostFramebulk]).take 1) = .error (.unterminatedName .track 0) ∧
      decode ((encode icySetup [lostFramebulk]).take 4) = .error (.unterminatedName .kart 4) ∧
      decode ((encode icySetup [lostFramebulk]).take 17) = .error (.insufficientData 18 17) ∧
      decode ((encode icySetup [lostFramebulk]).take 18) = .ok (icySetup, []) ∧
      decode ((encode icySetup [lostFramebulk]).take 21) = .error (.trailingBytes 3) ∧
      decode ((encode icySetup [lostFramebulk]).take 26) = .ok (icySetup, [lostFramebulk]) := by
  have hnames : NulFree icySetup.track ∧ NulFree icySetup.kart := by decide
  have hdefined : forall f, f ∈ [lostFramebulk] -> f.controls.IsDefined := by decide
  have hcut (k : Nat) (hk : k ≤ 26) :=
    decode_take_encode icySetup [lostFramebulk] k hnames.1 hnames.2 hdefined hk
  refine ⟨(hcut 1 (by decide)).1 (by decide), (hcut 4 (by decide)).2.1 (by decide) (by decide),
    (hcut 17 (by decide)).2.2.1 (by decide) (by decide), ?_, ?_, ?_⟩
  · exact (hcut 18 (by decide)).2.2.2.2.1 (by decide) (by decide)
  · exact (hcut 21 (by decide)).2.2.2.1 (by decide) (by decide)
  · exact (hcut 26 (by decide)).2.2.2.2.1 (by decide) (by decide)

end Payload
end RaceTape
