import RaceTape.Proofs.Bytes
import RaceTape.Wire.Frame

/-!
# Reading frames

The front of some bytes is read as a message exactly if it is the frame of that message.
So a frame is read back whatever follows it, and exactly its own bytes are used up.
-/

namespace RaceTape
namespace Wire

/-!
## Lengths

The front of some bytes is read as a length exactly if that length is written there.
-/

theorem toInt_ofNat {n : Nat} (h : n ≤ maxLength) : (Int32.ofNat n).toInt = n := by
  apply Int32.toInt_ofNat_of_lt
  exact Nat.lt_succ_of_le h

theorem not_ofNat_neg {n : Nat} (h : n ≤ maxLength) : ¬Int32.ofNat n < 0 := by
  rw [Int32.lt_iff_toInt_lt, toInt_ofNat h]
  simp

theorem ofNat_toNat_toInt {length : Int32} (h : ¬length < 0) :
    Int32.ofNat length.toInt.toNat = length ∧ length.toInt.toNat ≤ maxLength := by
  have hnonneg : 0 ≤ length.toInt := by
    simpa [Int32.lt_iff_toInt_lt] using h
  have hbound : length.toInt.toNat ≤ maxLength := by
    have hlt := length.toInt_lt
    simp only [maxLength]
    omega
  refine ⟨?_, hbound⟩
  apply Int32.toInt_inj.mp
  rw [toInt_ofNat hbound]
  omega

theorem splitLength_eq_ok_iff (bytes : Bytes) (n : Nat) (rest : Bytes) :
    splitLength bytes = .ok (n, rest) ↔
      n ≤ maxLength ∧ bytes = Bytes.ofInt32 (Int32.ofNat n) ++ rest := by
  constructor
  · intro h
    unfold splitLength at h
    split at h
    · next b0 b1 b2 b3 back =>
        by_cases hneg : Bytes.toInt32 b0 b1 b2 b3 < 0
        · simp [parseLength, hneg] at h
        · simp only [parseLength, if_neg hneg, Except.ok.injEq, Prod.mk.injEq] at h
          rcases h with ⟨rfl, rfl⟩
          rcases ofNat_toNat_toInt hneg with ⟨hlength, hbound⟩
          refine ⟨hbound, ?_⟩
          rw [hlength, Bytes.ofInt32_toInt32]
          rfl
    · cases h
  · intro h
    rcases h with ⟨hbound, rfl⟩
    simp only [Bytes.ofInt32, Bytes.ofWord32, List.cons_append, List.nil_append,
      splitLength, parseLength, Bytes.toInt32_bytes]
    rw [if_neg (not_ofNat_neg hbound), toInt_ofNat hbound]
    rfl

theorem drop_of_splitLength {bytes rest : Bytes} {size : Nat}
    (h : splitLength bytes = .ok (size, rest)) (n : Nat) :
    bytes.drop (lengthSize + n) = rest.drop n := by
  rcases (splitLength_eq_ok_iff _ _ _).mp h with ⟨_, rfl⟩
  have hrest : (Bytes.ofInt32 (Int32.ofNat size) ++ rest).drop lengthSize = rest :=
    List.drop_left' (Bytes.length_ofInt32 _)
  rw [← List.drop_drop, hrest]

theorem takeAnnounced_eq_ok_iff (n : Nat) (rest announced : Bytes) :
    takeAnnounced n rest = .ok announced ↔
      announced.length = n ∧ exists back, rest = announced ++ back := by
  rw [takeAnnounced]
  constructor
  · intro h
    split at h
    · cases h
    · next hlength =>
        cases h
        refine ⟨?_, rest.drop n, (List.take_append_drop n rest).symm⟩
        rw [List.length_take]
        omega
  · intro h
    rcases h with ⟨rfl, back, rfl⟩
    have hlength : ¬(announced ++ back).length < announced.length := by
      rw [List.length_append]
      omega
    rw [if_neg hlength, List.take_left]

/-!
## Frames

A message can be framed exactly if the length of its frame can be written.
-/

theorem messageOf_eq_ok_iff (code : UInt8) (payload : Bytes) (m : Message) :
    messageOf code payload = .ok m ↔ code = m.kind.code ∧ payload = m.payload := by
  constructor
  · intro h
    rw [messageOf, Kind.ofCode?] at h
    by_cases hscript : code = 0
    · rw [if_pos hscript] at h
      cases h
      exact ⟨hscript, rfl⟩
    · by_cases hunload : code = 1
      · rw [if_neg hscript, if_pos hunload] at h
        cases payload with
        | nil =>
            cases h
            exact ⟨hunload, rfl⟩
        | cons b rest => cases h
      · simp [hscript, hunload] at h
  · intro h
    rcases h with ⟨rfl, rfl⟩
    cases m with
    | script payload => rfl
    | unload => rfl

theorem encodeFrame_eq_ok_iff (m : Message) (frame : Bytes) :
    encodeFrame m = .ok frame ↔
      m.payload.length + 1 ≤ maxLength ∧
        frame =
          Bytes.ofInt32 (Int32.ofNat (m.payload.length + 1)) ++ m.kind.code :: m.payload := by
  rw [encodeFrame, announce]
  by_cases h : m.payload.length + 1 ≤ maxLength
  · rw [if_pos h]
    simp [h, eq_comm]
  · rw [if_neg h]
    simp [h]

def frameSize (m : Message) : Nat :=
  lengthSize + (m.payload.length + 1)

theorem length_of_encodeFrame {m : Message} {frame : Bytes} (h : encodeFrame m = .ok frame) :
    frame.length = frameSize m := by
  rcases (encodeFrame_eq_ok_iff m frame).mp h with ⟨_, rfl⟩
  simp [frameSize, lengthSize]

/-- The front of some bytes is read as a message exactly if it is the frame of that message. -/
theorem decodeFrame_eq_ok_iff (bytes : Bytes) (m : Message) (consumed : Nat) :
    decodeFrame bytes = .ok (m, consumed) ↔
      exists frame rest,
        encodeFrame m = .ok frame ∧ bytes = frame ++ rest ∧ consumed = frameSize m := by
  rw [decodeFrame]
  constructor
  · intro h
    cases hsplit : splitLength bytes with
    | error e => simp [hsplit] at h
    | ok cut =>
        rcases cut with ⟨length, rest⟩
        rcases (splitLength_eq_ok_iff _ _ _).mp hsplit with ⟨hbound, rfl⟩
        simp only [hsplit] at h
        by_cases hzero : length = 0
        · rw [if_pos hzero] at h
          cases h
        · rw [if_neg hzero] at h
          cases htake : takeAnnounced length rest with
          | error e => simp [htake] at h
          | ok announced =>
              rcases (takeAnnounced_eq_ok_iff _ _ _).mp htake with ⟨rfl, back, rfl⟩
              -- The length counts the byte of the kind, so that byte is there.
              cases announced with
              | nil => exact absurd rfl hzero
              | cons code payload =>
                  simp only [htake] at h
                  cases hmessage : messageOf code payload with
                  | error e => simp [hmessage] at h
                  | ok found =>
                      simp only [hmessage, Except.ok.injEq, Prod.mk.injEq] at h
                      rcases h with ⟨rfl, rfl⟩
                      rcases (messageOf_eq_ok_iff _ _ _).mp hmessage with ⟨rfl, rfl⟩
                      have hframe :=
                        (encodeFrame_eq_ok_iff found _).mpr ⟨hbound, rfl⟩
                      refine ⟨_, back, hframe, ?_, rfl⟩
                      rw [List.append_assoc]
                      rfl
  · intro h
    rcases h with ⟨frame, rest, hframe, rfl, rfl⟩
    rcases (encodeFrame_eq_ok_iff m frame).mp hframe with ⟨hbound, rfl⟩
    have hsplit := (splitLength_eq_ok_iff
      (Bytes.ofInt32 (Int32.ofNat (m.payload.length + 1)) ++
        (m.kind.code :: m.payload ++ rest)) _ _).mpr ⟨hbound, rfl⟩
    have htake := (takeAnnounced_eq_ok_iff (m.payload.length + 1)
      (m.kind.code :: m.payload ++ rest) _).mpr ⟨rfl, rest, rfl⟩
    have hmessage := (messageOf_eq_ok_iff _ _ m).mpr ⟨rfl, rfl⟩
    rw [List.append_assoc]
    simp only [hsplit, if_neg (Nat.succ_ne_zero _), htake, hmessage, frameSize]

/-!
## Replies

Replies are framed and read in the same way, without a kind.
-/

theorem encodeReply_eq_ok_iff (payload frame : Bytes) :
    encodeReply payload = .ok frame ↔
      payload.length ≤ maxLength ∧
        frame = Bytes.ofInt32 (Int32.ofNat payload.length) ++ payload := by
  rw [encodeReply, announce, Nat.add_zero]
  by_cases h : payload.length ≤ maxLength
  · rw [if_pos h]
    simp [h, eq_comm]
  · rw [if_neg h]
    simp [h]

theorem length_of_encodeReply {payload frame : Bytes} (h : encodeReply payload = .ok frame) :
    frame.length = lengthSize + payload.length := by
  rcases (encodeReply_eq_ok_iff payload frame).mp h with ⟨_, rfl⟩
  rw [List.length_append, Bytes.length_ofInt32]
  rfl

theorem decodeReply_eq_ok_iff (bytes payload : Bytes) (consumed : Nat) :
    decodeReply bytes = .ok (payload, consumed) ↔
      exists frame rest,
        encodeReply payload = .ok frame ∧ bytes = frame ++ rest ∧
          consumed = lengthSize + payload.length := by
  rw [decodeReply]
  constructor
  · intro h
    cases hsplit : splitLength bytes with
    | error e => simp [hsplit] at h
    | ok cut =>
        rcases cut with ⟨length, rest⟩
        rcases (splitLength_eq_ok_iff _ _ _).mp hsplit with ⟨hbound, rfl⟩
        simp only [hsplit] at h
        cases htake : takeAnnounced length rest with
        | error e => simp [htake] at h
        | ok announced =>
            rcases (takeAnnounced_eq_ok_iff _ _ _).mp htake with ⟨rfl, back, rfl⟩
            simp only [htake, Except.ok.injEq, Prod.mk.injEq] at h
            rcases h with ⟨rfl, rfl⟩
            have hframe := (encodeReply_eq_ok_iff announced _).mpr ⟨hbound, rfl⟩
            exact ⟨_, back, hframe, (List.append_assoc _ _ _).symm, rfl⟩
  · intro h
    rcases h with ⟨frame, rest, hframe, rfl, rfl⟩
    rcases (encodeReply_eq_ok_iff payload frame).mp hframe with ⟨hbound, rfl⟩
    have hsplit := (splitLength_eq_ok_iff
      (Bytes.ofInt32 (Int32.ofNat payload.length) ++ (payload ++ rest)) _ _).mpr
        ⟨hbound, rfl⟩
    have htake := (takeAnnounced_eq_ok_iff payload.length (payload ++ rest) _).mpr
      ⟨rfl, rest, rfl⟩
    rw [List.append_assoc]
    simp only [hsplit, htake]

end Wire
end RaceTape
