import RaceTape.Proofs.Payload.Positions
import RaceTape.Proofs.Wire.Arrival

/-!
# Frames by position

Frames too can be read by position, and such a reading stays inside the bytes.  With payloads this
makes all decoders: they never leave their bytes, and what they tell about them is true.
-/

namespace RaceTape

namespace Positions

open Wire

/-!
## Messages and replies
-/

def length (bytes : Bytes) : Reading FrameError Nat := do
  require .insufficientData bytes lengthSize
  let b0 ← byte bytes 0
  let b1 ← byte bytes 1
  let b2 ← byte bytes 2
  let b3 ← byte bytes 3
  settled (parseLength b0 b1 b2 b3)

def frame (bytes : Bytes) : Reading FrameError (Message × Nat) := do
  let length ← length bytes
  if length = 0 then throw (.emptyFrame 0)
  else
    let stop := lengthSize + length
    require .insufficientData bytes stop
    let code ← byte bytes lengthSize
    match Kind.ofCode? code with
    | none => throw (.unknownKind code)
    | some kind =>
        let payload ← slice bytes (lengthSize + 1) stop
        match kind with
        | .script => return (.script payload, stop)
        | .unload =>
            if payload.isEmpty then return (.unload, stop)
            else throw (.unexpectedPayload payload.length)

def reply (bytes : Bytes) : Reading FrameError (Bytes × Nat) := do
  let length ← length bytes
  let stop := lengthSize + length
  require .insufficientData bytes stop
  let payload ← slice bytes lengthSize stop
  return (payload, stop)

theorem length_eq (bytes : Bytes) :
    length bytes = settled ((splitLength bytes).map Prod.fst) := by
  rcases Nat.lt_or_ge bytes.length lengthSize with hshort | hwhole
  · rw [length, require_of_lt hshort, splitLength_of_short hshort]
    rfl
  · rw [length, require_of_le hwhole]
    match bytes, hwhole with
    | b0 :: b1 :: b2 :: b3 :: rest, _ =>
        rw [splitLength]
        show settled (parseLength b0 b1 b2 b3) = _
        cases parseLength b0 b1 b2 b3 with
        | error e => rfl
        | ok n => rfl

section

variable {bytes rest : Bytes} {n : Nat} (hsplit : splitLength bytes = .ok (n, rest))

include hsplit

theorem require_announced :
    require .insufficientData bytes (lengthSize + n) =
      settled ((takeAnnounced n rest).map fun _ => ()) := by
  have hlength := length_of_splitLength hsplit
  rw [takeAnnounced]
  rcases Nat.lt_or_ge rest.length n with hshort | hthere
  · have hmissing : bytes.length < lengthSize + n := by
      rw [hlength]
      exact Nat.add_lt_add_left hshort lengthSize
    rw [require_of_lt hmissing, if_pos hshort, hlength]
    rfl
  · have hinside : lengthSize + n ≤ bytes.length := by
      rw [hlength]
      exact Nat.add_le_add_left hthere lengthSize
    rw [require_of_le hinside, if_neg (Nat.not_lt_of_le hthere)]
    rfl

theorem slice_announced {announced : Bytes} (htake : takeAnnounced n rest = .ok announced)
    {start : Nat} (hstart : start ≤ n) :
    (slice bytes (lengthSize + start) (lengthSize + n) : Reading FrameError Bytes) =
      settled (.ok (announced.drop start)) := by
  rcases (takeAnnounced_eq_ok_iff _ _ _).mp htake with ⟨rfl, back, rfl⟩
  have hinside : lengthSize + announced.length ≤ bytes.length := by
    rw [length_of_splitLength hsplit, List.length_append]
    exact Nat.add_le_add_left (Nat.le_add_right _ _) lengthSize
  rw [slice_of_le (Nat.add_le_add_left hstart lengthSize) hinside, List.drop_take,
    Nat.add_sub_add_left, drop_of_splitLength hsplit, ← List.drop_take, List.take_left]

end

theorem reply_eq (bytes : Bytes) : reply bytes = settled (decodeReply bytes) := by
  rw [reply, decodeReply, length_eq]
  cases hsplit : splitLength bytes with
  | error e => rfl
  | ok cut =>
      rcases cut with ⟨n, rest⟩
      simp only [Except.map, settled_ok_bind, require_announced hsplit]
      cases htake : takeAnnounced n rest with
      | error e => rfl
      | ok announced =>
          have hslice := slice_announced hsplit htake (Nat.zero_le n)
          rw [Nat.add_zero, List.drop_zero] at hslice
          simp only [settled_ok_bind, hslice]
          rfl

theorem frame_eq (bytes : Bytes) : frame bytes = settled (decodeFrame bytes) := by
  rw [frame, decodeFrame, length_eq]
  cases hsplit : splitLength bytes with
  | error e => rfl
  | ok cut =>
      rcases cut with ⟨n, rest⟩
      simp only [Except.map, settled_ok_bind, require_announced hsplit]
      by_cases hzero : n = 0
      · rw [if_pos hzero, if_pos hzero]
        rfl
      · rw [if_neg hzero, if_neg hzero]
        cases htake : takeAnnounced n rest with
        | error e => rfl
        | ok announced =>
            rcases (takeAnnounced_eq_ok_iff _ _ _).mp htake with ⟨hlength, back, hrest⟩
            cases announced with
            | nil => exact absurd hlength.symm hzero
            | cons code payload =>
                have hdrop : bytes.drop lengthSize = rest := drop_of_splitLength hsplit 0
                have hcode : (byte bytes lengthSize : Reading FrameError UInt8) =
                    settled (.ok code) := by
                  rw [← Nat.add_zero lengthSize, byte_add, hdrop, hrest]
                  rfl
                have hslice := slice_announced hsplit htake (Nat.one_le_iff_ne_zero.mpr hzero)
                rw [List.drop_succ_cons, List.drop_zero] at hslice
                simp only [settled_ok_bind, hcode, hslice, messageOf]
                cases Kind.ofCode? code with
                | none => rfl
                | some kind =>
                    cases kind with
                    | script => rfl
                    | unload =>
                        cases payload with
                        | nil => rfl
                        | cons b payload => rfl

end Positions

/-!
## What errors tell
-/

namespace Wire

/-- The numbers of an error are true of the bytes in which it was found. -/
def FrameError.TrueOf (bytes : Bytes) : FrameError -> Prop
  | .insufficientData needed available => available = bytes.length ∧ available < needed
  | _ => True

theorem Incremental.trueOf {decode : Bytes -> Except FrameError α} (h : Incremental decode)
    {bytes : Bytes} {e : FrameError} (he : decode bytes = .error e) : e.TrueOf bytes := by
  cases e with
  | insufficientData needed available =>
      rcases h.asks bytes needed available he with ⟨rfl, hlt⟩
      exact ⟨rfl, hlt⟩
  | negativeLength length => trivial
  | emptyFrame length => trivial
  | payloadTooLarge length => trivial
  | unknownKind code => trivial
  | unexpectedPayload length => trivial

structure TellsTruth (bytes : Bytes) : Prop where
  frame_used_le : forall m used, decodeFrame bytes = .ok (m, used) -> used ≤ bytes.length
  frame_error : forall e, decodeFrame bytes = .error e -> e.TrueOf bytes
  reply_used_le : forall reply used, decodeReply bytes = .ok (reply, used) -> used ≤ bytes.length
  reply_error : forall e, decodeReply bytes = .error e -> e.TrueOf bytes

theorem tellsTruth (bytes : Bytes) : TellsTruth bytes := by
  constructor
  · intro m used h
    exact (readsFrames_messages.encode_eq_take h).1
  · intro e h
    exact incremental_decodeFrame.trueOf h
  · intro reply used h
    exact (readsFrames_replies.encode_eq_take h).1
  · intro e h
    exact incremental_decodeReply.trueOf h

end Wire

/-!
## All decoders

Reading the bytes by position stays inside them and comes to what decoding them gives.
-/

namespace Positions

open Payload Wire

structure StaysInside (bytes : Bytes) : Prop where
  setup : (setup bytes).run = some (decodeSetup bytes)
  framebulk : (framebulk bytes).run = some (decodeFramebulk bytes)
  payload : (payload bytes).run = some (decode bytes)
  frame : (frame bytes).run = some (decodeFrame bytes)
  reply : (reply bytes).run = some (decodeReply bytes)

/--
No bytes lead a decoder outside of them, and all that it tells about them is true: how many bytes
it has used, how many are there and how many are missing, where a name without an end begins, and
how many bytes make no whole record.
-/
theorem decoders_stay_inside (bytes : Bytes) :
    StaysInside bytes ∧ Payload.TellsTruth bytes ∧ Wire.TellsTruth bytes := by
  refine ⟨?_, Payload.tellsTruth bytes, Wire.tellsTruth bytes⟩
  constructor
  · exact congrArg ExceptT.run (setup_eq bytes)
  · exact congrArg ExceptT.run (framebulk_eq bytes)
  · exact congrArg ExceptT.run (payload_eq bytes)
  · exact congrArg ExceptT.run (frame_eq bytes)
  · exact congrArg ExceptT.run (reply_eq bytes)

/-- A record with controls that have no meaning is not looked at while a part of one follows it. -/
example :
    decode (List.replicate 15 0 ++ List.replicate 8 255) = .error (.malformed (.controls (-1))) ∧
      decode (List.replicate 15 0 ++ List.replicate 11 255) = .error (.trailingBytes 3) :=
  ⟨rfl, rfl⟩

end Positions

end RaceTape
