import RaceTape.Proofs.Wire.Frame
import RaceTape.Wire.Stream

/-!
# Reading streams of frames

Frames that stand one after the other are read as their messages in order, each of which
uses up its own frame, and what follows the last of them is left.  Nothing but a frame is
read.  The same holds of replies, so the argument is made once, for a way to write values
and a way to read them that agree on single frames.
-/

namespace RaceTape
namespace Wire

/-!
## Repeated reading

A stream is read again and again, and each result is kept with the number of its bytes.
-/

inductive Reads (decode : Bytes -> Except FrameError (α × Nat)) :
    Bytes -> List (α × Nat) -> Bytes -> Prop where
  | done (rest : Bytes) : Reads decode rest [] rest
  | next {bytes rest : Bytes} {a : α} {consumed : Nat} {results : List (α × Nat)}
      (first : decode bytes = .ok (a, consumed))
      (others : Reads decode (bytes.drop consumed) results rest) :
      Reads decode bytes ((a, consumed) :: results) rest

/-- Every result takes some of the bytes, and not more than there are. -/
def UsesBytes (decode : Bytes -> Except FrameError (α × Nat)) : Prop :=
  forall bytes a consumed,
    decode bytes = .ok (a, consumed) -> 0 < consumed ∧ consumed ≤ bytes.length

section

variable {encode : α -> Except FrameError Bytes}
variable {decode : Bytes -> Except FrameError (α × Nat)}

theorem length_drop_lt (huses : UsesBytes decode) {bytes : Bytes} {a : α} {consumed : Nat}
    (h : decode bytes = .ok (a, consumed)) :
    (bytes.drop consumed).length < bytes.length := by
  rcases huses bytes a consumed h with ⟨hpos, hle⟩
  rw [List.length_drop]
  exact Nat.sub_lt (Nat.lt_of_lt_of_le hpos hle) hpos

/-- As much fuel as there are bytes is enough, and more changes nothing. -/
theorem readAll_congr_fuel (huses : UsesBytes decode) {bytes : Bytes} {fuel other : Nat}
    (hfuel : bytes.length ≤ fuel) (hother : bytes.length ≤ other) :
    readAll decode fuel bytes = readAll decode other bytes := by
  induction fuel generalizing bytes other with
  | zero =>
      have hbytes : bytes = [] := List.eq_nil_of_length_eq_zero (Nat.le_zero.mp hfuel)
      subst hbytes
      cases other with
      | zero => rfl
      | succ other => rfl
  | succ fuel ih =>
      cases bytes with
      | nil =>
          cases other with
          | zero => rfl
          | succ other => rfl
      | cons b back =>
          cases other with
          | zero => cases hother
          | succ other =>
              rw [readAll, readAll]
              cases hfirst : decode (b :: back) with
              | error e => rfl
              | ok result =>
                  rcases result with ⟨a, consumed⟩
                  have hlt := length_drop_lt huses hfirst
                  have hrest := ih (Nat.le_of_lt_succ (Nat.lt_of_lt_of_le hlt hfuel))
                    (Nat.le_of_lt_succ (Nat.lt_of_lt_of_le hlt hother))
                  simp only [List.isEmpty_cons, Bool.false_eq_true, if_false, hrest]

theorem Reads.readAll_eq (huses : UsesBytes decode) {bytes rest : Bytes}
    {results : List (α × Nat)} (h : Reads decode bytes results rest) :
    readAll decode bytes.length bytes =
      results.map .ok ++ readAll decode rest.length rest := by
  induction h with
  | done rest => rfl
  | @next bytes rest a consumed results first others ih =>
      have hlt := length_drop_lt huses first
      cases bytes with
      | nil => cases hlt
      | cons b back =>
          have hfuel := readAll_congr_fuel huses (Nat.le_of_lt_succ hlt) (Nat.le_refl _)
          rw [List.length_cons, readAll, first]
          simp only [List.isEmpty_cons, Bool.false_eq_true, if_false, hfuel, ih]
          rfl

/-!
## Reading that agrees with writing
-/

/-- The front of some bytes is read as a value exactly if it is the frame of that value. -/
def ReadsFrames (encode : α -> Except FrameError Bytes)
    (decode : Bytes -> Except FrameError (α × Nat)) : Prop :=
  forall bytes a consumed,
    decode bytes = .ok (a, consumed) ↔
      exists frame rest, encode a = .ok frame ∧ bytes = frame ++ rest ∧ consumed = frame.length

theorem readsFrames_of_size {size : α -> Nat}
    (hsize : forall {a frame}, encode a = .ok frame -> frame.length = size a)
    (h : forall bytes a consumed,
      decode bytes = .ok (a, consumed) ↔
        exists frame rest, encode a = .ok frame ∧ bytes = frame ++ rest ∧ consumed = size a) :
    ReadsFrames encode decode := by
  intro bytes a consumed
  rw [h]
  constructor
  · intro hframe
    rcases hframe with ⟨frame, rest, hframe, hbytes, hconsumed⟩
    exact ⟨frame, rest, hframe, hbytes, hconsumed.trans (hsize hframe).symm⟩
  · intro hframe
    rcases hframe with ⟨frame, rest, hframe, hbytes, hconsumed⟩
    exact ⟨frame, rest, hframe, hbytes, hconsumed.trans (hsize hframe)⟩

theorem ReadsFrames.decode_append (hreads : ReadsFrames encode decode) {a : α}
    {frame : Bytes} (h : encode a = .ok frame) (rest : Bytes) :
    decode (frame ++ rest) = .ok (a, frame.length) :=
  (hreads _ _ _).mpr ⟨frame, rest, h, rfl, rfl⟩

theorem ReadsFrames.encode_eq_take (hreads : ReadsFrames encode decode) {bytes : Bytes} {a : α}
    {consumed : Nat} (h : decode bytes = .ok (a, consumed)) :
    consumed ≤ bytes.length ∧ encode a = .ok (bytes.take consumed) := by
  rcases (hreads bytes a consumed).mp h with ⟨frame, rest, hframe, rfl, rfl⟩
  constructor
  · rw [List.length_append]
    exact Nat.le_add_right _ _
  · rw [List.take_left]
    exact hframe

theorem ReadsFrames.usesBytes (hreads : ReadsFrames encode decode)
    (hpos : forall a frame, encode a = .ok frame -> 0 < frame.length) : UsesBytes decode := by
  intro bytes a consumed h
  rcases (hreads bytes a consumed).mp h with ⟨frame, rest, hframe, _, rfl⟩
  exact ⟨hpos a frame hframe, (hreads.encode_eq_take h).1⟩

/-- Frames are read as their values in order, and what follows them is left. -/
theorem ReadsFrames.reads_flatten (hreads : ReadsFrames encode decode) {values : List α}
    {frames : List Bytes} (h : values.map encode = frames.map .ok) (rest : Bytes) :
    Reads decode (frames.flatten ++ rest) (values.zip (frames.map List.length)) rest := by
  induction values generalizing frames with
  | nil =>
      cases frames with
      | nil => exact Reads.done rest
      | cons frame frames => cases h
  | cons a values ih =>
      cases frames with
      | nil => cases h
      | cons frame frames =>
          rw [List.map_cons, List.map_cons] at h
          injection h with hframe hframes
          rw [List.flatten_cons, List.append_assoc]
          apply Reads.next (hreads.decode_append hframe (frames.flatten ++ rest))
          rw [List.drop_left]
          exact ih hframes

theorem exists_encoded {values : List α}
    (h : forall a, a ∈ values -> exists frame, encode a = .ok frame) :
    exists frames : List Bytes, values.map encode = frames.map .ok := by
  induction values with
  | nil => exact ⟨[], rfl⟩
  | cons a values ih =>
      rcases h a List.mem_cons_self with ⟨frame, hframe⟩
      rcases ih fun b hb => h b (List.mem_cons_of_mem a hb) with ⟨frames, hframes⟩
      rw [List.map_cons, hframe, hframes]
      exact ⟨frame :: frames, rfl⟩

end

/-!
## Messages
-/

theorem readsFrames_messages : ReadsFrames encodeFrame decodeFrame :=
  readsFrames_of_size length_of_encodeFrame decodeFrame_eq_ok_iff

theorem exists_frame_iff (m : Message) :
    (exists frame, encodeFrame m = .ok frame) ↔ m.payload.length + 1 ≤ maxLength := by
  constructor
  · intro h
    rcases h with ⟨frame, hframe⟩
    exact ((encodeFrame_eq_ok_iff m frame).mp hframe).1
  · intro h
    exact ⟨_, (encodeFrame_eq_ok_iff m _).mpr ⟨h, rfl⟩⟩

theorem usesBytes_decodeFrame : UsesBytes decodeFrame := by
  apply readsFrames_messages.usesBytes
  intro m frame hframe
  rw [length_of_encodeFrame hframe]
  exact Nat.succ_pos _

theorem map_length_frames {messages : List Message} {frames : List Bytes}
    (h : messages.map encodeFrame = frames.map .ok) :
    frames.map List.length = messages.map frameSize := by
  induction messages generalizing frames with
  | nil =>
      cases frames with
      | nil => rfl
      | cons frame frames => cases h
  | cons m messages ih =>
      cases frames with
      | nil => cases h
      | cons frame frames =>
          rw [List.map_cons, List.map_cons] at h
          injection h with hframe hframes
          rw [List.map_cons, List.map_cons, length_of_encodeFrame hframe, ih hframes]

theorem reads_frames {messages : List Message} {frames : List Bytes}
    (h : messages.map encodeFrame = frames.map .ok) (rest : Bytes) :
    Reads decodeFrame (frames.flatten ++ rest)
      (messages.map fun m => (m, frameSize m)) rest := by
  have hzip : (messages.map id).zip (messages.map frameSize) =
      messages.map fun m => (m, frameSize m) := List.zip_map'
  rw [List.map_id] at hzip
  have hreads := readsFrames_messages.reads_flatten h rest
  rw [map_length_frames h, hzip] at hreads
  exact hreads

theorem readFrames_flatten {messages : List Message} {frames : List Bytes}
    (h : messages.map encodeFrame = frames.map .ok) :
    readFrames frames.flatten = messages.map fun m => .ok (m, frameSize m) := by
  have hreads := reads_frames h []
  rw [List.append_nil] at hreads
  rw [readFrames, hreads.readAll_eq usesBytes_decodeFrame, List.map_map]
  exact List.append_nil _

theorem exists_frames {messages : List Message}
    (h : forall m, m ∈ messages -> m.payload.length + 1 ≤ maxLength) :
    exists frames : List Bytes, messages.map encodeFrame = frames.map .ok :=
  exists_encoded fun m hm => (exists_frame_iff m).mpr (h m hm)

/-!
## Replies
-/

theorem readsFrames_replies : ReadsFrames encodeReply decodeReply :=
  readsFrames_of_size length_of_encodeReply decodeReply_eq_ok_iff

theorem exists_reply_iff (payload : Bytes) :
    (exists frame, encodeReply payload = .ok frame) ↔ payload.length ≤ maxLength := by
  constructor
  · intro h
    rcases h with ⟨frame, hframe⟩
    exact ((encodeReply_eq_ok_iff payload frame).mp hframe).1
  · intro h
    exact ⟨_, (encodeReply_eq_ok_iff payload _).mpr ⟨h, rfl⟩⟩

/-!
## The laws of both

The laws are stated for the length that the frame of a value announces and for the least number of
bytes of a frame.
-/

structure StreamLaws (encode : α -> Except FrameError Bytes)
    (decode : Bytes -> Except FrameError (α × Nat)) (announced : α -> Nat) (least : Nat) :
    Prop where
  /-- A value has a frame exactly if the length of the frame fits a signed word. -/
  framed : forall a, (exists frame, encode a = .ok frame) ↔ announced a ≤ 2147483647
  /-- Frames are read as their values in order, each with its own bytes, up to what follows. -/
  read : forall (values : List α) (rest : Bytes),
    (forall a, a ∈ values -> announced a ≤ 2147483647) ->
      exists frames : List Bytes,
        values.map encode = frames.map .ok ∧
          Reads decode (frames.flatten ++ rest) (values.zip (frames.map List.length)) rest ∧
          readAll decode (frames.flatten ++ rest).length (frames.flatten ++ rest) =
            (values.zip (frames.map List.length)).map .ok ++ readAll decode rest.length rest
  /-- What is read as a value is the frame of that value. -/
  canonical : forall bytes a consumed,
    decode bytes = .ok (a, consumed) ->
      least ≤ consumed ∧ consumed ≤ bytes.length ∧ encode a = .ok (bytes.take consumed)

theorem ReadsFrames.streamLaws {encode : α -> Except FrameError Bytes}
    {decode : Bytes -> Except FrameError (α × Nat)} {announced : α -> Nat} {least : Nat}
    (hreads : ReadsFrames encode decode) (hpos : 0 < least)
    (hframed : forall a, (exists frame, encode a = .ok frame) ↔ announced a ≤ maxLength)
    (hleast : forall a frame, encode a = .ok frame -> least ≤ frame.length) :
    StreamLaws encode decode announced least := by
  have huses : UsesBytes decode :=
    hreads.usesBytes fun a frame hframe => Nat.lt_of_lt_of_le hpos (hleast a frame hframe)
  constructor
  · exact hframed
  · intro values rest hvalues
    rcases exists_encoded fun a ha => (hframed a).mpr (hvalues a ha) with ⟨frames, hframes⟩
    have hstream := hreads.reads_flatten hframes rest
    exact ⟨frames, hframes, hstream, hstream.readAll_eq huses⟩
  · intro bytes a consumed h
    rcases hreads.encode_eq_take h with ⟨hle, hframe⟩
    have htake := hleast a _ hframe
    rw [List.length_take_of_le hle] at htake
    exact ⟨htake, hle, hframe⟩

/--
Messages and replies both stand in streams as frames do; the length of a message counts its
kind, that of a reply does not.
-/
theorem frames_and_replies_in_streams :
    StreamLaws encodeFrame decodeFrame (fun m => m.payload.length + 1) 5 ∧
      StreamLaws encodeReply decodeReply List.length 4 := by
  constructor
  · apply readsFrames_messages.streamLaws (Nat.succ_pos 4) exists_frame_iff
    intro m frame hframe
    rw [length_of_encodeFrame hframe]
    exact Nat.add_le_add_left (Nat.le_add_left 1 _) lengthSize
  · apply readsFrames_replies.streamLaws (Nat.succ_pos 3) exists_reply_iff
    intro payload frame hframe
    rw [length_of_encodeReply hframe]
    exact Nat.le_add_right lengthSize _

theorem read_before_cut_frame :
    exists frames : List Bytes,
      [Message.script [7, 7], .unload].map encodeFrame = frames.map .ok ∧
        Reads decodeFrame (frames.flatten ++ [1, 0])
          [(.script [7, 7], 7), (.unload, 5)] [1, 0] := by
  have hfits : forall m, m ∈ [Message.script [7, 7], .unload] ->
      m.payload.length + 1 ≤ 2147483647 := by decide
  rcases frames_and_replies_in_streams.1.read _ [1, 0] hfits with ⟨frames, hframes, hreads, _⟩
  rw [map_length_frames hframes] at hreads
  exact ⟨frames, hframes, hreads⟩

end Wire
end RaceTape
