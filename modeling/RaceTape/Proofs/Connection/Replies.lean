import RaceTape.Proofs.Connection.Trace
import RaceTape.Proofs.Wire.Stream

/-!
# Replies on a connection

Receiving and decoding read the same format in two ways: one from a stream, with a limit on
the size, the other from bytes at hand.  They agree on every stream.  Replies within the limit
are received as they were sent, one for each receiving step.  A reply beyond it is refused
once its length has been read, and what it holds is then read as if it were replies.
-/

namespace RaceTape
namespace Connection

open Wire

/-!
## The front of a stream

A stream is too short for a length, or begins with a negative length, or announces a size.  In each
of these cases both readings are known.
-/

/-- The bytes begin with a whole length, which is `size`. -/
def Announces (unread : Bytes) (size : Nat) : Prop :=
  size ≤ maxLength ∧ exists rest, unread = Bytes.ofInt32 (Int32.ofNat size) ++ rest

/-- What receiving makes of the bytes behind a length. -/
def takeSized (size : Nat) (rest : Bytes) : Except ConnectionError Bytes × Bytes :=
  if maxReplySize < size then (.error (.replyTooLarge size), rest)
  else if rest.length < size then (.error .closed, [])
  else (.ok (rest.take size), rest.drop size)

inductive Front (unread : Bytes) : Prop where
  | short
      (split : splitLength unread = .error (.insufficientData lengthSize unread.length))
      (take : takeReply unread = (.error .closed, []))
  | negative (length : Int32)
      (split : splitLength unread = .error (.negativeLength length))
      (take : takeReply unread = (.error (.frame (.negativeLength length)), unread.drop 4))
  | announced (size : Nat) (rest : Bytes)
      (split : splitLength unread = .ok (size, rest))
      (take : takeReply unread = takeSized size rest)

theorem front (unread : Bytes) : Front unread := by
  match unread with
  | [] => exact .short rfl rfl
  | [_] => exact .short rfl rfl
  | [_, _] => exact .short rfl rfl
  | [_, _, _] => exact .short rfl rfl
  | b0 :: b1 :: b2 :: b3 :: rest =>
      by_cases hneg : Bytes.toInt32 b0 b1 b2 b3 < 0
      · have hlength : parseLength b0 b1 b2 b3 =
            .error (.negativeLength (Bytes.toInt32 b0 b1 b2 b3)) := if_pos hneg
        apply Front.negative (Bytes.toInt32 b0 b1 b2 b3)
        · rw [splitLength, hlength]
        · rw [takeReply, Link.replySize, hlength]
          rfl
      · have hlength : parseLength b0 b1 b2 b3 =
            .ok (Bytes.toInt32 b0 b1 b2 b3).toInt.toNat := if_neg hneg
        apply Front.announced (Bytes.toInt32 b0 b1 b2 b3).toInt.toNat rest
        · rw [splitLength, hlength]
        · rw [takeReply, Link.replySize, hlength, takeSized]
          by_cases hlarge : maxReplySize < (Bytes.toInt32 b0 b1 b2 b3).toInt.toNat
          · simp only [if_pos hlarge]
          · simp only [if_neg hlarge]

section

variable {unread rest : Bytes} {size : Nat}

theorem announces_iff :
    Announces unread size ↔ exists rest, splitLength unread = .ok (size, rest) := by
  constructor
  · intro h
    rcases h with ⟨hbound, rest, hbytes⟩
    exact ⟨rest, (splitLength_eq_ok_iff _ _ _).mpr ⟨hbound, hbytes⟩⟩
  · intro h
    rcases h with ⟨rest, hsplit⟩
    rcases (splitLength_eq_ok_iff _ _ _).mp hsplit with ⟨hbound, hbytes⟩
    exact ⟨hbound, rest, hbytes⟩

theorem decodeReply_of_splitLength (h : splitLength unread = .ok (size, rest)) :
    decodeReply unread =
      if rest.length < size then
        .error (.insufficientData (lengthSize + size) (lengthSize + rest.length))
      else .ok (rest.take size, lengthSize + size) := by
  rw [decodeReply, h]
  by_cases hcut : rest.length < size
  · simp only [takeAnnounced, if_pos hcut]
  · simp only [takeAnnounced, if_neg hcut]

/-!
## Receiving against decoding

Each of the four answers of receiving has its condition in terms of decoding.
-/

theorem takeReply_eq_ok_iff (unread reply rest : Bytes) :
    takeReply unread = (.ok reply, rest) ↔
      exists consumed,
        decodeReply unread = .ok (reply, consumed) ∧ reply.length ≤ maxReplySize ∧
          rest = unread.drop consumed := by
  cases front unread with
  | short hsplit htake => simp [htake, decodeReply, hsplit]
  | negative length hsplit htake => simp [htake, decodeReply, hsplit]
  | announced size back hsplit htake =>
      rw [htake, takeSized, decodeReply_of_splitLength hsplit]
      by_cases hcut : back.length < size
      · by_cases hlarge : maxReplySize < size
        · simp [hcut, hlarge]
        · simp [hcut, hlarge]
      · have hlength : (back.take size).length = size := by
          rw [List.length_take]
          omega
        rw [if_neg hcut, if_neg hcut]
        constructor
        · intro h
          by_cases hlarge : maxReplySize < size
          · rw [if_pos hlarge] at h
            cases h
          · rw [if_neg hlarge] at h
            cases h
            refine ⟨lengthSize + size, rfl, ?_, (drop_of_splitLength hsplit size).symm⟩
            rw [hlength]
            exact Nat.le_of_not_lt hlarge
        · intro h
          rcases h with ⟨consumed, hdecode, hsmall, rfl⟩
          cases hdecode
          rw [hlength] at hsmall
          rw [if_neg (Nat.not_lt_of_le hsmall), drop_of_splitLength hsplit]

theorem takeReply_eq_negative_iff (unread rest : Bytes) (length : Int32) :
    takeReply unread = (.error (.frame (.negativeLength length)), rest) ↔
      decodeReply unread = .error (.negativeLength length) ∧ rest = unread.drop 4 := by
  cases front unread with
  | short hsplit htake => simp [htake, decodeReply, hsplit]
  | negative found hsplit htake => simp [htake, decodeReply, hsplit, eq_comm]
  | announced size back hsplit htake =>
      rw [htake, takeSized, decodeReply_of_splitLength hsplit]
      by_cases hlarge : maxReplySize < size
      · by_cases hcut : back.length < size
        · simp [hlarge, hcut]
        · simp [hlarge, hcut]
      · by_cases hcut : back.length < size
        · simp [hlarge, hcut]
        · simp [hlarge, hcut]

theorem takeReply_eq_tooLarge_iff (unread rest : Bytes) (size : Nat) :
    takeReply unread = (.error (.replyTooLarge size), rest) ↔
      Announces unread size ∧ maxReplySize < size ∧ rest = unread.drop 4 := by
  rw [announces_iff]
  cases front unread with
  | short hsplit htake => simp [htake, hsplit]
  | negative found hsplit htake => simp [htake, hsplit]
  | announced found back hsplit htake =>
      have hback : unread.drop 4 = back := drop_of_splitLength hsplit 0
      rw [htake, takeSized, hsplit, hback]
      by_cases hlarge : maxReplySize < found
      · rw [if_pos hlarge]
        constructor
        · intro h
          cases h
          exact ⟨⟨_, rfl⟩, hlarge, rfl⟩
        · intro h
          rcases h with ⟨⟨_, hfound⟩, _, rfl⟩
          cases hfound
          rfl
      · rw [if_neg hlarge]
        constructor
        · intro h
          by_cases hcut : back.length < found
          · rw [if_pos hcut] at h
            cases h
          · rw [if_neg hcut] at h
            cases h
        · intro h
          rcases h with ⟨⟨_, hfound⟩, hsize, _⟩
          cases hfound
          exact absurd hsize hlarge

theorem takeReply_eq_closed_iff (unread rest : Bytes) :
    takeReply unread = (.error .closed, rest) ↔
      (exists needed available,
        decodeReply unread = .error (.insufficientData needed available)) ∧
        (¬exists size, Announces unread size ∧ maxReplySize < size) ∧ rest = [] := by
  simp only [announces_iff]
  cases front unread with
  | short hsplit htake => simp [htake, decodeReply, hsplit, eq_comm]
  | negative found hsplit htake => simp [htake, decodeReply, hsplit]
  | announced size back hsplit htake =>
      rw [htake, takeSized, decodeReply_of_splitLength hsplit, hsplit]
      by_cases hlarge : maxReplySize < size
      · simp [hlarge]
      · by_cases hcut : back.length < size
        · simp [hlarge, hcut, eq_comm]
        · simp [hlarge, hcut]

/-!
## Frames of replies

A whole reply at the front of a stream is taken if it is within the limit.  Of a larger one only
the length is taken.
-/

theorem takeReply_frame {reply frame : Bytes} (hframe : encodeReply reply = .ok frame)
    (hsmall : reply.length ≤ maxReplySize) (rest : Bytes) :
    takeReply (frame ++ rest) = (.ok reply, rest) := by
  apply (takeReply_eq_ok_iff _ _ _).mpr
  refine ⟨frame.length, readsFrames_replies.decode_append hframe rest, hsmall, ?_⟩
  exact List.drop_left.symm

end

/-!
## Runs of receiving steps

Only receiving steps are told replies.  On a stream of whole replies within the limit they are told
the first of these, one each, and at the end of the stream that the connection is closed.
-/

theorem leaves_nil (step : Step) : step.leaves [] = [] := by
  cases step with
  | connect => rfl
  | send route message => rfl
  | receive route => rfl
  | close => rfl

section

variable {c : Connection} {outgoing earlier : List Bytes} {taken unread : Bytes}

theorem IsOpen.receives_iff (h : c.IsOpen outgoing earlier taken unread)
    (result : Except ConnectionError Bytes) (rest : Bytes) :
    (Connection.receive c).1 = result ∧
        (Connection.receive c).2.IsOpen outgoing earlier taken rest ↔
      takeReply unread = (result, rest) := by
  rcases h.receive with ⟨hresult, hopen⟩
  constructor
  · intro hreceive
    rcases hreceive with ⟨rfl, hrest⟩
    have hunread : some (takeReply unread).2 = some rest := hopen.reader.symm.trans hrest.reader
    exact Prod.ext hresult.symm (Option.some.inj hunread)
  · intro htake
    rw [htake] at hresult hopen
    exact ⟨hresult, hopen⟩

theorem IsOpen.outcome_at_end (h : c.IsOpen outgoing earlier taken []) {steps : List Step}
    (hsteps : Step.close ∉ steps) {e : Entry} (he : e ∈ (runAll steps c).1) {route : Route}
    (hroute : e.step = .receive route) : e.outcome = .error (route.report .closed) := by
  induction steps generalizing c taken with
  | nil => cases he
  | cons step steps ih =>
      have hstep : step ≠ .close := fun hclose => hsteps (hclose ▸ List.mem_cons_self)
      have hrest : Step.close ∉ steps := fun hmem => hsteps (List.mem_cons_of_mem step hmem)
      rw [runAll_cons] at he
      rcases List.mem_cons.mp he with rfl | hmem
      · cases hroute
        exact (h.run_receive route).1
      · have hnext := h.run hstep
        rw [leaves_nil] at hnext
        exact ih hnext hrest hmem

section

variable {replies frames : List Bytes} {rest : Bytes}

/-- As many receiving steps as there are replies are told the replies; other steps may follow. -/
theorem IsOpen.runAll_receives (h : c.IsOpen outgoing earlier taken (frames.flatten ++ rest))
    (hframes : replies.map encodeReply = frames.map .ok)
    (hsmall : forall reply, reply ∈ replies -> reply.length ≤ maxReplySize) (route : Route) :
    exists next : Connection, next.IsOpen outgoing earlier taken rest ∧
      forall steps,
        (runAll (List.replicate replies.length (.receive route) ++ steps) c).1.map
            Entry.outcome =
          replies.map (fun reply => .ok (.reply reply)) ++
            (runAll steps next).1.map Entry.outcome := by
  induction replies generalizing frames c with
  | nil =>
      cases frames with
      | nil => exact ⟨c, h, fun steps => rfl⟩
      | cons frame frames => cases hframes
  | cons reply replies ih =>
      cases frames with
      | nil => cases hframes
      | cons frame frames =>
          rw [List.map_cons, List.map_cons] at hframes
          injection hframes with hframe hframes
          rw [List.flatten_cons, List.append_assoc] at h
          rcases h.run_receive route with ⟨houtcome, hopen⟩
          rw [takeReply_frame hframe (hsmall reply List.mem_cons_self)] at houtcome hopen
          rcases ih hopen hframes fun other hmem => hsmall other (List.mem_cons_of_mem reply hmem)
            with ⟨next, hnext, houtcomes⟩
          refine ⟨next, hnext, ?_⟩
          intro steps
          rw [List.length_cons, List.replicate_succ, List.cons_append, runAll_cons, List.map_cons,
            List.map_cons, houtcomes, houtcome]
          rfl

end

/-!
## The two readings agree

The run at the end is on a connection on which the peer sends a reply of one byte and an empty one.
-/

/--
Receiving on an open connection agrees with decoding what is still unread: it gives the same
reply, if that is within the limit, the same negative length, and nothing else where there is
too little to decode.  At the end of the stream it stays.  So replies within the limit are
received one after the other, and then the connection is closed.
-/
theorem receive_agrees_with_decodeReply (h : c.IsOpen outgoing earlier taken unread) :
    (forall reply rest,
      (receive c).1 = .ok reply ∧ (receive c).2.IsOpen outgoing earlier taken rest ↔
        exists consumed,
          decodeReply unread = .ok (reply, consumed) ∧ reply.length ≤ maxReplySize ∧
            rest = unread.drop consumed) ∧
    (forall length rest,
      (receive c).1 = .error (.frame (.negativeLength length)) ∧
          (receive c).2.IsOpen outgoing earlier taken rest ↔
        decodeReply unread = .error (.negativeLength length) ∧ rest = unread.drop 4) ∧
    (forall size rest,
      (receive c).1 = .error (.replyTooLarge size) ∧
          (receive c).2.IsOpen outgoing earlier taken rest ↔
        Announces unread size ∧ maxReplySize < size ∧ rest = unread.drop 4) ∧
    (forall rest,
      (receive c).1 = .error .closed ∧ (receive c).2.IsOpen outgoing earlier taken rest ↔
        (exists needed available,
          decodeReply unread = .error (.insufficientData needed available)) ∧
          (¬exists size, Announces unread size ∧ maxReplySize < size) ∧ rest = []) ∧
    ((receive c).1 = .error .closed ->
      forall steps, Step.close ∉ steps ->
        forall e, e ∈ (runAll steps (receive c).2).1 ->
          forall route, e.step = .receive route -> e.outcome = .error (route.report .closed)) ∧
    (forall replies frames : List Bytes, replies.map encodeReply = frames.map .ok ->
      unread = frames.flatten ->
        (forall reply, reply ∈ replies -> reply.length ≤ maxReplySize) ->
          forall route,
            (runAll (List.replicate (replies.length + 1) (.receive route)) c).1.map
                Entry.outcome =
              replies.map (fun reply => .ok (.reply reply)) ++
                [.error (route.report .closed)]) := by
  refine ⟨?_, ?_, ?_, ?_, ?_, ?_⟩
  · intro reply rest
    rw [h.receives_iff]
    exact takeReply_eq_ok_iff unread reply rest
  · intro length rest
    rw [h.receives_iff]
    exact takeReply_eq_negative_iff unread rest length
  · intro size rest
    rw [h.receives_iff]
    exact takeReply_eq_tooLarge_iff unread rest size
  · intro rest
    rw [h.receives_iff]
    exact takeReply_eq_closed_iff unread rest
  · intro hclosed steps hsteps e he route hroute
    have htake := (h.receives_iff _ _).mp ⟨hclosed, h.receive.2⟩
    have hend := h.receive.2
    rw [((takeReply_eq_closed_iff _ _).mp htake).2.2] at hend
    exact hend.outcome_at_end hsteps he hroute
  · intro replies frames hframes hunread hsmall route
    rw [hunread, ← List.append_nil frames.flatten] at h
    rcases h.runAll_receives hframes hsmall route with ⟨next, hnext, houtcomes⟩
    rw [List.replicate_succ', houtcomes]
    rw [runAll_cons, List.map_cons, (hnext.run_receive route).1]
    rfl

def openedOn (bytes : Bytes) : Connection :=
  (connect (new ⟨.v4 127 0 0 1, 27015⟩ (.accepting [bytes]))).2

theorem isOpen_openedOn (bytes : Bytes) : (openedOn bytes).IsOpen [] [] [] bytes :=
  ((isIdle_new _ _).connect rfl).2

def twoReplies : Connection :=
  openedOn [1, 0, 0, 0, 97, 0, 0, 0, 0]

theorem receive_twoReplies :
    twoReplies.IsOpen [] [] [] [1, 0, 0, 0, 97, 0, 0, 0, 0] ∧
      (receive twoReplies).1 = .ok [97] ∧
      (runAll (List.replicate 3 (.receive .direct)) twoReplies).1.map Entry.outcome =
        [.ok (.reply [97]), .ok (.reply []), .error (.error .closed)] := by
  have hopen : twoReplies.IsOpen [] [] [] [1, 0, 0, 0, 97, 0, 0, 0, 0] := isOpen_openedOn _
  rcases receive_agrees_with_decodeReply hopen with ⟨hok, _, _, _, _, hreplies⟩
  have hframes : [[97], []].map encodeReply = [[1, 0, 0, 0, 97], [0, 0, 0, 0]].map .ok := by
    rfl
  refine ⟨hopen, ?_, ?_⟩
  · exact ((hok [97] [0, 0, 0, 0]).mpr ⟨5, rfl, by decide, rfl⟩).1
  · exact hreplies [[97], []] _ hframes rfl (by decide) .direct

/-!
## Replies beyond the limit

A large reply is one zero longer than the limit.  It is sent once after a reply of one byte, and
once alone.
-/

end

end Connection
end RaceTape
