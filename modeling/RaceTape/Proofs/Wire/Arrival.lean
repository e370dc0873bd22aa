import RaceTape.Proofs.Wire.Stream

/-!
# Frames that arrive in pieces

Bytes can be read again each time more of them have arrived.  How many must be there follows from
those that are: the four of the length, and once these are there, as many more as they announce.
With fewer bytes, reading asks for that number.  With as many, it comes to a verdict, and nothing
that arrives later changes it.
-/

namespace RaceTape
namespace Wire

def IsVerdict (outcome : Except FrameError α) : Prop :=
  forall needed available, outcome ≠ .error (.insufficientData needed available)

theorem isVerdict_ok (a : α) : IsVerdict (.ok a : Except FrameError α) := by
  intro needed available h
  cases h

theorem isVerdict_or_asks (outcome : Except FrameError α) :
    IsVerdict outcome ∨
      exists needed available, outcome = .error (.insufficientData needed available) := by
  rcases Classical.em
    (exists needed available, outcome = .error (.insufficientData needed available)) with h | h
  · exact Or.inr h
  · exact Or.inl fun needed available hasks => h ⟨needed, available, hasks⟩

structure Incremental (decode : Bytes -> Except FrameError α) : Prop where
  /-- A verdict does not depend on what follows. -/
  stands : forall bytes, IsVerdict (decode bytes) ->
    forall more, decode (bytes ++ more) = decode bytes
  /-- Where there is no verdict, more bytes are needed than there are. -/
  asks : forall bytes needed available,
    decode bytes = .error (.insufficientData needed available) ->
      available = bytes.length ∧ bytes.length < needed
  /-- The same number is asked for until as many bytes are there. -/
  asks_again : forall bytes needed available,
    decode bytes = .error (.insufficientData needed available) ->
      forall more, (bytes ++ more).length < needed ->
        decode (bytes ++ more) = .error (.insufficientData needed (bytes ++ more).length)
  /-- As many bytes as were asked for give a verdict, or a larger number to ask for. -/
  moves_on : forall bytes needed available,
    decode bytes = .error (.insufficientData needed available) ->
      forall more, needed ≤ (bytes ++ more).length ->
        IsVerdict (decode (bytes ++ more)) ∨
          exists further, needed < further ∧
            decode (bytes ++ more) = .error (.insufficientData further (bytes ++ more).length)

structure SelfDelimiting (encode : α -> Except FrameError Bytes)
    (decode : Bytes -> Except FrameError (α × Nat)) : Prop where
  /-- A frame that is cut short makes reading ask for more bytes. -/
  cut : forall a frame, encode a = .ok frame ->
    forall front, front <+: frame -> front ≠ frame ->
      exists needed, decode front = .error (.insufficientData needed front.length)
  /-- No frame is the front of a longer one. -/
  whole : forall a b frame other, encode a = .ok frame -> encode b = .ok other ->
    frame <+: other -> frame = other

/-!
## The number of bytes that must be there

A length that is whole stays as it is, and what arrives later stands behind the rest.  Bytes that
are too few for the demand do not change it.
-/

/-- The number of bytes that must be there for a verdict, as far as it is known. -/
def demand (bytes : Bytes) : Nat :=
  match splitLength bytes with
  | .ok (length, _) => lengthSize + length
  | .error _ => lengthSize

theorem splitLength_of_short {bytes : Bytes} (h : bytes.length < lengthSize) :
    splitLength bytes = .error (.insufficientData lengthSize bytes.length) := by
  match bytes, h with
  | [], _ => rfl
  | [_], _ => rfl
  | [_, _], _ => rfl
  | [_, _, _], _ => rfl

theorem demand_of_short {bytes : Bytes} (h : bytes.length < lengthSize) :
    demand bytes = lengthSize := by
  rw [demand, splitLength_of_short h]

theorem parseLength_isVerdict (b0 b1 b2 b3 : UInt8) : IsVerdict (parseLength b0 b1 b2 b3) := by
  rw [parseLength]
  split
  · intro needed available h
    cases h
  · exact isVerdict_ok _

theorem splitLength_append {bytes : Bytes} (h : lengthSize ≤ bytes.length) (more : Bytes) :
    splitLength (bytes ++ more) = (splitLength bytes).map fun cut => (cut.1, cut.2 ++ more) := by
  match bytes, h with
  | b0 :: b1 :: b2 :: b3 :: rest, _ =>
      simp only [List.cons_append, splitLength]
      cases parseLength b0 b1 b2 b3 with
      | error e => rfl
      | ok length => rfl

theorem splitLength_isVerdict {bytes : Bytes} (h : lengthSize ≤ bytes.length) :
    IsVerdict (splitLength bytes) := by
  match bytes, h with
  | b0 :: b1 :: b2 :: b3 :: rest, _ =>
      intro needed available hsplit
      rw [splitLength] at hsplit
      cases hlength : parseLength b0 b1 b2 b3 with
      | error e =>
          rw [hlength] at hsplit
          cases hsplit
          exact parseLength_isVerdict b0 b1 b2 b3 needed available hlength
      | ok length =>
          rw [hlength] at hsplit
          cases hsplit

theorem demand_append {bytes : Bytes} (h : lengthSize ≤ bytes.length) (more : Bytes) :
    demand (bytes ++ more) = demand bytes := by
  rw [demand, demand, splitLength_append h]
  cases splitLength bytes with
  | error e => rfl
  | ok cut => rfl

theorem demand_append_of_lt {bytes more : Bytes} (h : (bytes ++ more).length < demand bytes) :
    demand (bytes ++ more) = demand bytes := by
  rcases Nat.lt_or_ge bytes.length lengthSize with hshort | hwhole
  · rw [demand_of_short hshort] at h ⊢
    exact demand_of_short h
  · exact demand_append hwhole more

theorem length_of_splitLength {bytes rest : Bytes} {length : Nat}
    (h : splitLength bytes = .ok (length, rest)) : bytes.length = lengthSize + rest.length := by
  rcases (splitLength_eq_ok_iff _ _ _).mp h with ⟨_, rfl⟩
  rw [List.length_append, Bytes.length_ofInt32]
  rfl

theorem takeAnnounced_append {length : Nat} {rest : Bytes} (h : length ≤ rest.length)
    (more : Bytes) : takeAnnounced length (rest ++ more) = takeAnnounced length rest := by
  have hmore : length ≤ (rest ++ more).length := by
    rw [List.length_append]
    exact Nat.le_add_right_of_le h
  rw [takeAnnounced, takeAnnounced, if_neg (Nat.not_lt_of_le hmore), if_neg (Nat.not_lt_of_le h),
    List.take_append_of_le_length h]

/-!
## Reading in two stages

Messages and replies are read alike: the length first, then as many bytes as it announces, and
these are opened at once.
-/

/-- Reads a length and the bytes that it announces, and opens these. -/
def readStages (unpack : Nat -> Bytes -> Except FrameError α) (bytes : Bytes) :
    Except FrameError α :=
  (splitLength bytes).bind fun cut => (takeAnnounced cut.1 cut.2).bind (unpack cut.1)

def unpackFrame (length : Nat) : Bytes -> Except FrameError (Message × Nat)
  | [] => .error (.emptyFrame 0)
  | code :: payload => (messageOf code payload).map fun m => (m, lengthSize + length)

theorem decodeFrame_eq_readStages : decodeFrame = readStages unpackFrame := by
  funext bytes
  rw [decodeFrame, readStages]
  cases splitLength bytes with
  | error e => rfl
  | ok cut =>
      rcases cut with ⟨length, rest⟩
      cases length with
      | zero =>
          -- Nothing is announced, so nothing is taken and nothing is missing.
          rfl
      | succ length =>
          simp only [Except.bind, if_neg (Nat.succ_ne_zero length)]
          cases takeAnnounced (length + 1) rest with
          | error e => rfl
          | ok announced =>
              cases announced with
              | nil => rfl
              | cons code payload =>
                  simp only [unpackFrame]
                  cases messageOf code payload with
                  | error e => rfl
                  | ok m => rfl

theorem decodeReply_eq_readStages :
    decodeReply = readStages fun length payload => .ok (payload, lengthSize + length) := by
  funext bytes
  rw [decodeReply, readStages]
  cases splitLength bytes with
  | error e => rfl
  | ok cut =>
      simp only [Except.bind]
      cases takeAnnounced cut.1 cut.2 with
      | error e => rfl
      | ok payload => rfl

theorem unpackFrame_isVerdict (length : Nat) (announced : Bytes) :
    IsVerdict (unpackFrame length announced) := by
  intro needed available h
  cases announced with
  | nil => cases h
  | cons code payload =>
      rw [unpackFrame, messageOf] at h
      cases hkind : Kind.ofCode? code with
      | none =>
          rw [hkind] at h
          cases h
      | some kind =>
          rw [hkind] at h
          cases kind with
          | script => cases h
          | unload =>
              cases payload with
              | nil => cases h
              | cons b payload => cases h

section

variable {unpack : Nat -> Bytes -> Except FrameError α}

theorem readStages_of_lt {bytes : Bytes} (h : bytes.length < demand bytes) :
    readStages unpack bytes = .error (.insufficientData (demand bytes) bytes.length) := by
  cases hsplit : splitLength bytes with
  | error e =>
      have hshort : bytes.length < lengthSize := by
        rwa [demand, hsplit] at h
      rw [readStages, demand_of_short hshort, splitLength_of_short hshort]
      rfl
  | ok cut =>
      rcases cut with ⟨length, rest⟩
      have hdemand : demand bytes = lengthSize + length := by
        rw [demand, hsplit]
      have hmissing : rest.length < length := by
        rw [hdemand, length_of_splitLength hsplit] at h
        exact Nat.lt_of_add_lt_add_left h
      rw [readStages, hsplit, hdemand, length_of_splitLength hsplit]
      simp only [Except.bind, takeAnnounced, if_pos hmissing]

theorem readStages_of_le (hunpack : forall length announced, IsVerdict (unpack length announced))
    {bytes : Bytes} (h : demand bytes ≤ bytes.length) :
    IsVerdict (readStages unpack bytes) ∧
      forall more, readStages unpack (bytes ++ more) = readStages unpack bytes := by
  cases hsplit : splitLength bytes with
  | error e =>
      have hwhole : lengthSize ≤ bytes.length := by
        rwa [demand, hsplit] at h
      constructor
      · have hverdict := splitLength_isVerdict hwhole
        rw [readStages, hsplit]
        rw [hsplit] at hverdict
        intro needed available herror
        cases herror
        exact hverdict needed available rfl
      · intro more
        rw [readStages, readStages, splitLength_append hwhole, hsplit]
        rfl
  | ok cut =>
      rcases cut with ⟨length, rest⟩
      have hlength := length_of_splitLength hsplit
      have hwhole : lengthSize ≤ bytes.length := by
        rw [hlength]
        exact Nat.le_add_right _ _
      have hthere : length ≤ rest.length := by
        rw [demand, hsplit, hlength] at h
        exact Nat.le_of_add_le_add_left h
      have htake : takeAnnounced length rest = .ok (rest.take length) :=
        if_neg (Nat.not_lt_of_le hthere)
      constructor
      · rw [readStages, hsplit]
        simp only [Except.bind, htake]
        exact hunpack length _
      · intro more
        rw [readStages, readStages, splitLength_append hwhole, hsplit]
        simp only [Except.map, Except.bind, takeAnnounced_append hthere]

theorem incremental_readStages
    (hunpack : forall length announced, IsVerdict (unpack length announced)) :
    Incremental (readStages unpack) := by
  -- Without a verdict the bytes are fewer than their demand, and that is what is asked for.
  have hasks : forall {bytes : Bytes} {needed available : Nat},
      readStages unpack bytes = .error (.insufficientData needed available) ->
        bytes.length < demand bytes ∧ needed = demand bytes ∧ available = bytes.length := by
    intro bytes needed available h
    rcases Nat.lt_or_ge bytes.length (demand bytes) with hlt | hle
    · rw [readStages_of_lt hlt] at h
      cases h
      exact ⟨hlt, rfl, rfl⟩
    · exact absurd h ((readStages_of_le hunpack hle).1 needed available)
  constructor
  · intro bytes hverdict
    rcases Nat.lt_or_ge bytes.length (demand bytes) with hlt | hle
    · exact absurd (readStages_of_lt hlt) (hverdict _ _)
    · exact (readStages_of_le hunpack hle).2
  · intro bytes needed available h
    rcases hasks h with ⟨hlt, rfl, rfl⟩
    exact ⟨rfl, hlt⟩
  · intro bytes needed available h more hmore
    rcases hasks h with ⟨_, rfl, _⟩
    have hsame := demand_append_of_lt hmore
    rw [← hsame] at hmore ⊢
    exact readStages_of_lt hmore
  · intro bytes needed available h more hmore
    rcases hasks h with ⟨_, rfl, _⟩
    rcases Nat.lt_or_ge (bytes ++ more).length (demand (bytes ++ more)) with hlt | hle
    · exact Or.inr ⟨_, Nat.lt_of_le_of_lt hmore hlt, readStages_of_lt hlt⟩
    · exact Or.inl (readStages_of_le hunpack hle).1

end

theorem incremental_decodeFrame : Incremental decodeFrame := by
  rw [decodeFrame_eq_readStages]
  exact incremental_readStages unpackFrame_isVerdict

theorem incremental_decodeReply : Incremental decodeReply := by
  rw [decodeReply_eq_readStages]
  exact incremental_readStages fun _ _ => isVerdict_ok _

/-!
## Frames that are cut short

The message at the end arrives in pieces: two bytes of its length, the third, the fourth with the
kind, and two bytes that such a message cannot have.
-/

section

variable {encode : α -> Except FrameError Bytes}
variable {decode : Bytes -> Except FrameError (α × Nat)}

theorem Incremental.selfDelimiting (hincremental : Incremental decode)
    (hreads : ReadsFrames encode decode) : SelfDelimiting encode decode := by
  have hcut : forall a frame, encode a = .ok frame -> forall front, front <+: frame ->
      front ≠ frame ->
        exists needed, decode front = .error (.insufficientData needed front.length) := by
    intro a frame hframe front hfront hne
    rcases isVerdict_or_asks (decode front) with hverdict | ⟨needed, available, hasks⟩
    · -- The verdict would be that of the whole frame, which uses up more bytes than there are.
      rcases hfront with ⟨back, rfl⟩
      have hwhole := hreads.decode_append hframe []
      rw [List.append_nil, hincremental.stands front hverdict back] at hwhole
      have hle := (hreads.encode_eq_take hwhole).1
      have heq := (List.prefix_append front back).eq_of_length_le hle
      exact absurd heq hne
    · rw [(hincremental.asks front needed available hasks).1] at hasks
      exact ⟨needed, hasks⟩
  refine ⟨hcut, ?_⟩
  intro a b frame other hframe hother hfront
  rcases Classical.em (frame = other) with heq | hne
  · exact heq
  · rcases hcut b other hother frame hfront hne with ⟨needed, hasks⟩
    have hwhole := hreads.decode_append hframe []
    rw [List.append_nil, hasks] at hwhole
    cases hwhole

end

/--
Messages and replies can be read while they arrive.  A verdict stands, and where there is none the
number of bytes to wait for is known; every frame that is cut short is waited for, so that no frame
is the front of a longer one.
-/
theorem frames_and_replies_in_pieces :
    (Incremental decodeFrame ∧ SelfDelimiting encodeFrame decodeFrame) ∧
      (Incremental decodeReply ∧ SelfDelimiting encodeReply decodeReply) :=
  ⟨⟨incremental_decodeFrame, incremental_decodeFrame.selfDelimiting readsFrames_messages⟩,
    ⟨incremental_decodeReply, incremental_decodeReply.selfDelimiting readsFrames_replies⟩⟩

theorem refused_message_in_pieces :
    decodeFrame [3, 0] = .error (.insufficientData 4 2) ∧
      decodeFrame [3, 0, 0] = .error (.insufficientData 4 3) ∧
      (exists further, 4 < further ∧
        decodeFrame [3, 0, 0, 0, 1] = .error (.insufficientData further 5)) ∧
      (forall more, decodeFrame ([3, 0, 0, 0, 1, 7, 7] ++ more) = .error (.unexpectedPayload 2)) ∧
      (exists needed,
        decodeFrame [3, 0, 0, 0, 0] = .error (.insufficientData needed 5)) ∧
      forall m frame, encodeFrame m = .ok frame -> frame <+: [3, 0, 0, 0, 0, 7, 7] ->
        frame = [3, 0, 0, 0, 0, 7, 7] := by
  rcases frames_and_replies_in_pieces.1 with ⟨hincremental, hdelimiting⟩
  have hstart : decodeFrame [3, 0] = .error (.insufficientData 4 2) := rfl
  have hrefused : decodeFrame [3, 0, 0, 0, 1, 7, 7] = .error (.unexpectedPayload 2) := rfl
  have hframe : encodeFrame (.script [7, 7]) = .ok [3, 0, 0, 0, 0, 7, 7] := rfl
  refine ⟨hstart, hincremental.asks_again _ _ _ hstart [0] (by decide), ?_, ?_, ?_, ?_⟩
  · rcases hincremental.moves_on _ _ _ hstart [0, 0, 1] (by decide) with hverdict | hfurther
    · exact absurd rfl (hverdict 7 5)
    · exact hfurther
  · intro more
    rw [hincremental.stands, hrefused]
    rw [hrefused]
    intro needed available h
    cases h
  · exact hdelimiting.cut _ _ hframe [3, 0, 0, 0, 0] ⟨[7, 7], rfl⟩ (by decide)
  · intro m frame hother hfront
    exact hdelimiting.whole _ _ _ _ hother hframe hfront

end Wire
end RaceTape
