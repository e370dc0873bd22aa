import RaceTape.Proofs.Payload.Truncation

/-!
# Payloads by position

Payloads are taken apart from the front.  They can also be read by position: lengths are checked,
and then bytes and slices are taken at computed positions.  Nothing keeps these positions inside
the bytes but the checks before them.  They are enough: such a reading never leaves the bytes, and
it comes to the same as taking them apart.  The numbers in the flaws are true of the bytes.
-/

namespace RaceTape

open Header Text Timeline

namespace Positions

/-- A reading by position.  It comes to none if it takes a byte or a slice from outside. -/
abbrev Reading (ε α : Type) := ExceptT ε Option α

def settled (outcome : Except ε α) : Reading ε α :=
  ExceptT.mk (some outcome)

/-!
## Bytes and slices
-/

def byte (bytes : Bytes) (position : Nat) : Reading ε UInt8 :=
  ExceptT.lift bytes[position]?

/-- The bytes from `start` on up to `stop`. -/
def slice (bytes : Bytes) (start stop : Nat) : Reading ε Bytes :=
  ExceptT.lift
    (if start ≤ stop ∧ stop ≤ bytes.length then some ((bytes.take stop).drop start) else none)

/-- Goes on if there are as many bytes as needed. -/
def require (short : Nat -> Nat -> ε) (bytes : Bytes) (needed : Nat) : Reading ε Unit :=
  if bytes.length < needed then throw (short needed bytes.length) else pure ()

def int32 (bytes : Bytes) (position : Nat) : Reading ε Int32 := do
  let b0 ← byte bytes position
  let b1 ← byte bytes (position + 1)
  let b2 ← byte bytes (position + 2)
  let b3 ← byte bytes (position + 3)
  return Bytes.toInt32 b0 b1 b2 b3

theorem settled_ok_bind (a : α) (next : α -> Reading ε β) :
    settled (.ok a) >>= next = next a := rfl

theorem require_of_le {short : Nat -> Nat -> ε} {bytes : Bytes} {needed : Nat}
    (h : needed ≤ bytes.length) : require short bytes needed = settled (.ok ()) := by
  rw [require, if_neg (Nat.not_lt_of_le h)]
  rfl

theorem require_of_lt {short : Nat -> Nat -> ε} {bytes : Bytes} {needed : Nat}
    (h : bytes.length < needed) :
    require short bytes needed = settled (.error (short needed bytes.length)) := by
  rw [require, if_pos h]
  rfl

theorem slice_of_le {bytes : Bytes} {start stop : Nat} (hstart : start ≤ stop)
    (hstop : stop ≤ bytes.length) :
    (slice bytes start stop : Reading ε Bytes) = settled (.ok ((bytes.take stop).drop start)) := by
  rw [slice, if_pos ⟨hstart, hstop⟩]
  rfl

theorem byte_add (bytes : Bytes) (offset position : Nat) :
    (byte bytes (offset + position) : Reading ε UInt8) = byte (bytes.drop offset) position := by
  rw [byte, byte, List.getElem?_drop]

theorem int32_add (bytes : Bytes) (offset position : Nat) :
    (int32 bytes (offset + position) : Reading ε Int32) = int32 (bytes.drop offset) position := by
  simp only [int32, Nat.add_assoc, byte_add]

/-!
## Payloads

Names, setups and records are read at offsets into all of the bytes.  Each reading is shown to stay
inside, and to come to what taking the bytes apart gives.
-/

open Payload

def name (field : NameField) (bytes : Bytes) (offset : Nat) : Reading Flaw (String × Nat) := do
  let rest := bytes.drop offset
  match rest.idxOf? 0 with
  | none => throw (.unterminatedName field offset)
  | some size =>
      let front ← slice rest 0 size
      match Utf8.decode front with
      | .ok cs => return (String.ofList cs, offset + size + 1)
      | .error defect => throw (.malformed (.name field defect))

def tail (track kart : String) (bytes : Bytes) (offset : Nat) : Reading Flaw Setup := do
  require .insufficientData bytes (offset + tailSize)
  let opponents ← int32 bytes offset
  let laps ← int32 bytes (offset + 4)
  let difficulty ← int32 bytes (offset + 8)
  let found ← byte bytes (offset + 12)
  let setup (quickReset : Bool) : Setup :=
    { track, kart, laps, difficulty, opponents, quickReset }
  if found = 0 then return setup false
  else if found = 1 then return setup true
  else throw (.malformed (.quickReset found))

def setup (bytes : Bytes) : Reading Flaw (Setup × Nat) := do
  let (track, afterTrack) ← name .track bytes 0
  let (kart, afterKart) ← name .kart bytes afterTrack
  let setup ← tail track kart bytes afterKart
  return (setup, afterKart + tailSize)

def framebulk (bytes : Bytes) : Reading Flaw Framebulk := do
  require .insufficientData bytes recordSize
  let c0 ← byte bytes 0
  let c1 ← byte bytes 1
  match controlsOfWord? (Bytes.toInt16 c0 c1) with
  | none => throw (.malformed (.controls (Bytes.toInt16 c0 c1)))
  | some controls =>
      let t0 ← byte bytes 2
      let t1 ← byte bytes 3
      let a0 ← byte bytes 4
      let a1 ← byte bytes 5
      let a2 ← byte bytes 6
      let a3 ← byte bytes 7
      return { ticks := Bytes.toInt16 t0 t1, angle := ⟨Bytes.toWord32 a0 a1 a2 a3⟩, controls }

/-- The framebulks of a number of records, of which the first begins at `start`. -/
def framebulks (bytes : Bytes) (start : Nat) : Nat -> Reading Flaw (List Framebulk)
  | 0 => return []
  | count + 1 => do
      let record ← slice bytes start (start + recordSize)
      let first ← framebulk record
      let rest ← framebulks bytes (start + recordSize) count
      return first :: rest

def payload (bytes : Bytes) : Reading Flaw (Setup × List Framebulk) := do
  let (setup, used) ← setup bytes
  let body ← slice bytes used bytes.length
  if body.length % recordSize ≠ 0 then throw (.trailingBytes (body.length % recordSize))
  else
    let framebulks ← framebulks body 0 (body.length / recordSize)
    return (setup, framebulks)

theorem splitAtZero_eq (bytes : Bytes) :
    splitAtZero bytes =
      (bytes.idxOf? 0).map fun size => (bytes.take size, bytes.drop (size + 1)) := by
  induction bytes with
  | nil => rfl
  | cons b rest ih =>
      rw [splitAtZero, List.idxOf?_cons]
      by_cases hb : b = 0
      · simp [hb]
      · rw [if_neg hb, if_neg (by simpa using hb), ih, Option.map_map, Option.map_map]
        rfl

theorem lt_of_idxOf? {bytes : Bytes} {size : Nat} (h : bytes.idxOf? 0 = some size) :
    size < bytes.length := by
  rw [List.idxOf?, List.findIdx?_eq_some_iff_getElem] at h
  exact h.1

theorem name_eq (field : NameField) (bytes : Bytes) (offset : Nat) :
    name field bytes offset =
      settled ((decodeName field offset (bytes.drop offset)).map fun read =>
        (read.1, read.2.1)) := by
  rw [name, decodeName, splitAtZero_eq]
  cases hzero : (bytes.drop offset).idxOf? 0 with
  | none => rfl
  | some size =>
      have hsize := Nat.le_of_lt (lt_of_idxOf? hzero)
      have hlength : ((bytes.drop offset).take size).length = size :=
        List.length_take_of_le hsize
      simp only [slice_of_le (Nat.zero_le size) hsize, settled_ok_bind, List.drop_zero,
        Option.map_some, hlength]
      cases Utf8.decode ((bytes.drop offset).take size) with
      | error defect => rfl
      | ok cs => rfl

theorem rest_of_decodeName {field : NameField} {bytes rest : Bytes} {offset next : Nat}
    {text : String} (h : decodeName field offset (bytes.drop offset) = .ok (text, next, rest)) :
    rest = bytes.drop next ∧ next ≤ bytes.length := by
  rcases (decodeName_eq_ok_iff _ _ _ _ _ _).mp h with ⟨_, hbytes, rfl⟩
  constructor
  · rw [← List.drop_drop, hbytes, List.drop_left]
  · have hlength := congrArg List.length hbytes
    rw [List.length_drop, List.length_append, length_encodeName] at hlength
    rw [length_encodeName]
    omega

theorem tail_eq (track kart : String) {bytes : Bytes} {offset : Nat}
    (h : offset ≤ bytes.length) :
    tail track kart bytes offset =
      settled ((decodeTail track kart offset (bytes.drop offset)).map Prod.fst) := by
  have hlength : offset + (bytes.drop offset).length = bytes.length := by
    rw [List.length_drop, Nat.add_sub_cancel' h]
  rcases Nat.lt_or_ge (bytes.drop offset).length tailSize with hshort | hwhole
  · have hmissing : bytes.length < offset + tailSize := by
      rw [← hlength]
      exact Nat.add_lt_add_left hshort offset
    rw [tail, require_of_lt hmissing, decodeTail_of_short track kart offset hshort, hlength]
    rfl
  · have hthere : offset + tailSize ≤ bytes.length := by
      rw [← hlength]
      exact Nat.add_le_add_left hwhole offset
    have hfirst : (int32 bytes offset : Reading Flaw Int32) = int32 (bytes.drop offset) 0 :=
      int32_add bytes offset 0
    rw [tail, require_of_le hthere, settled_ok_bind, hfirst, int32_add, int32_add, byte_add]
    match bytes.drop offset, hwhole with
    | a0 :: a1 :: a2 :: a3 :: l0 :: l1 :: l2 :: l3 :: d0 :: d1 :: d2 :: d3 :: q :: rest, _ =>
        rw [decodeTail]
        show (if q = 0 then _ else if q = 1 then _ else _) = _
        by_cases hoff : q = 0
        · rw [if_pos hoff, if_pos hoff]
          rfl
        · by_cases hon : q = 1
          · rw [if_neg hoff, if_neg hoff, if_pos hon, if_pos hon]
            rfl
          · rw [if_neg hoff, if_neg hoff, if_neg hon, if_neg hon]
            rfl

theorem setup_eq (bytes : Bytes) : setup bytes = settled (decodeSetup bytes) := by
  rw [setup, decodeSetup, decodeFront, name_eq, List.drop_zero]
  cases htrack : decodeName .track 0 bytes with
  | error flaw => rfl
  | ok read =>
      rcases read with ⟨track, afterTrack, rest⟩
      have hfront : decodeName .track 0 (bytes.drop 0) = .ok (track, afterTrack, rest) := htrack
      rcases rest_of_decodeName hfront with ⟨rfl, _⟩
      simp only [Except.map, settled_ok_bind, name_eq]
      cases hkart : decodeName .kart afterTrack (bytes.drop afterTrack) with
      | error flaw => rfl
      | ok read =>
          rcases read with ⟨kart, afterKart, rest⟩
          rcases rest_of_decodeName hkart with ⟨rfl, hafter⟩
          simp only [Except.map, settled_ok_bind, tail_eq track kart hafter]
          cases decodeTail track kart afterKart (bytes.drop afterKart) with
          | error flaw => rfl
          | ok read => rfl

theorem decodeFramebulk_of_short {bytes : Bytes} (h : bytes.length < recordSize) :
    decodeFramebulk bytes = .error (.insufficientData recordSize bytes.length) := by
  unfold decodeFramebulk
  split
  · next =>
      simp only [List.length_cons, recordSize] at h
      omega
  · rfl

theorem framebulk_eq (bytes : Bytes) : framebulk bytes = settled (decodeFramebulk bytes) := by
  rcases Nat.lt_or_ge bytes.length recordSize with hshort | hwhole
  · rw [framebulk, require_of_lt hshort, decodeFramebulk_of_short hshort]
    rfl
  · rw [framebulk, require_of_le hwhole, settled_ok_bind]
    match bytes, hwhole with
    | c0 :: c1 :: t0 :: t1 :: a0 :: a1 :: a2 :: a3 :: rest, _ =>
        have hc0 : (byte (c0 :: c1 :: t0 :: t1 :: a0 :: a1 :: a2 :: a3 :: rest) 0 :
            Reading Flaw UInt8) = settled (.ok c0) := rfl
        have hc1 : (byte (c0 :: c1 :: t0 :: t1 :: a0 :: a1 :: a2 :: a3 :: rest) 1 :
            Reading Flaw UInt8) = settled (.ok c1) := rfl
        simp only [decodeFramebulk, hc0, hc1, settled_ok_bind]
        cases controlsOfWord? (Bytes.toInt16 c0 c1) with
        | none => rfl
        | some controls => rfl

theorem decodeFramebulks_record {record : Bytes} (h : record.length = recordSize) (rest : Bytes) :
    decodeFramebulks (record ++ rest) =
      (decodeFramebulk record).bind fun f => (decodeFramebulks rest).map (f :: ·) := by
  match record, h with
  | [c0, c1, t0, t1, a0, a1, a2, a3], _ =>
      simp only [List.cons_append, List.nil_append, decodeFramebulks]
      cases decodeFramebulk [c0, c1, t0, t1, a0, a1, a2, a3] with
      | error flaw => rfl
      | ok f =>
          simp only [Except.bind]
          cases decodeFramebulks rest with
          | error flaw => rfl
          | ok framebulks => rfl

theorem framebulks_eq (bytes : Bytes) (start count : Nat)
    (h : start + recordSize * count ≤ bytes.length) :
    framebulks bytes start count =
      settled (decodeFramebulks ((bytes.drop start).take (recordSize * count))) := by
  induction count generalizing start with
  | zero => rfl
  | succ count ih =>
      have hrecord : start + recordSize ≤ bytes.length := by
        rw [Nat.mul_succ] at h
        omega
      have hrest : start + recordSize + recordSize * count ≤ bytes.length := by
        rw [Nat.mul_succ] at h
        omega
      have hslice : (bytes.take (start + recordSize)).drop start =
          (bytes.drop start).take recordSize := by
        rw [List.drop_take, Nat.add_sub_cancel_left]
      have hlength : ((bytes.drop start).take recordSize).length = recordSize := by
        apply List.length_take_of_le
        rw [List.length_drop]
        exact Nat.le_sub_of_add_le' hrecord
      rw [framebulks, slice_of_le (Nat.le_add_right _ _) hrecord, settled_ok_bind, hslice,
        framebulk_eq, Nat.mul_succ, Nat.add_comm (recordSize * count), List.take_add,
        decodeFramebulks_record hlength, List.drop_drop, ih _ hrest]
      cases decodeFramebulk ((bytes.drop start).take recordSize) with
      | error flaw => rfl
      | ok first =>
          simp only [settled_ok_bind, Except.bind]
          cases decodeFramebulks ((bytes.drop (start + recordSize)).take (recordSize * count)) with
          | error flaw => rfl
          | ok others => rfl

theorem used_le_of_decodeSetup {bytes : Bytes} {setup : Setup} {used : Nat}
    (h : decodeSetup bytes = .ok (setup, used)) : used ≤ bytes.length := by
  rcases (decodeSetup_eq_ok_iff _ _ _).mp h with ⟨rest, hfront⟩
  rcases (decodeFront_eq_ok_iff _ _ _ _).mp hfront with ⟨_, rfl, rfl⟩
  rw [List.length_append]
  exact Nat.le_add_right _ _

theorem decode_of_decodeSetup {bytes : Bytes} {setup : Setup} {used : Nat}
    (h : decodeSetup bytes = .ok (setup, used)) :
    decode bytes =
      if (bytes.drop used).length % recordSize ≠ 0 then
        .error (.trailingBytes ((bytes.drop used).length % recordSize))
      else (decodeFramebulks (bytes.drop used)).map fun framebulks => (setup, framebulks) := by
  rcases (decodeSetup_eq_ok_iff _ _ _).mp h with ⟨rest, hfront⟩
  rcases (decodeFront_eq_ok_iff _ _ _ _).mp hfront with ⟨_, hbytes, hused⟩
  have hrest : bytes.drop used = rest := by
    rw [hbytes, hused, List.drop_left]
  simp only [decode, hfront, hrest]
  cases decodeFramebulks rest with
  | error flaw => rfl
  | ok framebulks => rfl

theorem decodeFront_of_decodeSetup_error {bytes : Bytes} {flaw : Flaw}
    (h : decodeSetup bytes = .error flaw) : decodeFront bytes = .error flaw := by
  rw [decodeSetup] at h
  cases hfront : decodeFront bytes with
  | error found =>
      rw [hfront] at h
      cases h
      rfl
  | ok read =>
      rw [hfront] at h
      cases h

theorem payload_eq (bytes : Bytes) : payload bytes = settled (decode bytes) := by
  rw [payload, setup_eq]
  cases hsetup : decodeSetup bytes with
  | error flaw =>
      rw [decode_of_front_error (decodeFront_of_decodeSetup_error hsetup)]
      rfl
  | ok read =>
      rcases read with ⟨setup, used⟩
      have hinside := used_le_of_decodeSetup hsetup
      rw [decode_of_decodeSetup hsetup]
      simp only [settled_ok_bind, slice_of_le hinside (Nat.le_refl _), List.take_length]
      by_cases hlength : (bytes.drop used).length % recordSize = 0
      · have hall : recordSize * ((bytes.drop used).length / recordSize) =
            (bytes.drop used).length :=
          Nat.mul_div_cancel' (Nat.dvd_of_mod_eq_zero hlength)
        have hrecords : 0 + recordSize * ((bytes.drop used).length / recordSize) ≤
            (bytes.drop used).length :=
          Nat.le_of_eq ((Nat.zero_add _).trans hall)
        rw [if_neg (not_not_intro hlength), if_neg (not_not_intro hlength),
          framebulks_eq _ 0 _ hrecords, hall, List.drop_zero, List.take_length]
        cases decodeFramebulks (bytes.drop used) with
        | error flaw => rfl
        | ok others => rfl
      · rw [if_pos hlength, if_pos hlength]
        rfl

end Positions

/-!
## What flaws tell

The numbers of a flaw are true of the bytes in which it was found.  Behind a setup only a part of a
record at the end, or else a record, can have a flaw.
-/

namespace Payload

open Positions

/-- The numbers of a flaw are true of the bytes in which it was found. -/
def Flaw.TrueOf (bytes : Bytes) : Flaw -> Prop
  | .insufficientData needed available => available = bytes.length ∧ available < needed
  | .unterminatedName _ offset => offset ≤ bytes.length ∧ 0 ∉ bytes.drop offset
  | .malformed _ => True
  | .trailingBytes count =>
      1 ≤ count ∧ count ≤ 7 ∧
        exists setup used,
          decodeSetup bytes = .ok (setup, used) ∧ count = (bytes.length - used) % recordSize

theorem flaw_of_decodeName {field : NameField} {offset : Nat} {bytes : Bytes} {flaw : Flaw}
    (h : decodeName field offset bytes = .error flaw) :
    (flaw = .unterminatedName field offset ∧ 0 ∉ bytes) ∨ exists what, flaw = .malformed what := by
  rw [decodeName, splitAtZero_eq] at h
  cases hzero : bytes.idxOf? 0 with
  | none =>
      rw [hzero] at h
      cases h
      exact Or.inl ⟨rfl, List.idxOf?_eq_none_iff.mp hzero⟩
  | some size =>
      rw [hzero] at h
      simp only [Option.map_some] at h
      cases hdecode : Utf8.decode (bytes.take size) with
      | error defect =>
          rw [hdecode] at h
          cases h
          exact Or.inr ⟨_, rfl⟩
      | ok cs =>
          rw [hdecode] at h
          cases h

theorem flaw_of_decodeTail {track kart : String} {offset : Nat} {bytes : Bytes} {flaw : Flaw}
    (h : decodeTail track kart offset bytes = .error flaw) :
    (flaw = .insufficientData (offset + tailSize) (offset + bytes.length) ∧
        bytes.length < tailSize) ∨
      exists what, flaw = .malformed what := by
  rcases Nat.lt_or_ge bytes.length tailSize with hshort | hwhole
  · rw [decodeTail_of_short track kart offset hshort] at h
    cases h
    exact Or.inl ⟨rfl, hshort⟩
  · match bytes, hwhole with
    | a0 :: a1 :: a2 :: a3 :: l0 :: l1 :: l2 :: l3 :: d0 :: d1 :: d2 :: d3 :: q :: rest, _ =>
        rw [decodeTail] at h
        by_cases hoff : q = 0
        · rw [if_pos hoff] at h
          cases h
        · by_cases hon : q = 1
          · rw [if_neg hoff, if_pos hon] at h
            cases h
          · rw [if_neg hoff, if_neg hon] at h
            cases h
            exact Or.inr ⟨_, rfl⟩

theorem flaw_of_decodeFront {bytes : Bytes} {flaw : Flaw}
    (h : decodeFront bytes = .error flaw) : flaw.TrueOf bytes := by
  rw [decodeFront] at h
  cases htrack : decodeName .track 0 bytes with
  | error found =>
      rw [htrack] at h
      cases h
      rcases flaw_of_decodeName htrack with ⟨rfl, hzero⟩ | ⟨what, rfl⟩
      · exact ⟨Nat.zero_le _, hzero⟩
      · trivial
  | ok read =>
      rcases read with ⟨track, afterTrack, rest⟩
      have hfront : decodeName .track 0 (bytes.drop 0) = .ok (track, afterTrack, rest) := htrack
      rcases rest_of_decodeName hfront with ⟨rfl, htrackInside⟩
      simp only [htrack] at h
      cases hkart : decodeName .kart afterTrack (bytes.drop afterTrack) with
      | error found =>
          rw [hkart] at h
          cases h
          rcases flaw_of_decodeName hkart with ⟨rfl, hzero⟩ | ⟨what, rfl⟩
          · exact ⟨htrackInside, hzero⟩
          · trivial
      | ok read =>
          rcases read with ⟨kart, afterKart, rest⟩
          rcases rest_of_decodeName hkart with ⟨rfl, hkartInside⟩
          simp only [hkart] at h
          cases htail : decodeTail track kart afterKart (bytes.drop afterKart) with
          | error found =>
              rw [htail] at h
              cases h
              rcases flaw_of_decodeTail htail with ⟨rfl, hshort⟩ | ⟨what, rfl⟩
              · rw [List.length_drop] at hshort ⊢
                rw [Nat.add_sub_cancel' hkartInside]
                exact ⟨rfl, (Nat.sub_lt_iff_lt_add' hkartInside).mp hshort⟩
              · trivial
          | ok read =>
              rw [htail] at h
              cases h

theorem flaw_of_decodeFramebulk {bytes : Bytes} {flaw : Flaw}
    (h : decodeFramebulk bytes = .error flaw) :
    (flaw = .insufficientData recordSize bytes.length ∧ bytes.length < recordSize) ∨
      exists what, flaw = .malformed what := by
  rcases Nat.lt_or_ge bytes.length recordSize with hshort | hwhole
  · rw [decodeFramebulk_of_short hshort] at h
    cases h
    exact Or.inl ⟨rfl, hshort⟩
  · match bytes, hwhole with
    | c0 :: c1 :: t0 :: t1 :: a0 :: a1 :: a2 :: a3 :: rest, _ =>
        rw [decodeFramebulk] at h
        cases hcontrols : controlsOfWord? (Bytes.toInt16 c0 c1) with
        | none =>
            rw [hcontrols] at h
            cases h
            exact Or.inr ⟨_, rfl⟩
        | some controls =>
            rw [hcontrols] at h
            cases h

/-- Records that are read one after the other are never too short. -/
theorem flaw_of_decodeFramebulks {bytes : Bytes} {flaw : Flaw}
    (h : decodeFramebulks bytes = .error flaw) : exists what, flaw = .malformed what := by
  fun_induction decodeFramebulks bytes with
  | case1 c0 c1 t0 t1 a0 a1 a2 a3 rest found hrecord =>
      cases h
      rcases flaw_of_decodeFramebulk hrecord with ⟨_, hshort⟩ | hmalformed
      · exact absurd hshort (Nat.lt_irrefl recordSize)
      · exact hmalformed
  | case2 c0 c1 t0 t1 a0 a1 a2 a3 rest f hrecord found hrest ih =>
      cases h
      exact ih hrest
  | case3 => cases h
  | case4 => cases h

theorem flaw_of_decodeSetup {bytes : Bytes} {flaw : Flaw}
    (h : decodeSetup bytes = .error flaw) : flaw.TrueOf bytes :=
  flaw_of_decodeFront (decodeFront_of_decodeSetup_error h)

theorem flaw_behind_setup {bytes : Bytes} {setup : Setup} {used : Nat} {flaw : Flaw}
    (hsetup : decodeSetup bytes = .ok (setup, used)) (h : decode bytes = .error flaw) :
    ((bytes.length - used) % recordSize ≠ 0 ∧
        flaw = .trailingBytes ((bytes.length - used) % recordSize)) ∨
      exists what, flaw = .malformed what := by
  rw [decode_of_decodeSetup hsetup, List.length_drop] at h
  split at h
  · next hpart =>
      cases h
      exact Or.inl ⟨hpart, rfl⟩
  · cases hrecords : decodeFramebulks (bytes.drop used) with
    | error found =>
        rw [hrecords] at h
        cases h
        exact Or.inr (flaw_of_decodeFramebulks hrecords)
    | ok framebulks =>
        rw [hrecords] at h
        cases h

theorem flaw_of_decode {bytes : Bytes} {flaw : Flaw} (h : decode bytes = .error flaw) :
    flaw.TrueOf bytes := by
  cases hsetup : decodeSetup bytes with
  | error found =>
      rw [decode_of_front_error (decodeFront_of_decodeSetup_error hsetup)] at h
      cases h
      exact flaw_of_decodeSetup hsetup
  | ok read =>
      rcases read with ⟨setup, used⟩
      rcases flaw_behind_setup hsetup h with ⟨hpart, rfl⟩ | ⟨what, rfl⟩
      · have hlt : (bytes.length - used) % recordSize < recordSize :=
          Nat.mod_lt _ (Nat.zero_lt_succ 7)
        exact ⟨Nat.one_le_iff_ne_zero.mpr hpart, Nat.le_of_lt_succ hlt, setup, used, hsetup, rfl⟩
      · trivial

structure TellsTruth (bytes : Bytes) : Prop where
  setup_used_le : forall setup used, decodeSetup bytes = .ok (setup, used) -> used ≤ bytes.length
  setup_flaw : forall flaw, decodeSetup bytes = .error flaw -> flaw.TrueOf bytes
  framebulk_flaw : forall flaw, decodeFramebulk bytes = .error flaw -> flaw.TrueOf bytes
  payload_flaw : forall flaw, decode bytes = .error flaw -> flaw.TrueOf bytes
  /-- A part of a record is reported whatever the records before it hold. -/
  part_first : forall setup used, decodeSetup bytes = .ok (setup, used) ->
    (bytes.length - used) % recordSize ≠ 0 ->
      decode bytes = .error (.trailingBytes ((bytes.length - used) % recordSize))
  /-- Behind a setup no bytes are missing. -/
  none_missing : forall setup used, decodeSetup bytes = .ok (setup, used) ->
    forall needed available, decode bytes ≠ .error (.insufficientData needed available)

theorem tellsTruth (bytes : Bytes) : TellsTruth bytes := by
  constructor
  · intro setup used h
    exact used_le_of_decodeSetup h
  · intro flaw h
    exact flaw_of_decodeSetup h
  · intro flaw h
    rcases flaw_of_decodeFramebulk h with ⟨rfl, hshort⟩ | ⟨what, rfl⟩
    · exact ⟨rfl, hshort⟩
    · trivial
  · intro flaw h
    exact flaw_of_decode h
  · intro setup used h hpart
    rw [decode_of_decodeSetup h, List.length_drop, if_pos hpart]
  · intro setup used hsetup needed available h
    rcases flaw_behind_setup hsetup h with ⟨_, hflaw⟩ | ⟨what, hflaw⟩
    · cases hflaw
    · cases hflaw

end Payload

end RaceTape
