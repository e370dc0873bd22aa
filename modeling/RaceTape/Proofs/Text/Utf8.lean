import RaceTape.Text.Utf8

/-!
# Reading and writing UTF-8

The well-formed rows of bytes are given once, as a relation between bytes and code points.
Writing a character gives such a row, and reading finds a character exactly where one
begins.  So reading undoes writing, and it accepts nothing but what writing gives.
-/

namespace RaceTape
namespace Text
namespace Utf8

/-!
## Classes of bytes
-/

theorem isContinuation_iff (b : UInt8) :
    isContinuation b = true ↔ 0x80 ≤ b.toNat ∧ b.toNat ≤ 0xBF := by
  simp [isContinuation, UInt8.le_iff_toNat_le]

theorem isSecond_iff (a b : UInt8) :
    isSecond a b = true ↔
      (0x80 ≤ b.toNat ∧ b.toNat ≤ 0xBF) ∧
        (a.toNat = 0xE0 -> 0xA0 ≤ b.toNat) ∧ (a.toNat = 0xED -> b.toNat ≤ 0x9F) ∧
        (a.toNat = 0xF0 -> 0x90 ≤ b.toNat) ∧ (a.toNat = 0xF4 -> b.toNat ≤ 0x8F) := by
  simp only [isSecond, Bool.and_eq_true, Bool.or_eq_true, bne_iff_ne, ne_eq,
    decide_eq_true_eq, isContinuation_iff, UInt8.le_iff_toNat_le, ← UInt8.toNat_inj,
    UInt8.reduceToNat]
  omega

theorem isContinuation_of_isSecond {a b : UInt8} (h : isSecond a b) : isContinuation b :=
  (isContinuation_iff b).mpr ((isSecond_iff a b).mp h).1

theorem toNat_eq_low6 {b : UInt8} (h : isContinuation b) :
    b.toNat = 0x80 + low6 b ∧ low6 b < 0x40 := by
  have hb := (isContinuation_iff b).mp h
  simp only [low6]
  omega

theorem announced_cases (a : UInt8) :
    (announced a = 1 ∧ a.toNat ≤ 0x7F) ∨
      (announced a = 2 ∧ 0xC2 ≤ a.toNat ∧ a.toNat ≤ 0xDF) ∨
      (announced a = 3 ∧ 0xE0 ≤ a.toNat ∧ a.toNat ≤ 0xEF) ∨
      (announced a = 4 ∧ 0xF0 ≤ a.toNat ∧ a.toNat ≤ 0xF4) ∨
      (announced a = 0 ∧
        (0x80 ≤ a.toNat ∧ a.toNat ≤ 0xC1 ∨ 0xF5 ≤ a.toNat)) := by
  simp only [announced, Bool.and_eq_true, decide_eq_true_eq, UInt8.le_iff_toNat_le,
    UInt8.reduceToNat]
  split
  · omega
  · split
    · omega
    · split
      · omega
      · split
        · omega
        · omega

theorem announced_eq_one (a : UInt8) : announced a = 1 ↔ a.toNat ≤ 0x7F := by
  have := announced_cases a
  omega

theorem announced_eq_two (a : UInt8) :
    announced a = 2 ↔ 0xC2 ≤ a.toNat ∧ a.toNat ≤ 0xDF := by
  have := announced_cases a
  omega

theorem announced_eq_three (a : UInt8) :
    announced a = 3 ↔ 0xE0 ≤ a.toNat ∧ a.toNat ≤ 0xEF := by
  have := announced_cases a
  omega

theorem announced_eq_four (a : UInt8) :
    announced a = 4 ↔ 0xF0 ≤ a.toNat ∧ a.toNat ≤ 0xF4 := by
  have := announced_cases a
  omega

/-!
## Well-formed rows of bytes

There is one constructor for each number of bytes, and the bytes have the bounds that leave one row
for each code point.
-/

inductive Spells : Bytes -> Nat -> Prop where
  | one {a : UInt8} (first : announced a = 1) : Spells [a] a.toNat
  | two {a b : UInt8} (first : announced a = 2) (second : isSecond a b) :
      Spells [a, b] (a.toNat % 0x20 * 0x40 + low6 b)
  | three {a b c : UInt8} (first : announced a = 3) (second : isSecond a b)
      (third : isContinuation c) :
      Spells [a, b, c] (a.toNat % 0x10 * 0x1000 + low6 b * 0x40 + low6 c)
  | four {a b c d : UInt8} (first : announced a = 4) (second : isSecond a b)
      (third : isContinuation c) (fourth : isContinuation d) :
      Spells [a, b, c, d]
        (a.toNat % 0x8 * 0x40000 + low6 b * 0x1000 + low6 c * 0x40 + low6 d)

theorem piece_of_spells {a : UInt8} {tail : Bytes} {n : Nat}
    (h : Spells (a :: tail) n) (back : Bytes) :
    piece a (tail ++ back) = .char (Char.ofNat n) := by
  unfold piece
  cases h with
  | one first =>
      rw [first]
      rfl
  | two first second =>
      rw [first, List.cons_append]
      exact if_pos second
  | three first second third =>
      rw [first]
      simp only [List.cons_append]
      rw [if_pos second, if_pos third]
  | four first second third fourth =>
      rw [first]
      simp only [List.cons_append]
      rw [if_pos second, if_pos third, if_pos fourth]

theorem spells_of_piece {a : UInt8} {rest : Bytes} {c : Char}
    (h : piece a rest = .char c) :
    exists tail back n,
      rest = tail ++ back ∧ Spells (a :: tail) n ∧ c = Char.ofNat n := by
  revert h
  -- Of the branches of `piece`, only four give a character, one for each length.
  fun_cases piece a rest with
  | case1 =>
      rename_i first
      intro h
      injection h with hc
      exact ⟨[], rest, _, rfl, .one first, hc.symm⟩
  | case3 b back first second =>
      intro h
      injection h with hc
      exact ⟨[b], back, _, rfl, .two first second, hc.symm⟩
  | case7 b first second d back third =>
      intro h
      injection h with hc
      exact ⟨[b, d], back, _, rfl, .three first second third, hc.symm⟩
  | case13 b first second d third e back fourth =>
      intro h
      injection h with hc
      exact ⟨[b, d, e], back, _, rfl, .four first second third fourth, hc.symm⟩
  | _ =>
      intro h
      cases h

/-!
## Code points
-/

theorem toNat_ofNat_of_valid {n : Nat} (h : n.isValidChar) : (Char.ofNat n).toNat = n := by
  rw [Char.ofNat, dif_pos h]
  rfl

theorem Spells.isValidChar {bytes : Bytes} {n : Nat} (h : Spells bytes n) :
    n.isValidChar := by
  cases h with
  | @one a first =>
      have ha := (announced_eq_one a).mp first
      simp only [Nat.isValidChar]
      omega
  | @two a b first second =>
      have ha := (announced_eq_two a).mp first
      simp only [Nat.isValidChar, low6]
      omega
  | @three a b c first second third =>
      have ha := (announced_eq_three a).mp first
      have hb := (isSecond_iff a b).mp second
      simp only [Nat.isValidChar, low6]
      omega
  | @four a b c d first second third fourth =>
      have ha := (announced_eq_four a).mp first
      have hb := (isSecond_iff a b).mp second
      simp only [Nat.isValidChar, low6]
      omega

/-!
## Writing a character
-/

theorem encodeChar_one {c : Char} (h : c.toNat < 0x80) :
    encodeChar c = [UInt8.ofNat c.toNat] := by
  rw [encodeChar, if_pos h]

theorem encodeChar_two {c : Char} (low : 0x80 ≤ c.toNat) (high : c.toNat < 0x800) :
    encodeChar c =
      [UInt8.ofNat (0xC0 + c.toNat / 0x40), UInt8.ofNat (0x80 + c.toNat % 0x40)] := by
  rw [encodeChar, if_neg (by omega), if_pos high]

theorem encodeChar_three {c : Char} (low : 0x800 ≤ c.toNat) (high : c.toNat < 0x10000) :
    encodeChar c =
      [UInt8.ofNat (0xE0 + c.toNat / 0x1000), UInt8.ofNat (0x80 + c.toNat / 0x40 % 0x40),
        UInt8.ofNat (0x80 + c.toNat % 0x40)] := by
  rw [encodeChar, if_neg (by omega), if_neg (by omega), if_pos high]

theorem encodeChar_four {c : Char} (low : 0x10000 ≤ c.toNat) :
    encodeChar c =
      [UInt8.ofNat (0xF0 + c.toNat / 0x40000),
        UInt8.ofNat (0x80 + c.toNat / 0x1000 % 0x40),
        UInt8.ofNat (0x80 + c.toNat / 0x40 % 0x40), UInt8.ofNat (0x80 + c.toNat % 0x40)] := by
  rw [encodeChar, if_neg (by omega), if_neg (by omega), if_neg (by omega)]

theorem Spells.encodeChar_eq {bytes : Bytes} {n : Nat} (h : Spells bytes n) :
    encodeChar (Char.ofNat n) = bytes := by
  have hn := toNat_ofNat_of_valid h.isValidChar
  cases h with
  | @one a first =>
      have ha := (announced_eq_one a).mp first
      rw [encodeChar_one (by omega), hn, UInt8.ofNat_toNat]
  | @two a b first second =>
      have ha := (announced_eq_two a).mp first
      have hb := toNat_eq_low6 (isContinuation_of_isSecond second)
      rw [encodeChar_two (by omega) (by omega), hn]
      simp only [List.cons.injEq, and_true, ← UInt8.toNat_inj, UInt8.toNat_ofNat']
      omega
  | @three a b c first second third =>
      have ha := (announced_eq_three a).mp first
      -- The range of the second byte keeps the code point from a shorter form.
      have hrange := (isSecond_iff a b).mp second
      have hb := toNat_eq_low6 (isContinuation_of_isSecond second)
      have hc := toNat_eq_low6 third
      rw [encodeChar_three (by omega) (by omega), hn]
      simp only [List.cons.injEq, and_true, ← UInt8.toNat_inj, UInt8.toNat_ofNat']
      omega
  | @four a b c d first second third fourth =>
      have ha := (announced_eq_four a).mp first
      have hrange := (isSecond_iff a b).mp second
      have hb := toNat_eq_low6 (isContinuation_of_isSecond second)
      have hc := toNat_eq_low6 third
      have hd := toNat_eq_low6 fourth
      rw [encodeChar_four (by omega), hn]
      simp only [List.cons.injEq, and_true, ← UInt8.toNat_inj, UInt8.toNat_ofNat']
      omega

/-!
The bytes of a code point are given by its groups of six bits.
-/

theorem spells_one {a : UInt8} {n : Nat} (ha : a.toNat = n) (high : n < 0x80) :
    Spells [a] n := by
  have form := Spells.one ((announced_eq_one a).mpr (by omega))
  rwa [ha] at form

theorem spells_two {a b : UInt8} {n : Nat}
    (ha : a.toNat = 0xC0 + n / 0x40) (hb : b.toNat = 0x80 + n % 0x40)
    (low : 0x80 ≤ n) (high : n < 0x800) :
    Spells [a, b] n := by
  have form :=
    Spells.two ((announced_eq_two a).mpr (by omega)) ((isSecond_iff a b).mpr (by omega))
  have code : a.toNat % 0x20 * 0x40 + low6 b = n := by
    simp only [low6]
    omega
  rwa [code] at form

theorem spells_three {a b c : UInt8} {n : Nat}
    (ha : a.toNat = 0xE0 + n / 0x1000) (hb : b.toNat = 0x80 + n / 0x40 % 0x40)
    (hc : c.toNat = 0x80 + n % 0x40)
    (low : 0x800 ≤ n) (high : n < 0x10000) (valid : n.isValidChar) :
    Spells [a, b, c] n := by
  have form :=
    Spells.three ((announced_eq_three a).mpr (by omega)) ((isSecond_iff a b).mpr (by omega))
      ((isContinuation_iff c).mpr (by omega))
  have code : a.toNat % 0x10 * 0x1000 + low6 b * 0x40 + low6 c = n := by
    simp only [low6]
    omega
  rwa [code] at form

theorem spells_four {a b c d : UInt8} {n : Nat}
    (ha : a.toNat = 0xF0 + n / 0x40000) (hb : b.toNat = 0x80 + n / 0x1000 % 0x40)
    (hc : c.toNat = 0x80 + n / 0x40 % 0x40) (hd : d.toNat = 0x80 + n % 0x40)
    (low : 0x10000 ≤ n) (high : n < 0x110000) :
    Spells [a, b, c, d] n := by
  have form :=
    Spells.four ((announced_eq_four a).mpr (by omega)) ((isSecond_iff a b).mpr (by omega))
      ((isContinuation_iff c).mpr (by omega)) ((isContinuation_iff d).mpr (by omega))
  have code :
      a.toNat % 0x8 * 0x40000 + low6 b * 0x1000 + low6 c * 0x40 + low6 d = n := by
    simp only [low6]
    omega
  rwa [code] at form

theorem toNat_byte {n : Nat} (h : n < 0x100) : (UInt8.ofNat n).toNat = n :=
  UInt8.toNat_ofNat_of_lt' h

theorem spells_encodeChar (c : Char) : Spells (encodeChar c) c.toNat := by
  have valid : c.toNat.isValidChar := c.valid
  have last : c.toNat < 0x110000 := by omega
  by_cases one : c.toNat < 0x80
  · rw [encodeChar_one one]
    exact spells_one (toNat_byte (by omega)) one
  · by_cases two : c.toNat < 0x800
    · rw [encodeChar_two (by omega) two]
      exact spells_two (toNat_byte (by omega)) (toNat_byte (by omega)) (by omega) two
    · by_cases three : c.toNat < 0x10000
      · rw [encodeChar_three (by omega) three]
        exact spells_three (toNat_byte (by omega)) (toNat_byte (by omega))
          (toNat_byte (by omega)) (by omega) three valid
      · rw [encodeChar_four (by omega)]
        exact spells_four (toNat_byte (by omega)) (toNat_byte (by omega))
          (toNat_byte (by omega)) (toNat_byte (by omega)) (by omega) last

/-!
## One character at the front

Reading finds a character exactly where the bytes of that character stand.
-/

theorem Spells.exists_cons {bytes : Bytes} {n : Nat} (h : Spells bytes n) :
    exists a tail, bytes = a :: tail := by
  cases h with
  | one => exact ⟨_, _, rfl⟩
  | two => exact ⟨_, _, rfl⟩
  | three => exact ⟨_, _, rfl⟩
  | four => exact ⟨_, _, rfl⟩

theorem piece_eq_char_iff (a : UInt8) (rest : Bytes) (c : Char) :
    piece a rest = .char c ↔
      exists tail back, rest = tail ++ back ∧ encodeChar c = a :: tail := by
  constructor
  · intro h
    rcases spells_of_piece h with ⟨tail, back, n, hrest, hspells, rfl⟩
    exact ⟨tail, back, hrest, hspells.encodeChar_eq⟩
  · intro h
    rcases h with ⟨tail, back, rfl, hc⟩
    have hspells := spells_encodeChar c
    rw [hc] at hspells
    rw [piece_of_spells hspells back, Char.ofNat_toNat]

/-!
## Texts
-/

theorem piecesAfter_eq_drop (skip : Nat) (bytes : Bytes) :
    piecesAfter skip bytes = pieces (bytes.drop skip) := by
  induction bytes generalizing skip with
  | nil => simp [pieces, piecesAfter]
  | cons b rest ih =>
      cases skip with
      | zero => rfl
      | succ n => rw [piecesAfter, ih, List.drop_succ_cons]

theorem pieces_cons (b : UInt8) (rest : Bytes) :
    pieces (b :: rest) =
      piece b rest :: pieces (rest.drop ((piece b rest).size - 1)) := by
  rw [pieces, piecesAfter, piecesAfter_eq_drop]

theorem pieces_encodeChar_append (c : Char) (back : Bytes) :
    pieces (encodeChar c ++ back) = .char c :: pieces back := by
  rcases (spells_encodeChar c).exists_cons with ⟨a, tail, hc⟩
  have hpiece : piece a (tail ++ back) = .char c :=
    (piece_eq_char_iff a _ c).mpr ⟨tail, back, rfl, hc⟩
  rw [hc, List.cons_append, pieces_cons, hpiece]
  simp [Piece.size, hc]

theorem pieces_encode (cs : List Char) : pieces (encode cs) = cs.map .char := by
  induction cs with
  | nil => rfl
  | cons c cs ih =>
      rw [encode, List.flatMap_cons, pieces_encodeChar_append, List.map_cons]
      exact congrArg _ ih

theorem eq_encode_of_pieces {bytes : Bytes} {cs : List Char}
    (h : pieces bytes = cs.map .char) : bytes = encode cs := by
  induction cs generalizing bytes with
  | nil =>
      cases bytes with
      | nil => rfl
      | cons b rest => simp [pieces_cons] at h
  | cons c cs ih =>
      cases bytes with
      | nil => simp [pieces, piecesAfter] at h
      | cons b rest =>
          rw [pieces_cons, List.map_cons] at h
          injection h with hpiece hpieces
          rcases (piece_eq_char_iff b rest c).mp hpiece with ⟨tail, back, rfl, hc⟩
          rw [hpiece] at hpieces
          have hback : back = encode cs := by
            apply ih
            simpa [Piece.size, hc] using hpieces
          rw [encode, List.flatMap_cons, hc, hback]
          rfl

theorem characters_eq_ok_iff (index : Nat) (ps : List Piece) (cs : List Char) :
    characters index ps = .ok cs ↔ ps = cs.map .char := by
  induction ps generalizing index cs with
  | nil => cases cs <;> simp [characters]
  | cons p ps ih =>
      cases p with
      | char c =>
          rw [characters]
          constructor
          · intro h
            split at h
            · next rest hrest =>
                cases h
                rw [(ih _ _).mp hrest, List.map_cons]
            · cases h
          · intro h
            cases cs with
            | nil => cases h
            | cons d cs =>
                injection h with hhead htail
                injection hhead with hcd
                rw [(ih _ cs).mpr htail, hcd]
      | invalid length => cases cs <;> simp [characters]
      | truncated length => cases cs <;> simp [characters]

/-- Bytes are read as a text exactly if that text is written so. -/
theorem decode_eq_ok_iff (bytes : Bytes) (cs : List Char) :
    decode bytes = .ok cs ↔ bytes = encode cs := by
  rw [decode, characters_eq_ok_iff]
  constructor
  · exact eq_encode_of_pieces
  · intro h
    subst h
    exact pieces_encode cs

/-!
## Zero bytes

Only the character zero has a zero byte in its form.
-/

theorem Spells.zero_mem_iff {bytes : Bytes} {n : Nat} (h : Spells bytes n) :
    0 ∈ bytes ↔ n = 0 := by
  cases h with
  | @one a first =>
      simp only [List.mem_singleton, ← UInt8.toNat_inj, UInt8.reduceToNat]
      omega
  | @two a b first second =>
      have ha := (announced_eq_two a).mp first
      have hb := toNat_eq_low6 (isContinuation_of_isSecond second)
      simp only [List.mem_cons, List.not_mem_nil, or_false, ← UInt8.toNat_inj,
        UInt8.reduceToNat]
      omega
  | @three a b c first second third =>
      have ha := (announced_eq_three a).mp first
      have hrange := (isSecond_iff a b).mp second
      have hb := toNat_eq_low6 (isContinuation_of_isSecond second)
      have hc := toNat_eq_low6 third
      simp only [List.mem_cons, List.not_mem_nil, or_false, ← UInt8.toNat_inj,
        UInt8.reduceToNat]
      omega
  | @four a b c d first second third fourth =>
      have ha := (announced_eq_four a).mp first
      have hrange := (isSecond_iff a b).mp second
      have hb := toNat_eq_low6 (isContinuation_of_isSecond second)
      have hc := toNat_eq_low6 third
      have hd := toNat_eq_low6 fourth
      simp only [List.mem_cons, List.not_mem_nil, or_false, ← UInt8.toNat_inj,
        UInt8.reduceToNat]
      omega

theorem zero_mem_encodeChar (c : Char) : 0 ∈ encodeChar c ↔ c = '\x00' := by
  rw [(spells_encodeChar c).zero_mem_iff]
  constructor
  · intro h
    rw [← Char.ofNat_toNat c, h]
  · intro h
    subst h
    rfl

theorem zero_mem_encode (cs : List Char) : 0 ∈ encode cs ↔ '\x00' ∈ cs := by
  simp only [encode, List.mem_flatMap, zero_mem_encodeChar]
  simp

/-!
## Characters of a single byte

A byte below 0x80 at the front of a character is the whole character.
-/

theorem Spells.eq_of_first_lt {a : UInt8} {tail : Bytes} {n : Nat} (h : Spells (a :: tail) n)
    (ha : a.toNat < 0x80) : n = a.toNat := by
  cases h with
  | one _ => rfl
  | two first _ =>
      have := (announced_eq_two a).mp first
      omega
  | three first _ _ =>
      have := (announced_eq_three a).mp first
      omega
  | four first _ _ _ =>
      have := (announced_eq_four a).mp first
      omega

/-!
## The number of bytes
-/

theorem length_encodeChar (c : Char) : (encodeChar c).length = c.utf8Size := by
  rcases Nat.lt_or_ge c.toNat 0x80 with hone | hone
  · rw [encodeChar_one hone]
    exact (Char.utf8Size_eq_one_iff.mpr (Nat.le_of_lt_succ hone)).symm
  rcases Nat.lt_or_ge c.toNat 0x800 with htwo | htwo
  · rw [encodeChar_two hone htwo]
    exact (Char.utf8Size_eq_two_iff.mpr ⟨hone, Nat.le_of_lt_succ htwo⟩).symm
  rcases Nat.lt_or_ge c.toNat 0x10000 with hthree | hthree
  · rw [encodeChar_three htwo hthree]
    exact (Char.utf8Size_eq_three_iff.mpr ⟨htwo, Nat.le_of_lt_succ hthree⟩).symm
  · rw [encodeChar_four hthree]
    exact (Char.utf8Size_eq_four_iff.mpr hthree).symm

theorem length_encode (cs : List Char) :
    (encode cs).length = (String.ofList cs).utf8ByteSize := by
  induction cs with
  | nil => rfl
  | cons c cs ih =>
      rw [encode] at ih
      rw [encode, List.flatMap_cons, List.length_append, length_encodeChar, ih, String.ofList_cons,
        String.utf8ByteSize_append, String.utf8ByteSize_singleton]

theorem length_ofString (s : String) : (ofString s).length = s.utf8ByteSize := by
  rw [ofString, length_encode, String.ofList_toList]

end Utf8
end Text
end RaceTape
