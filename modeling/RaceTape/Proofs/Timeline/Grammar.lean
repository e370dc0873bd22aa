import RaceTape.Proofs.Decimal.Literal
import RaceTape.Proofs.Timeline.Controls
import RaceTape.Timeline.Framebulk
import Mathlib.Data.Nat.Bitwise

/-!
# The grammar of timeline lines

A line sets the speed, or its segments with something in them are the four fields of a
framebulk, or it has a flaw.  Which of the three holds depends on the text alone, and the reader
gives exactly what the grammar says: the speed, the framebulk, or the first flaw in the order of
the checks.
-/

namespace RaceTape
namespace Timeline

open Decimal Text

/-!
## Lines that set the speed

The word for the speed is followed by blanks, a literal, and blanks that may be left out.
-/

inductive SetsSpeed : List Char -> Literal -> Prop where
  | mk {gap body tail : List Char} {literal : Literal} (gap_ne : gap ≠ [])
      (gap_blank : IsBlankText gap) (body_spells : Literal.Spells body literal)
      (tail_blank : IsBlankText tail) :
      SetsSpeed ("playspeed".toList ++ (gap ++ (body ++ tail))) literal

theorem exists_of_blankThenLiteral? {text : List Char} {literal : Literal}
    (h : blankThenLiteral? text = some literal) :
    exists gap body tail, gap ≠ [] ∧ IsBlankText gap ∧ Literal.Spells body literal ∧
      IsBlankText tail ∧ text = gap ++ (body ++ tail) := by
  cases text with
  | nil => cases h
  | cons c rest =>
      rw [blankThenLiteral?, Option.ite_none_right_eq_some] at h
      rcases h with ⟨hc, hparse⟩
      have hspells := Literal.parse?_eq_some_iff.mp hparse
      rcases exists_trim (c :: rest) with ⟨gap, tail, hgap, htail, htext⟩
      refine ⟨gap, _, tail, ?_, hgap, hspells, htail, htext⟩
      -- Without a gap the blank `c` would be the first character of the literal.
      rintro rfl
      cases hbody : trim (c :: rest) with
      | nil =>
          rw [hbody] at hparse
          cases hparse
      | cons d body =>
          rw [hbody] at htext hspells
          have hd := hspells.isUnbroken d List.mem_cons_self
          cases htext
          rw [hc] at hd
          cases hd

theorem blankThenLiteral?_of_spells {gap body tail : List Char} {literal : Literal}
    (hne : gap ≠ []) (hgap : IsBlankText gap) (hbody : Literal.Spells body literal)
    (htail : IsBlankText tail) : blankThenLiteral? (gap ++ (body ++ tail)) = some literal := by
  cases gap with
  | nil => exact absurd rfl hne
  | cons c gap =>
      have htrim := trim_of_isUnbroken hgap hbody.isUnbroken htail
      rw [List.cons_append] at htrim ⊢
      rw [blankThenLiteral?, if_pos (hgap c List.mem_cons_self), htrim]
      exact Literal.parse?_eq_some_iff.mpr hbody

theorem speed?_eq_some_iff {text : List Char} {value : Binary32} :
    speed? text = some value ↔
      exists literal, SetsSpeed text literal ∧ value = Binary32.ofLiteral literal := by
  rw [speed?, Option.bind_eq_some_iff]
  constructor
  · intro h
    rcases h with ⟨rest, hrest, h⟩
    rcases Option.map_eq_some_iff.mp h with ⟨literal, hliteral, rfl⟩
    rcases exists_of_blankThenLiteral? hliteral with ⟨gap, body, tail, hne, hgap, hbody, htail, rfl⟩
    rw [List.isPrefixOf?_eq_some_iff_append_eq] at hrest
    rw [← hrest]
    exact ⟨literal, .mk hne hgap hbody htail, rfl⟩
  · intro h
    rcases h with ⟨literal, hsets, rfl⟩
    cases hsets with
    | mk hne hgap hbody htail =>
        refine ⟨_, List.isPrefixOf?_eq_some_iff_append_eq.mpr rfl, ?_⟩
        rw [blankThenLiteral?_of_spells hne hgap hbody htail]
        rfl

/-!
## Controls that a line can hold

The bits that are set all belong to the five controls of a racer, and these tell such sets apart.
-/

namespace Controls

def IsHeld (c : Controls) : Prop :=
  c.bits &&& ~~~31 = 0

instance (c : Controls) : Decidable c.IsHeld :=
  inferInstanceAs (Decidable (c.bits &&& ~~~31 = 0))

theorem and_bit_cases {bit : UInt16} {i : Nat} (hbit : bit.toNat = 2 ^ i) (bits : UInt16) :
    bits &&& bit = 0 ∨ bits &&& bit = bit := by
  have htoNat : (bits &&& bit).toNat = (bits.toNat.testBit i).toNat * 2 ^ i := by
    rw [UInt16.toNat_and, hbit, Nat.and_two_pow]
  cases htest : bits.toNat.testBit i with
  | false =>
      rw [htest, Bool.toNat_false, Nat.zero_mul] at htoNat
      exact Or.inl (UInt16.toNat_inj.mp htoNat)
  | true =>
      rw [htest, Bool.toNat_true, Nat.one_mul, ← hbit] at htoNat
      exact Or.inr (UInt16.toNat_inj.mp htoNat)

theorem and_bit_congr {bit : UInt16} {i : Nat} (hbit : bit.toNat = 2 ^ i) {a b : UInt16}
    (h : a &&& bit = bit ↔ b &&& bit = bit) : a &&& bit = b &&& bit := by
  rcases and_bit_cases hbit a with hc | hc
  · rcases and_bit_cases hbit b with hd | hd
    · rw [hc, hd]
    · rw [h.mpr hd, hd]
  · rw [hc, h.mp hc]

theorem and_or_congr {a b first second : UInt16} (hfirst : a &&& first = b &&& first)
    (hsecond : a &&& second = b &&& second) :
    a &&& (first ||| second) = b &&& (first ||| second) := by
  rw [UInt16.and_comm a, UInt16.and_comm b, or_and_distrib, or_and_distrib, UInt16.and_comm first,
    UInt16.and_comm second, hfirst, hsecond, UInt16.and_comm first, UInt16.and_comm second]

theorem IsHeld.ext {c d : Controls} (hc : c.IsHeld) (hd : d.IsHeld)
    (haccelerate : c.bits &&& 1 = 1 ↔ d.bits &&& 1 = 1)
    (hbrake : c.bits &&& 2 = 2 ↔ d.bits &&& 2 = 2)
    (hability : c.bits &&& 4 = 4 ↔ d.bits &&& 4 = 4)
    (hnitro : c.bits &&& 8 = 8 ↔ d.bits &&& 8 = 8)
    (hskid : c.bits &&& 16 = 16 ↔ d.bits &&& 16 = 16) : c = d := by
  have hpedals := and_or_congr (and_bit_congr (i := 0) rfl haccelerate)
    (and_bit_congr (i := 1) rfl hbrake)
  have hwithAbility := and_or_congr hpedals (and_bit_congr (i := 2) rfl hability)
  have hwithNitro := and_or_congr hwithAbility (and_bit_congr (i := 3) rfl hnitro)
  have hbits : c.bits &&& 31 = d.bits &&& 31 :=
    and_or_congr hwithNitro (and_bit_congr (i := 4) rfl hskid)
  rw [and_eq_self_of_and_not hc, and_eq_self_of_and_not hd] at hbits
  cases c with
  | mk bits =>
      cases d with
      | mk others => exact congrArg mk hbits

theorem IsHeld.and_eq_zero {c : Controls} (h : c.IsHeld) {mask : UInt16}
    (hmask : 31 &&& mask = 0) :
    c.bits &&& mask = 0 := by
  rw [← and_eq_self_of_and_not h, UInt16.and_assoc, hmask, UInt16.and_zero]

theorem IsHeld.isDefined {c : Controls} (h : c.IsHeld) : c.IsDefined :=
  h.and_eq_zero rfl

theorem IsHeld.not_setSpeed {c : Controls} (h : c.IsHeld) : c.contains setSpeed = false := by
  rw [contains, h.and_eq_zero rfl]
  rfl

end Controls

/-!
## Fields

Four fields pass every check, or there is a first check that they do not pass.  The framebulk that
they describe has a bit exactly if its letter stands in its place.
-/

/-- The segments between bars that hold a character other than a blank. -/
def filled (text : List Char) : List (List Char) :=
  (text.splitOn '|').filter fun segment => segment.any fun c => !isBlank c

theorem fields_eq_filled (text : List Char) : fields text = filled text := by
  apply List.filter_congr
  intro segment _
  rw [Bool.eq_iff_iff, Bool.not_eq_true', List.isEmpty_eq_false_iff, Ne, trim_eq_nil_iff,
    List.any_eq_true]
  simp [IsBlankText]

/-- The text is a whole number that fits sixteen bits. -/
def IsTickCount (text : List Char) : Prop :=
  exists n, SpellsInteger text n ∧ -32768 ≤ n ∧ n ≤ 32767

structure Fit (acceleration misc angle ticks : List Char) : Prop where
  two_le : 2 ≤ acceleration.length
  three_le : 3 ≤ misc.length
  angle : exists value, Binary32.parse? (trim angle) = some value
  ticks : IsTickCount (trim ticks)

structure Describes (acceleration misc angle ticks : List Char) (f : Framebulk) : Prop where
  angle : Binary32.parse? (trim angle) = some f.angle
  ticks : SpellsInteger (trim ticks) f.ticks.toInt
  accelerate : f.controls.bits &&& 1 = 1 ↔ acceleration[0]? = some 'a'
  brake : f.controls.bits &&& 2 = 2 ↔ acceleration[1]? = some 'b'
  ability : f.controls.bits &&& 4 = 4 ↔ misc[0]? = some 'f'
  nitro : f.controls.bits &&& 8 = 8 ↔ misc[1]? = some 'n'
  skid : f.controls.bits &&& 16 = 16 ↔ misc[2]? = some 's'
  no_other : f.controls.IsHeld

inductive FirstFlaw : List (List Char) -> LineFlaw -> Prop where
  | fieldCount {fields : List (List Char)} (ne_four : fields.length ≠ 4) :
      FirstFlaw fields (.fieldCount fields.length)
  | shortAcceleration {acceleration misc angle ticks : List Char}
      (lt_two : acceleration.length < 2) :
      FirstFlaw [acceleration, misc, angle, ticks] .shortAcceleration
  | shortMisc {acceleration misc angle ticks : List Char} (two_le : 2 ≤ acceleration.length)
      (lt_three : misc.length < 3) :
      FirstFlaw [acceleration, misc, angle, ticks] .shortMisc
  | angle {acceleration misc angle ticks : List Char} (two_le : 2 ≤ acceleration.length)
      (three_le : 3 ≤ misc.length) (no_angle : Binary32.parse? (trim angle) = none) :
      FirstFlaw [acceleration, misc, angle, ticks] (.angle (String.ofList (trim angle)))
  | ticks {acceleration misc angle ticks : List Char} {value : Binary32}
      (two_le : 2 ≤ acceleration.length) (three_le : 3 ≤ misc.length)
      (angle_read : Binary32.parse? (trim angle) = some value)
      (no_ticks : ¬IsTickCount (trim ticks)) :
      FirstFlaw [acceleration, misc, angle, ticks] (.ticks (String.ofList (trim ticks)))

/-!
## Reading four fields
-/

theorem exists_int16?_iff {cs : List Char} :
    (exists k, int16? cs = some k) ↔ IsTickCount cs := by
  constructor
  · intro h
    rcases h with ⟨k, hk⟩
    exact ⟨k.toInt, int16?_eq_some_iff.mp hk, k.le_toInt, Int.le_of_lt_add_one k.toInt_lt⟩
  · intro h
    rcases h with ⟨n, hspells, hlow, hhigh⟩
    refine ⟨Int16.ofInt n, int16?_eq_some_iff.mpr ?_⟩
    rw [Int16.toInt_ofInt_of_le hlow (Int.lt_add_one_of_le hhigh)]
    exact hspells

theorem accelerationBits?_eq_none {text : List Char} (h : text.length < 2) :
    accelerationBits? text = none := by
  match text, h with
  | [], _ => rfl
  | [_], _ => rfl

theorem miscBits?_eq_none {text : List Char} (h : text.length < 3) :
    miscBits? text = none := by
  match text, h with
  | [], _ => rfl
  | [_], _ => rfl
  | [_, _], _ => rfl

def bitAt (text : List Char) (i : Nat) (letter : Char) (bit : UInt16) : UInt16 :=
  cond (text[i]? = some letter) bit 0

theorem bitIf_eq_cond (c letter : Char) (bit : UInt16) :
    bitIf c letter bit = cond (some c = some letter) bit 0 := by
  rw [bitIf, Bool.cond_decide]
  simp only [Option.some.injEq]

/-- What the two fields of letters hold, each letter counted at its own place. -/
def heldBits (acceleration misc : List Char) : UInt16 :=
  (bitAt acceleration 0 'a' Controls.accelerate ||| bitAt acceleration 1 'b' Controls.brake) |||
    (bitAt misc 0 'f' Controls.ability ||| bitAt misc 1 'n' Controls.nitro |||
      bitAt misc 2 's' Controls.skid)

theorem accelerationBits?_eq_some {text : List Char} (h : 2 ≤ text.length) :
    accelerationBits? text =
      some (bitAt text 0 'a' Controls.accelerate ||| bitAt text 1 'b' Controls.brake) := by
  match text, h with
  | c :: d :: rest, _ =>
      rw [accelerationBits?, bitIf_eq_cond, bitIf_eq_cond]
      rfl

theorem miscBits?_eq_some {text : List Char} (h : 3 ≤ text.length) :
    miscBits? text =
      some (bitAt text 0 'f' Controls.ability ||| bitAt text 1 'n' Controls.nitro |||
        bitAt text 2 's' Controls.skid) := by
  match text, h with
  | c :: d :: e :: rest, _ =>
      rw [miscBits?, bitIf_eq_cond, bitIf_eq_cond, bitIf_eq_cond]
      rfl

theorem ofFields_of_firstFlaw {fields : List (List Char)} {flaw : LineFlaw}
    (h : FirstFlaw fields flaw) : ofFields fields = .error flaw := by
  cases h with
  | fieldCount hne =>
      unfold ofFields
      split
      · exact absurd rfl hne
      · rfl
  | shortAcceleration hlt => rw [ofFields, accelerationBits?_eq_none hlt]
  | shortMisc hle hlt => rw [ofFields, accelerationBits?_eq_some hle, miscBits?_eq_none hlt]
  | angle htwo hthree hangle =>
      rw [ofFields, accelerationBits?_eq_some htwo, miscBits?_eq_some hthree, hangle]
  | ticks htwo hthree hangle hticks =>
      have hnone : int16? _ = none :=
        Option.eq_none_iff_forall_ne_some.mpr fun k hk => hticks (exists_int16?_iff.mp ⟨k, hk⟩)
      rw [ofFields, accelerationBits?_eq_some htwo, miscBits?_eq_some hthree, hangle]
      simp only [hnone]

section

variable {acceleration misc angle ticks : List Char}

theorem Describes.unique {f g : Framebulk} (hf : Describes acceleration misc angle ticks f)
    (hg : Describes acceleration misc angle ticks g) : f = g := by
  have hticks : f.ticks = g.ticks := Option.some.inj
    ((int16?_eq_some_iff.mpr hf.ticks).symm.trans (int16?_eq_some_iff.mpr hg.ticks))
  have hangle : f.angle = g.angle := Option.some.inj (hf.angle.symm.trans hg.angle)
  have hcontrols : f.controls = g.controls :=
    hf.no_other.ext hg.no_other (hf.accelerate.trans hg.accelerate.symm)
      (hf.brake.trans hg.brake.symm) (hf.ability.trans hg.ability.symm)
      (hf.nitro.trans hg.nitro.symm) (hf.skid.trans hg.skid.symm)
  cases f with
  | mk fticks fangle fcontrols =>
      cases g with
      | mk gticks gangle gcontrols =>
          cases hticks
          cases hangle
          cases hcontrols
          rfl

theorem contains_held : forall p q r s t : Bool,
    let c := Controls.remove
      ⟨(cond p Controls.accelerate 0 ||| cond q Controls.brake 0) |||
        (cond r Controls.ability 0 ||| cond s Controls.nitro 0 ||| cond t Controls.skid 0)⟩
      Controls.setSpeed
    c.contains Controls.accelerate = p ∧ c.contains Controls.brake = q ∧
      c.contains Controls.ability = r ∧ c.contains Controls.nitro = s ∧
      c.contains Controls.skid = t ∧ c.IsHeld := by
  decide

theorem contains_eq_decide_iff {c : Controls} {bit : UInt16} {p : Prop} [Decidable p] :
    c.contains bit = decide p ↔ (c.bits &&& bit = bit ↔ p) := by
  rw [Bool.eq_iff_iff, Controls.contains, beq_iff_eq, decide_eq_true_iff]

theorem describes_hold {value : Binary32} {count : Int16}
    (hangle : Binary32.parse? (trim angle) = some value)
    (hticks : int16? (trim ticks) = some count) :
    Describes acceleration misc angle ticks
      (Framebulk.hold count value ⟨heldBits acceleration misc⟩) := by
  rcases contains_held (acceleration[0]? = some 'a') (acceleration[1]? = some 'b')
    (misc[0]? = some 'f') (misc[1]? = some 'n') (misc[2]? = some 's') with
    ⟨haccelerate, hbrake, hability, hnitro, hskid, hheld⟩
  exact
    { angle := hangle
      ticks := int16?_eq_some_iff.mp hticks
      accelerate := contains_eq_decide_iff.mp haccelerate
      brake := contains_eq_decide_iff.mp hbrake
      ability := contains_eq_decide_iff.mp hability
      nitro := contains_eq_decide_iff.mp hnitro
      skid := contains_eq_decide_iff.mp hskid
      no_other := hheld }

theorem exists_ofFields (h : Fit acceleration misc angle ticks) :
    exists f, Describes acceleration misc angle ticks f ∧
      ofFields [acceleration, misc, angle, ticks] = .ok f := by
  rcases h.angle with ⟨value, hangle⟩
  rcases exists_int16?_iff.mpr h.ticks with ⟨count, hticks⟩
  refine ⟨_, describes_hold hangle hticks, ?_⟩
  rw [ofFields, accelerationBits?_eq_some h.two_le, miscBits?_eq_some h.three_le, hangle]
  simp only [hticks]
  rfl

end

theorem fit_or_firstFlaw (fields : List (List Char)) :
    (exists acceleration misc angle ticks,
      fields = [acceleration, misc, angle, ticks] ∧ Fit acceleration misc angle ticks) ∨
      exists flaw, FirstFlaw fields flaw := by
  rcases Nat.decEq fields.length 4 with hne | hfour
  · exact Or.inr ⟨_, .fieldCount hne⟩
  · match fields, hfour with
    | [acceleration, misc, angle, ticks], _ =>
        rcases Nat.lt_or_ge acceleration.length 2 with hlt | htwo
        · exact Or.inr ⟨_, .shortAcceleration hlt⟩
        rcases Nat.lt_or_ge misc.length 3 with hlt | hthree
        · exact Or.inr ⟨_, .shortMisc htwo hlt⟩
        cases hangle : Binary32.parse? (trim angle) with
        | none => exact Or.inr ⟨_, .angle htwo hthree hangle⟩
        | some value =>
            cases hticks : int16? (trim ticks) with
            | none =>
                refine Or.inr ⟨_, .ticks htwo hthree hangle ?_⟩
                intro h
                rcases exists_int16?_iff.mpr h with ⟨count, hcount⟩
                rw [hticks] at hcount
                cases hcount
            | some count =>
                exact Or.inl ⟨acceleration, misc, angle, ticks, rfl, htwo, hthree, ⟨value, hangle⟩,
                  exists_int16?_iff.mp ⟨count, hticks⟩⟩

/-!
## Reading a line

The grammar has one case for each of the three kinds of lines.  A framebulk for the speed has no
ticks, the speed in place of the angle, and the bit for the speed alone.
-/

inductive Reading (line : Line) : Except Fault Framebulk -> Prop where
  | speed {literal : Literal} (sets : SetsSpeed line.text.toList literal) :
      Reading line (.ok { ticks := 0, angle := Binary32.ofLiteral literal, controls := ⟨32⟩ })
  | controls {acceleration misc angle ticks : List Char} {f : Framebulk}
      (sets_none : ¬exists literal, SetsSpeed line.text.toList literal)
      (filled_eq : filled line.text.toList = [acceleration, misc, angle, ticks])
      (fit : Fit acceleration misc angle ticks)
      (describes : Describes acceleration misc angle ticks f) : Reading line (.ok f)
  | flaw {flaw : LineFlaw} (sets_none : ¬exists literal, SetsSpeed line.text.toList literal)
      (first : FirstFlaw (filled line.text.toList) flaw) :
      Reading line (.error (.framebulkFlaw line.number flaw))

theorem parseText_of_setsSpeed {text : List Char} {literal : Literal} (h : SetsSpeed text literal) :
    parseText text =
      .ok { ticks := 0, angle := Binary32.ofLiteral literal, controls := ⟨32⟩ } := by
  rw [parseText, speed?_eq_some_iff.mpr ⟨literal, h, rfl⟩]
  rfl

theorem parseText_of_not_setsSpeed {text : List Char}
    (h : ¬exists literal, SetsSpeed text literal) : parseText text = ofFields (filled text) := by
  have hnone : speed? text = none := by
    apply Option.eq_none_iff_forall_ne_some.mpr
    intro value hvalue
    rcases speed?_eq_some_iff.mp hvalue with ⟨literal, hsets, _⟩
    exact h ⟨literal, hsets⟩
  rw [parseText, hnone, fields_eq_filled]

theorem parseLine_of_reading {line : Line} {outcome : Except Fault Framebulk}
    (h : Reading line outcome) : parseLine line = outcome := by
  cases h with
  | speed hsets => rw [parseLine, parseText_of_setsSpeed hsets]
  | controls hnone hfilled hfit hdescribes =>
      rcases exists_ofFields hfit with ⟨g, hg, hok⟩
      rw [parseLine, parseText_of_not_setsSpeed hnone, hfilled, hok, hg.unique hdescribes]
  | flaw hnone hflaw =>
      rw [parseLine, parseText_of_not_setsSpeed hnone, ofFields_of_firstFlaw hflaw]

theorem exists_reading (line : Line) : exists outcome, Reading line outcome := by
  rcases Classical.em (exists literal, SetsSpeed line.text.toList literal) with hsome | hnone
  · rcases hsome with ⟨literal, hsets⟩
    exact ⟨_, .speed hsets⟩
  · rcases fit_or_firstFlaw (filled line.text.toList) with hfit | ⟨flaw, hflaw⟩
    · rcases hfit with ⟨acceleration, misc, angle, ticks, hfilled, hfit⟩
      rcases exists_ofFields hfit with ⟨f, hf, _⟩
      exact ⟨_, .controls hnone hfilled hfit hf⟩
    · exact ⟨_, .flaw hnone hflaw⟩

theorem parseLine_eq_iff_reading {line : Line} {outcome : Except Fault Framebulk} :
    parseLine line = outcome ↔ Reading line outcome := by
  constructor
  · intro h
    rcases exists_reading line with ⟨found, hfound⟩
    rw [← h, parseLine_of_reading hfound]
    exact hfound
  · exact parseLine_of_reading

/-- A line is read just as the grammar says, and it is accepted just when it sets the speed or
has four fields that pass every check. -/
theorem parseLine_grammar (line : Line) :
    (forall outcome, parseLine line = outcome ↔ Reading line outcome) ∧
      ((exists f, parseLine line = .ok f) ↔
        (exists literal, SetsSpeed line.text.toList literal) ∨
          exists acceleration misc angle ticks,
            filled line.text.toList = [acceleration, misc, angle, ticks] ∧
              Fit acceleration misc angle ticks) := by
  refine ⟨fun outcome => parseLine_eq_iff_reading, ?_⟩
  constructor
  · intro h
    rcases h with ⟨f, hf⟩
    cases parseLine_eq_iff_reading.mp hf with
    | speed hsets => exact Or.inl ⟨_, hsets⟩
    | controls _ hfilled hfit _ => exact Or.inr ⟨_, _, _, _, hfilled, hfit⟩
  · intro h
    rcases Classical.em (exists literal, SetsSpeed line.text.toList literal) with hsome | hnone
    · rcases hsome with ⟨literal, hsets⟩
      exact ⟨_, parseLine_of_reading (.speed hsets)⟩
    · rcases h.resolve_left hnone with ⟨acceleration, misc, angle, ticks, hfilled, hfit⟩
      rcases exists_ofFields hfit with ⟨f, hf, _⟩
      exact ⟨f, parseLine_of_reading (.controls hnone hfilled hfit hf)⟩

/-- A line that begins like one for the speed can still hold controls. -/
example :
    parseLine ⟨7, "playspeed 1||fns| inf |-3"⟩ = .ok ⟨-3, ⟨0x7F800000⟩, ⟨28⟩⟩ := by
  decide +kernel

end Timeline
end RaceTape
