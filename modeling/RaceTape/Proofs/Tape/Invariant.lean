import RaceTape.Proofs.Header.Setup
import RaceTape.Proofs.Payload.Canonical
import RaceTape.Proofs.Timeline.Framebulk
import RaceTape.Tape.Basic

/-!
# The invariant of tapes

Whatever the source text, a tape that is read has a valid setup and valid framebulks.
This is what makes its payload readable: names of the catalogs do not hold the character
that ends a name, and valid framebulks have controls with a meaning only.
-/

namespace RaceTape

open Header Text Timeline

/-!
## Reading a tape in steps

Every tape that is read is valid, because its setup has passed the checks and each of its
framebulks stands on a line.
-/

theorem toOption_eq_some_iff {result : Except ε α} {a : α} :
    result.toOption = some a ↔ result = .ok a := by
  cases result with
  | error e => exact ⟨nofun, nofun⟩
  | ok found =>
      constructor
      · intro h
        cases h
        rfl
      · intro h
        cases h
        rfl

namespace Tape

theorem ofSections_eq_ok_iff (s : Sections) (tape : Tape) :
    ofSections s = .ok tape ↔
      Setup.ofLines s.header = .ok tape.setup ∧
        Timeline.parseLines s.timeline = .ok tape.framebulks ∧
        tape.warnings = Header.warnings s.header := by
  cases tape with
  | mk setup framebulks warnings =>
      rw [ofSections]
      cases Setup.ofLines s.header with
      | error fault => simp
      | ok setup1 =>
          cases Timeline.parseLines s.timeline with
          | error fault => simp
          | ok framebulks1 => simp [eq_comm]

theorem parse_eq_ok_iff (sentinel source : String) (tape : Tape) :
    parse sentinel source = .ok tape ↔
      exists s, Sections.ofLines sentinel (Line.ofSource source) = .ok s ∧
        ofSections s = .ok tape := by
  rw [parse, ofLines]
  cases Sections.ofLines sentinel (Line.ofSource source) with
  | error fault => simp
  | ok s => simp

structure IsValid (tape : Tape) : Prop where
  setup : tape.setup.IsValid
  framebulks : forall f, f ∈ tape.framebulks -> f.IsValid

theorem isValid_of_parse {sentinel source : String} {tape : Tape}
    (h : parse sentinel source = .ok tape) : tape.IsValid := by
  rcases (parse_eq_ok_iff sentinel source tape).mp h with ⟨s, _, hsections⟩
  rcases (ofSections_eq_ok_iff s tape).mp hsections with ⟨hsetup, hframebulks, _⟩
  constructor
  · exact Draft.isValid_of_check hsetup
  · exact isValid_of_parseLines hframebulks

end Tape

theorem Compiled.ofSource_eq_ok_iff (sentinel source : String) (compiled : Compiled) :
    Compiled.ofSource sentinel source = .ok compiled ↔
      Tape.parse sentinel source = .ok compiled.tape ∧
        compiled.payload = Payload.encode compiled.tape.setup compiled.tape.framebulks := by
  cases compiled with
  | mk tape payload =>
      rw [ofSource]
      cases Tape.parse sentinel source with
      | error fault => simp
      | ok tape1 =>
          simp only [ofTape, Tape.payload, Except.ok.injEq, Compiled.mk.injEq]
          constructor
          · intro h
            rcases h with ⟨rfl, rfl⟩
            exact ⟨rfl, rfl⟩
          · intro h
            rcases h with ⟨rfl, rfl⟩
            exact ⟨rfl, rfl⟩

/-!
## What valid tapes are for the payload

The payload of a valid tape is read back as that tape.  The short tape at the end has a comment, a
quoted value and letters of both cases.
-/

theorem Header.Catalog.nulFree_of_mem_tracks :
    forall name, name ∈ Catalog.tracks -> Payload.NulFree name := by
  decide

theorem Header.Catalog.nulFree_of_mem_karts :
    forall name, name ∈ Catalog.karts -> Payload.NulFree name := by
  decide

namespace Tape

theorem IsValid.namesNulFree {tape : Tape} (h : tape.IsValid) :
    Payload.NamesNulFree tape.setup := by
  constructor
  · exact Catalog.nulFree_of_mem_tracks _ h.setup.track
  · exact Catalog.nulFree_of_mem_karts _ h.setup.kart

theorem IsValid.isDefined {tape : Tape} (h : tape.IsValid) :
    forall f, f ∈ tape.framebulks -> f.controls.IsDefined := by
  intro f hf
  exact (h.framebulks f hf).controls

theorem IsValid.decode_payload {tape : Tape} (h : tape.IsValid) :
    Payload.decode tape.payload = .ok (tape.setup, tape.framebulks) := by
  apply (Payload.decode_eq_ok_iff _ _ _).mpr
  exact ⟨h.namesNulFree, h.isDefined, rfl⟩

end Tape

namespace Compiled

theorem isValid_of_ofSource {sentinel source : String} {compiled : Compiled}
    (h : ofSource sentinel source = .ok compiled) : compiled.tape.IsValid :=
  Tape.isValid_of_parse ((ofSource_eq_ok_iff sentinel source compiled).mp h).1

/--
Every tape that compiles has a known track and kart, numbers within their bounds, and
framebulks with controls that have a meaning, each of which sets the speed alone or holds
controls.  So the names in its payload hold no zero byte, and the signed word of each record
is the number of its controls.
-/
theorem invariant_of_ofSource {sentinel source : String} {compiled : Compiled}
    (h : ofSource sentinel source = .ok compiled) :
    compiled.tape.setup.IsValid ∧
      (forall f, f ∈ compiled.tape.framebulks ->
        f.IsValid ∧
          (f.controls.bits &&& Controls.setSpeed ≠ 0 ->
            f.controls.bits = Controls.setSpeed)) ∧
      0 ∉ Utf8.ofString compiled.tape.setup.track ∧
      0 ∉ Utf8.ofString compiled.tape.setup.kart ∧
      (forall f, f ∈ compiled.tape.framebulks ->
        f.controls.bits.toInt16.toInt = f.controls.bits.toNat) := by
  have hvalid := isValid_of_ofSource h
  refine ⟨hvalid.setup, ?_, ?_, ?_, ?_⟩
  · intro f hf
    exact ⟨hvalid.framebulks f hf, (hvalid.framebulks f hf).bits_eq_setSpeed⟩
  · exact (Payload.nulFree_iff _).mp hvalid.namesNulFree.track
  · exact (Payload.nulFree_iff _).mp hvalid.namesNulFree.kart
  · intro f hf
    exact (hvalid.isDefined f hf).toInt_toInt16

def shortSource : String :=
  "Map = 'abyss' // north\r\nkart_name tux\nnum_laps: -1\ndifficulty=3\n\nFrameBulks\n" ++
    "ab|--s|-0.5|10|\nplayspeed 2\n"

def shortTape : Tape :=
  { setup :=
      { track := "abyss"
        kart := "tux"
        laps := -1
        difficulty := 3
        opponents := 0
        quickReset := false }
    framebulks := [⟨10, ⟨0xBF000000⟩, ⟨19⟩⟩, ⟨0, ⟨0x40000000⟩, ⟨32⟩⟩]
    warnings := [] }

theorem ofSource_shortSource :
    ofSource standardSentinel shortSource = .ok (ofTape shortTape) := by
  -- Faults are not compared by computation, so only the success is.
  have hread : (ofSource standardSentinel shortSource).toOption = some (ofTape shortTape) := by
    decide +kernel
  exact toOption_eq_some_iff.mp hread

theorem invariant_shortSource :
    ofSource standardSentinel shortSource = .ok (ofTape shortTape) ∧
      shortTape.setup.IsValid ∧
      (forall f, f ∈ shortTape.framebulks ->
        f.controls.bits.toInt16.toInt = f.controls.bits.toNat) := by
  have h := invariant_of_ofSource ofSource_shortSource
  exact ⟨ofSource_shortSource, h.1, h.2.2.2.2⟩

end Compiled

end RaceTape
