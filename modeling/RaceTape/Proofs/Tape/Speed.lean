import RaceTape.Proofs.Decimal.Overflow
import RaceTape.Proofs.Tape.Invariant
import RaceTape.Proofs.Tape.Lines
import RaceTape.Proofs.Timeline.Grammar

/-!
# Playback speeds

Every playback speed of a tape is written on a row as a decimal literal, so it is never the
pattern for no number.  It need not be finite: a literal has no greatest value, and one that is
too large for single precision sets the speed to infinity, as a name for it would.
-/

namespace RaceTape

open Decimal Text Timeline

namespace Timeline

structure IsSpeedOf (text : List Char) (literal : Literal) (value : Binary32) : Prop where
  sets : SetsSpeed text literal
  value_eq : value = Binary32.ofLiteral literal
  not_nan : value.isNaN = false
  finite_iff : value.isFinite = true ↔ literal.size < 2 ^ 128 - 2 ^ 103

theorem SetsSpeed.isSpeedOf {text : List Char} {literal : Literal} (h : SetsSpeed text literal) :
    IsSpeedOf text literal (Binary32.ofLiteral literal) where
  sets := h
  value_eq := rfl
  not_nan := Binary32.isNaN_ofLiteral literal
  finite_iff := Binary32.isFinite_ofLiteral_iff literal

theorem exists_isSpeedOf_of_parseLine {line : Line} {f : Framebulk} (h : parseLine line = .ok f)
    (hspeed : f.isSpeed = true) : exists literal, IsSpeedOf line.text.toList literal f.angle := by
  cases parseLine_eq_iff_reading.mp h with
  | speed hsets => exact ⟨_, hsets.isSpeedOf⟩
  | controls _ _ _ hdescribes =>
      rw [Framebulk.isSpeed, hdescribes.no_other.not_setSpeed] at hspeed
      cases hspeed

end Timeline

namespace Sections

theorem mem_of_cut? {text : String} {lines : List Line} {s : Sections}
    (h : cut? text lines = some s) {line : Line} (hmem : line ∈ s.timeline) : line ∈ lines := by
  induction lines generalizing s with
  | nil => cases h
  | cons first lines ih =>
      rw [cut?] at h
      split at h
      · cases h
        exact List.mem_cons_of_mem first hmem
      · rcases Option.map_eq_some_iff.mp h with ⟨rest, hrest, rfl⟩
        exact List.mem_cons_of_mem first (ih hrest hmem)

theorem mem_of_ofLines {sentinel : String} {lines : List Line} {s : Sections}
    (h : ofLines sentinel lines = .ok s) {line : Line} (hmem : line ∈ s.timeline) :
    line ∈ lines := by
  rw [ofLines] at h
  split at h
  · next found hcut =>
      cases h
      exact mem_of_cut? hcut hmem
  · cases h

end Sections

namespace Compiled

theorem exists_row_of_mem {sentinel source : String} {compiled : Compiled}
    (h : ofSource sentinel source = .ok compiled) {f : Framebulk}
    (hf : f ∈ compiled.tape.framebulks) :
    exists row line, row ∈ rows source.toList ∧ line.text = String.ofList (Line.canonical row) ∧
      parseLine line = .ok f := by
  have htape := ((ofSource_eq_ok_iff sentinel source compiled).mp h).1
  rcases (Tape.parse_eq_ok_iff sentinel source compiled.tape).mp htape with ⟨s, hcut, hsections⟩
  have hlines := ((Tape.ofSections_eq_ok_iff s compiled.tape).mp hsections).2.1
  rcases exists_line_of_mem_parseLines hlines hf with ⟨line, hmem, hline⟩
  rcases Line.exists_row_of_mem (Sections.mem_of_ofLines hcut hmem) with ⟨row, hrow, _, htext⟩
  exact ⟨row, line, hrow, htext, hline⟩

/--
A speed is written on a row, it is never the pattern for no number, and it is finite exactly if
the number written is less than `2 ^ 128 - 2 ^ 103`.
-/
theorem speeds_written (text : List Char) (sentinel source : String) :
    (forall value, speed? text = some value -> exists literal, IsSpeedOf text literal value) ∧
      forall compiled, ofSource sentinel source = .ok compiled ->
        forall f, f ∈ compiled.tape.framebulks -> f.isSpeed = true ->
          exists row literal, row ∈ rows source.toList ∧
            IsSpeedOf (Line.canonical row) literal f.angle := by
  constructor
  · intro value h
    rcases speed?_eq_some_iff.mp h with ⟨literal, hsets, rfl⟩
    exact ⟨literal, hsets.isSpeedOf⟩
  · intro compiled h f hf hspeed
    rcases exists_row_of_mem h hf with ⟨row, line, hrow, htext, hline⟩
    rcases exists_isSpeedOf_of_parseLine hline hspeed with ⟨literal, hliteral⟩
    rw [htext, String.toList_ofList] at hliteral
    exact ⟨row, literal, hrow, hliteral⟩

def plainSetup : Header.Setup :=
  { track := "abyss"
    kart := "tux"
    laps := 1
    difficulty := 0
    opponents := 0
    quickReset := false }

def limitSource : String :=
  "map abyss\nkart_name tux\nnum_laps 1\ndifficulty 0\nframebulks\n" ++
    "playspeed 340282356779733661637539395458142568447\n" ++
    "playspeed -340282356779733661637539395458142568448\n"

def limitTape : Tape :=
  { setup := plainSetup
    framebulks := [⟨0, ⟨0x7F7FFFFF⟩, ⟨32⟩⟩, ⟨0, ⟨0xFF800000⟩, ⟨32⟩⟩]
    warnings := [] }

theorem ofSource_limitSource :
    ofSource standardSentinel limitSource = .ok (ofTape limitTape) :=
  toOption_eq_some_iff.mp (by decide +kernel)

theorem speeds_written_limitSource :
    (exists literal, IsSpeedOf "playspeed 2".toList literal ⟨0x40000000⟩) ∧
      (exists row literal, row ∈ rows limitSource.toList ∧
        IsSpeedOf (Line.canonical row) literal ⟨0x7F7FFFFF⟩) ∧
      exists row literal, row ∈ rows limitSource.toList ∧
        IsSpeedOf (Line.canonical row) literal ⟨0xFF800000⟩ := by
  rcases speeds_written "playspeed 2".toList standardSentinel limitSource with ⟨htext, hcompiled⟩
  refine ⟨?_, ?_, ?_⟩
  · exact htext ⟨0x40000000⟩ (by decide +kernel)
  · exact hcompiled _ ofSource_limitSource ⟨0, ⟨0x7F7FFFFF⟩, ⟨32⟩⟩ List.mem_cons_self rfl
  · exact hcompiled _ ofSource_limitSource ⟨0, ⟨0xFF800000⟩, ⟨32⟩⟩
      (List.mem_cons_of_mem _ List.mem_cons_self) rfl

def hugeSource : String :=
  "map abyss\nkart_name tux\nnum_laps 1\ndifficulty 0\nframebulks\nplayspeed 1e39\n"

def hugeTape : Tape :=
  { setup := plainSetup
    framebulks := [⟨0, ⟨0x7F800000⟩, ⟨32⟩⟩]
    warnings := [] }

theorem infinite_speed_compiles :
    ofSource standardSentinel hugeSource = .ok (ofTape hugeTape) ∧
      exists f, f ∈ hugeTape.framebulks ∧ f.isSpeed = true ∧ f.angle.isInfinite = true := by
  refine ⟨toOption_eq_some_iff.mp (by decide +kernel), ?_⟩
  exact ⟨⟨0, ⟨0x7F800000⟩, ⟨32⟩⟩, List.mem_cons_self, rfl, rfl⟩

end Compiled

end RaceTape
