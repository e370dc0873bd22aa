import RaceTape.Proofs.Decimal.Binary32
import RaceTape.Proofs.Decimal.Scanner
import RaceTape.Timeline.Framebulk

/-!
# Scanning before reading

The number of a line for the speed can be scanned first and then read by the reader of all
numbers, which takes names as well.  The scan lets through exactly the literals, so the names are
kept out, and the reader never refuses what the scan has let through.
-/

namespace RaceTape
namespace Timeline

open Decimal Scanner Text

theorem scan_eq_some_true_iff {cs : List Char} :
    scan (Utf8.encode cs) = some true ↔ exists literal, Literal.parse? cs = some literal := by
  rw [scan_encode, Option.some_inj, Option.isSome_iff_exists]

theorem scanned_parse? (cs : List Char) :
    (if (Literal.parse? cs).isSome then Binary32.parse? cs else none) =
      (Literal.parse? cs).map Binary32.ofLiteral := by
  cases h : Literal.parse? cs with
  | none => rfl
  | some literal => exact Binary32.parse?_of_literal h

/--
The speed that a line sets, if its number is scanned before it is read.  This comes to none if the
scan leaves the bytes.
-/
def scannedSpeed (text : List Char) : Option (Option Binary32) :=
  match speedWord.toList.isPrefixOf? text with
  | none => some none
  | some rest =>
      if rest.head?.any isBlank then
        (scan (Utf8.encode (trim rest))).map fun accepted =>
          if accepted then Binary32.parse? (trim rest) else none
      else some none

theorem blankThenLiteral?_eq (cs : List Char) :
    blankThenLiteral? cs = if cs.head?.any isBlank then Literal.parse? (trim cs) else none := by
  cases cs with
  | nil => rfl
  | cons c cs => rfl

theorem scannedSpeed_eq (text : List Char) : scannedSpeed text = some (speed? text) := by
  unfold scannedSpeed speed?
  cases speedWord.toList.isPrefixOf? text with
  | none => rfl
  | some rest =>
      simp only [Option.bind_some, blankThenLiteral?_eq, scan_encode, Option.map_some,
        scanned_parse?]
      split
      · rfl
      · rfl

theorem exists_speed?_iff_scan {text : List Char} :
    (exists value, speed? text = some value) ↔
      exists rest, text = speedWord.toList ++ rest ∧ rest.head?.any isBlank = true ∧
        scan (Utf8.encode (trim rest)) = some true := by
  simp only [speed?, Option.bind_eq_some_iff, List.isPrefixOf?_eq_some_iff_append_eq,
    Option.map_eq_some_iff, blankThenLiteral?_eq, Option.ite_none_right_eq_some,
    scan_eq_some_true_iff]
  constructor
  · rintro ⟨value, rest, hrest, literal, ⟨hblank, hliteral⟩, _⟩
    exact ⟨rest, hrest.symm, hblank, literal, hliteral⟩
  · rintro ⟨rest, hrest, hblank, literal, hliteral⟩
    exact ⟨_, rest, hrest.symm, literal, ⟨hblank, hliteral⟩, rfl⟩

/--
A scan of a text stays inside its bytes and accepts exactly the grammar of literals; the reader of
numbers accepts what the scan accepts and the names; and scanning the number of a line before it
is read sets the same speed, with nothing that the scan accepts left unread.
-/
theorem scan_agrees_with_readers (cs text : List Char) :
    (exists accepted, scan (Utf8.encode cs) = some accepted ∧
        accepted = (Literal.parse? cs).isSome ∧
        (accepted = true ↔ exists literal, Literal.Spells cs literal) ∧
        ((exists value, Binary32.parse? cs = some value) ↔
          accepted = true ∨ exists value, Binary32.SpellsName cs value)) ∧
      scannedSpeed text = some (speed? text) ∧
      ((exists value, speed? text = some value) ↔
        exists rest, text = speedWord.toList ++ rest ∧ rest.head?.any isBlank = true ∧
          scan (Utf8.encode (trim rest)) = some true) := by
  refine ⟨⟨_, scan_encode cs, rfl, ?_, Binary32.exists_parse?_iff⟩, scannedSpeed_eq text,
    exists_speed?_iff_scan⟩
  rw [Option.isSome_iff_exists]
  exact exists_congr fun literal => Literal.parse?_eq_some_iff

end Timeline
end RaceTape
