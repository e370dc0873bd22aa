import RaceTape.Proofs.Tape.Lines
import RaceTape.Timeline.Framebulk

/-!
# Timelines read line by line

A timeline is read from its first line on and up to the first line at fault.  So a timeline
that is continued goes on from where it ended, under later numbers, and of rows the first
that is rejected decides.
-/

namespace RaceTape

def Fault.shift (k : Nat) : Fault -> Fault
  | .framebulkFlaw line flaw => .framebulkFlaw (line + k) flaw
  | fault => fault

namespace Timeline

open Text

/-!
## Single lines
-/

theorem parseLine_of_text_ok {text : List Char} {f : Framebulk} (h : parseText text = .ok f)
    (n : Nat) : parseLine ⟨n, String.ofList text⟩ = .ok f := by
  rw [parseLine, String.toList_ofList, h]

theorem parseLine_of_text_error {text : List Char} {flaw : LineFlaw}
    (h : parseText text = .error flaw) (n : Nat) :
    parseLine ⟨n, String.ofList text⟩ = .error (.framebulkFlaw n flaw) := by
  rw [parseLine, String.toList_ofList, h]

theorem exists_flaw_of_parseLine {line : Line} {fault : Fault}
    (h : parseLine line = .error fault) :
    exists flaw, fault = .framebulkFlaw line.number flaw := by
  unfold parseLine at h
  split at h
  · cases h
  · next flaw _ =>
      cases h
      exact ⟨flaw, rfl⟩

theorem parseLine_shift (k : Nat) (line : Line) :
    parseLine (line.shift k) = (parseLine line).mapError (Fault.shift k) := by
  unfold parseLine Line.shift
  cases parseText line.text.toList with
  | error flaw => rfl
  | ok f => rfl

/-!
## Lines in order

Lines after lines without a fault add their framebulks.
-/

theorem parseLines_cons_of_error {line : Line} {fault : Fault}
    (h : parseLine line = .error fault) (rest : List Line) :
    parseLines (line :: rest) = .error fault := by
  rw [parseLines, h]

theorem parseLines_cons_of_ok {line : Line} {f : Framebulk} (h : parseLine line = .ok f)
    (rest : List Line) :
    parseLines (line :: rest) = (parseLines rest).map (f :: ·) := by
  rw [parseLines, h]
  cases parseLines rest with
  | error fault => rfl
  | ok framebulks => rfl

theorem exists_flaw_of_parseLines {lines : List Line} {fault : Fault}
    (h : parseLines lines = .error fault) :
    exists line flaw, fault = .framebulkFlaw line flaw := by
  induction lines with
  | nil => cases h
  | cons line lines ih =>
      cases hline : parseLine line with
      | error found =>
          rw [parseLines_cons_of_error hline] at h
          cases h
          rcases exists_flaw_of_parseLine hline with ⟨flaw, hflaw⟩
          exact ⟨line.number, flaw, hflaw⟩
      | ok f =>
          rw [parseLines_cons_of_ok hline] at h
          cases hlines : parseLines lines with
          | error found =>
              rw [hlines] at h
              cases h
              exact ih hlines
          | ok framebulks =>
              rw [hlines] at h
              cases h

theorem parseLines_append {front : List Line} {framebulks : List Framebulk}
    (h : parseLines front = .ok framebulks) (back : List Line) :
    parseLines (front ++ back) = (parseLines back).map (framebulks ++ ·) := by
  induction front generalizing framebulks with
  | nil =>
      cases h
      rw [List.nil_append]
      cases parseLines back with
      | error fault => rfl
      | ok found => rfl
  | cons line front ih =>
      cases hline : parseLine line with
      | error fault =>
          rw [parseLines_cons_of_error hline] at h
          cases h
      | ok f =>
          rw [parseLines_cons_of_ok hline] at h
          cases hfront : parseLines front with
          | error fault =>
              rw [hfront] at h
              cases h
          | ok found =>
              rw [hfront] at h
              cases h
              rw [List.cons_append, parseLines_cons_of_ok hline, ih hfront]
              cases parseLines back with
              | error fault => rfl
              | ok others => rfl

theorem parseLines_map_shift (k : Nat) (lines : List Line) :
    parseLines (lines.map (Line.shift k)) = (parseLines lines).mapError (Fault.shift k) := by
  induction lines with
  | nil => rfl
  | cons line lines ih =>
      have hshift := parseLine_shift k line
      cases hline : parseLine line with
      | error fault =>
          rw [hline] at hshift
          rw [List.map_cons, parseLines_cons_of_error hshift, parseLines_cons_of_error hline]
          rfl
      | ok f =>
          rw [hline] at hshift
          rw [List.map_cons, parseLines_cons_of_ok hshift, parseLines_cons_of_ok hline, ih]
          cases parseLines lines with
          | error fault => rfl
          | ok framebulks => rfl

/-!
## Rows of a timeline

A row is rejected if it says something, but no framebulk.  Rows of which none is rejected give one
framebulk for each that says something.
-/

/-- The row says something, but no framebulk. -/
def IsRejected (row : List Char) : Prop :=
  Line.IsFilled row ∧ exists flaw, parseText (Line.canonical row) = .error flaw

theorem exists_framebulk {row : List Char} (hfilled : Line.IsFilled row) (h : ¬IsRejected row) :
    exists f, parseText (Line.canonical row) = .ok f := by
  cases htext : parseText (Line.canonical row) with
  | error flaw => exact absurd ⟨hfilled, flaw, htext⟩ h
  | ok f => exact ⟨f, rfl⟩

theorem parseLines_of_accepted {rows : List (List Char)}
    (h : forall row, row ∈ rows -> ¬IsRejected row) (n : Nat) :
    exists framebulks,
      parseLines (Line.ofRowsFrom n rows) = .ok framebulks ∧
        (rows.filter Line.IsFilled).map (fun row => parseText (Line.canonical row)) =
          framebulks.map .ok := by
  induction rows generalizing n with
  | nil => exact ⟨[], rfl, rfl⟩
  | cons row rows ih =>
      have hrest := ih fun other hmem => h other (List.mem_cons_of_mem row hmem)
      rcases hrest (n + 1) with ⟨framebulks, hparse, hmap⟩
      by_cases hfilled : Line.IsFilled row
      · rcases exists_framebulk hfilled (h row List.mem_cons_self) with ⟨f, hf⟩
        refine ⟨f :: framebulks, ?_, ?_⟩
        · rw [Line.ofRowsFrom_cons_of_isFilled hfilled,
            parseLines_cons_of_ok (parseLine_of_text_ok hf n), hparse]
          rfl
        · rw [List.filter_cons, if_pos (decide_eq_true hfilled), List.map_cons, hf, hmap]
          rfl
      · refine ⟨framebulks, ?_, ?_⟩
        · rw [Line.ofRowsFrom_cons_of_not_isFilled hfilled]
          exact hparse
        · rw [List.filter_cons, decide_eq_false hfilled]
          exact hmap

/-- The first row that is rejected gives the fault, under its own number. -/
theorem parseLines_of_firstRow {rows : List (List Char)} {k : Nat} {row : List Char}
    {flaw : LineFlaw} (h : FirstRow IsRejected rows 0 k row)
    (hflaw : parseText (Line.canonical row) = .error flaw) (n : Nat) :
    parseLines (Line.ofRowsFrom n rows) = .error (.framebulkFlaw (n + k) flaw) := by
  have hbefore : forall other, other ∈ rows.take k -> ¬IsRejected other :=
    fun other hmem => h.not_of_mem_take hmem
  rcases parseLines_of_accepted hbefore n with ⟨framebulks, hparse, _⟩
  have hlength : (rows.take k).length = k := List.length_take_of_le (Nat.le_of_lt h.lt_length)
  rw [h.eq_append, Line.ofRowsFrom_append, hlength, parseLines_append hparse,
    Line.ofRowsFrom_cons_of_isFilled h.holds.1,
    parseLines_cons_of_error (parseLine_of_text_error hflaw (n + k))]
  rfl

end Timeline
end RaceTape
