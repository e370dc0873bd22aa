import RaceTape.Proofs.Tape.Invariant
import RaceTape.Proofs.Timeline.Lines

/-!
# Tapes that are continued

A source whose last row is ended can be continued with more timeline.  The sentinel has been
found by then, so whatever the continuation says is timeline, its framebulks and records
follow those there are, and a fault in it is reported under its number in the whole source.
-/

namespace RaceTape

open Header Text Timeline

theorem Line.ofSource_append {front : String} (hend : front.toList.getLast? = some '\n')
    (rest : String) :
    Line.ofSource (front ++ rest) =
      Line.ofSource front ++ (Line.ofSource rest).map (Line.shift (rows front.toList).length) := by
  unfold Line.ofSource Line.ofRows
  rw [String.toList_append, rows_append hend, Line.ofRowsFrom_append, Line.ofRowsFrom_add]

namespace Sections

theorem cut?_append {text : String} {lines : List Line} {s : Sections}
    (h : cut? text lines = some s) (more : List Line) :
    cut? text (lines ++ more) = some { s with timeline := s.timeline ++ more } := by
  induction lines generalizing s with
  | nil => cases h
  | cons line lines ih =>
      rw [cut?] at h
      rw [List.cons_append, cut?]
      by_cases hline : line.text = text
      · rw [if_pos hline] at h ⊢
        cases h
        rfl
      · rw [if_neg hline] at h ⊢
        rcases Option.map_eq_some_iff.mp h with ⟨found, hfound, rfl⟩
        rw [ih hfound]
        rfl

theorem ofLines_append {sentinel : String} {lines : List Line} {s : Sections}
    (h : ofLines sentinel lines = .ok s) (more : List Line) :
    ofLines sentinel (lines ++ more) = .ok { s with timeline := s.timeline ++ more } := by
  unfold ofLines at h
  split at h
  · next found hcut =>
      cases h
      rw [ofLines, cut?_append hcut]
  · cases h

end Sections

namespace Tape

def extend (tape : Tape) (framebulks : List Framebulk) : Tape :=
  { tape with framebulks := tape.framebulks ++ framebulks }

theorem payload_extend (tape : Tape) (framebulks : List Framebulk) :
    (tape.extend framebulks).payload = tape.payload ++ Payload.encodeFramebulks framebulks := by
  unfold payload extend Payload.encode Payload.encodeFramebulks
  rw [List.flatMap_append, List.append_assoc]

theorem ofSections_append {s : Sections} {tape : Tape} (h : ofSections s = .ok tape)
    (more : List Line) :
    ofSections { s with timeline := s.timeline ++ more } =
      (Timeline.parseLines more).map tape.extend := by
  rcases (ofSections_eq_ok_iff s tape).mp h with ⟨hsetup, hframebulks, hwarnings⟩
  rw [ofSections, hsetup, parseLines_append hframebulks]
  cases Timeline.parseLines more with
  | error fault => rfl
  | ok framebulks =>
      show Except.ok _ = Except.ok (tape.extend framebulks)
      rw [extend, hwarnings]

/-- A continued tape is the tape extended by the timeline that the continuation holds. -/
theorem parse_append {sentinel front : String} {tape : Tape}
    (hend : front.toList.getLast? = some '\n') (h : parse sentinel front = .ok tape)
    (rest : String) :
    parse sentinel (front ++ rest) =
      ((Timeline.parseLines (Line.ofSource rest)).mapError
        (Fault.shift (rows front.toList).length)).map tape.extend := by
  rcases (parse_eq_ok_iff sentinel front tape).mp h with ⟨s, hsections, htape⟩
  rw [parse, ofLines, Line.ofSource_append hend, Sections.ofLines_append hsections]
  rw [← parseLines_map_shift]
  exact ofSections_append htape _

end Tape

namespace Compiled

/--
A tape whose source ends with a row and that compiles can be continued by any text.  If the
text is a timeline, its framebulks and records are added and nothing else changes; if not,
its first fault is reported as that of a line further down, and there is no other fault.
-/
theorem ofSource_continued {sentinel front : String} {compiled : Compiled}
    (hend : front.toList.getLast? = some '\n')
    (h : ofSource sentinel front = .ok compiled) (rest : String) :
    (forall framebulks, Timeline.parseLines (Line.ofSource rest) = .ok framebulks ->
      ofSource sentinel (front ++ rest) =
        .ok
          { tape :=
              { setup := compiled.tape.setup
                framebulks := compiled.tape.framebulks ++ framebulks
                warnings := compiled.tape.warnings }
            payload := compiled.payload ++ framebulks.flatMap Payload.encodeFramebulk }) ∧
    (forall line flaw,
      Timeline.parseLines (Line.ofSource rest) = .error (.framebulkFlaw line flaw) ->
        ofSource sentinel (front ++ rest) =
          .error (.framebulkFlaw (line + (rows front.toList).length) flaw)) ∧
    (forall fault, Timeline.parseLines (Line.ofSource rest) = .error fault ->
      exists line flaw, fault = .framebulkFlaw line flaw) := by
  rcases (ofSource_eq_ok_iff sentinel front compiled).mp h with ⟨htape, hpayload⟩
  have hparse := Tape.parse_append hend htape rest
  refine ⟨?_, ?_, ?_⟩
  · intro framebulks hframebulks
    rw [hframebulks] at hparse
    apply (ofSource_eq_ok_iff _ _ _).mpr
    refine ⟨hparse, ?_⟩
    rw [hpayload]
    exact (Tape.payload_extend compiled.tape framebulks).symm
  · intro line flaw hfault
    rw [hfault] at hparse
    rw [ofSource, hparse]
    rfl
  · intro fault hfault
    exact exists_flaw_of_parseLines hfault

theorem shortSource_continued :
    ofSource standardSentinel (shortSource ++ "// more\na-|---|0|5|") =
        .ok
          { tape := shortTape.extend [⟨5, ⟨0⟩, ⟨1⟩⟩]
            payload := shortTape.payload ++ Payload.encodeFramebulk ⟨5, ⟨0⟩, ⟨1⟩⟩ } ∧
      ofSource standardSentinel (shortSource ++ "\nframebulks\n") =
        .error (.framebulkFlaw 10 (.fieldCount 1)) := by
  have hend : shortSource.toList.getLast? = some '\n' := by decide +kernel
  have hmore : Timeline.parseLines (Line.ofSource "// more\na-|---|0|5|") =
      .ok [⟨5, ⟨0⟩, ⟨1⟩⟩] := by rfl
  have hsecond : Timeline.parseLines (Line.ofSource "\nframebulks\n") =
      .error (.framebulkFlaw 2 (.fieldCount 1)) := by rfl
  have hlength : (rows shortSource.toList).length = 8 := by decide +kernel
  constructor
  · rw [(ofSource_continued hend ofSource_shortSource _).1 _ hmore]
    rfl
  · rw [(ofSource_continued hend ofSource_shortSource _).2.1 2 _ hsecond, hlength]

end Compiled

end RaceTape
