import RaceTape.Proofs.Header.Setup
import RaceTape.Proofs.Timeline.Lines
import RaceTape.Tape.Basic

/-!
# The first fault decides

A source is read in three stages: the sentinel is looked for, the header before it is
checked, and the timeline after it is read row by row.  The first stage with a fault decides,
and in the timeline the first row with one; nothing behind that row matters.
-/

namespace RaceTape

open Header Text Timeline

/-!
## Where the header ends

A row ends the header if it says something and what it says is the sentinel.  The sections are then
those of the rows before it and after it.
-/

/-- The row ends the header: it says something, and what it says is the sentinel. -/
def EndsHeader (sentinel : String) (row : List Char) : Prop :=
  Line.IsFilled row ∧ Line.canonical row = lower (trim sentinel.toList)

instance (sentinel : String) (row : List Char) : Decidable (EndsHeader sentinel row) :=
  inferInstanceAs (Decidable (_ ∧ _))

namespace Sections

theorem cut?_eq_none {text : String} {lines : List Line}
    (h : forall line, line ∈ lines -> line.text ≠ text) : cut? text lines = none := by
  induction lines with
  | nil => rfl
  | cons line lines ih =>
      rw [cut?, if_neg (h line List.mem_cons_self),
        ih fun other hmem => h other (List.mem_cons_of_mem line hmem)]
      rfl

theorem cut?_append_cons {text : String} {front : List Line}
    (h : forall line, line ∈ front -> line.text ≠ text) {line : Line} (hline : line.text = text)
    (back : List Line) : cut? text (front ++ line :: back) = some ⟨front, line, back⟩ := by
  induction front with
  | nil => rw [List.nil_append, cut?, if_pos hline]
  | cons first front ih =>
      rw [List.cons_append, cut?, if_neg (h first List.mem_cons_self),
        ih fun other hmem => h other (List.mem_cons_of_mem first hmem)]
      rfl

theorem text_ne_of_not_endsHeader {sentinel : String} {rows : List (List Char)}
    (h : forall row, row ∈ rows -> ¬EndsHeader sentinel row) (n : Nat) :
    forall line, line ∈ Line.ofRowsFrom n rows -> line.text ≠ sentinelText sentinel := by
  intro line hmem htext
  rcases Line.exists_row_of_mem hmem with ⟨row, hrow, hfilled, hcanonical⟩
  rw [htext, sentinelText, String.ofList_inj] at hcanonical
  exact h row hrow ⟨hfilled, hcanonical.symm⟩

def atRow (rows : List (List Char)) (n : Nat) (row : List Char) : Sections :=
  { header := Line.ofRows (rows.take n)
    sentinel := ⟨n + 1, String.ofList (Line.canonical row)⟩
    timeline := Line.ofRowsFrom (n + 2) (rows.drop (n + 1)) }

theorem ofLines_of_firstRow {sentinel : String} {rows : List (List Char)} {n : Nat}
    {row : List Char} (h : FirstRow (EndsHeader sentinel) rows 0 n row) :
    ofLines sentinel (Line.ofRows rows) = .ok (atRow rows n row) := by
  have hbefore := text_ne_of_not_endsHeader (fun other hmem => h.not_of_mem_take hmem) 1
  have htext : String.ofList (Line.canonical row) = sentinelText sentinel := by
    rw [h.holds.2]
    rfl
  have hlength : (rows.take n).length = n := List.length_take_of_le (Nat.le_of_lt h.lt_length)
  have hlines : Line.ofRows rows =
      Line.ofRowsFrom 1 (rows.take n) ++ ⟨n + 1, String.ofList (Line.canonical row)⟩ ::
        Line.ofRowsFrom (n + 2) (rows.drop (n + 1)) := by
    calc
      Line.ofRows rows = Line.ofRowsFrom 1 (rows.take n ++ row :: rows.drop (n + 1)) :=
        congrArg (Line.ofRowsFrom 1) h.eq_append
      _ = _ := by
        rw [Line.ofRowsFrom_append, hlength, Line.ofRowsFrom_cons_of_isFilled h.holds.1,
          Nat.add_comm 1]
  rw [ofLines, hlines, cut?_append_cons hbefore htext]
  rfl

theorem ofLines_of_not_endsHeader {sentinel : String} {rows : List (List Char)}
    (h : forall row, row ∈ rows -> ¬EndsHeader sentinel row) :
    ofLines sentinel (Line.ofRows rows) = .error (.sentinelNotFound (sentinelText sentinel)) := by
  rw [ofLines, Line.ofRows, cut?_eq_none (text_ne_of_not_endsHeader h 1)]

end Sections

/-!
## The three stages

What the header comes to depends on the rows before the sentinel alone.  A tape without a fault has
a framebulk for each row of its timeline that says something.
-/

namespace Compiled

/-- What the header of a source comes to when its sentinel is row `n`. -/
def headerResult (source : String) (n : Nat) : Except Fault Setup :=
  Setup.ofLines (Line.ofRows ((rows source.toList).take n))

/-- Rows `0` to `n - 1` of the two texts are the same. -/
def SameRows (n : Nat) (source other : String) : Prop :=
  (rows other.toList).take n = (rows source.toList).take n

theorem SameRows.of_le {source other : String} {m n : Nat} (h : SameRows n source other)
    (hle : m ≤ n) : SameRows m source other := by
  have htake := congrArg (List.take m) h
  rw [List.take_take, List.take_take, Nat.min_eq_left hle] at htake
  exact htake

theorem ofSource_eq_map (sentinel source : String) :
    ofSource sentinel source = (Tape.parse sentinel source).map ofTape := by
  rw [ofSource]
  cases Tape.parse sentinel source with
  | error fault => rfl
  | ok tape => rfl

section

variable {sentinel source : String} {n : Nat} {row : List Char}

theorem ofSource_of_firstRow
    (h : FirstRow (EndsHeader sentinel) (rows source.toList) 0 n row) :
    ofSource sentinel source =
      (Tape.ofSections (Sections.atRow (rows source.toList) n row)).map ofTape := by
  rw [ofSource_eq_map, Tape.parse, Tape.ofLines, Line.ofSource, Sections.ofLines_of_firstRow h]

theorem ofSource_of_no_sentinel
    (h : ¬exists n row, FirstRow (EndsHeader sentinel) (rows source.toList) 0 n row) :
    ofSource sentinel source =
      .error (.sentinelNotFound (Sections.sentinelText sentinel)) := by
  have hrows : forall row, row ∈ rows source.toList -> ¬EndsHeader sentinel row :=
    fun row hmem hrow => h (FirstRow.exists_of_mem hmem hrow)
  rw [ofSource, Tape.parse, Tape.ofLines, Line.ofSource,
    Sections.ofLines_of_not_endsHeader hrows]

theorem ofSource_of_header_error {fault : Fault}
    (h : FirstRow (EndsHeader sentinel) (rows source.toList) 0 n row)
    (hheader : headerResult source n = .error fault) :
    ofSource sentinel source = .error fault := by
  rw [headerResult] at hheader
  rw [ofSource_of_firstRow h, Tape.ofSections, Sections.atRow, hheader]
  rfl

theorem ofSource_of_rejected {setup : Setup} {k : Nat} {bad : List Char} {flaw : LineFlaw}
    (h : FirstRow (EndsHeader sentinel) (rows source.toList) 0 n row)
    (hheader : headerResult source n = .ok setup)
    (hbad : FirstRow IsRejected (rows source.toList) (n + 1) k bad)
    (hflaw : parseText (Line.canonical bad) = .error flaw) :
    ofSource sentinel source = .error (.framebulkFlaw (k + 1) flaw) := by
  rcases Nat.exists_eq_add_of_le hbad.bound with ⟨i, rfl⟩
  have hparse := parseLines_of_firstRow (FirstRow.drop_iff.mpr hbad) hflaw (n + 2)
  rw [headerResult] at hheader
  rw [ofSource_of_firstRow h, Tape.ofSections, Sections.atRow, hheader, hparse,
    Nat.add_right_comm (n + 1)]
  rfl

theorem ofSource_of_accepted {setup : Setup}
    (h : FirstRow (EndsHeader sentinel) (rows source.toList) 0 n row)
    (hheader : headerResult source n = .ok setup)
    (hnone : ¬exists k bad, FirstRow IsRejected (rows source.toList) (n + 1) k bad) :
    exists compiled, ofSource sentinel source = .ok compiled ∧
      compiled.tape.setup = setup ∧
      (((rows source.toList).drop (n + 1)).filter Line.IsFilled).map
          (fun row => parseText (Line.canonical row)) =
        compiled.tape.framebulks.map .ok := by
  have haccepted : forall row, row ∈ (rows source.toList).drop (n + 1) -> ¬IsRejected row := by
    intro row hmem hrow
    rcases FirstRow.exists_of_mem hmem hrow with ⟨k, bad, hbad⟩
    exact hnone ⟨_, bad, FirstRow.drop_iff.mp hbad⟩
  rcases parseLines_of_accepted haccepted (n + 2) with ⟨framebulks, hparse, hmap⟩
  rw [headerResult] at hheader
  rw [ofSource_of_firstRow h, Tape.ofSections, Sections.atRow, hheader, hparse]
  exact ⟨_, rfl, rfl, hmap⟩

theorem ofSource_cases (h : FirstRow (EndsHeader sentinel) (rows source.toList) 0 n row) :
    (exists fault, headerResult source n = .error fault ∧ fault.InHeader ∧
      ofSource sentinel source = .error fault) ∨
    (exists k bad flaw, FirstRow IsRejected (rows source.toList) (n + 1) k bad ∧
      parseText (Line.canonical bad) = .error flaw ∧
      ofSource sentinel source = .error (.framebulkFlaw (k + 1) flaw)) ∨
    (exists compiled, ofSource sentinel source = .ok compiled) := by
  cases hheader : headerResult source n with
  | error fault =>
      have hfault := Draft.faultsInHeader_check _ fault hheader
      exact Or.inl ⟨fault, rfl, hfault, ofSource_of_header_error h hheader⟩
  | ok setup =>
      by_cases hnone : exists k bad, FirstRow IsRejected (rows source.toList) (n + 1) k bad
      · rcases hnone with ⟨k, bad, hbad⟩
        rcases hbad.holds.2 with ⟨flaw, hflaw⟩
        exact Or.inr (Or.inl ⟨k, bad, flaw, hbad, hflaw, ofSource_of_rejected h hheader hbad hflaw⟩)
      · rcases ofSource_of_accepted h hheader hnone with ⟨compiled, hcompiled, _⟩
        exact Or.inr (Or.inr ⟨compiled, hcompiled⟩)

theorem exists_sentinelNotFound_iff (sentinel source : String) :
    (exists text, ofSource sentinel source = .error (.sentinelNotFound text)) ↔
      ¬exists n row, FirstRow (EndsHeader sentinel) (rows source.toList) 0 n row := by
  constructor
  · intro hfault hrow
    rcases hfault with ⟨text, hfault⟩
    rcases hrow with ⟨n, row, hrow⟩
    rcases ofSource_cases hrow with ⟨fault, _, hin, h⟩ | ⟨k, bad, flaw, _, _, h⟩ | ⟨compiled, h⟩
    · rw [h] at hfault
      cases hfault
      exact hin
    · rw [h] at hfault
      cases hfault
    · rw [h] at hfault
      cases hfault
  · intro hnone
    exact ⟨_, ofSource_of_no_sentinel hnone⟩

theorem exists_inHeader_iff
    (h : FirstRow (EndsHeader sentinel) (rows source.toList) 0 n row) :
    (exists fault : Fault, fault.InHeader ∧ ofSource sentinel source = .error fault) ↔
      exists fault, headerResult source n = .error fault := by
  constructor
  · intro hfault
    rcases hfault with ⟨fault, hin, hfault⟩
    rcases ofSource_cases h with ⟨found, hheader, _, _⟩ | ⟨k, bad, flaw, _, _, hsource⟩ |
      ⟨compiled, hsource⟩
    · exact ⟨found, hheader⟩
    · rw [hsource] at hfault
      cases hfault
      cases hin
    · rw [hsource] at hfault
      cases hfault
  · intro hheader
    rcases hheader with ⟨fault, hheader⟩
    exact ⟨fault, Draft.faultsInHeader_check _ fault hheader, ofSource_of_header_error h hheader⟩

theorem ofSource_eq_framebulkFlaw_iff {setup : Setup}
    (h : FirstRow (EndsHeader sentinel) (rows source.toList) 0 n row)
    (hheader : headerResult source n = .ok setup) (line : Nat) (flaw : LineFlaw) :
    ofSource sentinel source = .error (.framebulkFlaw line flaw) ↔
      exists k bad, FirstRow IsRejected (rows source.toList) (n + 1) k bad ∧
        parseText (Line.canonical bad) = .error flaw ∧ line = k + 1 := by
  constructor
  · intro hfault
    rcases ofSource_cases h with ⟨found, herror, _, _⟩ | ⟨k, bad, first, hbad, hflaw, hsource⟩ |
      ⟨compiled, hsource⟩
    · rw [hheader] at herror
      cases herror
    · rw [hsource] at hfault
      cases hfault
      exact ⟨k, bad, hbad, hflaw, rfl⟩
    · rw [hsource] at hfault
      cases hfault
  · intro hbad
    rcases hbad with ⟨k, bad, hbad, hflaw, rfl⟩
    exact ofSource_of_rejected h hheader hbad hflaw

end

/-!
## What does not matter

Rows are the same up to a row if all before it are.  In the source at the end, rows that say
nothing and a comment stand before the first rejected row.
-/

section

variable {sentinel source other : String} {n : Nat} {row : List Char}

theorem headerResult_congr (h : SameRows n source other) :
    headerResult other n = headerResult source n := by
  rw [headerResult, headerResult, h]

theorem ofSource_congr_of_header_error {fault : Fault}
    (h : FirstRow (EndsHeader sentinel) (rows source.toList) 0 n row)
    (hheader : headerResult source n = .error fault)
    (hsame : SameRows (n + 1) source other) : ofSource sentinel other = .error fault := by
  apply ofSource_of_header_error (h.congr_take hsame)
  rw [headerResult_congr (hsame.of_le (Nat.le_succ n))]
  exact hheader

theorem ofSource_congr_of_rejected {setup : Setup} {k : Nat} {bad : List Char}
    {flaw : LineFlaw} (h : FirstRow (EndsHeader sentinel) (rows source.toList) 0 n row)
    (hheader : headerResult source n = .ok setup)
    (hbad : FirstRow IsRejected (rows source.toList) (n + 1) k bad)
    (hflaw : parseText (Line.canonical bad) = .error flaw)
    (hsame : SameRows (k + 1) source other) :
    ofSource sentinel other = .error (.framebulkFlaw (k + 1) flaw) := by
  -- The rejected row stands behind the sentinel, so the rows up to the sentinel agree too.
  have hsentinel : SameRows (n + 1) source other :=
    hsame.of_le (Nat.le_succ_of_le hbad.bound)
  apply ofSource_of_rejected (h.congr_take hsentinel) _ (hbad.congr_take hsame) hflaw
  · exact setup
  · rw [headerResult_congr (hsentinel.of_le (Nat.le_succ n))]
    exact hheader

end

/--
The sentinel is the first row that says it; row `n` has the number `n + 1`.  Without a
sentinel, that is the fault.  With one, a fault of the header before it comes first, then
that of the first rejected row after it, and neither depends on what follows.  Without
either, every row of the timeline that says something gives one framebulk, in order.
-/
theorem first_fault_decides (sentinel source : String) :
    ((exists text, ofSource sentinel source = .error (.sentinelNotFound text)) ↔
      ¬exists n row, FirstRow (EndsHeader sentinel) (rows source.toList) 0 n row) ∧
    forall n row, FirstRow (EndsHeader sentinel) (rows source.toList) 0 n row ->
      ((exists fault : Fault, fault.InHeader ∧ ofSource sentinel source = .error fault) ↔
        exists fault, headerResult source n = .error fault) ∧
      (forall fault, headerResult source n = .error fault ->
        forall other, SameRows (n + 1) source other ->
          ofSource sentinel other = .error fault) ∧
      forall setup, headerResult source n = .ok setup ->
        (forall line flaw,
          ofSource sentinel source = .error (.framebulkFlaw line flaw) ↔
            exists k bad, FirstRow IsRejected (rows source.toList) (n + 1) k bad ∧
              parseText (Line.canonical bad) = .error flaw ∧ line = k + 1) ∧
        (forall k bad flaw, FirstRow IsRejected (rows source.toList) (n + 1) k bad ->
          parseText (Line.canonical bad) = .error flaw ->
            forall other, SameRows (k + 1) source other ->
              ofSource sentinel other = .error (.framebulkFlaw (k + 1) flaw)) ∧
        ((¬exists k bad, FirstRow IsRejected (rows source.toList) (n + 1) k bad) ->
          exists compiled, ofSource sentinel source = .ok compiled ∧
            compiled.tape.setup = setup ∧
            (((rows source.toList).drop (n + 1)).filter Line.IsFilled).map
                (fun row => parseText (Line.canonical row)) =
              compiled.tape.framebulks.map .ok) := by
  refine ⟨exists_sentinelNotFound_iff sentinel source, ?_⟩
  intro n row hrow
  refine ⟨exists_inHeader_iff hrow, ?_, ?_⟩
  · intro fault hheader other hsame
    exact ofSource_congr_of_header_error hrow hheader hsame
  · intro setup hheader
    refine ⟨ofSource_eq_framebulkFlaw_iff hrow hheader, ?_, ofSource_of_accepted hrow hheader⟩
    intro k bad flaw hbad hflaw other hsame
    exact ofSource_congr_of_rejected hrow hheader hbad hflaw hsame

def faultySource : String :=
  "map abyss\nkart_name tux\nnum_laps 1\ndifficulty 0\nframebulks\n\n// go\nbad\nworse"

theorem firstRow_sentinel_faultySource :
    FirstRow (EndsHeader standardSentinel) (rows faultySource.toList) 0 4 "framebulks".toList := by
  have hsentinel : EndsHeader standardSentinel "framebulks".toList := by decide
  apply FirstRow.succ_cons (by decide)
  apply FirstRow.succ_cons (by decide)
  apply FirstRow.succ_cons (by decide)
  apply FirstRow.succ_cons (by decide)
  exact FirstRow.zero_cons_of_holds hsentinel

theorem firstRow_rejected_faultySource :
    FirstRow IsRejected (rows faultySource.toList) 5 7 "bad".toList := by
  have hbad : IsRejected "bad".toList := ⟨by decide, .fieldCount 1, by rfl⟩
  show FirstRow IsRejected (rows faultySource.toList) 5 (5 + 2) "bad".toList
  apply FirstRow.drop_iff.mp
  apply FirstRow.succ_cons (fun h => absurd h.1 (by decide))
  apply FirstRow.succ_cons (fun h => absurd h.1 (by decide))
  exact FirstRow.zero_cons_of_holds hbad

theorem headerResult_faultySource : exists setup, headerResult faultySource 4 = .ok setup := by
  exact ⟨_, by rfl⟩

theorem first_fault_faultySource :
    ofSource standardSentinel faultySource = .error (.framebulkFlaw 8 (.fieldCount 1)) ∧
      forall other, SameRows 8 faultySource other ->
        ofSource standardSentinel other = .error (.framebulkFlaw 8 (.fieldCount 1)) := by
  have hflaw : parseText (Line.canonical "bad".toList) = .error (.fieldCount 1) := by rfl
  rcases headerResult_faultySource with ⟨setup, hheader⟩
  rcases (first_fault_decides standardSentinel faultySource).2 4 _
    firstRow_sentinel_faultySource with ⟨_, _, htimeline⟩
  rcases htimeline setup hheader with ⟨hfirst, hlater, _⟩
  constructor
  · exact (hfirst 8 _).mpr ⟨7, _, firstRow_rejected_faultySource, hflaw, rfl⟩
  · exact hlater 7 _ _ firstRow_rejected_faultySource hflaw

/-- A row that says nothing never ends the header, even if the sentinel is blank. -/
theorem blank_sentinel_not_found :
    (exists row, row ∈ rows "\n".toList ∧ Line.canonical row = lower (trim "".toList)) ∧
      ofSource "" "\n" = .error (.sentinelNotFound "") := by
  constructor
  · exact ⟨[], by decide, by rfl⟩
  · rfl

end Compiled

end RaceTape
