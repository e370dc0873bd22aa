import RaceTape.Proofs.Tape.FirstFault
import RaceTape.Proofs.Tape.NormalForm

/-!
# Sentinels with several words

A row is brought to its canonical text before it is compared with the sentinel, and the sentinel
is only trimmed and lower-cased.  For a sentinel that is written with single spaces the two come
to the same: it ends the header in the first row that says what it says.  A sentinel that is
written with other blanks between its words is the canonical text of no row, not even of its own,
so it is never found.
-/

namespace RaceTape

open Text

namespace Line

theorem canonical_of_isSpaced {row : List Char} (hplain : IsPlain row)
    (h : IsSpaced (trim row)) : canonical row = lower (trim row) := by
  rw [canonical, beforeComment_of_isPlain hplain, ← singleSpaced_trim, h.singleSpaced_eq]

theorem canonical_ne_of_not_isSpaced {text : List Char} (h : ¬IsSpaced text) (row : List Char) :
    canonical row ≠ lower text := by
  intro hcanonical
  have hspaced := (isNormal_canonical row).spaced
  rw [hcanonical] at hspaced
  exact h (isSpaced_of_lower hspaced)

end Line

/-- The row says the same as the sentinel does when it is read as a row itself. -/
def SpellsSentinel (sentinel : String) (row : List Char) : Prop :=
  Line.canonical row = Line.canonical sentinel.toList

instance (sentinel : String) (row : List Char) : Decidable (SpellsSentinel sentinel row) :=
  inferInstanceAs (Decidable (_ = _))

section

variable {sentinel : String} (hplain : Line.IsPlain sentinel.toList)

include hplain

theorem endsHeader_iff_spellsSentinel (hfilled : Line.IsFilled sentinel.toList)
    (hspaced : IsSpaced (trim sentinel.toList)) (row : List Char) :
    EndsHeader sentinel row ↔ SpellsSentinel sentinel row := by
  rw [EndsHeader, SpellsSentinel, ← Line.canonical_of_isSpaced hplain hspaced]
  constructor
  · intro h
    exact h.2
  · intro h
    refine ⟨?_, h⟩
    rw [Line.IsFilled, h]
    exact hfilled

end

theorem not_endsHeader {sentinel : String} (h : ¬IsSpaced (trim sentinel.toList))
    (row : List Char) : ¬EndsHeader sentinel row :=
  fun hrow => Line.canonical_ne_of_not_isSpaced h row hrow.2

namespace Sections

theorem exists_ofLines_iff (sentinel : String) (rows : List (List Char)) :
    (exists sections, ofLines sentinel (Line.ofRows rows) = .ok sections) ↔
      exists row, row ∈ rows ∧ EndsHeader sentinel row := by
  constructor
  · rintro ⟨sections, h⟩
    rcases Classical.em (exists row, row ∈ rows ∧ EndsHeader sentinel row) with hrow | hnone
    · exact hrow
    · have hrows : forall row, row ∈ rows -> ¬EndsHeader sentinel row :=
        fun row hmem hrow => hnone ⟨row, hmem, hrow⟩
      rw [ofLines_of_not_endsHeader hrows] at h
      cases h
  · rintro ⟨row, hmem, hrow⟩
    rcases FirstRow.exists_of_mem hmem hrow with ⟨n, first, hfirst⟩
    exact ⟨_, ofLines_of_firstRow hfirst⟩

/--
A sentinel that is written with single spaces is found exactly in the sources with a row that says
the same, and the first such row is where the header ends; so it is found wherever it stands in a
row of its own.  Written with other blanks between its words it is found in no source.
-/
theorem found_iff_single_spaced (sentinel : String) (hplain : Line.IsPlain sentinel.toList)
    (hfilled : Line.IsFilled sentinel.toList) :
    (IsSpaced (trim sentinel.toList) ->
      forall source,
        ((exists sections, ofLines sentinel (Line.ofSource source) = .ok sections) ↔
          exists row, row ∈ rows source.toList ∧ SpellsSentinel sentinel row) ∧
        (forall n row, FirstRow (SpellsSentinel sentinel) (rows source.toList) 0 n row ->
          ofLines sentinel (Line.ofSource source) = .ok (atRow (rows source.toList) n row)) ∧
        (sentinel.toList ∈ rows source.toList ->
          forall text, Compiled.ofSource sentinel source ≠ .error (.sentinelNotFound text))) ∧
    (¬IsSpaced (trim sentinel.toList) ->
      forall source,
        ofLines sentinel (Line.ofSource source) =
          .error (.sentinelNotFound (sentinelText sentinel))) := by
  constructor
  · intro hspaced source
    have hrows : EndsHeader sentinel = SpellsSentinel sentinel :=
      funext fun row => propext (endsHeader_iff_spellsSentinel hplain hfilled hspaced row)
    refine ⟨?_, ?_, ?_⟩
    · rw [← hrows]
      exact exists_ofLines_iff sentinel (rows source.toList)
    · intro n row hfirst
      rw [← hrows] at hfirst
      exact ofLines_of_firstRow hfirst
    · intro hmem text hfault
      apply (Compiled.exists_sentinelNotFound_iff sentinel source).mp ⟨text, hfault⟩
      rw [hrows]
      exact FirstRow.exists_of_mem hmem rfl
  · intro hwide source
    exact ofLines_of_not_endsHeader fun row _ => not_endsHeader hwide row

def twoWordSource : String :=
  "map abyss\nEND\tHEADER // now\nend  header\n"

theorem found_twoWords :
    ofLines " End Header" (Line.ofSource twoWordSource) =
        .ok (atRow (rows twoWordSource.toList) 1 "END\tHEADER // now".toList) ∧
      ofLines "end  header" (Line.ofSource twoWordSource) =
        .error (.sentinelNotFound "end  header") := by
  have hspaced : IsSpaced (trim " End Header".toList) := by
    have htrim : trim " End Header".toList = singleSpaced "End Header".toList := by decide +kernel
    rw [htrim]
    exact isSpaced_singleSpaced _
  have hwide : ¬IsSpaced (trim "end  header".toList) := by
    intro h
    have hpair : [' ', ' '] <:+: trim "end  header".toList := by decide +kernel
    exact h.single hpair
  have hfirst : FirstRow (SpellsSentinel " End Header") (rows twoWordSource.toList) 0 1
      "END\tHEADER // now".toList := by
    apply FirstRow.succ_cons (by decide +kernel)
    exact FirstRow.zero_cons_of_holds (by decide +kernel)
  constructor
  · exact ((found_iff_single_spaced " End Header" (by decide +kernel) (by decide +kernel)).1
      hspaced twoWordSource).2.1 1 _ hfirst
  · exact (found_iff_single_spaced "end  header" (by decide +kernel) (by decide +kernel)).2 hwide
      twoWordSource

/-- The sentinel stands in a row of its own, letter by letter, and is not found. -/
theorem wide_sentinel_not_found :
    Line.IsPlain "end  header".toList ∧ Line.IsFilled "end  header".toList ∧
      "end  header".toList ∈ rows twoWordSource.toList ∧
      (exists row, row ∈ rows twoWordSource.toList ∧ SpellsSentinel "end  header" row) ∧
      ofLines "end  header" (Line.ofSource twoWordSource) =
        .error (.sentinelNotFound "end  header") := by
  refine ⟨by decide +kernel, by decide +kernel, by decide +kernel, ?_, ?_⟩
  · exact ⟨"end  header".toList, by decide +kernel, rfl⟩
  · rfl

end Sections

end RaceTape
