import RaceTape.Proofs.Tape.Rewriting
import RaceTape.Proofs.Text.Spacing

/-!
# The normal form of a tape

The canonical text of a row has no comment, no blanks but single spaces between its words, and
no capital letters, and such a text is its own canonical text.  So a source can be replaced by
the canonical texts of its rows, each in its place, and the same is compiled.
-/

namespace RaceTape

open Text

namespace Line

/-!
## Rows
-/

structure IsNormal (text : List Char) : Prop where
  plain : IsPlain text
  spaced : IsSpaced text
  lower_eq : lower text = text

theorem head?_beforeComment {row : List Char} {c : Char}
    (h : (beforeComment row).head? = some c) : row.head? = some c := by
  fun_cases beforeComment row with
  | case1 => cases h
  | case2 d row hslashes =>
      rw [beforeComment.eq_2 d row hslashes] at h
      exact h
  | case3 => cases h

theorem isPlain_beforeComment (row : List Char) : IsPlain (beforeComment row) := by
  fun_induction beforeComment row with
  | case1 => exact isPlain_nil
  | case2 c row hslashes ih =>
      refine noPair_cons_iff.mpr ⟨?_, ih⟩
      intro h
      rcases List.head?_eq_some_iff.mp (head?_beforeComment h.2) with ⟨back, hback⟩
      exact hslashes back h.1 hback
  | case3 => exact isPlain_nil

theorem isNormal_canonical (row : List Char) : IsNormal (canonical row) := by
  constructor
  · have hplain : NoPair '/' (beforeComment row) := isPlain_beforeComment row
    exact (noPair_singleSpaced (by decide) hplain).lower (by decide)
  · exact (isSpaced_singleSpaced (beforeComment row)).lower
  · exact lower_lower _

theorem IsNormal.canonical_eq {text : List Char} (h : IsNormal text) : canonical text = text := by
  rw [canonical, beforeComment_of_isPlain h.plain, h.spaced.singleSpaced_eq, h.lower_eq]

theorem canonical_canonical (row : List Char) : canonical (canonical row) = canonical row :=
  (isNormal_canonical row).canonical_eq

/-!
## Sources

In the canonical source every row is replaced by its canonical text.
-/

def canonicalSource (source : String) : String :=
  String.ofList (rewriteRows (fun _ row => canonical row) source.toList)

theorem not_mem_canonical (row : List Char) : '\n' ∉ canonical row := by
  intro hmem
  have hspace := (isNormal_canonical row).spaced.blanks '\n' hmem (by decide)
  exact absurd hspace (by decide)

theorem ofSource_canonicalSource (source : String) :
    ofSource (canonicalSource source) = ofSource source := by
  have hrows : (rows source.toList).mapIdx (fun _ row => canonical row) =
      (rows source.toList).map canonical := by
    apply List.mapIdx_eq_iff.mpr
    intro i
    exact List.getElem?_map
  have hcanonical : canonical ∘ canonical = canonical := funext canonical_canonical
  rw [canonicalSource, ofSource_rewriteRows fun _ row _ => not_mem_canonical row, hrows]
  apply ofRowsFrom_congr
  rw [List.map_map, hcanonical]

end Line

namespace Compiled

theorem ofSource_congr_of_lines {source other : String}
    (h : Line.ofSource source = Line.ofSource other) (sentinel : String) :
    ofSource sentinel source = ofSource sentinel other := by
  rw [ofSource, ofSource, Tape.parse, Tape.parse, h]

/--
The canonical text of a row is a normal form: it has no comment, no blanks but single spaces
inside, and no letter to lower-case, and it is its own canonical text.  A source with every row
replaced by its canonical text has the same lines, under the same numbers, and so compiles to
the same tape and payload or has the same fault.
-/
theorem rows_reach_normal_form :
    (forall row,
      Line.IsNormal (Line.canonical row) ∧
        Line.canonical (Line.canonical row) = Line.canonical row) ∧
    forall sentinel source,
      Line.ofSource (Line.canonicalSource source) = Line.ofSource source ∧
        ofSource sentinel (Line.canonicalSource source) = ofSource sentinel source := by
  constructor
  · intro row
    exact ⟨Line.isNormal_canonical row, Line.canonical_canonical row⟩
  · intro sentinel source
    have hlines := Line.ofSource_canonicalSource source
    exact ⟨hlines, ofSource_congr_of_lines hlines sentinel⟩

end Compiled

end RaceTape
