import RaceTape.Proofs.Tape.Invariant
import RaceTape.Proofs.Tape.Lines
import RaceTape.Proofs.Text.Casing
import Mathlib.Logic.Relation

/-!
# Layout and letter case

How a tape is laid out does not matter: blanks between words and around rows, comments, the
way rows end, and the case of letters can all be changed, and what is compiled stays the same
to the last number of a line.  Each change is made in one row, or is the same in all of them,
and keeps the canonical text of every row.
-/

namespace RaceTape

open Text

namespace Line

/-!
## Comments

A row is plain if it has no comment.  What follows a character that is no slash has its own
comment.
-/

def IsPlain (row : List Char) : Prop :=
  ¬['/', '/'] <:+: row

instance (row : List Char) : Decidable (IsPlain row) :=
  inferInstanceAs (Decidable (¬['/', '/'] <:+: row))

theorem isPlain_nil : IsPlain [] := by
  intro h
  cases List.eq_nil_of_infix_nil h

theorem isPlain_cons_iff {c : Char} {row : List Char} :
    IsPlain (c :: row) ↔ (forall back, c = '/' -> row = '/' :: back -> False) ∧ IsPlain row := by
  unfold IsPlain
  rw [List.infix_cons_iff, not_or]
  apply and_congr_left'
  constructor
  · intro h back hc hrow
    subst hc hrow
    exact h (List.prefix_append ['/', '/'] back)
  · intro h hprefix
    rcases hprefix with ⟨back, hback⟩
    injection hback with hc hrow
    exact h back hc.symm hrow.symm

theorem beforeComment_of_isPlain {row : List Char} (h : IsPlain row) :
    beforeComment row = row := by
  induction row with
  | nil => rfl
  | cons c row ih =>
      rcases isPlain_cons_iff.mp h with ⟨hslashes, hrow⟩
      rw [beforeComment.eq_2 c row hslashes, ih hrow]

theorem beforeComment_append_cons {row : List Char} (h : IsPlain row) {c : Char}
    (hc : c ≠ '/') (back : List Char) :
    beforeComment (row ++ c :: back) = row ++ c :: beforeComment back := by
  induction row with
  | nil => exact beforeComment.eq_2 c back fun _ hslash _ => hc hslash
  | cons first row ih =>
      rcases isPlain_cons_iff.mp h with ⟨hslashes, hrow⟩
      rw [List.cons_append, beforeComment.eq_2, ih hrow]
      · rfl
      · intro rest hfirst hrest
        cases row with
        | nil =>
            injection hrest with hslash _
            exact hc hslash
        | cons second row =>
            injection hrest with hsecond _
            exact hslashes row hfirst (by rw [hsecond])

theorem beforeComment_append_of_not_isPlain {row : List Char} (h : ¬IsPlain row)
    (back : List Char) : beforeComment (row ++ back) = beforeComment row := by
  fun_induction beforeComment row with
  | case1 rest => rfl
  | case2 c row hslashes ih =>
      have hrow : ¬IsPlain row := fun hplain => h (isPlain_cons_iff.mpr ⟨hslashes, hplain⟩)
      rw [List.cons_append, beforeComment.eq_2, ih hrow]
      intro rest hc hrest
      cases row with
      | nil => exact hrow isPlain_nil
      | cons second row =>
          injection hrest with hsecond _
          exact hslashes row hc (by rw [hsecond])
  | case3 => exact absurd isPlain_nil h

theorem ne_slash_of_isBlank {c : Char} (h : isBlank c = true) : c ≠ '/' := by
  intro hslash
  rw [hslash] at h
  cases h

theorem beforeComment_blanks_append {run : List Char} (hrun : IsBlankText run)
    (back : List Char) : beforeComment (run ++ back) = run ++ beforeComment back := by
  induction run with
  | nil => rfl
  | cons c run ih =>
      have hc := ne_slash_of_isBlank (hrun c List.mem_cons_self)
      rw [List.cons_append, beforeComment.eq_2 c _ fun _ hslash _ => hc hslash, ih hrun.tail]
      rfl

theorem beforeComment_gap {row : List Char} (h : IsPlain row) {run : List Char}
    (hrun : IsBlankText run) (hne : run ≠ []) (back : List Char) :
    beforeComment (row ++ (run ++ back)) = row ++ (run ++ beforeComment back) := by
  cases run with
  | nil => exact absurd rfl hne
  | cons c run =>
      have hc := ne_slash_of_isBlank (hrun c List.mem_cons_self)
      rw [List.cons_append, beforeComment_append_cons h hc, beforeComment_blanks_append hrun.tail]
      rfl

theorem beforeComment_map_toLower (row : List Char) :
    beforeComment (row.map Char.toLower) = (beforeComment row).map Char.toLower := by
  have hslash : forall c : Char, c.toLower = '/' ↔ c = '/' := toLower_eq_iff (by decide)
  fun_induction beforeComment row with
  | case1 back => rfl
  | case2 c row hslashes ih =>
      rw [List.map_cons, beforeComment.eq_2, ih]
      · rfl
      · intro back hc hrow
        cases row with
        | nil => cases hrow
        | cons second row =>
            injection hrow with hsecond _
            exact hslashes row ((hslash c).mp hc) (by rw [(hslash second).mp hsecond])
  | case3 => rfl

/-!
## Rows with the same canonical text

One gap between words is as good as another, and a comment behind a row that has none says nothing.
-/

theorem canonical_congr {row other : List Char}
    (h : words (beforeComment row) = words (beforeComment other)) :
    canonical row = canonical other := by
  rw [canonical, canonical, singleSpaced, singleSpaced, h]

theorem canonical_gap {run other : List Char} (hrun : IsBlankText run) (hrunNe : run ≠ [])
    (hother : IsBlankText other) (hotherNe : other ≠ []) (front back : List Char) :
    canonical (front ++ (run ++ back)) = canonical (front ++ (other ++ back)) := by
  apply canonical_congr
  by_cases hfront : IsPlain front
  · rw [beforeComment_gap hfront hrun hrunNe, beforeComment_gap hfront hother hotherNe,
      words_gap hrun hrunNe, words_gap hother hotherNe]
  · rw [beforeComment_append_of_not_isPlain hfront, beforeComment_append_of_not_isPlain hfront]

theorem canonical_blanks_append {run : List Char} (hrun : IsBlankText run) (row : List Char) :
    canonical (run ++ row) = canonical row := by
  apply canonical_congr
  rw [beforeComment_blanks_append hrun, words_blanks_append hrun]

theorem canonical_append_blanks {run : List Char} (hrun : IsBlankText run) (row : List Char) :
    canonical (row ++ run) = canonical row := by
  apply canonical_congr
  by_cases hrow : IsPlain row
  · cases run with
    | nil => rw [List.append_nil]
    | cons c run =>
        have hgap := beforeComment_gap hrow hrun (List.cons_ne_nil c run) []
        have hnil : beforeComment [] = [] := rfl
        rw [hnil, List.append_nil] at hgap
        rw [hgap, beforeComment_of_isPlain hrow]
        exact words_append_blanks hrun row
  · rw [beforeComment_append_of_not_isPlain hrow]

theorem canonical_append_comment {row : List Char} (h : IsPlain row) (text : List Char) :
    canonical (row ++ ' ' :: '/' :: '/' :: text) = canonical row := by
  have hspace : IsBlankText [' '] := by
    intro c hc
    rw [List.mem_singleton.mp hc]
    rfl
  apply canonical_congr
  rw [beforeComment_append_cons h (by decide), beforeComment_of_isPlain h]
  exact words_append_blanks hspace row

theorem canonical_map_toLower (row : List Char) :
    canonical (row.map Char.toLower) = canonical row := by
  rw [canonical, beforeComment_map_toLower, singleSpaced_map isBlank_toLower rfl,
    lower_map_toLower]
  rfl

/-!
## Lines of a text

The lines among rows are told by the canonical texts of the rows.  Cutting at line feeds alone
gives other rows, but the same lines.
-/

theorem ofRowsFrom_congr {rows others : List (List Char)}
    (h : rows.map canonical = others.map canonical) (n : Nat) :
    ofRowsFrom n rows = ofRowsFrom n others := by
  induction rows generalizing others n with
  | nil =>
      cases others with
      | nil => rfl
      | cons other others => cases h
  | cons row rows ih =>
      cases others with
      | nil => cases h
      | cons other others =>
          injection h with hrow hrows
          rw [ofRowsFrom, ofRowsFrom, hrow, ih hrows]

theorem isBlankText_return : IsBlankText ['\r'] := by
  intro c hc
  rw [List.mem_singleton.mp hc]
  rfl

theorem canonical_dropReturn (row : List Char) :
    canonical (dropReturn row).reverse = canonical row.reverse := by
  unfold dropReturn
  split
  · next row =>
      rw [List.reverse_cons]
      exact (canonical_append_blanks isBlankText_return row.reverse).symm
  · rfl

theorem ofRowsFrom_rowsFrom {row : List Char} (hrow : '\n' ∉ row) (text : List Char) (n : Nat) :
    ofRowsFrom n (rowsFrom row text) =
      ofRowsFrom n ((row.reverse ++ text).splitOn '\n') := by
  induction text generalizing row n with
  | nil =>
      rw [List.append_nil, List.splitOn_eq_singleton (by rwa [List.mem_reverse]), rowsFrom]
      cases row with
      | nil => rfl
      | cons c row => rfl
  | cons c text ih =>
      rw [rowsFrom]
      by_cases hc : c = '\n'
      · have hreverse : '\n' ∉ row.reverse := by rwa [List.mem_reverse]
        rw [if_pos hc, hc, List.splitOn_append_cons_self_of_not_mem hreverse]
        have hrest := ih (List.not_mem_nil) (n + 1)
        rw [List.reverse_nil, List.nil_append] at hrest
        rw [ofRowsFrom, ofRowsFrom, canonical_dropReturn, hrest]
      · have hnext : '\n' ∉ c :: row := by
          intro hmem
          rcases List.mem_cons.mp hmem with hnew | hold
          · exact hc hnew.symm
          · exact hrow hold
        rw [if_neg hc, ih hnext, List.reverse_cons, List.append_assoc]
        rfl

theorem ofSource_eq_splitOn (source : String) :
    ofSource source = ofRows (source.toList.splitOn '\n') :=
  ofRowsFrom_rowsFrom List.not_mem_nil source.toList 1

end Line

/-!
## Changes of layout

A change is made to blanks within a row, at the end of a row, or to the case of letters.  Each
constructor is one such change, with what comes before it and after it.
-/

namespace Layout

/-- The text ends where a row begins. -/
def EndsAtRow (front : List Char) : Prop :=
  front = [] ∨ exists before, front = before ++ ['\n']

/-- The text begins with the end of a row: there is nothing more, or a line feed, which may have a
carriage return before it. -/
def BeginsWithEnd (back : List Char) : Prop :=
  back = [] ∨ (exists after, back = '\n' :: after) ∨ exists after, back = '\r' :: '\n' :: after

def IsRun (run : List Char) : Prop :=
  IsBlankText run ∧ '\n' ∉ run

instance (run : List Char) : Decidable (IsRun run) :=
  inferInstanceAs (Decidable (IsBlankText run ∧ '\n' ∉ run))

inductive Edit : List Char -> List Char -> Prop where
  /-- Letters from A to Z are written in another case. -/
  | letterCase {text other : List Char} (same : SameLetters text other) : Edit text other
  /-- Blanks are replaced by other blanks. -/
  | blanks (front back : List Char) {run other : List Char} (run_isRun : IsRun run)
      (run_ne : run ≠ []) (other_isRun : IsRun other) (other_ne : other ≠ []) :
      Edit (front ++ (run ++ back)) (front ++ (other ++ back))
  /-- A row is indented. -/
  | rowStart {front : List Char} (front_ends : EndsAtRow front) {run : List Char}
      (run_isRun : IsRun run) (back : List Char) : Edit (front ++ back) (front ++ (run ++ back))
  /-- Blanks are added behind a row. -/
  | rowEnd (front : List Char) {run : List Char} (run_isRun : IsRun run) {back : List Char}
      (back_begins : BeginsWithEnd back) : Edit (front ++ back) (front ++ (run ++ back))
  /-- A comment is added to a row that has none. -/
  | comment {front row text back : List Char} (front_ends : EndsAtRow front)
      (row_whole : '\n' ∉ row) (row_isPlain : Line.IsPlain row) (text_whole : '\n' ∉ text)
      (back_begins : BeginsWithEnd back) :
      Edit (front ++ (row ++ back)) (front ++ (row ++ (' ' :: '/' :: '/' :: text ++ back)))
  /-- A row ends with a carriage return and a line feed instead of a line feed alone. -/
  | rowEnding (front back : List Char) : Edit (front ++ '\n' :: back) (front ++ '\r' :: '\n' :: back)

/-!
## The row that a change is in

Whatever follows a text continues the row that it breaks off in, and whatever comes before a text,
without a line feed, is continued by its first row.  So a change within a row changes that row
only, and its canonical text stays.
-/

theorem splitOn_of_endsAtRow {front : List Char} (h : EndsAtRow front) :
    exists before, forall back : List Char,
      (front ++ back).splitOn '\n' = before ++ back.splitOn '\n' := by
  rcases h with rfl | ⟨before, rfl⟩
  · exact ⟨[], fun back => rfl⟩
  · refine ⟨before.splitOn '\n', ?_⟩
    intro back
    rw [List.append_assoc, List.singleton_append, List.splitOn_append_cons_self]

theorem exists_open_row (front : List Char) :
    exists before row, '\n' ∉ row ∧ forall back : List Char,
      (front ++ back).splitOn '\n' = before ++ (row ++ back).splitOn '\n' := by
  by_cases hmem : '\n' ∈ front
  · rcases List.eq_append_cons_of_mem (List.mem_reverse.mpr hmem) with ⟨row, before, hfront, hrow⟩
    have hfront' : front = before.reverse ++ '\n' :: row.reverse := by
      rw [← List.reverse_reverse front, hfront, List.reverse_append, List.reverse_cons,
        List.append_assoc]
      rfl
    refine ⟨before.reverse.splitOn '\n', row.reverse, ?_, ?_⟩
    · rw [List.mem_reverse]
      exact hrow
    · intro back
      rw [hfront', List.append_assoc, List.cons_append, List.splitOn_append_cons_self]
  · exact ⟨[], front, hmem, fun back => rfl⟩

theorem exists_rest_of_row (back : List Char) :
    exists row after, forall front : List Char, '\n' ∉ front ->
      (front ++ back).splitOn '\n' = (front ++ row) :: after := by
  by_cases hmem : '\n' ∈ back
  · rcases List.eq_append_cons_of_mem hmem with ⟨row, after, rfl, hrow⟩
    refine ⟨row, after.splitOn '\n', ?_⟩
    intro front hfront
    have hwhole : '\n' ∉ front ++ row := List.not_mem_append hfront hrow
    rw [← List.append_assoc, List.splitOn_append_cons_self_of_not_mem hwhole]
  · refine ⟨back, [], ?_⟩
    intro front hfront
    exact List.splitOn_eq_singleton (List.not_mem_append hfront hmem)

theorem splitOn_of_beginsWithEnd {back : List Char} (h : BeginsWithEnd back) :
    exists row after, IsBlankText row ∧ forall front : List Char, '\n' ∉ front ->
      (front ++ back).splitOn '\n' = (front ++ row) :: after := by
  have hnil : IsBlankText [] := fun c hc => nomatch hc
  rcases h with rfl | ⟨after, rfl⟩ | ⟨after, rfl⟩
  · refine ⟨[], [], hnil, ?_⟩
    intro front hfront
    rw [List.append_nil]
    exact List.splitOn_eq_singleton hfront
  · refine ⟨[], after.splitOn '\n', hnil, ?_⟩
    intro front hfront
    rw [List.append_nil]
    exact List.splitOn_append_cons_self_of_not_mem hfront after
  · refine ⟨['\r'], after.splitOn '\n', Line.isBlankText_return, ?_⟩
    intro front hfront
    have hwhole : '\n' ∉ front ++ ['\r'] := List.not_mem_append hfront (by decide)
    rw [← List.splitOn_append_cons_self_of_not_mem hwhole, List.append_assoc]
    rfl

/-- The canonical texts of the rows of a text. -/
def canonicalRows (text : List Char) : List (List Char) :=
  (text.splitOn '\n').map Line.canonical

/-- A change within a row, between what comes before and after it, changes that row only. -/
theorem canonicalRows_congr {front back : List Char} {before after : List (List Char)}
    {first last part other : List Char} (hpart : '\n' ∉ part) (hother : '\n' ∉ other)
    (hfirst : '\n' ∉ first)
    (hfront : forall rest : List Char,
      (front ++ rest).splitOn '\n' = before ++ (first ++ rest).splitOn '\n')
    (hback : forall rest : List Char, '\n' ∉ rest ->
      (rest ++ back).splitOn '\n' = (rest ++ last) :: after)
    (hcanonical : Line.canonical (first ++ (part ++ last)) =
      Line.canonical (first ++ (other ++ last))) :
    canonicalRows (front ++ (part ++ back)) = canonicalRows (front ++ (other ++ back)) := by
  unfold canonicalRows
  rw [hfront, hfront, ← List.append_assoc first part, ← List.append_assoc first other,
    hback _ (List.not_mem_append hfirst hpart), hback _ (List.not_mem_append hfirst hother),
    List.map_append, List.map_append, List.map_cons, List.map_cons, List.append_assoc,
    List.append_assoc, hcanonical]

theorem canonicalRows_map_toLower (text : List Char) :
    canonicalRows (text.map Char.toLower) = canonicalRows text := by
  have hcut : forall c : Char, (c.toLower == '\n') = (c == '\n') := by
    intro c
    have hiff : c.toLower = '\n' ↔ c = '\n' := toLower_eq_iff (by decide) c
    rw [Bool.eq_iff_iff, beq_iff_eq, beq_iff_eq, hiff]
  unfold canonicalRows List.splitOn
  rw [splitOnP_map hcut, List.map_map]
  apply List.map_congr_left
  intro row _
  exact Line.canonical_map_toLower row

theorem canonicalRows_rowEnd (front : List Char) {run back : List Char} (hrun : IsRun run)
    (hback : BeginsWithEnd back) :
    canonicalRows (front ++ back) = canonicalRows (front ++ (run ++ back)) := by
  rcases exists_open_row front with ⟨before, first, hfirst, hfront⟩
  rcases splitOn_of_beginsWithEnd hback with ⟨last, after, hlast, hrest⟩
  have hcanonical : Line.canonical (first ++ last) = Line.canonical (first ++ (run ++ last)) := by
    rw [Line.canonical_append_blanks hlast, Line.canonical_append_blanks (hrun.1.append hlast)]
  exact canonicalRows_congr List.not_mem_nil hrun.2 hfirst hfront hrest hcanonical

theorem Edit.canonicalRows_eq {text other : List Char} (h : Edit text other) :
    canonicalRows text = canonicalRows other := by
  cases h with
  | letterCase same => rw [← canonicalRows_map_toLower text, same, canonicalRows_map_toLower]
  | blanks front back hrun hrunNe hother hotherNe =>
      rcases exists_open_row front with ⟨before, first, hfirst, hfront⟩
      rcases exists_rest_of_row back with ⟨last, after, hback⟩
      exact canonicalRows_congr hrun.2 hother.2 hfirst hfront hback
        (Line.canonical_gap hrun.1 hrunNe hother.1 hotherNe first last)
  | rowStart hends hrun back =>
      rcases splitOn_of_endsAtRow hends with ⟨before, hfront⟩
      rcases exists_rest_of_row back with ⟨last, after, hback⟩
      exact canonicalRows_congr List.not_mem_nil hrun.2 List.not_mem_nil hfront hback
        (Line.canonical_blanks_append hrun.1 last).symm
  | rowEnd front hrun hbegins => exact canonicalRows_rowEnd front hrun hbegins
  | @comment front row comment back hends hrow hplain hcomment hbegins =>
      rcases splitOn_of_endsAtRow hends with ⟨before, hfront⟩
      rcases splitOn_of_beginsWithEnd hbegins with ⟨last, after, hlast, hback⟩
      have hlong : '\n' ∉ row ++ ' ' :: '/' :: '/' :: comment := by
        apply List.not_mem_append hrow
        intro hmem
        simp only [List.mem_cons, Char.reduceEq, false_or] at hmem
        exact hcomment hmem
      have hcanonical : Line.canonical (row ++ last) =
          Line.canonical (row ++ ' ' :: '/' :: '/' :: comment ++ last) := by
        rw [Line.canonical_append_blanks hlast, List.append_assoc]
        exact (Line.canonical_append_comment hplain (comment ++ last)).symm
      have hrows := canonicalRows_congr hrow hlong List.not_mem_nil hfront hback hcanonical
      rw [List.append_assoc] at hrows
      exact hrows
  | rowEnding front back =>
      exact canonicalRows_rowEnd front ⟨Line.isBlankText_return, by decide⟩
        (Or.inr (Or.inl ⟨back, rfl⟩))

theorem canonicalRows_of_eqvGen {text other : List Char} (h : Relation.EqvGen Edit text other) :
    canonicalRows text = canonicalRows other := by
  induction h with
  | rel text other hedit => exact hedit.canonicalRows_eq
  | refl text => rfl
  | symm text other _ ih => exact ih.symm
  | trans text middle other _ _ ih ih' => exact ih.trans ih'

theorem eqvGen_row (first back : List Char) {key gap wide value comment : List Char}
    (hgap : IsRun gap) (hgap_ne : gap ≠ []) (hwide : IsRun wide) (hwide_ne : wide ≠ [])
    (hrow : '\n' ∉ key ++ (gap ++ value)) (hplain : Line.IsPlain (key ++ (gap ++ value)))
    (hcomment : '\n' ∉ comment) :
    Relation.EqvGen Edit
      (first ++ '\r' :: '\n' :: (key ++ (gap ++ (value ++ '\n' :: back))))
      (first ++ '\n' :: (key ++ (wide ++ (value ++ (' ' :: '/' :: '/' :: comment ++
        '\n' :: back))))) := by
  have hending := Edit.rowEnding first (key ++ (gap ++ (value ++ '\n' :: back)))
  have hadded := Edit.comment (Or.inr ⟨first, rfl⟩) hrow hplain hcomment
    (Or.inr (Or.inl ⟨back, rfl⟩))
  have hwider := Edit.blanks (first ++ '\n' :: key)
    (value ++ (' ' :: '/' :: '/' :: comment ++ '\n' :: back)) hgap hgap_ne hwide hwide_ne
  simp only [List.append_assoc, List.cons_append, List.nil_append] at hadded hwider ⊢
  exact .trans _ _ _ (.symm _ _ (.rel _ _ hending)) (.trans _ _ _ (.rel _ _ hadded)
    (.rel _ _ hwider))

end Layout

/-!
## What is compiled

The restyled source is the short tape in other letters.  Its first row ends in a line feed alone,
and its second row has a wider gap and a comment.
-/

theorem Line.ofSource_congr {source other : String}
    (h : Layout.canonicalRows source.toList = Layout.canonicalRows other.toList) :
    Line.ofSource source = Line.ofSource other := by
  rw [Line.ofSource_eq_splitOn, Line.ofSource_eq_splitOn]
  exact Line.ofRowsFrom_congr h 1

theorem Sections.sentinelText_congr {sentinel word : String}
    (h : SameLetters sentinel.toList word.toList) :
    Sections.sentinelText sentinel = Sections.sentinelText word := by
  rw [Sections.sentinelText, Sections.sentinelText, h.trim.lower_eq]

namespace Compiled

/--
Two sources that differ by any number of changes of layout, made or undone, compile to the
same tape, payload and warnings, or have the same fault.  Nor does the case of letters in the
sentinel matter.
-/
theorem ofSource_of_layout {sentinel word source other : String}
    (hsentinel : SameLetters sentinel.toList word.toList)
    (hsource : Relation.EqvGen Layout.Edit source.toList other.toList) :
    ofSource sentinel source = ofSource word other := by
  have hrows := Layout.canonicalRows_of_eqvGen hsource
  rw [ofSource, ofSource, Tape.parse, Tape.parse, Tape.ofLines, Tape.ofLines, Sections.ofLines,
    Sections.ofLines, Line.ofSource_congr hrows, Sections.sentinelText_congr hsentinel]

def restyledSource : String :=
  "MAP = 'Abyss' // NORTH\nkart_NAME\t　tux // FAST\nnum_laps: -1\ndifficulty=3\n\n" ++
    "FrameBULKS\naB|--S|-0.5|10|\nplayspeed 2\n"

theorem restyledSource_of_shortSource :
    Relation.EqvGen Layout.Edit shortSource.toList restyledSource.toList := by
  have hgap : Layout.IsRun [' '] := by decide
  have hwide : Layout.IsRun ['\t', '　'] := by decide
  have hwhole : '\n' ∉ "kart_name".toList ++ ([' '] ++ "tux".toList) := by decide +kernel
  have hplain : Line.IsPlain ("kart_name".toList ++ ([' '] ++ "tux".toList)) := by decide +kernel
  have hcomment : '\n' ∉ " fast".toList := by decide +kernel
  have hrow := Layout.eqvGen_row "map = 'abyss' // north".toList
    "num_laps: -1\ndifficulty=3\n\nframebulks\nab|--s|-0.5|10|\nplayspeed 2\n".toList
    hgap (List.cons_ne_nil _ _) hwide (List.cons_ne_nil _ _) hwhole hplain hcomment
  refine .trans _ _ _ (.rel _ _ (.letterCase ?_)) (.trans _ _ _ hrow (.rel _ _ (.letterCase ?_)))
  · decide +kernel
  · decide +kernel

theorem ofSource_restyledSource :
    ofSource "FRAMEbulks" restyledSource = .ok (ofTape shortTape) := by
  rw [← ofSource_of_layout (show SameLetters standardSentinel.toList "FRAMEbulks".toList by decide)
    restyledSource_of_shortSource]
  exact ofSource_shortSource

end Compiled

end RaceTape
