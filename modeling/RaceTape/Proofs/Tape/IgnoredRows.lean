import RaceTape.Proofs.Header.Draft
import RaceTape.Proofs.Tape.FirstFault
import RaceTape.Proofs.Tape.Rewriting
import Mathlib.Data.Finset.Insert

/-!
# Rows of the header that are ignored

A row of the header that sets no key gives a warning and nothing else, and a row whose key is
set again before the sentinel gives nothing at all.  So such rows can be emptied, any number of
them at once: only their own warnings are lost.
-/

namespace RaceTape

open Header Text Timeline

/-- The source with the rows under the given numbers emptied. -/
def blanked (numbers : Finset Nat) (source : String) : String :=
  String.ofList
    (rewriteRows (fun i row => if i + 1 ∈ numbers then [] else row) source.toList)

/-- The key that a row of the header sets. -/
def rowKey? (row : List Char) : Option Key :=
  entry? (String.ofList (Line.canonical row)) |>.map Prod.fst

/--
Of the first `n` rows, the one with the given number sets no key, or a key that one of them sets
again further down.
-/
def IsIdle (rows : List (List Char)) (n number : Nat) : Prop :=
  exists i row, number = i + 1 ∧ i < n ∧ rows[i]? = some row ∧
    (rowKey? row = none ∨
      exists key j later, rowKey? row = some key ∧ i < j ∧ j < n ∧ rows[j]? = some later ∧
        rowKey? later = some key)

/-!
## Lines that are left out
-/

namespace Line

theorem ofRowsFrom_blanked (numbers : Finset Nat) (n : Nat) (rows : List (List Char)) :
    ofRowsFrom n (rows.mapIdx fun i row => if i + n ∈ numbers then [] else row) =
      (ofRowsFrom n rows).filter fun line => decide (line.number ∉ numbers) := by
  induction rows generalizing n with
  | nil => rfl
  | cons row rows ih =>
      have hindex : (fun i row => if i + 1 + n ∈ numbers then [] else row) =
          fun i (row : List Char) => if i + (n + 1) ∈ numbers then [] else row := by
        funext i row
        rw [Nat.add_assoc, Nat.add_comm 1]
      have hnil : ¬IsFilled [] := fun h => h rfl
      rw [List.mapIdx_cons, Nat.zero_add, hindex]
      by_cases hnumber : n ∈ numbers
      · rw [if_pos hnumber, ofRowsFrom_cons_of_not_isFilled hnil, ih]
        by_cases hrow : IsFilled row
        · rw [ofRowsFrom_cons_of_isFilled hrow, List.filter_cons_of_neg]
          simpa using hnumber
        · rw [ofRowsFrom_cons_of_not_isFilled hrow]
      · rw [if_neg hnumber]
        by_cases hrow : IsFilled row
        · rw [ofRowsFrom_cons_of_isFilled hrow, ofRowsFrom_cons_of_isFilled hrow, ih,
            List.filter_cons_of_pos]
          simpa using hnumber
        · rw [ofRowsFrom_cons_of_not_isFilled hrow, ofRowsFrom_cons_of_not_isFilled hrow, ih]

theorem ofSource_blanked_lines (numbers : Finset Nat) (source : String) :
    ofSource (blanked numbers source) =
      (ofSource source).filter fun line => decide (line.number ∉ numbers) := by
  rw [blanked, ofSource_rewriteRows]
  · exact ofRowsFrom_blanked numbers 1 (rows source.toList)
  · intro i row hrow
    split
    · exact List.not_mem_nil
    · exact hrow

end Line

namespace Sections

theorem cut?_filter {text : String} {kept : Line -> Bool} {lines : List Line} {s : Sections}
    (h : cut? text lines = some s) (hkept : kept s.sentinel = true) :
    cut? text (lines.filter kept) =
      some ⟨s.header.filter kept, s.sentinel, s.timeline.filter kept⟩ := by
  induction lines generalizing s with
  | nil => cases h
  | cons line lines ih =>
      rw [cut?] at h
      by_cases hline : line.text = text
      · rw [if_pos hline] at h
        cases h
        rw [List.filter_cons_of_pos hkept, cut?, if_pos hline]
        rfl
      · rw [if_neg hline] at h
        rcases Option.map_eq_some_iff.mp h with ⟨found, hfound, rfl⟩
        have hrest := ih hfound hkept
        rw [List.filter_cons]
        split
        · next hfirst =>
            rw [cut?, if_neg hline, hrest]
            show some _ = some _
            rw [List.filter_cons_of_pos hfirst]
        · next hfirst =>
            rw [hrest, List.filter_cons_of_neg hfirst]

end Sections

/-!
## Rows that are idle

A row of the header is idle if it sets no key, or a key that a row further down sets again.
-/

theorem rowKey?_eq_some_iff {row : List Char} {key : Key} :
    rowKey? row = some key ↔
      exists value, entry? (String.ofList (Line.canonical row)) = some (key, value) := by
  rw [rowKey?, Option.map_eq_some_iff]
  constructor
  · intro h
    rcases h with ⟨⟨found, value⟩, hentry, rfl⟩
    exact ⟨value, hentry⟩
  · intro h
    rcases h with ⟨value, hentry⟩
    exact ⟨(key, value), hentry, rfl⟩

theorem isFilled_of_rowKey? {row : List Char} {key : Key} (h : rowKey? row = some key) :
    Line.IsFilled row := by
  intro hnil
  rw [rowKey?, hnil] at h
  cases h

section

variable {rows : List (List Char)} {n : Nat} {numbers : Finset Nat}

theorem lt_of_mem_idle (h : forall number, number ∈ numbers -> IsIdle rows n number) {number : Nat}
    (hnumber : n < number) : number ∉ numbers := by
  intro hmem
  rcases h number hmem with ⟨i, row, hi, hlt, _⟩
  exact absurd (Nat.lt_of_lt_of_eq hnumber hi) (Nat.not_lt_of_le hlt)

theorem overridden_of_isIdle (h : forall number, number ∈ numbers -> IsIdle rows n number) :
    Overridden (fun line => decide (line.number ∉ numbers)) (Line.ofRows (rows.take n)) := by
  intro line hline hkept key hkey
  rcases Line.mem_ofRowsFrom_iff.mp hline with ⟨i, row, hrow, _, rfl⟩
  rw [decide_eq_false_iff_not, not_not] at hkept
  rcases h _ hkept with ⟨k, other, hnumber, hk, hother, hidle⟩
  have hindex : k = i := by
    rw [Nat.add_comm] at hnumber
    exact (Nat.succ.inj hnumber).symm
  subst hindex
  rw [List.getElem?_take_of_lt hk, hother] at hrow
  cases hrow
  have hrowKey : rowKey? row = some key := rowKey?_eq_some_iff.mpr hkey
  rcases hidle with hnone | ⟨found, j, later, hfound, hlt, hj, hlater, hlaterKey⟩
  · rw [hrowKey] at hnone
    cases hnone
  · rw [hrowKey] at hfound
    cases hfound
    refine ⟨⟨1 + j, String.ofList (Line.canonical later)⟩, ?_, Nat.add_lt_add_left hlt 1,
      rowKey?_eq_some_iff.mp hlaterKey⟩
    apply Line.mem_ofRowsFrom_iff.mpr
    refine ⟨j, later, ?_, isFilled_of_rowKey? hlaterKey, rfl⟩
    rw [List.getElem?_take_of_lt hj]
    exact hlater

end

/-!
## What is compiled

In the source at the end, two rows set no key, and two give values that are not allowed and are
overridden.  These values are never seen, and the row behind the good value does not undo it.
-/

theorem Tape.ofSections_filter (kept : Nat -> Bool) {s : Sections}
    (horder : Line.InOrder s.header)
    (h : Overridden (fun line => kept line.number) s.header) :
    ofSections { s with header := s.header.filter fun line => kept line.number } =
      (ofSections s).map fun tape =>
        { tape with warnings := tape.warnings.filter fun w => kept w.line } := by
  have hsetup : Setup.ofLines (s.header.filter fun line => kept line.number) =
      Setup.ofLines s.header := by
    rw [Setup.ofLines, Draft.ofLines_filter horder h]
    rfl
  rw [ofSections, ofSections, hsetup, warnings_filter]
  cases Setup.ofLines s.header with
  | error fault => rfl
  | ok setup =>
      cases Timeline.parseLines s.timeline with
      | error fault => rfl
      | ok framebulks => rfl

namespace Compiled

/-- The same tape and payload without the warnings of the rows under the given numbers. -/
def withoutWarnings (numbers : Finset Nat) (compiled : Compiled) : Compiled :=
  { compiled with
    tape :=
      { compiled.tape with
        warnings := compiled.tape.warnings.filter fun w => decide (w.line ∉ numbers) } }

section

variable {sentinel source : String} {n : Nat} {row : List Char}

theorem ofLines_blanked (h : FirstRow (EndsHeader sentinel) (rows source.toList) 0 n row)
    {numbers : Finset Nat}
    (hidle : forall number, number ∈ numbers -> IsIdle (rows source.toList) n number) :
    Sections.ofLines sentinel (Line.ofSource (blanked numbers source)) =
      .ok
        { Sections.atRow (rows source.toList) n row with
          header :=
            (Line.ofRows ((rows source.toList).take n)).filter fun line =>
              decide (line.number ∉ numbers) } := by
  have hsections := Sections.ofLines_of_firstRow h
  rw [Sections.ofLines] at hsections
  split at hsections
  · next s hcut =>
      cases hsections
      have hsentinel : decide (n + 1 ∉ numbers) = true :=
        decide_eq_true (lt_of_mem_idle hidle (Nat.lt_succ_self n))
      have htimeline : (Line.ofRowsFrom (n + 2) ((rows source.toList).drop (n + 1))).filter
          (fun line => decide (line.number ∉ numbers)) =
            Line.ofRowsFrom (n + 2) ((rows source.toList).drop (n + 1)) := by
        apply List.filter_eq_self.mpr
        intro line hline
        rcases Line.mem_ofRowsFrom_iff.mp hline with ⟨i, other, _, _, rfl⟩
        exact decide_eq_true (lt_of_mem_idle hidle (by show n < n + 2 + i; omega))
      rw [Sections.ofLines, Line.ofSource_blanked_lines, Line.ofSource,
        Sections.cut?_filter hcut hsentinel]
      show Except.ok (Sections.mk _ _ _) = _
      rw [Sections.atRow, htimeline]
  · cases hsections

theorem ofSource_of_blanked (h : FirstRow (EndsHeader sentinel) (rows source.toList) 0 n row)
    {numbers : Finset Nat}
    (hidle : forall number, number ∈ numbers -> IsIdle (rows source.toList) n number) :
    ofSource sentinel (blanked numbers source) =
      (ofSource sentinel source).map (withoutWarnings numbers) := by
  have hfilter := Tape.ofSections_filter (fun number => decide (number ∉ numbers))
    (s := Sections.atRow (rows source.toList) n row) (Line.inOrder_ofRowsFrom 1 _)
    (overridden_of_isIdle hidle)
  rw [ofSource_of_firstRow h, ofSource_eq_map, Tape.parse, Tape.ofLines, ofLines_blanked h hidle]
  refine (congrArg (Except.map ofTape) hfilter).trans ?_
  -- The payload is made from the setup and the framebulks, so it does not see the warnings.
  cases Tape.ofSections (Sections.atRow (rows source.toList) n row) with
  | error fault => rfl
  | ok tape => rfl

theorem warnings_of_ofSource (h : FirstRow (EndsHeader sentinel) (rows source.toList) 0 n row)
    {compiled : Compiled} (hcompiled : ofSource sentinel source = .ok compiled) :
    compiled.tape.warnings = Header.warnings (Line.ofRows ((rows source.toList).take n)) := by
  rw [ofSource_of_firstRow h] at hcompiled
  cases hsections : Tape.ofSections (Sections.atRow (rows source.toList) n row) with
  | error fault =>
      rw [hsections] at hcompiled
      cases hcompiled
  | ok tape =>
      rw [hsections] at hcompiled
      cases hcompiled
      exact ((Tape.ofSections_eq_ok_iff _ _).mp hsections).2.2

theorem mem_headerWarnings_iff {rows : List (List Char)} {w : Warning} :
    w ∈ Header.warnings (Line.ofRows (rows.take n)) ↔
      exists i other, i < n ∧ rows[i]? = some other ∧ Line.IsFilled other ∧
        entry? (String.ofList (Line.canonical other)) = none ∧
        w = ⟨i + 1, String.ofList (Line.canonical other)⟩ := by
  rw [mem_warnings_iff]
  constructor
  · intro h
    rcases h with ⟨line, hline, hentry, rfl⟩
    rcases Line.mem_ofRowsFrom_iff.mp hline with ⟨i, other, hother, hfilled, rfl⟩
    rw [List.getElem?_take] at hother
    rcases Option.ite_none_right_eq_some.mp hother with ⟨hlt, hother⟩
    exact ⟨i, other, hlt, hother, hfilled, hentry, by rw [Nat.add_comm]⟩
  · intro h
    rcases h with ⟨i, other, hlt, hother, hfilled, hentry, rfl⟩
    refine ⟨⟨1 + i, _⟩, Line.mem_ofRowsFrom_iff.mpr ⟨i, other, ?_, hfilled, rfl⟩, hentry, ?_⟩
    · rw [List.getElem?_take_of_lt hlt]
      exact hother
    · rw [Nat.add_comm]

end

/--
Let the sentinel be row `n`.  If any idle rows before it are emptied, the outcome is the same
fault, or the same tape and payload without the warnings of these rows.  The warnings of a tape
are those of the rows before the sentinel that say something but set no key, in order, each with
the number and the canonical text of its row.
-/
theorem idle_rows_are_ignored {sentinel source : String} {n : Nat} {row : List Char}
    (h : FirstRow (EndsHeader sentinel) (rows source.toList) 0 n row) :
    (forall numbers : Finset Nat,
      (forall number, number ∈ numbers -> IsIdle (rows source.toList) n number) ->
        ofSource sentinel (blanked numbers source) =
          (ofSource sentinel source).map (withoutWarnings numbers)) ∧
    forall compiled, ofSource sentinel source = .ok compiled ->
      (forall w, w ∈ compiled.tape.warnings ↔
        exists i other, i < n ∧ (rows source.toList)[i]? = some other ∧ Line.IsFilled other ∧
          entry? (String.ofList (Line.canonical other)) = none ∧
          w = ⟨i + 1, String.ofList (Line.canonical other)⟩) ∧
      compiled.tape.warnings.Pairwise fun w later => w.line < later.line := by
  constructor
  · intro numbers hidle
    exact ofSource_of_blanked h hidle
  · intro compiled hcompiled
    rw [warnings_of_ofSource h hcompiled]
    constructor
    · intro w
      exact mem_headerWarnings_iff
    · exact pairwise_warnings (Line.inOrder_ofRowsFrom 1 _)

def repeatedRows : List String :=
  ["Laps = 3", "map = nowhere", "num_laps = 0 // later", "kart_name tux", "map abyss",
   "num_laps 2", "difficulty 1", "map abyss again", "framebulks", "playspeed 2"]

def repeatedSource : String :=
  "\n".intercalate repeatedRows

def repeatedTape (warnings : List Warning) : Tape :=
  { setup :=
      { track := "abyss"
        kart := "tux"
        laps := 2
        difficulty := 1
        opponents := 0
        quickReset := false }
    framebulks := [⟨0, ⟨0x40000000⟩, ⟨32⟩⟩]
    warnings }

theorem rows_repeatedSource :
    rows repeatedSource.toList = repeatedRows.map String.toList := by
  decide +kernel

theorem firstRow_repeatedSource :
    FirstRow (EndsHeader standardSentinel) (rows repeatedSource.toList) 0 8
      "framebulks".toList := by
  rw [rows_repeatedSource]
  exact FirstRow.of_forall_take rfl (by decide) (by decide)

theorem isIdle_repeatedSource (number : Nat) (h : number ∈ ({1, 2, 3} : Finset Nat)) :
    IsIdle (rows repeatedSource.toList) 8 number := by
  rw [rows_repeatedSource]
  simp only [Finset.mem_insert, Finset.mem_singleton] at h
  rcases h with rfl | rfl | rfl
  · exact ⟨0, _, rfl, by decide, rfl, Or.inl (by decide)⟩
  · exact ⟨1, _, rfl, by decide, rfl,
      Or.inr ⟨.track, 4, _, by decide, by decide, by decide, rfl, by decide⟩⟩
  · exact ⟨2, _, rfl, by decide, rfl,
      Or.inr ⟨.laps, 5, _, by decide, by decide, by decide, rfl, by decide⟩⟩

theorem ofSource_repeatedSource :
    ofSource standardSentinel repeatedSource =
      .ok (ofTape (repeatedTape [⟨1, "laps = 3"⟩, ⟨8, "map abyss again"⟩])) := by
  apply toOption_eq_some_iff.mp
  decide +kernel

theorem idle_rows_repeatedSource :
    ofSource standardSentinel (blanked {1, 2, 3} repeatedSource) =
      .ok (ofTape (repeatedTape [⟨8, "map abyss again"⟩])) := by
  rw [(idle_rows_are_ignored firstRow_repeatedSource).1 _ isIdle_repeatedSource,
    ofSource_repeatedSource]
  rfl

end Compiled

end RaceTape
