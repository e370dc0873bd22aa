import RaceTape.Proofs.Text.Utf8
import RaceTape.Text.Blank
import RaceTape.Text.Casing
import Mathlib.Data.List.Forall2

/-!
# Lower case as a normal form

The lower-case form of a letter has no other lower-case form, so what has been lower-cased
once stays as it is.  Nor has lower-casing to do with what a row is cut at: a blank or a slash
is kept, and no letter becomes one.

The letters are given in runs, and so are the facts about them: a run is compared with a whole
table at a time, never letter by letter.
-/

namespace RaceTape
namespace Text

/-!
## Runs that keep clear of a table

A run is held against ranges by its first and its last letter, and against another run also by its
step.
-/

def rangesMiss (low high : Nat) : List (Nat × Nat) -> Bool
  | [] => true
  | range :: rest =>
      Nat.ble (high + 1) range.1 || (Nat.ble (range.2 + 1) low && rangesMiss low high rest)

theorem inRanges_of_rangesMiss {low high n : Nat} {ranges : List (Nat × Nat)}
    (h : rangesMiss low high ranges = true) (hlow : low ≤ n) (hhigh : n ≤ high) :
    inRanges n ranges = false := by
  induction ranges with
  | nil => rfl
  | cons range rest ih =>
      rw [rangesMiss, Bool.or_eq_true, Bool.and_eq_true, Nat.ble_eq, Nat.ble_eq] at h
      rw [inRanges]
      rcases h with habove | ⟨hbelow, hrest⟩
      · rw [if_pos (Nat.lt_of_le_of_lt hhigh habove)]
      · rw [if_neg (Nat.not_le_of_lt (Nat.lt_of_lt_of_le hbelow hlow)), ih hrest, ite_self]

namespace CaseRun

def Holds (run : CaseRun) (n : Nat) : Prop :=
  run.first ≤ n ∧ n ≤ run.last ∧ (n - run.first) % run.step = 0

def small (run : CaseRun) (n : Nat) : Nat :=
  (Int.ofNat n + run.shift).toNat

end CaseRun

theorem lowerCode_cases (n : Nat) (runs : List CaseRun) :
    lowerCode n runs = n ∨
      exists run, run ∈ runs ∧ run.Holds n ∧ lowerCode n runs = run.small n := by
  induction runs with
  | nil => exact Or.inl rfl
  | cons run rest ih =>
      rw [lowerCode]
      split
      · exact Or.inl rfl
      · next hfirst =>
          split
          · next hheld =>
              rw [Bool.and_eq_true, decide_eq_true_eq, beq_iff_eq] at hheld
              exact Or.inr ⟨run, List.mem_cons_self, ⟨Nat.le_of_not_lt hfirst, hheld⟩, rfl⟩
          · rcases ih with hsame | ⟨other, hmem, hother⟩
            · exact Or.inl hsame
            · exact Or.inr ⟨other, List.mem_cons_of_mem run hmem, hother⟩

/--
No run holds a number from `low` to `high` in steps of `step`: the run lies elsewhere, or holds
every other number and these are the ones between.
-/
def runsMiss (low high step : Nat) : List CaseRun -> Bool
  | [] => true
  | run :: rest =>
      Nat.ble (high + 1) run.first ||
        ((Nat.ble (run.last + 1) low ||
            (Nat.beq run.step 2 && (Nat.beq step 2 || Nat.beq low high) &&
              Nat.beq ((low + run.first) % 2) 1)) &&
          runsMiss low high step rest)

theorem lowerCode_of_runsMiss {low high step n : Nat} {runs : List CaseRun}
    (h : runsMiss low high step runs = true) (hlow : low ≤ n) (hhigh : n ≤ high)
    (hstep : (n - low) % step = 0) : lowerCode n runs = n := by
  induction runs with
  | nil => rfl
  | cons run rest ih =>
      simp only [runsMiss, Bool.or_eq_true, Bool.and_eq_true, Nat.ble_eq, Nat.beq_eq] at h
      rw [lowerCode]
      rcases h with habove | ⟨helsewhere, hrest⟩
      · rw [if_pos (Nat.lt_of_le_of_lt hhigh habove)]
      · have hheld : ¬(decide (n ≤ run.last) && (n - run.first) % run.step == 0) = true ∨
            n < run.first := by
          rw [Bool.and_eq_true, decide_eq_true_eq, beq_iff_eq]
          rcases helsewhere with hbelow | ⟨⟨hrun, hsame⟩, hparity⟩
          · omega
          · have hn : n % 2 = low % 2 := by
              rcases hsame with hstep2 | hsingle
              · rw [hstep2] at hstep
                omega
              · omega
            rw [hrun]
            omega
        rcases hheld with hheld | hfirst
        · rw [if_neg hheld, ih hrest, ite_self]
        · rw [if_pos hfirst]

/-!
## The letters

A run is sound if its lower-case letters are letters that no run changes, and neither they nor the
capital letters are characters that rows are cut at.  Every form of a character then consists of
letters that stay as they are; for a fixed character and form this is evaluated.
-/

def IsSmall (c : Char) : Prop :=
  lowerChar c = [c]

instance (c : Char) : Decidable (IsSmall c) :=
  inferInstanceAs (Decidable (lowerChar c = [c]))

/-- The characters that rows are cut at. -/
def isDelimiter (c : Char) : Bool :=
  isBlank c || c == '/'

namespace CaseRun

def isSound (run : CaseRun) : Bool :=
  let low := run.small run.first
  let high := run.small run.last
  Nat.ble 0x30 run.first && Nat.ble 0x30 low && Nat.ble high 0x10FFFF &&
    rangesMiss run.first run.last blankRanges && rangesMiss low high blankRanges &&
    rangesMiss low high [(dottedCapitalI.toNat, dottedCapitalI.toNat), (0xD800, 0xDFFF)] &&
    runsMiss low high run.step capitalRuns

theorem isSound_of_mem {run : CaseRun} (h : run ∈ capitalRuns) : run.isSound = true := by
  have hall : capitalRuns.all isSound = true := by decide +kernel
  exact List.all_eq_true.mp hall run h

end CaseRun

structure LowersTo (c : Char) (piece : List Char) : Prop where
  ne_nil : piece ≠ []
  isSmall : forall d, d ∈ piece -> IsSmall d
  delimiters : piece = [c] ∨ isDelimiter c = false ∧ forall d, d ∈ piece -> isDelimiter d = false

theorem lowersTo_of_all {c : Char} {piece : List Char} (hne : piece ≠ [])
    (hc : isDelimiter c = false)
    (hpiece : (piece.all fun d => decide (IsSmall d) && !isDelimiter d) = true) :
    LowersTo c piece := by
  have hmem : forall d, d ∈ piece -> IsSmall d ∧ isDelimiter d = false := by
    intro d hd
    have hd := List.all_eq_true.mp hpiece d hd
    rwa [Bool.and_eq_true, decide_eq_true_eq, Bool.not_eq_true'] at hd
  exact ⟨hne, fun d hd => (hmem d hd).1, Or.inr ⟨hc, fun d hd => (hmem d hd).2⟩⟩

theorem isDelimiter_eq_false {c : Char} (hblank : inRanges c.toNat blankRanges = false)
    (hslash : 0x30 ≤ c.toNat) : isDelimiter c = false := by
  have hne : c ≠ '/' := by
    intro hc
    rw [hc] at hslash
    exact absurd hslash (by decide)
  rw [isDelimiter, isBlank, hblank, beq_false_of_ne hne]
  rfl

theorem CaseRun.small_bounds {run : CaseRun} {n : Nat} (hlow : 0 < run.small run.first)
    (h : run.Holds n) :
    run.small run.first ≤ run.small n ∧ run.small n ≤ run.small run.last ∧
      (run.small n - run.small run.first) % run.step = 0 := by
  rcases h with ⟨hge, hle, hstep⟩
  have hdistance : run.small n - run.small run.first = n - run.first := by
    simp only [small, Int.ofNat_eq_natCast] at hlow ⊢
    omega
  rw [hdistance]
  refine ⟨?_, ?_, hstep⟩
  · simp only [small, Int.ofNat_eq_natCast]
    omega
  · simp only [small, Int.ofNat_eq_natCast]
    omega

theorem isValidChar_of_inRanges {n : Nat}
    (h : inRanges n [(dottedCapitalI.toNat, dottedCapitalI.toNat), (0xD800, 0xDFFF)] = false)
    (hhigh : n ≤ 0x10FFFF) : n.isValidChar ∧ n ≠ dottedCapitalI.toNat := by
  have hdotted : dottedCapitalI.toNat = 0x130 := rfl
  simp only [inRanges, hdotted] at h ⊢
  simp only [Nat.isValidChar]
  split at h
  · omega
  · split at h
    · cases h
    · split at h
      · omega
      · split at h
        · cases h
        · omega

theorem lowersTo_of_holds {run : CaseRun} (hmem : run ∈ capitalRuns) {c : Char}
    (h : run.Holds c.toNat) : LowersTo c [Char.ofNat (run.small c.toNat)] := by
  have hsound := CaseRun.isSound_of_mem hmem
  simp only [CaseRun.isSound, Bool.and_eq_true, Nat.ble_eq] at hsound
  rcases hsound with ⟨⟨⟨⟨⟨⟨hfirst, hlow⟩, hhigh⟩, hcapital⟩, hsmall⟩, hspecial⟩, hruns⟩
  rcases CaseRun.small_bounds (by omega) h with ⟨hge, hle, hstep⟩
  rcases isValidChar_of_inRanges (inRanges_of_rangesMiss hspecial hge hle)
    (Nat.le_trans hle hhigh) with ⟨hvalid, hdotted⟩
  have htoNat := Utf8.toNat_ofNat_of_valid hvalid
  constructor
  · exact List.cons_ne_nil _ _
  · intro d hd
    have hne : Char.ofNat (run.small c.toNat) ≠ dottedCapitalI := by
      intro heq
      rw [← htoNat, heq] at hdotted
      exact hdotted rfl
    rw [List.mem_singleton.mp hd, IsSmall, lowerChar, if_neg hne, htoNat,
      lowerCode_of_runsMiss hruns hge hle hstep]
  · right
    constructor
    · exact isDelimiter_eq_false (inRanges_of_rangesMiss hcapital h.1 h.2.1)
        (Nat.le_trans hfirst h.1)
    · intro d hd
      rw [List.mem_singleton.mp hd]
      apply isDelimiter_eq_false
      · rw [htoNat]
        exact inRanges_of_rangesMiss hsmall hge hle
      · rw [htoNat]
        exact Nat.le_trans hlow hge

theorem lowersTo_lowerChar (c : Char) : LowersTo c (lowerChar c) := by
  by_cases hdotted : c = dottedCapitalI
  · rw [hdotted]
    exact lowersTo_of_all (List.cons_ne_nil _ _) rfl (by decide)
  · rcases lowerCode_cases c.toNat capitalRuns with hsame | ⟨run, hmem, hheld, hsmall⟩
    · have hpiece : lowerChar c = [c] := by
        rw [lowerChar, if_neg hdotted, hsame, Char.ofNat_toNat]
      rw [hpiece]
      refine ⟨List.cons_ne_nil c [], ?_, Or.inl rfl⟩
      intro d hd
      rw [List.mem_singleton.mp hd]
      exact hpiece
    · rw [lowerChar, if_neg hdotted, hsmall]
      exact lowersTo_of_holds hmem hheld

theorem lowersTo_lowerSigma (before after : List Char) :
    LowersTo capitalSigma [lowerSigma before after] := by
  unfold lowerSigma
  split
  · exact lowersTo_of_all (List.cons_ne_nil _ _) rfl (by decide)
  · exact lowersTo_of_all (List.cons_ne_nil _ _) rfl (by decide)

/-!
## Whole texts

A text is lower-cased piece by piece, one piece for each character.
-/

/-- A text is lower-cased piece by piece, one piece for each character. -/
theorem exists_pieces (before cs : List Char) :
    exists pieces, List.Forall₂ LowersTo cs pieces ∧ lowerFrom before cs = pieces.flatten := by
  induction cs generalizing before with
  | nil => exact ⟨[], .nil, rfl⟩
  | cons c cs ih =>
      rcases ih (c :: before) with ⟨pieces, hpieces, hrest⟩
      rw [lowerFrom, hrest]
      by_cases hsigma : c = capitalSigma
      · rw [if_pos hsigma, hsigma]
        exact ⟨_ :: pieces, .cons (lowersTo_lowerSigma before cs) hpieces, rfl⟩
      · rw [if_neg hsigma]
        exact ⟨_ :: pieces, .cons (lowersTo_lowerChar c) hpieces, rfl⟩

theorem isSmall_of_mem_flatten {cs : List Char} {pieces : List (List Char)}
    (h : List.Forall₂ LowersTo cs pieces) : forall d, d ∈ pieces.flatten -> IsSmall d := by
  induction h with
  | nil =>
      intro d hd
      cases hd
  | cons hpiece _ ih =>
      intro d hd
      rcases List.mem_append.mp hd with hfirst | hrest
      · exact hpiece.isSmall d hfirst
      · exact ih d hrest

theorem lowerFrom_of_isSmall {cs : List Char} (h : forall c, c ∈ cs -> IsSmall c)
    (before : List Char) : lowerFrom before cs = cs := by
  induction cs generalizing before with
  | nil => rfl
  | cons c cs ih =>
      have hc := h c List.mem_cons_self
      have hsigma : c ≠ capitalSigma := by
        intro heq
        rw [heq] at hc
        exact absurd hc (by decide)
      rw [lowerFrom, if_neg hsigma, hc, ih fun d hd => h d (List.mem_cons_of_mem c hd)]
      rfl

theorem lower_lower (cs : List Char) : lower (lower cs) = lower cs := by
  rcases exists_pieces [] cs with ⟨pieces, hpieces, hlower⟩
  apply lowerFrom_of_isSmall
  rw [lower, hlower]
  exact isSmall_of_mem_flatten hpieces

end Text
end RaceTape
