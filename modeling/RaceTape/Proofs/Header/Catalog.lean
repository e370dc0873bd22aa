import RaceTape.Header.Catalog

/-!
# Names in the catalogs

A name is looked for by halves, which finds what is there only in a list that is in strictly
increasing order.  Both catalogs are, so the names that are found are the names in them.
-/

namespace RaceTape
namespace Header
namespace Catalog

/-!
## One step

The name in the middle parts an increasing list.  A name below it can only be in the lower part and
a name above it only in the upper one.
-/

section

variable {lower upper : List String} {middle name : String}

theorem mem_iff_of_lt (h : (lower ++ middle :: upper).Pairwise (· < ·)) (hname : name < middle) :
    name ∈ lower ++ middle :: upper ↔ name ∈ lower := by
  rcases List.pairwise_append.mp h with ⟨_, hupper, _⟩
  constructor
  · intro hmem
    rcases List.mem_append.mp hmem with hlower | hrest
    · exact hlower
    · rcases List.mem_cons.mp hrest with rfl | habove
      · exact absurd hname (String.lt_irrefl name)
      · exact absurd hname (String.lt_asymm ((List.pairwise_cons.mp hupper).1 name habove))
  · exact List.mem_append_left _

theorem mem_iff_of_gt (h : (lower ++ middle :: upper).Pairwise (· < ·)) (hname : middle < name) :
    name ∈ lower ++ middle :: upper ↔ name ∈ upper := by
  rcases List.pairwise_append.mp h with ⟨_, _, hbelow⟩
  constructor
  · intro hmem
    rcases List.mem_append.mp hmem with hlower | hrest
    · exact absurd hname (String.lt_asymm (hbelow name hlower middle List.mem_cons_self))
    · rcases List.mem_cons.mp hrest with rfl | habove
      · exact absurd hname (String.lt_irrefl name)
      · exact habove
  · intro habove
    exact List.mem_append_right _ (List.mem_cons_of_mem middle habove)

end

/-!
## The search

Every step leaves a shorter list, so as many steps as there are names are enough.
-/

theorem exists_halves {names : List String} (h : names ≠ []) :
    exists lower middle upper, names = lower ++ middle :: upper ∧
      forall name steps, searchWithin name (steps + 1) names =
        if name < middle then searchWithin name steps lower
        else if middle < name then searchWithin name steps upper
        else true := by
  have hhalf : names.length / 2 < names.length :=
    Nat.div_lt_self (List.length_pos_iff.mpr h) Nat.one_lt_two
  have hdrop := List.drop_eq_getElem_cons hhalf
  refine ⟨names.take (names.length / 2), names[names.length / 2],
    names.drop (names.length / 2 + 1), ?_, ?_⟩
  · rw [← hdrop, List.take_append_drop]
  · intro name steps
    rw [searchWithin, hdrop]

theorem searchWithin_iff {steps : Nat} {names : List String} (h : names.Pairwise (· < ·))
    (hsteps : names.length ≤ steps) (name : String) :
    searchWithin name steps names = true ↔ name ∈ names := by
  induction steps generalizing names with
  | zero =>
      rw [List.length_eq_zero_iff.mp (Nat.le_zero.mp hsteps)]
      simp [searchWithin]
  | succ steps ih =>
      by_cases hnames : names = []
      · simp [hnames, searchWithin]
      · rcases exists_halves hnames with ⟨lower, middle, upper, rfl, hstep⟩
        rcases List.pairwise_append.mp h with ⟨hlower, hupper, _⟩
        rw [List.length_append, List.length_cons] at hsteps
        rw [hstep]
        split
        · next hlt => rw [ih hlower (by omega), mem_iff_of_lt h hlt]
        · next hle =>
            split
            · next hgt =>
                rw [ih (List.pairwise_cons.mp hupper).2 (by omega), mem_iff_of_gt h hgt]
            · next hge =>
                have hname : name = middle :=
                  String.le_antisymm (String.not_lt.mp hge) (String.not_lt.mp hle)
                simp [hname]

theorem search_iff {names : List String} (h : names.Pairwise (· < ·)) (name : String) :
    search names name = true ↔ name ∈ names :=
  searchWithin_iff h (Nat.le_refl _) name

theorem pairwise_tracks : tracks.Pairwise (· < ·) := by
  decide +kernel

theorem pairwise_karts : karts.Pairwise (· < ·) := by
  decide +kernel

end Catalog
end Header
end RaceTape
