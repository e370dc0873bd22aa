import RaceTape.Header.Setup
import RaceTape.Proofs.Header.Catalog

/-!
# Checked setups

What the checks of a header leave: a setup whose names are in the catalogs and whose
numbers lie within their bounds.  What they refuse, they refuse for a fault of the header.
-/

namespace RaceTape

/-!
A fault of a header is a key without a value, or a value that is not allowed.
-/

def Fault.InHeader : Fault -> Prop
  | .missingField _ => True
  | .invalidValue _ _ _ => True
  | .sentinelNotFound _ => False
  | .framebulkFlaw _ _ => False

namespace Header

open Text

structure Setup.IsValid (setup : Setup) : Prop where
  track : setup.track ∈ Catalog.tracks
  kart : setup.kart ∈ Catalog.karts
  laps : setup.laps = -1 ∨ 0 < setup.laps
  difficulty : 0 ≤ setup.difficulty ∧ setup.difficulty ≤ 3
  opponents : 0 ≤ setup.opponents

theorem bind_eq_ok_iff {x : Except ε α} {f : α -> Except ε β} {b : β} :
    x >>= f = .ok b ↔ exists a, x = .ok a ∧ f a = .ok b := by
  cases x with
  | error e =>
      constructor
      · intro h
        cases h
      · intro h
        rcases h with ⟨a, ha, _⟩
        cases ha
  | ok a =>
      constructor
      · intro h
        exact ⟨a, rfl, h⟩
      · intro h
        rcases h with ⟨a1, ha, hf⟩
        cases ha
        exact hf

namespace Draft

/-!
## Single fields
-/

theorem field_eq_ok_iff (draft : Draft) (key : Key) (expected : Expectation)
    (read : String -> Option α) (a : α) :
    draft.field key expected read = .ok a ↔
      exists value, draft.valueOrStandard? key = some value ∧ read value = some a := by
  rw [field]
  cases hvalue : draft.valueOrStandard? key with
  | none => simp
  | some value =>
      cases hread : read value with
      | none => simp [hread]
      | some found => simp [hread]

theorem allowed_of_number {draft : Draft} {key : Key} {expected : Expectation}
    {allowed : Int32 -> Bool} {n : Int32}
    (h : draft.number key expected allowed = .ok n) : allowed n = true := by
  rcases (field_eq_ok_iff _ _ _ _ _).mp h with ⟨value, _, hread⟩
  exact (Option.filter_eq_some_iff.mp hread).2

theorem name_eq_ok_iff {draft : Draft} {key : Key} {names : List String}
    (hnames : names.Pairwise (· < ·)) {name : String} :
    draft.name key names = .ok name ↔
      draft.valueOrStandard? key = some name ∧ name ∈ names := by
  rw [Draft.name, field_eq_ok_iff]
  simp only [Catalog.search_iff hnames, Option.ite_none_right_eq_some, Option.some.injEq]
  constructor
  · intro h
    rcases h with ⟨text, htext, hmem, rfl⟩
    exact ⟨htext, hmem⟩
  · intro h
    exact ⟨name, h.1, h.2, rfl⟩

/-!
## All fields
-/

/-- A draft passes its checks exactly if every key is read as the setup has it. -/
theorem check_eq_ok_iff (draft : Draft) (setup : Setup) :
    draft.check = .ok setup ↔
      draft.missing? = none ∧
        draft.number .laps .lapCount isLapCount = .ok setup.laps ∧
        draft.number .difficulty .difficultyLevel isDifficulty = .ok setup.difficulty ∧
        draft.number .opponents .opponentCount isOpponentCount = .ok setup.opponents ∧
        draft.name .track Catalog.tracks = .ok setup.track ∧
        draft.name .kart Catalog.karts = .ok setup.kart ∧
        draft.field .quickReset .switch switch? = .ok setup.quickReset := by
  rw [check]
  cases hmissing : draft.missing? with
  | some key => simp
  | none =>
      simp only [bind_eq_ok_iff, true_and]
      constructor
      · intro h
        rcases h with ⟨laps, hlaps, difficulty, hdifficulty, opponents, hopponents, track, htrack,
          kart, hkart, quickReset, hquickReset, hsetup⟩
        cases hsetup
        exact ⟨hlaps, hdifficulty, hopponents, htrack, hkart, hquickReset⟩
      · intro h
        rcases h with ⟨hlaps, hdifficulty, hopponents, htrack, hkart, hquickReset⟩
        exact ⟨_, hlaps, _, hdifficulty, _, hopponents, _, htrack, _, hkart, _, hquickReset,
          rfl⟩

theorem isValid_of_check {draft : Draft} {setup : Setup} (h : draft.check = .ok setup) :
    setup.IsValid := by
  rcases (check_eq_ok_iff draft setup).mp h with
    ⟨_, hlaps, hdifficulty, hopponents, htrack, hkart, _⟩
  constructor
  · exact ((name_eq_ok_iff Catalog.pairwise_tracks).mp htrack).2
  · exact ((name_eq_ok_iff Catalog.pairwise_karts).mp hkart).2
  · simpa [isLapCount] using allowed_of_number hlaps
  · simpa [isDifficulty] using allowed_of_number hdifficulty
  · simpa [isOpponentCount] using allowed_of_number hopponents

/-!
## Faults

Whatever goes wrong in a check is a fault of the header.
-/

def FaultsInHeader (x : Except Fault α) : Prop :=
  forall fault, x = .error fault -> fault.InHeader

theorem faultsInHeader_bind {x : Except Fault α} {f : α -> Except Fault β}
    (hx : FaultsInHeader x) (hf : forall a, FaultsInHeader (f a)) :
    FaultsInHeader (x >>= f) := by
  intro fault h
  cases x with
  | error e =>
      cases h
      exact hx fault rfl
  | ok a => exact hf a fault h

theorem faultsInHeader_field (draft : Draft) (key : Key) (expected : Expectation)
    (read : String -> Option α) : FaultsInHeader (draft.field key expected read) := by
  intro fault h
  unfold field at h
  split at h
  · cases h
    trivial
  · split at h
    · cases h
    · cases h
      trivial

theorem faultsInHeader_check (draft : Draft) : FaultsInHeader draft.check := by
  unfold check
  split
  · intro fault h
    cases h
    trivial
  · -- One step for each field; the setup itself is made without a fault.
    apply faultsInHeader_bind (faultsInHeader_field _ _ _ _)
    intro laps
    apply faultsInHeader_bind (faultsInHeader_field _ _ _ _)
    intro difficulty
    apply faultsInHeader_bind (faultsInHeader_field _ _ _ _)
    intro opponents
    apply faultsInHeader_bind (faultsInHeader_field _ _ _ _)
    intro track
    apply faultsInHeader_bind (faultsInHeader_field _ _ _ _)
    intro kart
    apply faultsInHeader_bind (faultsInHeader_field _ _ _ _)
    intro quickReset fault h
    cases h

end Draft

end Header
end RaceTape
