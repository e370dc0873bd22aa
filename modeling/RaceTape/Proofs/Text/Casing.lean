import RaceTape.Proofs.Text.Blank
import RaceTape.Text.Casing

/-!
# Lower case and the letters from A to Z

Lower-casing looks at a character for four things: its lower-case form, whether it is cased,
whether it is passed over, and whether it is a capital sigma.  None of them changes when a
letter from A to Z is written small, so neither does the lower-case form of a text, wherever
its sigmas stand.
-/

namespace RaceTape
namespace Text

/-!
## The letters from A to Z
-/

theorem capital_of_toLower_ne {c : Char} (h : c.toLower ≠ c) :
    0x41 ≤ c.toNat ∧ c.toNat < 0x5B := by
  unfold Char.toLower at h
  split at h
  · next hrange =>
      have hlow := UInt32.le_iff_toNat_le.mp hrange.1
      have hhigh := UInt32.le_iff_toNat_le.mp hrange.2
      exact ⟨hlow, Nat.lt_succ_of_le hhigh⟩
  · exact absurd rfl h

/-- What is true of every character and itself, and of the capitals, is true of every character. -/
theorem toLower_induction {P : Char -> Char -> Prop} (hsame : forall c, P c c)
    (hcapitals : forall n, n < 0x5B -> 0x41 ≤ n -> P (Char.ofNat n) (Char.ofNat n).toLower)
    (c : Char) : P c c.toLower := by
  by_cases h : c.toLower = c
  · rw [h]
    exact hsame c
  · rcases capital_of_toLower_ne h with ⟨hlow, hhigh⟩
    have hcapital := hcapitals c.toNat hhigh hlow
    rw [Char.ofNat_toNat] at hcapital
    exact hcapital

theorem isBlank_toLower (c : Char) : isBlank c.toLower = isBlank c := by
  apply toLower_induction (P := fun c d => isBlank d = isBlank c)
  · intro c
    rfl
  · decide

theorem isCased_toLower (c : Char) : isCased c.toLower = isCased c := by
  apply toLower_induction (P := fun c d => isCased d = isCased c)
  · intro c
    rfl
  · decide

theorem isCaseIgnorable_toLower (c : Char) : isCaseIgnorable c.toLower = isCaseIgnorable c := by
  apply toLower_induction (P := fun c d => isCaseIgnorable d = isCaseIgnorable c)
  · intro c
    rfl
  · decide

theorem lowerChar_toLower (c : Char) : lowerChar c.toLower = lowerChar c := by
  apply toLower_induction (P := fun c d => lowerChar d = lowerChar c)
  · intro c
    rfl
  · decide

theorem toLower_eq_iff {d : Char} (hd : forall n, n < 0x5B -> 0x41 ≤ n ->
    Char.ofNat n ≠ d ∧ (Char.ofNat n).toLower ≠ d) (c : Char) : c.toLower = d ↔ c = d := by
  apply toLower_induction (P := fun a b => b = d ↔ a = d)
  · intro c
    rfl
  · intro n hhigh hlow
    rcases hd n hhigh hlow with ⟨hcapital, hsmall⟩
    exact iff_of_false hsmall hcapital

/-!
## Whole texts
-/

theorem meetsCased_map_toLower (cs : List Char) :
    meetsCased (cs.map Char.toLower) = meetsCased cs := by
  have hignorable : isCaseIgnorable ∘ Char.toLower = isCaseIgnorable :=
    funext isCaseIgnorable_toLower
  rw [meetsCased, meetsCased, List.dropWhile_map, hignorable]
  cases cs.dropWhile isCaseIgnorable with
  | nil => rfl
  | cons c rest => exact isCased_toLower c

theorem lowerFrom_map_toLower (before cs : List Char) :
    lowerFrom (before.map Char.toLower) (cs.map Char.toLower) = lowerFrom before cs := by
  induction cs generalizing before with
  | nil => rfl
  | cons c cs ih =>
      have hsigma : c.toLower = capitalSigma ↔ c = capitalSigma :=
        toLower_eq_iff (by decide) c
      have hrest := ih (c :: before)
      rw [List.map_cons] at hrest
      rw [List.map_cons, lowerFrom, lowerFrom, hrest, lowerSigma, lowerSigma,
        meetsCased_map_toLower, meetsCased_map_toLower, lowerChar_toLower]
      simp only [hsigma]

theorem lower_map_toLower (cs : List Char) : lower (cs.map Char.toLower) = lower cs :=
  lowerFrom_map_toLower [] cs

/-- The two texts differ at most in the case of letters from A to Z. -/
def SameLetters (cs ds : List Char) : Prop :=
  cs.map Char.toLower = ds.map Char.toLower

instance (cs ds : List Char) : Decidable (SameLetters cs ds) :=
  inferInstanceAs (Decidable (cs.map Char.toLower = ds.map Char.toLower))

theorem SameLetters.lower_eq {cs ds : List Char} (h : SameLetters cs ds) :
    lower cs = lower ds := by
  rw [← lower_map_toLower cs, h, lower_map_toLower]

theorem SameLetters.trim {cs ds : List Char} (h : SameLetters cs ds) :
    SameLetters (trim cs) (trim ds) := by
  unfold SameLetters at h ⊢
  rw [← trim_map isBlank_toLower, ← trim_map isBlank_toLower, h]

end Text
end RaceTape
