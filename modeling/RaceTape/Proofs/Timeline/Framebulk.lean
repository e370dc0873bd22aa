import RaceTape.Proofs.Timeline.Grammar

/-!
# Framebulks that lines describe

A line gives a framebulk of one of two kinds: one that sets the speed and nothing else, or
one that holds controls and does not set the speed.
-/

namespace RaceTape
namespace Timeline

open Decimal Text

structure Framebulk.IsValid (f : Framebulk) : Prop where
  controls : f.controls.IsDefined
  kind :
    (f.controls.bits = Controls.setSpeed ∧ f.ticks = 0) ∨
      f.controls.bits &&& Controls.setSpeed = 0

theorem Framebulk.IsValid.bits_eq_setSpeed {f : Framebulk} (h : f.IsValid)
    (hspeed : f.controls.bits &&& Controls.setSpeed ≠ 0) :
    f.controls.bits = Controls.setSpeed := by
  rcases h.kind with hset | hheld
  · exact hset.1
  · exact absurd hheld hspeed

theorem isValid_speed (value : Binary32) : (Framebulk.speed value).IsValid := by
  have hspeed : Controls.IsDefined ⟨Controls.setSpeed⟩ := by decide
  constructor
  · exact hspeed
  · exact Or.inl ⟨rfl, rfl⟩

theorem isValid_of_isHeld {f : Framebulk} (h : f.controls.IsHeld) : f.IsValid := by
  constructor
  · exact h.isDefined
  · exact Or.inr (h.and_eq_zero rfl)

/-!
## Lines
-/

theorem isValid_of_parseLine {line : Line} {f : Framebulk}
    (h : parseLine line = .ok f) : f.IsValid := by
  cases parseLine_eq_iff_reading.mp h with
  | speed _ => exact isValid_speed _
  | controls _ _ _ hdescribes => exact isValid_of_isHeld hdescribes.no_other

/-- Every framebulk of a timeline stands on a line of its own. -/
theorem exists_line_of_mem_parseLines {lines : List Line} {framebulks : List Framebulk}
    (h : parseLines lines = .ok framebulks) {f : Framebulk} (hf : f ∈ framebulks) :
    exists line, line ∈ lines ∧ parseLine line = .ok f := by
  induction lines generalizing framebulks with
  | nil =>
      cases h
      cases hf
  | cons line rest ih =>
      rw [parseLines] at h
      cases hline : parseLine line with
      | error fault => simp [hline] at h
      | ok framebulk =>
          cases hrest : parseLines rest with
          | error fault => simp [hline, hrest] at h
          | ok found =>
              simp only [hline, hrest, Except.ok.injEq] at h
              subst h
              rcases List.mem_cons.mp hf with rfl | hf
              · exact ⟨line, List.mem_cons_self, hline⟩
              · rcases ih hrest hf with ⟨other, hmem, hother⟩
                exact ⟨other, List.mem_cons_of_mem line hmem, hother⟩

theorem isValid_of_parseLines {lines : List Line} {framebulks : List Framebulk}
    (h : parseLines lines = .ok framebulks) :
    forall f, f ∈ framebulks -> f.IsValid := by
  intro f hf
  rcases exists_line_of_mem_parseLines h hf with ⟨line, _, hline⟩
  exact isValid_of_parseLine hline

end Timeline
end RaceTape
