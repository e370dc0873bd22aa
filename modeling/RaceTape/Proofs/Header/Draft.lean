import RaceTape.Header.Draft
import RaceTape.Proofs.Tape.Lines

/-!
# Lines that leave no trace in a draft

A draft holds the last value of each key, so a line counts for nothing if it sets no key or one
that a later line sets again, whatever their values are.  Lines stand in the order of their
numbers, and that is the order that decides which line is later.
-/

namespace RaceTape
namespace Header

def Sets (line : Line) (key : Key) : Prop :=
  exists value, entry? line.text = some (key, value)

namespace Draft

theorem value?_addLine_of_some {line : Line} {key : Key} {value : String}
    (h : entry? line.text = some (key, value)) (draft : Draft) :
    (draft.addLine line).value? key = some value := by
  rw [addLine, h]
  exact if_pos rfl

theorem value?_addLine_of_not_sets {line : Line} {key : Key} (h : ¬Sets line key)
    (draft : Draft) : (draft.addLine line).value? key = draft.value? key := by
  rw [addLine]
  split
  · next other value hentry =>
      apply if_neg
      intro heq
      rw [← heq] at hentry
      exact h ⟨value, hentry⟩
  · rfl

/-- Drafts may differ in the keys that lines to come will set. -/
theorem foldl_addLine_congr {lines : List Line} {draft other : Draft}
    (h : forall key, draft.value? key = other.value? key ∨
      exists line, line ∈ lines ∧ Sets line key) :
    lines.foldl addLine draft = lines.foldl addLine other := by
  induction lines generalizing draft other with
  | nil =>
      have hvalues : draft.value? = other.value? := by
        funext key
        rcases h key with hsame | ⟨line, hmem, _⟩
        · exact hsame
        · cases hmem
      cases draft
      cases other
      exact congrArg Draft.mk hvalues
  | cons line lines ih =>
      apply ih
      intro key
      by_cases hsets : Sets line key
      · rcases hsets with ⟨value, hentry⟩
        left
        rw [value?_addLine_of_some hentry, value?_addLine_of_some hentry]
      · rw [value?_addLine_of_not_sets hsets, value?_addLine_of_not_sets hsets]
        rcases h key with hsame | ⟨later, hmem, hlater⟩
        · exact Or.inl hsame
        · rcases List.mem_cons.mp hmem with rfl | hmem
          · exact absurd hlater hsets
          · exact Or.inr ⟨later, hmem, hlater⟩

end Draft

/-- Every key that a left-out line sets is set again further down. -/
def Overridden (kept : Line -> Bool) (lines : List Line) : Prop :=
  forall line, line ∈ lines -> kept line = false -> forall key, Sets line key ->
    exists later, later ∈ lines ∧ line.number < later.number ∧ Sets later key

theorem mem_of_number_lt {line later : Line} {lines : List Line} {number : Nat}
    (hnumber : line.number ≤ number) (hmem : later ∈ line :: lines)
    (hlater : number < later.number) : later ∈ lines := by
  rcases List.mem_cons.mp hmem with rfl | hmem
  · exact absurd hlater (Nat.not_lt_of_le hnumber)
  · exact hmem

theorem Overridden.tail {kept : Line -> Bool} {line : Line} {lines : List Line}
    (horder : Line.InOrder (line :: lines)) (h : Overridden kept (line :: lines)) :
    Overridden kept lines := by
  intro other hother hkept key hkey
  have hnumber := (List.pairwise_cons.mp horder).1 other hother
  rcases h other (List.mem_cons_of_mem line hother) hkept key hkey with
    ⟨later, hmem, hlater, hlaterKey⟩
  exact ⟨later, mem_of_number_lt (Nat.le_of_lt hnumber) hmem hlater, hlater, hlaterKey⟩

namespace Draft

theorem foldl_addLine_filter {kept : Line -> Bool} {lines : List Line}
    (horder : Line.InOrder lines) (h : Overridden kept lines) (draft : Draft) :
    (lines.filter kept).foldl addLine draft = lines.foldl addLine draft := by
  induction lines generalizing draft with
  | nil => rfl
  | cons line lines ih =>
      have hrest := ih (List.pairwise_cons.mp horder).2 (h.tail horder)
      cases hkept : kept line with
      | true =>
          rw [List.filter_cons_of_pos hkept]
          exact hrest (draft.addLine line)
      | false =>
          rw [List.filter_cons_of_neg (by rw [hkept]; decide), hrest]
          apply foldl_addLine_congr
          intro key
          by_cases hsets : Sets line key
          · rcases h line List.mem_cons_self hkept key hsets with ⟨later, hmem, hlater, hkey⟩
            exact Or.inr ⟨later, mem_of_number_lt (Nat.le_refl _) hmem hlater, hkey⟩
          · exact Or.inl (value?_addLine_of_not_sets hsets draft).symm

theorem ofLines_filter {kept : Line -> Bool} {lines : List Line} (horder : Line.InOrder lines)
    (h : Overridden kept lines) : ofLines (lines.filter kept) = ofLines lines :=
  foldl_addLine_filter horder h empty

end Draft

/-!
## Warnings
-/

theorem warning?_eq_some_iff {line : Line} {w : Warning} :
    warning? line = some w ↔ entry? line.text = none ∧ w = ⟨line.number, line.text⟩ := by
  rw [warning?]
  cases entry? line.text with
  | none => simp [eq_comm]
  | some entry => simp

theorem mem_warnings_iff {lines : List Line} {w : Warning} :
    w ∈ warnings lines ↔
      exists line, line ∈ lines ∧ entry? line.text = none ∧ w = ⟨line.number, line.text⟩ := by
  simp only [warnings, List.mem_filterMap, warning?_eq_some_iff]

theorem warnings_filter (kept : Nat -> Bool) (lines : List Line) :
    warnings (lines.filter fun line => kept line.number) =
      (warnings lines).filter fun w => kept w.line := by
  induction lines with
  | nil => rfl
  | cons line lines ih =>
      unfold warnings at ih ⊢
      cases hwarning : warning? line with
      | none =>
          rw [List.filterMap_cons_none hwarning, ← ih, List.filter_cons]
          split
          · rw [List.filterMap_cons_none hwarning]
          · rfl
      | some w =>
          have hline : w.line = line.number := by
            rw [(warning?_eq_some_iff.mp hwarning).2]
          rw [List.filterMap_cons_some hwarning, List.filter_cons, List.filter_cons, hline, ← ih]
          split
          · rw [List.filterMap_cons_some hwarning]
          · rfl

theorem pairwise_warnings {lines : List Line} (h : Line.InOrder lines) :
    (warnings lines).Pairwise fun w later => w.line < later.line := by
  apply List.Pairwise.filterMap warning? _ h
  intro line later hnumber w hw v hv
  rw [(warning?_eq_some_iff.mp hw).2, (warning?_eq_some_iff.mp hv).2]
  exact hnumber

end Header
end RaceTape
