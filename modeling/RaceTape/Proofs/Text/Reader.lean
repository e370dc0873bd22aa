import RaceTape.Text.Reader

/-!
# Where readers stop

A reader takes the front of a text and leaves the rest.  If the rest begins with a character that
cannot belong to the value, reading does not depend on the rest at all.  So such a value can be cut
out of the text in which it stands, and read on its own.  Both properties pass from readers to
those that are made of them.
-/

namespace RaceTape
namespace Text

section

variable {p : Char -> Bool} {rest : List Char}

theorem takeWhile_append_of_head (hrest : forall c, rest.head? = some c -> p c = false)
    (cs : List Char) : (cs ++ rest).takeWhile p = cs.takeWhile p := by
  induction cs with
  | nil =>
      cases rest with
      | nil => rfl
      | cons c rest =>
          exact List.takeWhile_cons_of_neg (by rw [hrest c rfl]; exact Bool.false_ne_true)
  | cons c cs ih =>
      rw [List.cons_append, List.takeWhile_cons, List.takeWhile_cons, ih]

theorem dropWhile_append_of_head (hrest : forall c, rest.head? = some c -> p c = false)
    (cs : List Char) : (cs ++ rest).dropWhile p = cs.dropWhile p ++ rest := by
  induction cs with
  | nil =>
      cases rest with
      | nil => rfl
      | cons c rest =>
          exact List.dropWhile_cons_of_neg (by rw [hrest c rfl]; exact Bool.false_ne_true)
  | cons c cs ih =>
      rw [List.cons_append, List.dropWhile_cons, List.dropWhile_cons, ih]
      split
      · rfl
      · rfl

end

/-- Texts are cut at a character that does not stand behind the cut in one way only. -/
theorem eq_of_append_cons {c : Char} {front back front' back' : List Char}
    (h : front ++ c :: back = front' ++ c :: back') (hback : c ∉ back) (hback' : c ∉ back') :
    front = front' ∧ back = back' := by
  rcases List.append_eq_append_iff.mp h with ⟨gap, rfl, hgap⟩ | ⟨gap, rfl, hgap⟩
  · cases gap with
    | nil =>
        cases hgap
        exact ⟨(List.append_nil front).symm, rfl⟩
    | cons d gap =>
        cases hgap
        exact absurd (List.mem_append_right gap List.mem_cons_self) hback
  · cases gap with
    | nil =>
        cases hgap
        exact ⟨List.append_nil front', rfl⟩
    | cons d gap =>
        cases hgap
        exact absurd (List.mem_append_right gap List.mem_cons_self) hback'

theorem after?_eq_some_iff {c : Char} {cs rest : List Char} :
    after? c cs = some rest ↔ cs = c :: rest := by
  cases cs with
  | nil => simp [after?]
  | cons d cs =>
      rw [after?]
      by_cases hd : d = c
      · rw [if_pos hd, Option.some_inj, hd, List.cons.injEq]
        exact (and_iff_right rfl).symm
      · rw [if_neg hd, List.cons.injEq]
        simp [hd]

theorem after?_cons_self (c : Char) (cs : List Char) : after? c (c :: cs) = some cs :=
  after?_eq_some_iff.mpr rfl

namespace Reader

/-- Reading stops before `rest` and does not depend on it. -/
def StopsBefore (read : Reader α) (rest : List Char) : Prop :=
  forall cs, read (cs ++ rest) = (read cs).map fun found => (found.1, found.2 ++ rest)

def LeavesEnd (read : Reader α) : Prop :=
  forall cs a left, read cs = some (a, left) -> left <:+ cs

section

variable {read : Reader α} {next : α -> Reader β} {rest : List Char} {c : Char}

theorem stopsBefore_pure (a : α) (rest : List Char) :
    StopsBefore (fun cs => some (a, cs)) rest := fun _ => rfl

theorem StopsBefore.bind (h : StopsBefore read rest) (hnext : forall a, StopsBefore (next a) rest) :
    StopsBefore (fun cs => (read cs).bind fun found => next found.1 found.2) rest := by
  intro cs
  dsimp only
  rw [h cs]
  cases read cs with
  | none => rfl
  | some found => exact hnext found.1 found.2

theorem StopsBefore.after {read : Reader β} (h : StopsBefore read rest)
    (hc : rest.head? ≠ some c) : StopsBefore (fun cs => (after? c cs).bind read) rest := by
  intro cs
  cases cs with
  | nil =>
      have hnone : after? c rest = none := by
        cases hafter : after? c rest with
        | none => rfl
        | some left =>
            rw [after?_eq_some_iff.mp hafter] at hc
            exact absurd rfl hc
      rw [List.nil_append]
      dsimp only
      rw [hnone]
      rfl
  | cons d cs =>
      simp only [List.cons_append, after?]
      split
      · exact h cs
      · rfl

theorem leavesEnd_pure (a : α) : LeavesEnd (fun cs => some (a, cs)) := by
  intro cs b left h
  cases h
  exact List.suffix_refl cs

theorem LeavesEnd.bind (h : LeavesEnd read) (hnext : forall a, LeavesEnd (next a)) :
    LeavesEnd (fun cs => (read cs).bind fun found => next found.1 found.2) := by
  intro cs b left hleft
  rcases Option.bind_eq_some_iff.mp hleft with ⟨⟨a, middle⟩, hread, hrest⟩
  exact (hnext a middle b left hrest).trans (h cs a middle hread)

theorem LeavesEnd.after {read : Reader β} (h : LeavesEnd read) :
    LeavesEnd (fun cs => (after? c cs).bind read) := by
  intro cs b left hleft
  rcases Option.bind_eq_some_iff.mp hleft with ⟨middle, hafter, hrest⟩
  rw [after?_eq_some_iff.mp hafter]
  exact (h middle b left hrest).trans (List.suffix_cons c middle)

theorem StopsBefore.exists_front (h : StopsBefore read rest) (hleaves : LeavesEnd read)
    {cs : List Char} {a : α} (hread : read cs = some (a, rest)) :
    exists text, cs = text ++ rest ∧ read text = some (a, []) := by
  rcases hleaves cs a rest hread with ⟨text, rfl⟩
  refine ⟨text, rfl, ?_⟩
  rw [h text] at hread
  rcases Option.map_eq_some_iff.mp hread with ⟨⟨b, left⟩, htext, hfound⟩
  injection hfound with hvalue hleft
  have hnil : left = [] := List.append_left_eq_self.mp hleft
  cases hvalue
  rw [htext, hnil]

theorem StopsBefore.append (h : StopsBefore read rest) {text : List Char} {a : α}
    (htext : read text = some (a, [])) : read (text ++ rest) = some (a, rest) := by
  rw [h text, htext]
  rfl

end

end Reader

end Text
end RaceTape
