import RaceTape.Text.Blank

/-!
# Words and the blanks between them

Blanks only separate words.  So the words of a text are those before a blank and those after
it, whatever blanks these are and however many there are, and blanks around a text do not
matter.
-/

namespace RaceTape
namespace Text

def IsBlankText (cs : List Char) : Prop :=
  forall c, c ∈ cs -> isBlank c = true

instance (cs : List Char) : Decidable (IsBlankText cs) :=
  decidable_of_iff (cs.all isBlank = true) List.all_eq_true

theorem IsBlankText.tail {c : Char} {cs : List Char} (h : IsBlankText (c :: cs)) :
    IsBlankText cs :=
  fun d hd => h d (List.mem_cons_of_mem c hd)

theorem IsBlankText.append {run other : List Char} (hrun : IsBlankText run)
    (hother : IsBlankText other) : IsBlankText (run ++ other) := by
  intro c hc
  rcases List.mem_append.mp hc with hmem | hmem
  · exact hrun c hmem
  · exact hother c hmem

def IsUnbroken (cs : List Char) : Prop :=
  forall c, c ∈ cs -> isBlank c = false

theorem isUnbroken_nil : IsUnbroken [] :=
  fun _ hc => nomatch hc

theorem IsUnbroken.cons {c : Char} {cs : List Char} (h : IsUnbroken cs) (hc : isBlank c = false) :
    IsUnbroken (c :: cs) := by
  intro d hd
  rcases List.mem_cons.mp hd with rfl | hd
  · exact hc
  · exact h d hd

theorem IsUnbroken.append {cs ds : List Char} (hcs : IsUnbroken cs) (hds : IsUnbroken ds) :
    IsUnbroken (cs ++ ds) := by
  intro c hc
  rcases List.mem_append.mp hc with hmem | hmem
  · exact hcs c hmem
  · exact hds c hmem

/-!
## Runs at the front
-/

section

variable {p : Char -> Bool} {run rest : List Char}

theorem takeWhile_run (hrun : forall c, c ∈ run -> p c = true)
    (hrest : forall c, rest.head? = some c -> p c = false) : (run ++ rest).takeWhile p = run := by
  rw [List.takeWhile_append_of_pos hrun]
  cases rest with
  | nil => exact List.append_nil run
  | cons c rest =>
      rw [List.takeWhile_cons_of_neg (by rw [hrest c rfl]; exact Bool.false_ne_true),
        List.append_nil]

theorem dropWhile_run (hrun : forall c, c ∈ run -> p c = true)
    (hrest : forall c, rest.head? = some c -> p c = false) : (run ++ rest).dropWhile p = rest := by
  rw [List.dropWhile_append_of_pos hrun]
  cases rest with
  | nil => rfl
  | cons c rest =>
      exact List.dropWhile_cons_of_neg (by rw [hrest c rfl]; exact Bool.false_ne_true)

theorem of_mem_takeWhile (cs : List Char) : forall c, c ∈ cs.takeWhile p -> p c = true :=
  List.all_eq_true.mp List.all_takeWhile

end

/-!
## Trimming

Trimming takes blanks away at both ends and nothing else.
-/

theorem trimEnd_append {body tail : List Char} (htail : IsBlankText tail)
    (hlast : forall c, body.getLast? = some c -> isBlank c = false) :
    trimEnd (body ++ tail) = body := by
  rw [trimEnd, List.reverse_append, dropWhile_run, List.reverse_reverse]
  · intro c hc
    exact htail c (List.mem_reverse.mp hc)
  · rw [List.head?_reverse]
    exact hlast

theorem trim_of_isUnbroken {gap body tail : List Char} (hgap : IsBlankText gap)
    (hbody : IsUnbroken body) (htail : IsBlankText tail) : trim (gap ++ (body ++ tail)) = body := by
  have hend : trimEnd (body ++ tail) = body :=
    trimEnd_append htail fun c hc => hbody c (List.mem_of_getLast? hc)
  cases body with
  | nil =>
      have hall : IsBlankText (gap ++ ([] ++ tail)) := hgap.append htail
      rw [trim, trimStart, ← List.append_nil (gap ++ _), dropWhile_run hall]
      · rfl
      · intro c hc
        cases hc
  | cons c body =>
      rw [trim, trimStart, dropWhile_run hgap, hend]
      intro d hd
      cases hd
      exact hbody c List.mem_cons_self

theorem exists_trimStart (cs : List Char) :
    exists gap, IsBlankText gap ∧ cs = gap ++ trimStart cs :=
  ⟨cs.takeWhile isBlank, of_mem_takeWhile cs, List.takeWhile_append_dropWhile.symm⟩

theorem exists_trimEnd (cs : List Char) :
    exists tail, IsBlankText tail ∧ cs = trimEnd cs ++ tail := by
  refine ⟨(cs.reverse.takeWhile isBlank).reverse, ?_, ?_⟩
  · intro c hc
    exact of_mem_takeWhile _ c (List.mem_reverse.mp hc)
  · rw [trimEnd, ← List.reverse_append, List.takeWhile_append_dropWhile, List.reverse_reverse]

theorem exists_trim (cs : List Char) :
    exists gap tail, IsBlankText gap ∧ IsBlankText tail ∧ cs = gap ++ (trim cs ++ tail) := by
  rcases exists_trimStart cs with ⟨gap, hgap, hcs⟩
  rcases exists_trimEnd (trimStart cs) with ⟨tail, htail, hrest⟩
  exact ⟨gap, tail, hgap, htail, hcs.trans (congrArg (gap ++ ·) hrest)⟩

theorem trim_eq_nil_iff {cs : List Char} : trim cs = [] ↔ IsBlankText cs := by
  constructor
  · intro h
    rcases exists_trim cs with ⟨gap, tail, hgap, htail, hcs⟩
    rw [hcs, h]
    exact hgap.append htail
  · intro h
    have hempty := trim_of_isUnbroken h isUnbroken_nil (fun _ hc => nomatch hc : IsBlankText [])
    rwa [List.append_nil, List.append_nil] at hempty

/-!
## Words
-/

theorem words_append_cons {c : Char} (hc : isBlank c = true) (front back : List Char) :
    words (front ++ c :: back) = words front ++ words back := by
  rw [words, List.splitOnP_append_cons front back hc, List.filter_append]
  rfl

theorem words_nil : words [] = [] := by
  rw [words, List.splitOnP_nil]
  rfl

theorem words_blanks_append {run : List Char} (hrun : IsBlankText run) (back : List Char) :
    words (run ++ back) = words back := by
  induction run with
  | nil => rfl
  | cons c run ih =>
      have hcut := words_append_cons (hrun c List.mem_cons_self) [] (run ++ back)
      rw [words_nil, ih hrun.tail] at hcut
      exact hcut

/-- A gap of blanks ends one word and begins another. -/
theorem words_gap {run : List Char} (hrun : IsBlankText run) (hne : run ≠ [])
    (front back : List Char) : words (front ++ (run ++ back)) = words front ++ words back := by
  cases run with
  | nil => exact absurd rfl hne
  | cons c run =>
      rw [List.cons_append, words_append_cons (hrun c List.mem_cons_self),
        words_blanks_append hrun.tail]

theorem words_append_blanks {run : List Char} (hrun : IsBlankText run) (front : List Char) :
    words (front ++ run) = words front := by
  cases run with
  | nil => rw [List.append_nil]
  | cons c run =>
      have hgap := words_gap hrun (List.cons_ne_nil c run) front []
      rw [List.append_nil, words_nil, List.append_nil] at hgap
      exact hgap

/-!
## Characters that are exchanged for others
-/

theorem splitOnP_map {isCut : Char -> Bool} {f : Char -> Char}
    (hf : forall c, isCut (f c) = isCut c) (cs : List Char) :
    (cs.map f).splitOnP isCut = (cs.splitOnP isCut).map (List.map f) := by
  induction cs with
  | nil =>
      rw [List.map_nil, List.splitOnP_nil]
      rfl
  | cons c cs ih =>
      rw [List.map_cons, List.splitOnP_cons_eq_if_modifyHead, List.splitOnP_cons_eq_if_modifyHead,
        hf, ih]
      cases hcut : isCut c with
      | true => rfl
      | false =>
          cases hrest : cs.splitOnP isCut with
          | nil => exact absurd hrest (List.splitOnP_ne_nil isCut cs)
          | cons first rest => rfl

section

variable {f : Char -> Char}

theorem words_map (hf : forall c, isBlank (f c) = isBlank c) (cs : List Char) :
    words (cs.map f) = (words cs).map (List.map f) := by
  rw [words, words, splitOnP_map hf, List.filter_map]
  congr 1
  apply List.filter_congr
  intro word _
  cases word with
  | nil => rfl
  | cons c word => rfl

theorem intercalate_map (separator : List Char) (parts : List (List Char)) :
    (separator.map f).intercalate (parts.map (List.map f)) =
      (separator.intercalate parts).map f := by
  induction parts with
  | nil => rfl
  | cons first rest ih =>
      cases rest with
      | nil =>
          rw [List.map_cons, List.map_nil, List.intercalate_singleton, List.intercalate_singleton]
      | cons second rest =>
          rw [List.map_cons] at ih
          rw [List.map_cons, List.map_cons, List.intercalate_cons_cons, List.intercalate_cons_cons,
            ih, List.map_append, List.map_append]

theorem singleSpaced_map (hf : forall c, isBlank (f c) = isBlank c) (hspace : f ' ' = ' ')
    (cs : List Char) : singleSpaced (cs.map f) = (singleSpaced cs).map f := by
  rw [singleSpaced, singleSpaced, words_map hf, ← intercalate_map, List.map_cons, hspace]
  rfl

theorem trim_map (hf : forall c, isBlank (f c) = isBlank c) (cs : List Char) :
    trim (cs.map f) = (trim cs).map f := by
  have hblank : isBlank ∘ f = isBlank := funext hf
  simp only [trim, trimEnd, trimStart, List.dropWhile_map, ← List.map_reverse, hblank]

end

end Text
end RaceTape
