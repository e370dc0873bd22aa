import RaceTape.Proofs.Text.Blank
import RaceTape.Proofs.Text.LowerCase

/-!
# Single spacing as a normal form

A text whose only blanks are spaces, each between two characters that are none, is what single
spacing leaves and what it leaves alone.  Lower-casing keeps it so, because it keeps delimiters
and makes none.
-/

namespace RaceTape
namespace Text

/-!
## Characters that do not stand twice in a row
-/

def NoPair (x : Char) (text : List Char) : Prop :=
  ¬[x, x] <:+: text

theorem noPair_nil (x : Char) : NoPair x [] := by
  intro h
  cases List.eq_nil_of_infix_nil h

theorem noPair_cons_iff {x c : Char} {text : List Char} :
    NoPair x (c :: text) ↔ ¬(c = x ∧ text.head? = some x) ∧ NoPair x text := by
  unfold NoPair
  rw [List.infix_cons_iff, not_or]
  apply and_congr_left'
  apply not_congr
  constructor
  · intro h
    rcases h with ⟨back, hback⟩
    injection hback with hc htext
    rw [← htext]
    exact ⟨hc.symm, rfl⟩
  · intro h
    rcases h with ⟨hc, hhead⟩
    rcases List.head?_eq_some_iff.mp hhead with ⟨back, rfl⟩
    rw [hc]
    exact List.prefix_append [x, x] back

theorem NoPair.suffix {x : Char} {front back : List Char} (h : NoPair x (front ++ back)) :
    NoPair x back :=
  fun hpair => h (List.infix_append_of_infix_right hpair)

theorem NoPair.front {x : Char} {front back : List Char} (h : NoPair x (front ++ back)) :
    NoPair x front :=
  fun hpair => h (List.infix_append_of_infix_left hpair)

theorem noPair_append_of_not_mem {x : Char} {front back : List Char} (hfront : x ∉ front)
    (hback : NoPair x back) : NoPair x (front ++ back) := by
  induction front with
  | nil => exact hback
  | cons c front ih =>
      rw [List.mem_cons, not_or] at hfront
      exact noPair_cons_iff.mpr ⟨fun h => hfront.1 h.1.symm, ih hfront.2⟩

theorem noPair_append_cons {x c : Char} {front back : List Char} (hfront : NoPair x front)
    (hc : c ≠ x) (hback : NoPair x back) : NoPair x (front ++ c :: back) := by
  induction front with
  | nil => exact noPair_cons_iff.mpr ⟨fun h => hc h.1, hback⟩
  | cons d front ih =>
      rcases noPair_cons_iff.mp hfront with ⟨hd, hrest⟩
      refine noPair_cons_iff.mpr ⟨?_, ih hrest⟩
      intro h
      cases front with
      | nil => exact hc (Option.some.inj h.2)
      | cons e front => exact hd h

/-!
## Texts cut at their blanks

Words are put together with one space between them, unless one of the texts is empty.
-/

/-- A text is unbroken, or an unbroken text, a blank and another text. -/
theorem cut_induction {P : List Char -> Prop} (unbroken : forall text, IsUnbroken text -> P text)
    (cut : forall front c back, IsUnbroken front -> isBlank c = true -> P back ->
      P (front ++ c :: back)) (text : List Char) : P text := by
  -- The characters read since the last blank stand in front.
  have hfrom : forall front, IsUnbroken front -> P (front ++ text) := by
    induction text with
    | nil =>
        intro front hfront
        rw [List.append_nil]
        exact unbroken front hfront
    | cons c text ih =>
        intro front hfront
        cases hc : isBlank c with
        | true => exact cut front c text hfront hc (ih [] fun d hd => nomatch hd)
        | false =>
            rw [List.append_cons]
            apply ih
            intro d hd
            rcases List.mem_append.mp hd with hd | hd
            · exact hfront d hd
            · rw [List.mem_singleton.mp hd]
              exact hc
  exact hfrom [] fun d hd => nomatch hd

def spaced : List Char -> List Char -> List Char
  | [], back => back
  | front, [] => front
  | front, back => front ++ ' ' :: back

theorem words_of_isUnbroken {text : List Char} (h : IsUnbroken text) :
    words text = if text.isEmpty then [] else [text] := by
  rw [words, List.splitOnP_eq_singleton h]
  cases text with
  | nil => rfl
  | cons c text => rfl

theorem singleSpaced_of_isUnbroken {text : List Char} (h : IsUnbroken text) :
    singleSpaced text = text := by
  rw [singleSpaced, words_of_isUnbroken h]
  cases text with
  | nil => rfl
  | cons c text => exact List.intercalate_singleton

theorem singleSpaced_cut {front back : List Char} {c : Char} (hfront : IsUnbroken front)
    (hc : isBlank c = true) :
    singleSpaced (front ++ c :: back) = spaced front (singleSpaced back) := by
  rw [singleSpaced, words_append_cons hc, words_of_isUnbroken hfront, singleSpaced]
  cases front with
  | nil => rfl
  | cons d front =>
      cases hwords : words back with
      | nil => exact List.intercalate_singleton
      | cons word rest =>
          have hword : word ≠ [] := by
            have hmem : word ∈ words back := by
              rw [hwords]
              exact List.mem_cons_self
            simpa using (List.mem_filter.mp hmem).2
          cases word with
          | nil => exact absurd rfl hword
          | cons e word =>
              show [' '].intercalate ((d :: front) :: (e :: word) :: rest) = _
              rw [List.intercalate_cons_cons, List.intercalate_cons_cons_left, List.append_assoc]
              rfl

theorem noPair_spaced {x : Char} (hx : x ≠ ' ') {front back : List Char}
    (hfront : NoPair x front) (hback : NoPair x back) : NoPair x (spaced front back) := by
  unfold spaced
  split
  · exact hback
  · exact hfront
  · exact noPair_append_cons hfront hx.symm hback

theorem noPair_singleSpaced {x : Char} (hx : x ≠ ' ') {text : List Char} (h : NoPair x text) :
    NoPair x (singleSpaced text) := by
  induction text using cut_induction with
  | unbroken text htext =>
      rw [singleSpaced_of_isUnbroken htext]
      exact h
  | cut front c back hfront hc ih =>
      rw [singleSpaced_cut hfront hc]
      exact noPair_spaced hx h.front (ih (noPair_cons_iff.mp h.suffix).2)

/-!
## Texts with single spaces

The only blanks are spaces, each between two characters that are no blanks.
-/

structure IsSpaced (text : List Char) : Prop where
  blanks : forall c, c ∈ text -> isBlank c = true -> c = ' '
  single : NoPair ' ' text
  start : text.head? ≠ some ' '
  finish : text.getLast? ≠ some ' '

theorem IsUnbroken.not_mem_space {text : List Char} (h : IsUnbroken text) : ' ' ∉ text := by
  intro hmem
  cases h ' ' hmem

theorem IsUnbroken.isSpaced {text : List Char} (h : IsUnbroken text) : IsSpaced text := by
  have hspace := h.not_mem_space
  constructor
  · intro c hc hblank
    rw [h c hc] at hblank
    cases hblank
  · have hpair := noPair_append_of_not_mem hspace (noPair_nil ' ')
    rw [List.append_nil] at hpair
    exact hpair
  · exact fun hhead => hspace (List.mem_of_mem_head? hhead)
  · exact fun hlast => hspace (List.mem_of_getLast? hlast)

theorem IsSpaced.cons_space {front back : List Char} (hfront : IsUnbroken front)
    (hfront_ne : front ≠ []) (hback : IsSpaced back) (hback_ne : back ≠ []) :
    IsSpaced (front ++ ' ' :: back) := by
  constructor
  · intro c hc hblank
    rcases List.mem_append.mp hc with hc | hc
    · rw [hfront c hc] at hblank
      cases hblank
    · rcases List.mem_cons.mp hc with hc | hc
      · exact hc
      · exact hback.blanks c hc hblank
  · exact noPair_append_of_not_mem hfront.not_mem_space
      (noPair_cons_iff.mpr ⟨fun h => hback.start h.2, hback.single⟩)
  · rw [List.head?_append_of_ne_nil _ hfront_ne]
    exact hfront.isSpaced.start
  · rw [List.append_cons, List.getLast?_append_of_ne_nil _ hback_ne]
    exact hback.finish

theorem isSpaced_singleSpaced (text : List Char) : IsSpaced (singleSpaced text) := by
  induction text using cut_induction with
  | unbroken text htext =>
      rw [singleSpaced_of_isUnbroken htext]
      exact htext.isSpaced
  | cut front c back hfront hc ih =>
      rw [singleSpaced_cut hfront hc]
      unfold spaced
      split
      · exact ih
      · exact hfront.isSpaced
      · next hfront_ne hback_ne =>
          exact IsSpaced.cons_space hfront hfront_ne ih hback_ne

theorem IsSpaced.singleSpaced_eq {text : List Char} (h : IsSpaced text) :
    singleSpaced text = text := by
  induction text using cut_induction with
  | unbroken text htext => exact singleSpaced_of_isUnbroken htext
  | cut front c back hfront hc ih =>
      have hspace : c = ' ' := h.blanks c (by simp) hc
      subst hspace
      have hback_ne : back ≠ [] := by
        intro hnil
        apply h.finish
        rw [hnil, List.getLast?_concat]
      have hback : IsSpaced back := by
        constructor
        · exact fun d hd => h.blanks d (by simp [hd])
        · exact (noPair_cons_iff.mp h.single.suffix).2
        · exact fun hhead => (noPair_cons_iff.mp h.single.suffix).1 ⟨rfl, hhead⟩
        · have hfinish := h.finish
          rw [List.append_cons, List.getLast?_append_of_ne_nil _ hback_ne] at hfinish
          exact hfinish
      rw [singleSpaced_cut hfront hc, ih hback]
      cases front with
      | nil => exact absurd rfl h.start
      | cons d front =>
          cases back with
          | nil => exact absurd rfl hback_ne
          | cons e back => rfl

/-!
## Lower-casing
-/

section

variable {cs : List Char} {pieces : List (List Char)} {x : Char}

theorem LowersTo.eq_of_mem {c : Char} {piece : List Char} (h : LowersTo c piece)
    (hx : isDelimiter x = true) (hmem : x ∈ piece) : piece = [x] ∧ c = x := by
  rcases h.delimiters with hpiece | ⟨_, hnone⟩
  · rw [hpiece] at hmem ⊢
    rw [List.mem_singleton.mp hmem]
    exact ⟨rfl, rfl⟩
  · rw [hnone x hmem] at hx
    cases hx

theorem mem_of_mem_pieces (h : List.Forall₂ LowersTo cs pieces) (hx : isDelimiter x = true)
    (hmem : x ∈ pieces.flatten) : x ∈ cs := by
  induction h with
  | nil => cases hmem
  | cons hpiece _ ih =>
      rcases List.mem_append.mp hmem with hfirst | hrest
      · rw [(hpiece.eq_of_mem hx hfirst).2]
        exact List.mem_cons_self
      · exact List.mem_cons_of_mem _ (ih hrest)

theorem head?_of_head?_pieces (h : List.Forall₂ LowersTo cs pieces) (hx : isDelimiter x = true)
    (hhead : pieces.flatten.head? = some x) : cs.head? = some x := by
  cases h with
  | nil => cases hhead
  | cons hpiece _ =>
      rw [List.flatten_cons, List.head?_append_of_ne_nil _ hpiece.ne_nil] at hhead
      rw [(hpiece.eq_of_mem hx (List.mem_of_mem_head? hhead)).2]
      rfl

theorem getLast?_of_getLast?_pieces (h : List.Forall₂ LowersTo cs pieces)
    (hx : isDelimiter x = true) (hlast : pieces.flatten.getLast? = some x) :
    cs.getLast? = some x := by
  induction h with
  | nil => cases hlast
  | @cons c piece cs pieces hpiece hpieces ih =>
      cases hpieces with
      | nil =>
          rw [List.flatten_cons, List.flatten_nil, List.append_nil] at hlast
          rw [(hpiece.eq_of_mem hx (List.mem_of_getLast? hlast)).2]
          rfl
      | @cons d next cs pieces hnext hrest =>
          have hne : (next :: pieces).flatten ≠ [] := by
            rw [List.flatten_cons]
            exact List.append_ne_nil_of_left_ne_nil hnext.ne_nil _
          rw [List.flatten_cons, List.getLast?_append_of_ne_nil _ hne] at hlast
          rw [List.getLast?_cons_cons]
          exact ih hlast

theorem noPair_pieces (h : List.Forall₂ LowersTo cs pieces) (hx : isDelimiter x = true)
    (hpair : NoPair x cs) : NoPair x pieces.flatten := by
  induction h with
  | nil => exact noPair_nil x
  | @cons c piece cs pieces hpiece hpieces ih =>
      rcases noPair_cons_iff.mp hpair with ⟨hfirst, hrest⟩
      rw [List.flatten_cons]
      by_cases hmem : x ∈ piece
      · rcases hpiece.eq_of_mem hx hmem with ⟨rfl, hc⟩
        refine noPair_cons_iff.mpr ⟨?_, ih hrest⟩
        intro hhead
        exact hfirst ⟨hc, head?_of_head?_pieces hpieces hx hhead.2⟩
      · exact noPair_append_of_not_mem hmem (ih hrest)

theorem LowersTo.eq_of_isDelimiter {c : Char} {piece : List Char} (h : LowersTo c piece)
    (hc : isDelimiter c = true) : piece = [c] := by
  rcases h.delimiters with hpiece | ⟨hnone, _⟩
  · exact hpiece
  · rw [hnone] at hc
    cases hc

theorem mem_pieces_of_mem (h : List.Forall₂ LowersTo cs pieces) (hx : isDelimiter x = true)
    (hmem : x ∈ cs) : x ∈ pieces.flatten := by
  induction h with
  | nil => cases hmem
  | @cons c piece cs pieces hpiece _ ih =>
      rw [List.flatten_cons, List.mem_append]
      rcases List.mem_cons.mp hmem with rfl | hrest
      · rw [hpiece.eq_of_isDelimiter hx]
        exact Or.inl List.mem_cons_self
      · exact Or.inr (ih hrest)

theorem head?_pieces_of_head? (h : List.Forall₂ LowersTo cs pieces) (hx : isDelimiter x = true)
    (hhead : cs.head? = some x) : pieces.flatten.head? = some x := by
  cases h with
  | nil => cases hhead
  | cons hpiece _ =>
      cases hhead
      rw [List.flatten_cons, hpiece.eq_of_isDelimiter hx]
      rfl

theorem getLast?_pieces_of_getLast? (h : List.Forall₂ LowersTo cs pieces)
    (hx : isDelimiter x = true) (hlast : cs.getLast? = some x) :
    pieces.flatten.getLast? = some x := by
  induction h with
  | nil => cases hlast
  | @cons c piece cs pieces hpiece hpieces ih =>
      cases hpieces with
      | nil =>
          cases hlast
          rw [List.flatten_cons, hpiece.eq_of_isDelimiter hx]
          rfl
      | cons hnext hrest =>
          rw [List.getLast?_cons_cons] at hlast
          rw [List.flatten_cons, List.getLast?_append, ih hlast]
          rfl

theorem noPair_of_pieces (h : List.Forall₂ LowersTo cs pieces) (hx : isDelimiter x = true)
    (hpair : NoPair x pieces.flatten) : NoPair x cs := by
  induction h with
  | nil => exact noPair_nil x
  | @cons c piece cs pieces hpiece hpieces ih =>
      rw [List.flatten_cons] at hpair
      refine noPair_cons_iff.mpr ⟨?_, ih hpair.suffix⟩
      rintro ⟨rfl, hhead⟩
      rw [hpiece.eq_of_isDelimiter hx] at hpair
      exact (noPair_cons_iff.mp hpair).1 ⟨rfl, head?_pieces_of_head? hpieces hx hhead⟩

end

theorem NoPair.lower {x : Char} {text : List Char} (h : NoPair x text)
    (hx : isDelimiter x = true) : NoPair x (lower text) := by
  rcases exists_pieces [] text with ⟨pieces, hpieces, hlower⟩
  rw [Text.lower, hlower]
  exact noPair_pieces hpieces hx h

theorem IsSpaced.lower {text : List Char} (h : IsSpaced text) : IsSpaced (lower text) := by
  have hspace : isDelimiter ' ' = true := by decide
  rcases exists_pieces [] text with ⟨pieces, hpieces, hlower⟩
  rw [Text.lower, hlower]
  constructor
  · intro c hc hblank
    have hdelimiter : isDelimiter c = true := by
      rw [isDelimiter, hblank]
      rfl
    exact h.blanks c (mem_of_mem_pieces hpieces hdelimiter hc) hblank
  · exact noPair_pieces hpieces hspace h.single
  · exact fun hhead => h.start (head?_of_head?_pieces hpieces hspace hhead)
  · exact fun hlast => h.finish (getLast?_of_getLast?_pieces hpieces hspace hlast)

/-- Lower-casing does not mend the spacing of a text. -/
theorem isSpaced_of_lower {text : List Char} (h : IsSpaced (lower text)) : IsSpaced text := by
  have hspace : isDelimiter ' ' = true := by decide
  rcases exists_pieces [] text with ⟨pieces, hpieces, hlower⟩
  rw [lower, hlower] at h
  constructor
  · intro c hc hblank
    have hdelimiter : isDelimiter c = true := by
      rw [isDelimiter, hblank]
      rfl
    exact h.blanks c (mem_pieces_of_mem hpieces hdelimiter hc) hblank
  · exact noPair_of_pieces hpieces hspace h.single
  · exact fun hhead => h.start (head?_pieces_of_head? hpieces hspace hhead)
  · exact fun hlast => h.finish (getLast?_pieces_of_getLast? hpieces hspace hlast)

theorem singleSpaced_trim (cs : List Char) : singleSpaced (trim cs) = singleSpaced cs := by
  rcases exists_trim cs with ⟨gap, tail, hgap, htail, hcs⟩
  have hwords : words cs = words (trim cs) := by
    calc
      words cs = words (gap ++ (trim cs ++ tail)) := congrArg words hcs
      _ = words (trim cs) := by rw [words_blanks_append hgap, words_append_blanks htail]
  rw [singleSpaced, singleSpaced, hwords]

end Text
end RaceTape
