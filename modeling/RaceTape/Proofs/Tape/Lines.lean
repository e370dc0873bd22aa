import RaceTape.Tape.Line

/-!
# Rows and the lines among them

A text whose last row is ended can be continued: the rows of the continuation follow.  The
lines of rows that follow others are the lines of those rows under later numbers.  The
first row with a property is found without looking at any row behind it.
-/

namespace RaceTape

open Text

/-!
## Rows of a continued text
-/

namespace Text

theorem rowsFrom_append (row body rest : List Char) :
    rowsFrom row (body ++ '\n' :: rest) = rowsFrom row (body ++ ['\n']) ++ rowsFrom [] rest := by
  induction body generalizing row with
  | nil => rfl
  | cons c body ih =>
      rw [List.cons_append, List.cons_append, rowsFrom, rowsFrom]
      by_cases hc : c = '\n'
      · rw [if_pos hc, if_pos hc, ih, List.cons_append]
      · rw [if_neg hc, if_neg hc, ih]

theorem rows_append {front : List Char} (hend : front.getLast? = some '\n')
    (rest : List Char) : rows (front ++ rest) = rows front ++ rows rest := by
  rcases List.getLast?_eq_some_iff.mp hend with ⟨body, rfl⟩
  rw [List.append_assoc]
  exact rowsFrom_append [] body rest

end Text

/-!
## Lines of rows

The lines are the rows that say something, each under its own number, and so they stand in the
order of their numbers.
-/

namespace Line

/-- The row says something. -/
def IsFilled (row : List Char) : Prop :=
  canonical row ≠ []

instance (row : List Char) : Decidable (IsFilled row) :=
  inferInstanceAs (Decidable (canonical row ≠ []))

theorem ofRowsFrom_cons_of_isFilled {row : List Char} (h : IsFilled row) (n : Nat)
    (rows : List (List Char)) :
    ofRowsFrom n (row :: rows) =
      ⟨n, String.ofList (canonical row)⟩ :: ofRowsFrom (n + 1) rows := by
  have htext : (canonical row).isEmpty = false := List.isEmpty_eq_false_iff.mpr h
  simp only [ofRowsFrom, htext, Bool.false_eq_true, if_false]

theorem ofRowsFrom_cons_of_not_isFilled {row : List Char} (h : ¬IsFilled row) (n : Nat)
    (rows : List (List Char)) :
    ofRowsFrom n (row :: rows) = ofRowsFrom (n + 1) rows := by
  have htext : (canonical row).isEmpty = true :=
    List.isEmpty_iff.mpr (Decidable.not_not.mp h)
  simp only [ofRowsFrom, htext, if_true]

theorem ofRowsFrom_append (n : Nat) (front back : List (List Char)) :
    ofRowsFrom n (front ++ back) = ofRowsFrom n front ++ ofRowsFrom (n + front.length) back := by
  induction front generalizing n with
  | nil => rfl
  | cons row front ih =>
      have hnumber : n + (row :: front).length = n + 1 + front.length := by
        rw [List.length_cons, Nat.add_assoc, Nat.add_comm 1]
      rw [List.cons_append, hnumber]
      by_cases hrow : IsFilled row
      · rw [ofRowsFrom_cons_of_isFilled hrow, ofRowsFrom_cons_of_isFilled hrow, ih,
          List.cons_append]
      · rw [ofRowsFrom_cons_of_not_isFilled hrow, ofRowsFrom_cons_of_not_isFilled hrow, ih]

theorem exists_row_of_mem {line : Line} {n : Nat} {rows : List (List Char)}
    (h : line ∈ ofRowsFrom n rows) :
    exists row, row ∈ rows ∧ IsFilled row ∧ line.text = String.ofList (canonical row) := by
  induction rows generalizing n with
  | nil => cases h
  | cons first rows ih =>
      by_cases hfirst : IsFilled first
      · rw [ofRowsFrom_cons_of_isFilled hfirst] at h
        rcases List.mem_cons.mp h with rfl | hrest
        · exact ⟨first, List.mem_cons_self, hfirst, rfl⟩
        · rcases ih hrest with ⟨row, hmem, hrow, htext⟩
          exact ⟨row, List.mem_cons_of_mem first hmem, hrow, htext⟩
      · rw [ofRowsFrom_cons_of_not_isFilled hfirst] at h
        rcases ih h with ⟨row, hmem, hrow, htext⟩
        exact ⟨row, List.mem_cons_of_mem first hmem, hrow, htext⟩

/-- The lines are the rows that say something, each under its own number. -/
theorem mem_ofRowsFrom_iff {line : Line} {n : Nat} {rows : List (List Char)} :
    line ∈ ofRowsFrom n rows ↔
      exists i row, rows[i]? = some row ∧ IsFilled row ∧
        line = ⟨n + i, String.ofList (canonical row)⟩ := by
  induction rows generalizing n with
  | nil =>
      constructor
      · intro h
        cases h
      · intro h
        rcases h with ⟨i, row, hrow, _⟩
        cases hrow
  | cons first rows ih =>
      constructor
      · intro h
        by_cases hfirst : IsFilled first
        · rw [ofRowsFrom_cons_of_isFilled hfirst] at h
          rcases List.mem_cons.mp h with hline | hrest
          · exact ⟨0, first, rfl, hfirst, hline⟩
          · rcases ih.mp hrest with ⟨i, row, hrow, hfilled, hline⟩
            exact ⟨i + 1, row, hrow, hfilled, by rw [hline, Nat.add_right_comm, Nat.add_assoc]⟩
        · rw [ofRowsFrom_cons_of_not_isFilled hfirst] at h
          rcases ih.mp h with ⟨i, row, hrow, hfilled, hline⟩
          exact ⟨i + 1, row, hrow, hfilled, by rw [hline, Nat.add_right_comm, Nat.add_assoc]⟩
      · intro h
        rcases h with ⟨i, row, hrow, hfilled, hline⟩
        cases i with
        | zero =>
            cases hrow
            rw [ofRowsFrom_cons_of_isFilled hfilled, hline]
            exact List.mem_cons_self
        | succ i =>
            have hrest : line ∈ ofRowsFrom (n + 1) rows :=
              ih.mpr ⟨i, row, hrow, hfilled, by rw [hline, Nat.add_right_comm, Nat.add_assoc]⟩
            by_cases hfirst : IsFilled first
            · rw [ofRowsFrom_cons_of_isFilled hfirst]
              exact List.mem_cons_of_mem _ hrest
            · rw [ofRowsFrom_cons_of_not_isFilled hfirst]
              exact hrest

def InOrder (lines : List Line) : Prop :=
  lines.Pairwise fun line later => line.number < later.number

theorem inOrder_ofRowsFrom (n : Nat) (rows : List (List Char)) : InOrder (ofRowsFrom n rows) := by
  induction rows generalizing n with
  | nil => exact List.Pairwise.nil
  | cons row rows ih =>
      by_cases hrow : IsFilled row
      · rw [ofRowsFrom_cons_of_isFilled hrow]
        refine List.pairwise_cons.mpr ⟨?_, ih (n + 1)⟩
        intro later hmem
        rcases mem_ofRowsFrom_iff.mp hmem with ⟨i, other, _, _, rfl⟩
        exact Nat.lt_of_lt_of_le (Nat.lt_succ_self n) (Nat.le_add_right (n + 1) i)
      · rw [ofRowsFrom_cons_of_not_isFilled hrow]
        exact ih (n + 1)

def shift (k : Nat) (line : Line) : Line :=
  { line with number := line.number + k }

theorem ofRowsFrom_add (n k : Nat) (rows : List (List Char)) :
    ofRowsFrom (n + k) rows = (ofRowsFrom n rows).map (shift k) := by
  induction rows generalizing n with
  | nil => rfl
  | cons row rows ih =>
      by_cases hrow : IsFilled row
      · rw [ofRowsFrom_cons_of_isFilled hrow, ofRowsFrom_cons_of_isFilled hrow, List.map_cons, ← ih,
          Nat.add_right_comm]
        rfl
      · rw [ofRowsFrom_cons_of_not_isFilled hrow, ofRowsFrom_cons_of_not_isFilled hrow, ← ih,
          Nat.add_right_comm]

end Line

/-!
## The first row with a property

Row `n` is the first from row `start` on with the property, and it is the same whatever stands
behind it.
-/

structure FirstRow (P : List Char -> Prop) (rows : List (List Char)) (start n : Nat)
    (row : List Char) : Prop where
  bound : start ≤ n
  found : rows[n]? = some row
  holds : P row
  least : forall m other, start ≤ m -> m < n -> rows[m]? = some other -> ¬P other

namespace FirstRow

variable {P : List Char -> Prop} {rows others : List (List Char)} {start n : Nat}
variable {row : List Char}

theorem lt_length (h : FirstRow P rows start n row) : n < rows.length := by
  rcases List.getElem?_eq_some_iff.mp h.found with ⟨hlt, _⟩
  exact hlt

theorem eq_append (h : FirstRow P rows start n row) :
    rows = rows.take n ++ row :: rows.drop (n + 1) := by
  rcases List.getElem?_eq_some_iff.mp h.found with ⟨hlt, hrow⟩
  rw [← hrow, ← List.drop_eq_getElem_cons hlt, List.take_append_drop]

theorem not_of_mem_take (h : FirstRow P rows 0 n row) {other : List Char}
    (hmem : other ∈ rows.take n) : ¬P other := by
  rcases List.mem_iff_getElem?.mp hmem with ⟨m, hm⟩
  rw [List.getElem?_take] at hm
  by_cases hlt : m < n
  · rw [if_pos hlt] at hm
    exact h.least m other (Nat.zero_le m) hlt hm
  · rw [if_neg hlt] at hm
    cases hm

/-- The first row is the same whatever stands behind it. -/
theorem congr_take (h : FirstRow P rows start n row)
    (hsame : others.take (n + 1) = rows.take (n + 1)) : FirstRow P others start n row := by
  have hrow : forall m, m ≤ n -> others[m]? = rows[m]? := by
    intro m hm
    have hlt : m < n + 1 := Nat.lt_succ_of_le hm
    rw [← List.getElem?_take_of_lt hlt, hsame, List.getElem?_take_of_lt hlt]
  constructor
  · exact h.bound
  · rw [hrow n (Nat.le_refl n)]
    exact h.found
  · exact h.holds
  · intro m other hstart hlt hother
    rw [hrow m (Nat.le_of_lt hlt)] at hother
    exact h.least m other hstart hlt hother

theorem drop_iff {k : Nat} :
    FirstRow P (rows.drop start) 0 k row ↔ FirstRow P rows start (start + k) row := by
  constructor
  · intro h
    constructor
    · exact Nat.le_add_right start k
    · rw [← List.getElem?_drop]
      exact h.found
    · exact h.holds
    · intro m other hstart hlt hother
      apply h.least (m - start) other (Nat.zero_le _) (Nat.sub_lt_left_of_lt_add hstart hlt)
      rw [List.getElem?_drop, Nat.add_sub_cancel' hstart]
      exact hother
  · intro h
    constructor
    · exact Nat.zero_le k
    · rw [List.getElem?_drop]
      exact h.found
    · exact h.holds
    · intro m other _ hlt hother
      rw [List.getElem?_drop] at hother
      exact h.least (start + m) other (Nat.le_add_right start m) (Nat.add_lt_add_left hlt start)
        hother

theorem of_forall_take (hfound : rows[n]? = some row) (h : P row)
    (hbefore : forall other, other ∈ rows.take n -> ¬P other) : FirstRow P rows 0 n row := by
  constructor
  · exact Nat.zero_le n
  · exact hfound
  · exact h
  · intro m other _ hlt hother
    apply hbefore
    rw [List.mem_iff_getElem?]
    exact ⟨m, by rw [List.getElem?_take_of_lt hlt, hother]⟩

theorem zero_cons_of_holds (h : P row) : FirstRow P (row :: rows) 0 0 row := by
  constructor
  · exact Nat.le_refl 0
  · rfl
  · exact h
  · intro m other _ hlt _
    cases hlt

theorem succ_cons {first : List Char} (hfirst : ¬P first) (h : FirstRow P rows 0 n row) :
    FirstRow P (first :: rows) 0 (n + 1) row := by
  constructor
  · exact Nat.zero_le _
  · exact h.found
  · exact h.holds
  · intro m other _ hlt hother
    cases m with
    | zero =>
        cases hother
        exact hfirst
    | succ m => exact h.least m other (Nat.zero_le m) (Nat.lt_of_succ_lt_succ hlt) hother

theorem exists_of_mem (hmem : row ∈ rows) (h : P row) :
    exists n first, FirstRow P rows 0 n first := by
  induction rows with
  | nil => cases hmem
  | cons first rows ih =>
      by_cases hfirst : P first
      · exact ⟨0, first, zero_cons_of_holds hfirst⟩
      · rcases List.mem_cons.mp hmem with rfl | hrest
        · exact absurd h hfirst
        · rcases ih hrest with ⟨n, found, hfound⟩
          exact ⟨n + 1, found, succ_cons hfirst hfound⟩

end FirstRow

end RaceTape
