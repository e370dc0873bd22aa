import RaceTape.Proofs.Tape.Layout

/-!
# Sources that are rewritten row by row

Every row keeps its place and the characters that end it, and only what stands before them is
exchanged.  If no row is given a line feed, the lines of the new source are those of the new
rows.
-/

namespace RaceTape

open Text

namespace Text

structure EndedRow where
  text : List Char
  ending : List Char

def returnOf : List Char -> List Char
  | '\r' :: _ => ['\r']
  | _ => []

/-- The rows with their endings, of a text whose current row so far is `row`, in reverse. -/
def endedRowsFrom (row : List Char) : List Char -> List EndedRow
  | [] => if row.isEmpty then [] else [⟨row.reverse, []⟩]
  | c :: rest =>
      if c = '\n' then
        ⟨(dropReturn row).reverse, returnOf row ++ ['\n']⟩ :: endedRowsFrom [] rest
      else endedRowsFrom (c :: row) rest

/-- Puts rows together again, with `f i row` in place of row `i`. -/
def joinRows (f : Nat -> List Char -> List Char) (rows : List EndedRow) : List Char :=
  (rows.mapIdx fun i row => f i row.text ++ row.ending).flatten

/-- The text with `f i row` in place of row `i`, which is the row with number `i + 1`. -/
def rewriteRows (f : Nat -> List Char -> List Char) (text : List Char) : List Char :=
  joinRows f (endedRowsFrom [] text)

theorem joinRows_cons (f : Nat -> List Char -> List Char) (row : EndedRow)
    (rows : List EndedRow) :
    joinRows f (row :: rows) =
      f 0 row.text ++ (row.ending ++ joinRows (fun i => f (i + 1)) rows) := by
  rw [joinRows, List.mapIdx_cons, List.flatten_cons, List.append_assoc]
  rfl

theorem reverse_dropReturn_append (row : List Char) :
    (dropReturn row).reverse ++ returnOf row = row.reverse := by
  fun_cases dropReturn row with
  | case1 row => exact List.reverse_cons.symm
  | case2 row hrow => rw [returnOf.eq_2 row hrow, List.append_nil]

theorem returnOf_cases (row : List Char) : returnOf row = [] ∨ returnOf row = ['\r'] := by
  unfold returnOf
  split
  · exact Or.inr rfl
  · exact Or.inl rfl

end Text

/-!
## Lines of a rewritten source

Rows that are replaced by others without a line feed stay rows of their own.
-/

namespace Line

theorem isBlankText_returnOf (row : List Char) : IsBlankText (returnOf row) := by
  rcases returnOf_cases row with hnone | hreturn
  · rw [hnone]
    exact fun c hc => nomatch hc
  · rw [hreturn]
    exact isBlankText_return

theorem not_mem_returnOf (row : List Char) : '\n' ∉ returnOf row := by
  rcases returnOf_cases row with hnone | hreturn
  · rw [hnone]
    exact List.not_mem_nil
  · rw [hreturn]
    decide

theorem ofRowsFrom_joinRows {f : Nat -> List Char -> List Char}
    (hf : forall i row, '\n' ∉ row -> '\n' ∉ f i row) {row : List Char} (hrow : '\n' ∉ row)
    (text : List Char) (n : Nat) :
    ofRowsFrom n ((joinRows f (endedRowsFrom row text)).splitOn '\n') =
      ofRowsFrom n ((rowsFrom row text).mapIdx f) := by
  induction text generalizing f row n with
  | nil =>
      rw [endedRowsFrom, rowsFrom]
      cases row with
      | nil => rfl
      | cons c row =>
          have hreverse : '\n' ∉ (c :: row).reverse := by rwa [List.mem_reverse]
          have hjoin : joinRows f [⟨(c :: row).reverse, []⟩] = f 0 (c :: row).reverse := by
            rw [joinRows_cons]
            exact List.append_nil _
          show ofRowsFrom n ((joinRows f [⟨(c :: row).reverse, []⟩]).splitOn '\n') = _
          rw [hjoin, List.splitOn_eq_singleton (hf 0 _ hreverse)]
          rfl
  | cons c text ih =>
      rw [endedRowsFrom, rowsFrom]
      by_cases hc : c = '\n'
      · have hdropped : '\n' ∉ (dropReturn row).reverse := by
          intro hmem
          apply hrow
          rw [← List.mem_reverse, ← reverse_dropReturn_append row]
          exact List.mem_append_left _ hmem
        have hwhole : '\n' ∉ f 0 (dropReturn row).reverse ++ returnOf row :=
          List.not_mem_append (hf 0 _ hdropped) (not_mem_returnOf row)
        rw [if_pos hc, if_pos hc, joinRows_cons, List.append_assoc, ← List.append_assoc (f 0 _)]
        show ofRowsFrom n ((f 0 (dropReturn row).reverse ++ returnOf row ++ '\n' ::
          joinRows (fun i => f (i + 1)) (endedRowsFrom [] text)).splitOn '\n') = _
        rw [List.splitOn_append_cons_self_of_not_mem hwhole, List.mapIdx_cons, ofRowsFrom,
          ofRowsFrom, canonical_append_blanks (isBlankText_returnOf row),
          ih (fun i => hf (i + 1)) List.not_mem_nil]
      · have hnext : '\n' ∉ c :: row := by
          rw [List.mem_cons, not_or]
          exact ⟨fun h => hc h.symm, hrow⟩
        rw [if_neg hc, if_neg hc]
        exact ih hf hnext n

theorem ofSource_rewriteRows {f : Nat -> List Char -> List Char}
    (hf : forall i row, '\n' ∉ row -> '\n' ∉ f i row) (source : String) :
    ofSource (String.ofList (rewriteRows f source.toList)) =
      ofRows ((rows source.toList).mapIdx f) := by
  rw [ofSource_eq_splitOn, String.toList_ofList]
  exact ofRowsFrom_joinRows hf List.not_mem_nil source.toList 1

end Line

end RaceTape
