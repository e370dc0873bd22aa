import RaceTape.Text.Blank
import RaceTape.Text.Casing
import RaceTape.Text.Rows

/-!
# Lines of a tape

A tape is read line by line.  A comment runs from two slashes to the end of its row;
blanks only separate words; letter case does not matter.  The canonical text of a row
has the comment cut off, one space between words, and only lower-case letters.  Rows
whose canonical text is empty say nothing, but they count: every line keeps the number
of its row.
-/

namespace RaceTape

open Text

/-- A row with something in it, under its number counted from one. -/
structure Line where
  number : Nat
  text : String
deriving DecidableEq, Repr

namespace Line

/-- The part of a row before its comment. -/
def beforeComment : List Char -> List Char
  | '/' :: '/' :: _ => []
  | c :: rest => c :: beforeComment rest
  | [] => []

def canonical (row : List Char) : List Char :=
  lower (singleSpaced (beforeComment row))

/-- The lines among rows of which the first has number `n`. -/
def ofRowsFrom (n : Nat) : List (List Char) -> List Line
  | [] => []
  | row :: rest =>
      let text := canonical row
      if text.isEmpty then ofRowsFrom (n + 1) rest
      else { number := n, text := String.ofList text } :: ofRowsFrom (n + 1) rest

def ofRows (rows : List (List Char)) : List Line :=
  ofRowsFrom 1 rows

def ofSource (source : String) : List Line :=
  ofRows (rows source.toList)

end Line

end RaceTape
