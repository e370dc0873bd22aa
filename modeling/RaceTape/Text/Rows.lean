/-!
# Rows of a text

A text is a sequence of rows, each ended by a line feed.  A carriage return right
before the line feed belongs to the ending.  What follows the last line feed is a row
of its own unless it is empty.
-/

namespace RaceTape
namespace Text

/-- Drops one carriage return from the front of a reversed row. -/
def dropReturn : List Char -> List Char
  | '\r' :: row => row
  | row => row

/-- The rows of a text whose current row so far is `row`, in reverse. -/
def rowsFrom (row : List Char) : List Char -> List (List Char)
  | [] => if row.isEmpty then [] else [row.reverse]
  | c :: rest =>
      if c = '\n' then (dropReturn row).reverse :: rowsFrom [] rest
      else rowsFrom (c :: row) rest

def rows (cs : List Char) : List (List Char) :=
  rowsFrom [] cs

end Text
end RaceTape
