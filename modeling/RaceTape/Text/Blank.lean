import RaceTape.Text.Ranges

/-!
# Blank characters

The white-space characters, and the three things done with them: trimming a text,
cutting it into words, and telling whether it holds anything else.
-/

namespace RaceTape
namespace Text

/-- The code points with the white-space property. -/
def blankRanges : List (Nat × Nat) :=
  [(0x9, 0xD), (0x20, 0x20), (0x85, 0x85), (0xA0, 0xA0), (0x1680, 0x1680), (0x2000, 0x200A),
   (0x2028, 0x2029), (0x202F, 0x202F), (0x205F, 0x205F), (0x3000, 0x3000)]

def isBlank (c : Char) : Bool :=
  inRanges c.toNat blankRanges

/-- The text without its leading blanks. -/
def trimStart (cs : List Char) : List Char :=
  cs.dropWhile isBlank

/-- The text without its trailing blanks. -/
def trimEnd (cs : List Char) : List Char :=
  (cs.reverse.dropWhile isBlank).reverse

/-- The text without the blanks around it. -/
def trim (cs : List Char) : List Char :=
  trimEnd (trimStart cs)

/-- The maximal runs of characters that are not blank, in order. -/
def words (cs : List Char) : List (List Char) :=
  (cs.splitOnP isBlank).filter (fun word => !word.isEmpty)

/-- The words of a text with one space between each two. -/
def singleSpaced (cs : List Char) : List Char :=
  [' '].intercalate (words cs)

end Text
end RaceTape
