/-!
# Readers

A reader takes a value from the front of a text and gives the rest, or none if the text
does not begin with such a value.
-/

namespace RaceTape
namespace Text

abbrev Reader (α : Type) := List Char -> Option (α × List Char)

/-- What follows the character `c`. -/
def after? (c : Char) : List Char -> Option (List Char)
  | [] => none
  | d :: rest => if d = c then some rest else none

/-- What follows a fixed word. -/
def afterWord? (word : String) (cs : List Char) : Option (List Char) :=
  word.toList.isPrefixOf? cs

namespace Reader

/-- Reads as often as it can, but at most `fuel` times. -/
def repeatUpTo (read : Reader α) : Nat -> List Char -> List α × List Char
  | 0, cs => ([], cs)
  | fuel + 1, cs =>
      match read cs with
      | none => ([], cs)
      | some (a, rest) =>
          let (more, rest) := repeatUpTo read fuel rest
          (a :: more, rest)

/-- Reads as often as it can; every value takes at least one character. -/
def many (read : Reader α) (cs : List Char) : List α × List Char :=
  repeatUpTo read cs.length cs

/-- Values with a separating character between each two; at least one value. -/
def separatedBy (separator : Char) (read : Reader α) : Reader (List α) := fun cs => do
  let (first, cs) ← read cs
  let (more, cs) := many (fun cs => (after? separator cs).bind read) cs
  return (first :: more, cs)

/-- The first of two readers that succeeds. -/
def orElse (first second : Reader α) : Reader α := fun cs =>
  (first cs).or (second cs)

end Reader

/-- Exactly `n` characters that all satisfy `p`. -/
def exactly (n : Nat) (p : Char -> Bool) : Reader (List Char) := fun cs =>
  let taken := cs.take n
  if taken.length = n && taken.all p then some (taken, cs.drop n) else none

end Text
end RaceTape
