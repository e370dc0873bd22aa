import RaceTape.Text.Blank

/-!
# Header keys

A header line is a key, a separator and a value.

    line   ::= key (blanks | [blanks] (":" | "=") [blanks]) value [blanks]
    value  ::= word without quotes | quote text quote

The text between quotes is not empty and does not hold the quote around it.
-/

namespace RaceTape
namespace Header

open Text

inductive Key where
  | track
  | kart
  | laps
  | difficulty
  | opponents
  | quickReset
deriving DecidableEq, Repr

namespace Key

/-- All keys, in the order in which they are tried. -/
def all : List Key :=
  [.track, .kart, .laps, .difficulty, .opponents, .quickReset]

/-- The keys that a header cannot do without, in the order in which they are asked for. -/
def required : List Key :=
  [.track, .kart, .laps, .difficulty]

/-- The word that stands for a key in a tape. -/
def word : Key -> String
  | .track => "map"
  | .kart => "kart_name"
  | .laps => "num_laps"
  | .difficulty => "difficulty"
  | .opponents => "num_ai_karts"
  | .quickReset => "quick_reset"

/-- The value that an absent key has, if it may be absent. -/
def standard? : Key -> Option String
  | .opponents => some "0"
  | .quickReset => some "false"
  | _ => none

def ofWord? (word : String) : Option Key :=
  all.find? fun key => key.word == word

end Key

def quotationMark : Char := '"'

def apostrophe : Char := '\x27'

def isQuote (c : Char) : Bool :=
  c = quotationMark || c = apostrophe

/-- The text of a value that begins with the quote `quote`, given what follows the quote. -/
def closedBy? (quote : Char) (rest : List Char) : Option (List Char) :=
  match rest.reverse with
  | [] => none
  | last :: inner =>
      if last = quote && !inner.isEmpty && !inner.contains quote then some inner.reverse
      else none

/-- The text that a written value stands for. -/
def valueText? : List Char -> Option (List Char)
  | [] => none
  | c :: rest =>
      if isQuote c then closedBy? c rest
      else if (c :: rest).all (fun d => !isBlank d && !isQuote d) then some (c :: rest)
      else none

def isMark (c : Char) : Bool :=
  c = ':' || c = '='

/-- Drops one separating mark and the blanks after it. -/
def dropMark : List Char -> List Char
  | c :: rest => if isMark c then trimStart rest else c :: rest
  | [] => []

/-- The value in what follows a key. -/
def valueAfterKey? : List Char -> Option (List Char)
  | [] => none
  | c :: rest =>
      if isBlank c || isMark c then
        valueText? (trimEnd (dropMark (trimStart (c :: rest))))
      else none

namespace Key

/-- The value that a text gives to this key. -/
def valueIn? (key : Key) (text : List Char) : Option (List Char) :=
  (key.word.toList.isPrefixOf? text).bind valueAfterKey?

end Key

/-- The key that a header line sets, and its value. -/
def entry? (text : String) : Option (Key × String) :=
  Key.all.findSome? fun key =>
    (key.valueIn? text.toList).map fun value => (key, String.ofList value)

end Header
end RaceTape
