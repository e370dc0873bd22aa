import RaceTape.Text.CaseTable
import RaceTape.Text.Ranges

/-!
# Letter case

Lower-casing of a whole text.  Every capital letter has one lower-case letter, with two
exceptions: the dotted capital I becomes an i with a combining dot, and a capital sigma
becomes a final sigma at the end of a word.
-/

namespace RaceTape
namespace Text

def isCased (c : Char) : Bool :=
  inRanges c.toNat casedRanges

def isCaseIgnorable (c : Char) : Bool :=
  inRanges c.toNat caseIgnorableRanges

/-- The code point that the runs give for the lower-case letter of `n`, or `n` itself. -/
def lowerCode (n : Nat) : List CaseRun -> Nat
  | [] => n
  | run :: rest =>
      if n < run.first then n
      else if n ≤ run.last && (n - run.first) % run.step == 0 then (Int.ofNat n + run.shift).toNat
      else lowerCode n rest

def capitalSigma : Char := 'Σ'

def dottedCapitalI : Char := 'İ'

/-- The lower-case form of a character away from its neighbours. -/
def lowerChar (c : Char) : List Char :=
  if c = dottedCapitalI then ['i', Char.ofNat 0x307]
  else [Char.ofNat (lowerCode c.toNat capitalRuns)]

/-- Whether the first character that matters for case is a cased letter. -/
def meetsCased (cs : List Char) : Bool :=
  match cs.dropWhile isCaseIgnorable with
  | [] => false
  | c :: _ => isCased c

/--
The lower-case form of a capital sigma between `before`, in reverse, and `after`.
It is final when a letter precedes it and none follows.
-/
def lowerSigma (before after : List Char) : Char :=
  if meetsCased before && !meetsCased after then 'ς' else 'σ'

/-- Lower-casing of a text that follows `before`, given in reverse. -/
def lowerFrom (before : List Char) : List Char -> List Char
  | [] => []
  | c :: rest =>
      (if c = capitalSigma then [lowerSigma before rest] else lowerChar c) ++
        lowerFrom (c :: before) rest

def lower (cs : List Char) : List Char :=
  lowerFrom [] cs

end Text
end RaceTape
