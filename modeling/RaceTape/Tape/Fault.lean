import RaceTape.Header.Catalog
import RaceTape.Header.Key

/-!
# Faults and warnings

A fault ends the reading of a tape; the first one found is reported.  A warning names a
header line that sets no key.
-/

namespace RaceTape

open Header

/-- What a header value should have been. -/
inductive Expectation where
  | lapCount
  | difficultyLevel
  | opponentCount
  | oneOf (names : List String)
  | switch
deriving DecidableEq, Repr

namespace Expectation

def text : Expectation -> String
  | .lapCount => "-1 or a positive integer"
  | .difficultyLevel => "an integer from 0 to 3"
  | .opponentCount => "a non-negative integer"
  | .oneOf names => Catalog.describe names
  | .switch => "one of: t, true, 1, f, false, 0"

end Expectation

/-- What is wrong with a timeline line. -/
inductive LineFlaw where
  | fieldCount (found : Nat)
  | shortAcceleration
  | shortMisc
  | angle (text : String)
  | ticks (text : String)
deriving DecidableEq, Repr

namespace LineFlaw

def text : LineFlaw -> String
  | .fieldCount found => "expected 4 '|'-separated fields, found " ++ toString found
  | .shortAcceleration => "acceleration field needs 2 characters"
  | .shortMisc => "misc field needs 3 characters"
  | .angle text => "angle '" ++ text ++ "' is not a number"
  | .ticks text => "tick count '" ++ text ++ "' is not a 16-bit integer"

end LineFlaw

inductive Fault where
  | missingField (key : Key)
  | invalidValue (key : Key) (value : String) (expected : Expectation)
  | sentinelNotFound (sentinel : String)
  | framebulkFlaw (line : Nat) (flaw : LineFlaw)
deriving DecidableEq, Repr

namespace Fault

def message : Fault -> String
  | .missingField key => "missing required header field '" ++ key.word ++ "'"
  | .invalidValue key value expected =>
      "invalid value '" ++ value ++ "' for header field '" ++ key.word ++ "': expected " ++
        expected.text
  | .sentinelNotFound sentinel =>
      "no '" ++ sentinel ++ "' line found; cannot tell where the header ends"
  | .framebulkFlaw line flaw =>
      "framebulk syntax error on line " ++ toString line ++ ": " ++ flaw.text

/-- The number of the line at fault, where one line is. -/
def line? : Fault -> Option Nat
  | .framebulkFlaw line _ => some line
  | _ => none

end Fault

structure Warning where
  line : Nat
  text : String
deriving DecidableEq, Repr

namespace Warning

def message (w : Warning) : String :=
  "line " ++ toString w.line ++ ": unrecognized header line '" ++ w.text ++ "', skipping"

end Warning

end RaceTape
