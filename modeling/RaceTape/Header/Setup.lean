import RaceTape.Header.Draft
import RaceTape.Text.Integer

/-!
# Race setups

A checked header.  The checks run in a fixed order and the first that fails is reported:
the required keys, then laps, difficulty, opponents, track, kart and quick reset.
-/

namespace RaceTape
namespace Header

open Text

structure Setup where
  track : String
  kart : String
  laps : Int32
  difficulty : Int32
  opponents : Int32
  quickReset : Bool
deriving DecidableEq, Repr

/-- A number of laps is positive, or minus one. -/
def isLapCount (n : Int32) : Bool :=
  n == -1 || 0 < n

def isDifficulty (n : Int32) : Bool :=
  0 ≤ n && n ≤ 3

def isOpponentCount (n : Int32) : Bool :=
  0 ≤ n

/-- The words for on and off, in any case of their letters. -/
def switch? (value : String) : Option Bool :=
  let word := value.toList.map Char.toLower
  if ["t".toList, "true".toList, "1".toList].contains word then some true
  else if ["f".toList, "false".toList, "0".toList].contains word then some false
  else none

namespace Draft

/-- Reads the value of a key with `read`, which says none for a value that is not allowed. -/
def field (draft : Draft) (key : Key) (expected : Expectation) (read : String -> Option α) :
    Except Fault α :=
  match draft.valueOrStandard? key with
  | none => .error (.missingField key)
  | some value =>
      match read value with
      | some a => .ok a
      | none => .error (.invalidValue key value expected)

def number (draft : Draft) (key : Key) (expected : Expectation) (allowed : Int32 -> Bool) :
    Except Fault Int32 :=
  draft.field key expected fun value => (int32? value.toList).filter allowed

def name (draft : Draft) (key : Key) (names : List String) : Except Fault String :=
  draft.field key (.oneOf names) fun value =>
    if Catalog.search names value then some value else none

/-- The first required key without a value. -/
def missing? (draft : Draft) : Option Key :=
  Key.required.find? fun key => (draft.value? key).isNone

def check (draft : Draft) : Except Fault Setup :=
  match draft.missing? with
  | some key => .error (.missingField key)
  | none => do
      let laps ← draft.number .laps .lapCount isLapCount
      let difficulty ← draft.number .difficulty .difficultyLevel isDifficulty
      let opponents ← draft.number .opponents .opponentCount isOpponentCount
      let track ← draft.name .track Catalog.tracks
      let kart ← draft.name .kart Catalog.karts
      let quickReset ← draft.field .quickReset .switch switch?
      return { track, kart, laps, difficulty, opponents, quickReset }

end Draft

namespace Setup

def ofLines (lines : List Line) : Except Fault Setup :=
  (Draft.ofLines lines).check

end Setup

end Header
end RaceTape
