import RaceTape.Bytes

/-!
# Messages

What is sent to the control module: a script to play, or the request to unload itself.
-/

namespace RaceTape
namespace Wire

inductive Kind where
  | script
  | unload
deriving DecidableEq, Repr

namespace Kind

/-- The byte that stands for a kind of message. -/
def code : Kind -> UInt8
  | .script => 0
  | .unload => 1

def ofCode? (code : UInt8) : Option Kind :=
  if code = 0 then some .script
  else if code = 1 then some .unload
  else none

/-- The name of a kind in the log. -/
def name : Kind -> String
  | .script => "Script"
  | .unload => "Unload"

end Kind

inductive Message where
  | script (payload : Bytes)
  | unload
deriving DecidableEq, Repr

namespace Message

def kind : Message -> Kind
  | .script _ => .script
  | .unload => .unload

def payload : Message -> Bytes
  | .script bytes => bytes
  | .unload => []

end Message

end Wire
end RaceTape
