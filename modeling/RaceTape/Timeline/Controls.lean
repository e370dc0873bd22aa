/-!
# Controls

The controls held during a framebulk, as a set of bits with a fixed numbering.
-/

namespace RaceTape
namespace Timeline

structure Controls where
  bits : UInt16
deriving DecidableEq, Repr

namespace Controls

def empty : Controls := ⟨0⟩

def accelerate : UInt16 := 1

def brake : UInt16 := 2

def ability : UInt16 := 4

def nitro : UInt16 := 8

def skid : UInt16 := 16

/-- Marks a framebulk that sets the playback speed. -/
def setSpeed : UInt16 := 32

/-- Every bit that has a meaning. -/
def defined : UInt16 :=
  accelerate ||| brake ||| ability ||| nitro ||| skid ||| setSpeed

/-- Refuses bits without a meaning. -/
def ofBits? (bits : UInt16) : Option Controls :=
  if bits &&& ~~~defined = 0 then some ⟨bits⟩ else none

/-- Whether all the given bits are set. -/
def contains (c : Controls) (bits : UInt16) : Bool :=
  c.bits &&& bits == bits

/-- The set with the given bits added. -/
def add (c : Controls) (bits : UInt16) : Controls :=
  ⟨c.bits ||| bits⟩

/-- The set with the given bits taken away. -/
def remove (c : Controls) (bits : UInt16) : Controls :=
  ⟨c.bits &&& ~~~bits⟩

def put (c : Controls) (bits : UInt16) (on : Bool) : Controls :=
  if on then c.add bits else c.remove bits

end Controls

end Timeline
end RaceTape
