/-!
# Tracks and karts

The names that a header may give for the track and for the kart, in increasing order.
-/

namespace RaceTape
namespace Header

namespace Catalog

def tracks : List String :=
  ["abyss", "black_forest", "candela_city", "cocoa_temple", "cornfield_crossing", "fortmagma",
   "gran_paradiso_island", "hacienda", "lighthouse", "mines", "minigolf", "olivermath",
   "ravenbridge_mansion", "sandtrack", "scotland", "snowmountain", "snowtuxpeak",
   "stk_enterprise", "volcano_island", "xr591", "zengarden"]

def karts : List String :=
  ["adiumy", "amanda", "beastie", "emule", "gavroche", "gnu", "hexley", "kiki", "konqi", "midi",
   "nolok", "pidgin", "puffy", "sara_the_racer", "sara_the_wizard", "suzanne", "tux", "wilber",
   "xue"]

/-- Looks for a name in an increasing list, by halves and in so many steps at the most. -/
def searchWithin (name : String) : Nat -> List String -> Bool
  | 0, _ => false
  | steps + 1, names =>
      match names.drop (names.length / 2) with
      | [] => false
      | middle :: upper =>
          if name < middle then searchWithin name steps (names.take (names.length / 2))
          else if middle < name then searchWithin name steps upper
          else true

/-- Whether a name is in an increasing list. -/
def search (names : List String) (name : String) : Bool :=
  searchWithin name names.length names

/-- The names in increasing order, in words. -/
def describe (names : List String) : String :=
  "one of: " ++ ", ".intercalate (names.mergeSort fun a b => !decide (b < a))

end Catalog

end Header
end RaceTape
