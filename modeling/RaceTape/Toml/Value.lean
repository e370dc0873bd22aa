/-!
# TOML values

The values of a TOML document.  Numbers with a fraction and moments in time are kept as
they are written.
-/

namespace RaceTape
namespace Toml

inductive Value where
  | string (s : String)
  | integer (n : Int)
  | float (text : String)
  | boolean (b : Bool)
  | moment (text : String)
  | array (items : List Value)
  | table (entries : List (String × Value))

end Toml
end RaceTape
