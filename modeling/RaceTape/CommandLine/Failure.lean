/-!
# Failures

A failure is a chain of messages: what could not be done, and then what caused it.
-/

namespace RaceTape
namespace CommandLine

structure Failure where
  what : String
  causes : List String
deriving DecidableEq, Repr

namespace Failure

/-- The chain in one line, as it is logged. -/
def inLine (f : Failure) : String :=
  ": ".intercalate (f.what :: f.causes)

/-- A text whose lines after the first are indented. -/
def indented (indent text : String) : String :=
  ("\n" ++ indent).intercalate (text.splitOn "\n")

/-- A number in five places. -/
def placed (n : Nat) : String :=
  let digits := toString n
  String.ofList (List.replicate (5 - digits.length) ' ') ++ digits

def numbered (n : Nat) : List String -> List String
  | [] => []
  | cause :: rest => ("\n" ++ placed n ++ ": " ++ indented "       " cause) :: numbered (n + 1) rest

/-- The causes below their heading; they are numbered if there are several. -/
def causesText : List String -> String
  | [] => ""
  | [cause] => "\n\nCaused by:\n    " ++ indented "    " cause
  | causes => "\n\nCaused by:" ++ String.join (numbered 0 causes)

/-- The chain as it is reported at the end of the program. -/
def report (f : Failure) : String :=
  "Error: " ++ f.what ++ causesText f.causes ++ "\n"

end Failure

end CommandLine
end RaceTape
