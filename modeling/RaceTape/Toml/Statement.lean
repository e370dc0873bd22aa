import RaceTape.Toml.Moment
import RaceTape.Toml.Number
import RaceTape.Toml.Text
import RaceTape.Toml.Value

/-!
# TOML statements

A document is a list of statements, each on lines of its own: the head of a table, the
head of one more table of an array, or a key with its value.  Keys are paths of names with
points between them.
-/

namespace RaceTape
namespace Toml

open Text

/-- A path has fewer names than this, and arrays and tables are nested less deep. -/
def depthLimit : Nat := 80

abbrev Path := List String

/-- Makes a table of assignments written in line, unless one stands in the way of another. -/
abbrev TableBuilder := List (Path × Value) -> Option (List (String × Value))

def isBareKeyChar (c : Char) : Bool :=
  c.isAlphanum || c = '-' || c = '_'

def bareKey : Reader String := fun cs =>
  match cs.takeWhile isBareKeyChar with
  | [] => none
  | name => some (String.ofList name, cs.dropWhile isBareKeyChar)

/-- One name of a path, with spaces around it. -/
def keyName : Reader String := fun cs => do
  let cs := skipSpaces cs
  let (name, cs) ← Reader.orElse (Reader.orElse basicString literalString) bareKey cs
  return (name, skipSpaces cs)

def path : Reader Path := fun cs => do
  let (names, cs) ← Reader.separatedBy '.' keyName cs
  if names.length < depthLimit then some (names, cs) else none

/-- A path, an equals sign and a value. -/
def assignment (value : Reader Value) : Reader (Path × Value) := fun cs => do
  let (path, cs) ← path cs
  let (v, cs) ← value (skipSpaces (← after? '=' cs))
  return ((path, v), cs)

/-- One item of an array with the blanks around it. -/
def arrayItem (value : Reader Value) : Reader Value := fun cs => do
  let (v, cs) ← value (skipArrayBlanks cs)
  return (v, skipArrayBlanks cs)

/-- The items of an array after its opening bracket; a comma may follow the last. -/
def arrayBody (value : Reader Value) : Reader Value := fun cs =>
  match Reader.separatedBy ',' (arrayItem value) cs with
  | some (items, cs) => do
      let cs := skipArrayBlanks ((after? ',' cs).getD cs)
      return (.array items, ← after? ']' cs)
  | none => do return (.array [], ← after? ']' (skipArrayBlanks cs))

/-- The entries of a table after its opening brace, all on one line. -/
def tableBody (build : TableBuilder) (value : Reader Value) : Reader Value := fun cs => do
  let spaced : Reader (Path × Value) := fun cs =>
    (assignment value cs).map fun (entry, cs) => (entry, skipSpaces cs)
  let (entries, cs) := (Reader.separatedBy ',' spaced cs).getD ([], cs)
  let table ← build entries
  return (.table table, ← after? '\x7d' (skipSpaces cs))

def boolean : Reader Value := fun cs =>
  match afterWord? "true" cs with
  | some rest => some (.boolean true, rest)
  | none => (afterWord? "false" cs).map fun rest => (.boolean false, rest)

/-- A value that is neither an array nor a table. -/
def scalar : Reader Value := fun cs =>
  match string cs with
  | some (s, rest) => some (.string s, rest)
  | none =>
      match moment cs with
      | some (text, rest) => some (.moment text, rest)
      | none =>
          match float cs with
          | some (text, rest) => some (.float text, rest)
          | none =>
              match integer cs with
              | some (n, rest) => some (.integer n, rest)
              | none => boolean cs

/-- A value in which arrays and tables are nested at most `depth` deep. -/
def value (build : TableBuilder) : Nat -> Reader Value
  | 0, cs =>
      match cs with
      | '[' :: _ => none
      | '\x7b' :: _ => none
      | cs => scalar cs
  | depth + 1, cs =>
      match cs with
      | '[' :: rest => arrayBody (value build depth) rest
      | '\x7b' :: rest => tableBody build (value build depth) rest
      | cs => scalar cs

inductive Statement where
  | table (path : Path)
  | tables (path : Path)
  | assign (path : Path) (value : Value)

/-- The head of a table, after its opening bracket. -/
def tableHead : Reader Statement := fun cs =>
  match cs with
  | '[' :: rest => do
      let (path, rest) ← path rest
      return (.tables path, ← afterWord? "]]" rest)
  | _ => do
      let (path, rest) ← path cs
      return (.table path, ← after? ']' rest)

/-- A statement up to the end of its line. -/
def statement (build : TableBuilder) : Reader Statement := fun cs => do
  let (s, rest) ←
    match cs with
    | '[' :: rest => tableHead rest
    | _ =>
        (assignment (value build (depthLimit - 1)) cs).map fun ((path, v), rest) =>
          (.assign path v, rest)
  return (s, ← afterLine? rest)

/-- The statements of a text.  Every line with something on it takes one unit of fuel. -/
def statementsUpTo (build : TableBuilder) : Nat -> List Char -> Option (List Statement)
  | 0, _ => none
  | fuel + 1, cs =>
      match skipSpaces cs with
      | [] => some []
      | c :: rest =>
          if c = '#' || c = '\n' || c = '\r' then
            (afterLine? (c :: rest)).bind (statementsUpTo build fuel)
          else do
            let (s, rest) ← statement build (c :: rest)
            return s :: (← statementsUpTo build fuel rest)

/-- The mark of byte order that a text may begin with. -/
def byteOrderMark : Char := Char.ofNat 0xFEFF

def statements (build : TableBuilder) (cs : List Char) : Option (List Statement) :=
  statementsUpTo build (cs.length + 1) ((after? byteOrderMark cs).getD cs)

end Toml
end RaceTape
