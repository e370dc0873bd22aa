import RaceTape.Text.Hex

/-!
# JSON documents

Documents whose objects keep the order of their fields, and their two written forms: the
compact one, and the pretty one with a line for each item and two spaces for each level.
-/

namespace RaceTape

open Text

inductive Json where
  | null
  | bool (value : Bool)
  /-- A number, as it is written. -/
  | number (text : String)
  | string (value : String)
  | array (items : List Json)
  | object (fields : List (String × Json))

namespace Json

def escapeChar (c : Char) : List Char :=
  if c = '"' then ['\\', '"']
  else if c = '\\' then ['\\', '\\']
  else if c = '\x08' then ['\\', 'b']
  else if c = '\x0c' then ['\\', 'f']
  else if c = '\n' then ['\\', 'n']
  else if c = '\r' then ['\\', 'r']
  else if c = '\t' then ['\\', 't']
  else if c.toNat < 0x20 then '\\' :: 'u' :: paddedHex 4 c.toNat
  else [c]

def stringText (s : String) : String :=
  String.ofList ('"' :: s.toList.flatMap escapeChar ++ ['"'])

def ofNat (n : Nat) : Json :=
  .number (toString n)

def ofInt (n : Int) : Json :=
  .number (toString n)

mutual

def compact : Json -> String
  | .null => "null"
  | .bool value => if value then "true" else "false"
  | .number text => text
  | .string value => stringText value
  | .array items => "[" ++ compactItems items ++ "]"
  | .object fields => "\x7b" ++ compactFields fields ++ "\x7d"

def compactItems : List Json -> String
  | [] => ""
  | [item] => compact item
  | item :: rest => compact item ++ "," ++ compactItems rest

def compactFields : List (String × Json) -> String
  | [] => ""
  | [(name, value)] => stringText name ++ ":" ++ compact value
  | (name, value) :: rest =>
      stringText name ++ ":" ++ compact value ++ "," ++ compactFields rest

end

/-- A new line at the given level. -/
def newLine (level : Nat) : String :=
  String.ofList ('\n' :: List.replicate (2 * level) ' ')

mutual

/-- The pretty form of a document that stands at the given level. -/
def prettyAt (level : Nat) : Json -> String
  | .null => "null"
  | .bool value => if value then "true" else "false"
  | .number text => text
  | .string value => stringText value
  | .array [] => "[]"
  | .array items => "[" ++ prettyItems (level + 1) items ++ newLine level ++ "]"
  | .object [] => "\x7b\x7d"
  | .object fields => "\x7b" ++ prettyFields (level + 1) fields ++ newLine level ++ "\x7d"

def prettyItems (level : Nat) : List Json -> String
  | [] => ""
  | [item] => newLine level ++ prettyAt level item
  | item :: rest => newLine level ++ prettyAt level item ++ "," ++ prettyItems level rest

def prettyFields (level : Nat) : List (String × Json) -> String
  | [] => ""
  | [(name, value)] => newLine level ++ stringText name ++ ": " ++ prettyAt level value
  | (name, value) :: rest =>
      newLine level ++ stringText name ++ ": " ++ prettyAt level value ++ "," ++
        prettyFields level rest

end

def pretty (document : Json) : String :=
  prettyAt 0 document

end Json

end RaceTape
