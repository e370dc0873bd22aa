import RaceTape.Text.EscapeTable
import RaceTape.Text.Hex
import RaceTape.Text.Ranges

/-!
# Quoted texts

A text in double quotes, as it is shown in the log: quotes, backslashes and the common
control characters are written with a backslash, and every other character that cannot
be shown is written by its number.
-/

namespace RaceTape
namespace Text

def escapeByNumber (c : Char) : List Char :=
  ['\\', 'u', '\x7b'] ++ hexDigits c.toNat ++ ['\x7d']

def quotedChar (c : Char) : List Char :=
  if c = '\x00' then ['\\', '0']
  else if c = '\t' then ['\\', 't']
  else if c = '\r' then ['\\', 'r']
  else if c = '\n' then ['\\', 'n']
  else if c = '\\' then ['\\', '\\']
  else if c = '"' then ['\\', '"']
  else if inRanges c.toNat escapedRanges then escapeByNumber c
  else [c]

def quoted (s : String) : String :=
  String.ofList ('"' :: s.toList.flatMap quotedChar ++ ['"'])

end Text
end RaceTape
