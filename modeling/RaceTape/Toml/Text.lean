import RaceTape.Text.Hex
import RaceTape.Text.Reader

/-!
# Blanks, comments and strings in TOML

Strings come in four forms: between quotation marks, with escapes, or between apostrophes,
without; on one line, or between triple marks over several.
-/

namespace RaceTape
namespace Toml

open Text

/-!
## Blanks and line ends
-/

def isSpace (c : Char) : Bool :=
  c = ' ' || c = '\t'

def skipSpaces (cs : List Char) : List Char :=
  cs.dropWhile isSpace

/-- What follows a line feed, or a carriage return with a line feed. -/
def afterLineEnd? : List Char -> Option (List Char)
  | '\n' :: rest => some rest
  | '\r' :: '\n' :: rest => some rest
  | _ => none

/-- Characters that a comment may hold. -/
def isCommentChar (c : Char) : Bool :=
  c = '\t' || 0x20 ≤ c.toNat

/-- What follows a comment on its line. -/
def afterComment? (cs : List Char) : Option (List Char) :=
  (after? '#' cs).map fun rest => rest.dropWhile isCommentChar

/-- Spaces and perhaps a comment, up to the end of the line or of the text. -/
def afterLine? (cs : List Char) : Option (List Char) :=
  let cs := skipSpaces cs
  match (afterComment? cs).getD cs with
  | [] => some []
  | rest => afterLineEnd? rest

/-- One blank of the kinds that may stand between the items of an array. -/
def arrayBlank : Reader Unit := fun cs =>
  match cs with
  | [] => none
  | c :: rest =>
      if isSpace c then some ((), rest)
      else ((afterLineEnd? cs).or (afterComment? cs)).map fun rest => ((), rest)

def skipArrayBlanks (cs : List Char) : List Char :=
  (Reader.many arrayBlank cs).2

/-!
## Strings
-/

def quotationMark : Char := '"'

def apostrophe : Char := '\x27'

/-- Characters that stand for themselves between marks of the kind `mark`. -/
def isPlain (mark c : Char) : Bool :=
  c = '\t' || (0x20 ≤ c.toNat && c.toNat ≠ 0x7F && c ≠ mark)

/-- A character given by `n` hexadecimal digits. -/
def numberedChar (n : Nat) : Reader Char := fun cs => do
  let (digits, rest) ← exactly n isHexDigit cs
  let code := valueInBase 16 digits
  if code < 0xD800 || (0xDFFF < code && code < 0x110000) then some (Char.ofNat code, rest)
  else none

/-- The character that the text after a backslash stands for. -/
def escape : Reader Char
  | 'b' :: rest => some ('\x08', rest)
  | 't' :: rest => some ('\t', rest)
  | 'n' :: rest => some ('\n', rest)
  | 'f' :: rest => some ('\x0c', rest)
  | 'r' :: rest => some ('\r', rest)
  | '"' :: rest => some ('"', rest)
  | '\\' :: rest => some ('\\', rest)
  | 'u' :: rest => numberedChar 4 rest
  | 'U' :: rest => numberedChar 8 rest
  | _ => none

/-- One character between quotation marks. -/
def basicChar : Reader Char
  | [] => none
  | c :: rest =>
      if c = '\\' then escape rest
      else if isPlain quotationMark c then some (c, rest)
      else none

def literalChar : Reader Char
  | [] => none
  | c :: rest => if isPlain apostrophe c then some (c, rest) else none

/-- A string on one line between marks. -/
def between (mark : Char) (read : Reader Char) : Reader String := fun cs => do
  let (body, cs) := Reader.many read (← after? mark cs)
  return (String.ofList body, ← after? mark cs)

def basicString : Reader String :=
  between quotationMark basicChar

def literalString : Reader String :=
  between apostrophe literalChar

/-- What follows a line end that a backslash takes away with all blanks after it. -/
def afterJoin? (cs : List Char) : Option (List Char) := do
  let rest ← afterLineEnd? (skipSpaces (← after? '\\' cs))
  let blank : Reader Unit := fun cs =>
    match cs with
    | [] => none
    | c :: rest =>
        if isSpace c then some ((), rest) else (afterLineEnd? cs).map fun rest => ((), rest)
  return (Reader.many blank rest).2

/-- A piece of a string over several lines: what it stands for, and the rest. -/
def multilineBasic : Reader (List Char) := fun cs =>
  match afterJoin? cs with
  | some rest => some ([], rest)
  | none =>
      match basicChar cs with
      | some (c, rest) => some ([c], rest)
      | none => (afterLineEnd? cs).map fun rest => (['\n'], rest)

def multilineLiteral : Reader (List Char) := fun cs =>
  match literalChar cs with
  | some (c, rest) => some ([c], rest)
  | none => (afterLineEnd? cs).map fun rest => (['\n'], rest)

/--
The body of a string over several lines and what follows its closing marks.  Three marks
close it; one or two more before them belong to the body, as do one or two marks on their
own.
-/
def multilineBody (mark : Char) (read : Reader (List Char)) : Nat -> Reader (List Char)
  | 0, _ => none
  | fuel + 1, cs =>
      let marks := (cs.takeWhile fun c => c = mark).length
      if 3 ≤ marks then
        let own := min (marks - 3) 2
        some (List.replicate own mark, cs.drop (own + 3))
      else if 0 < marks then
        (multilineBody mark read fuel (cs.drop marks)).map fun (body, rest) =>
          (List.replicate marks mark ++ body, rest)
      else do
        let (piece, cs) ← read cs
        let (body, rest) ← multilineBody mark read fuel cs
        return (piece ++ body, rest)

/-- A string between triple marks; a line end right after the opening ones is dropped. -/
def multiline (mark : Char) (read : Reader (List Char)) : Reader String := fun cs => do
  let cs ← after? mark (← after? mark (← after? mark cs))
  let cs := (afterLineEnd? cs).getD cs
  let (body, rest) ← multilineBody mark read (cs.length + 1) cs
  return (String.ofList body, rest)

def startsTriple (mark : Char) (cs : List Char) : Bool :=
  3 ≤ (cs.takeWhile fun c => c = mark).length

/-- A string in any of the four forms. -/
def string : Reader String := fun cs =>
  if startsTriple quotationMark cs then multiline quotationMark multilineBasic cs
  else if startsTriple apostrophe cs then multiline apostrophe multilineLiteral cs
  else Reader.orElse basicString literalString cs

end Toml
end RaceTape
