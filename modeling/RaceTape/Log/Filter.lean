import RaceTape.Log.Event
import RaceTape.Text.Blank
import RaceTape.Text.Integer
import RaceTape.Text.LetterTable

/-!
# Log filters

A filter is written as directives with commas between them.  A directive is a level, the
path of a part, or a path with a level; it lets the events of that path, or of all paths,
through up to its level.  Of the directives that speak of an event the most specific one
decides.  Spans and fields may be named too, in brackets and braces.

    directive  ::= level | path | [path] ["[" span "]" | "[" [span] "\x7b" field "\x7d" "]"] ["=" [level]]
-/

namespace RaceTape
namespace Log

open Text

/-- A field that a directive asks for, with a value or without. -/
structure Field where
  name : String
  hasValue : Bool
deriving DecidableEq, Repr

structure Directive where
  path : Option String
  span : Option String
  field : Option Field
  /-- The rank of the finest level let through; zero lets nothing through. -/
  finest : Nat
deriving DecidableEq, Repr

inductive DirectiveError where
  | malformed
  | level
deriving DecidableEq, Repr

def DirectiveError.message : DirectiveError -> String
  | .malformed => "invalid filter directive"
  | .level =>
      "error parsing level filter: expected one of \"off\", \"error\", \"warn\", \"info\", " ++
        "\"debug\", \"trace\", or a number 0-5"

namespace Directive

def everything : Nat := Level.trace.rank

/-- The rank that the name of a level, in any case, or its number stands for. -/
def rank? (cs : List Char) : Option Nat :=
  let number :=
    match cs with
    | '-' :: _ => none
    | _ => (integer? cs).map Int.toNat
  match number with
  | some n => if n ≤ everything then some n else none
  | none =>
      let word := String.ofList (cs.map Char.toLower)
      [("off", 0), ("error", 1), ("warn", 2), ("info", 3), ("debug", 4), ("trace", 5)].lookup word

/-- The rank after an equals sign, where nothing stands for everything. -/
def rankAfterSign (cs : List Char) : Except DirectiveError Nat :=
  if cs.isEmpty then .ok everything
  else
    match rank? cs with
    | some rank => .ok rank
    | none => .error .level

/-- The end of a directive behind its path and span. -/
def finish (path span : Option String) (field : Option Field) :
    List Char -> Except DirectiveError Directive
  | [] => .ok ⟨path, span, field, everything⟩
  | '=' :: rest =>
      match rankAfterSign rest with
      | .ok rank => .ok ⟨path, span, field, rank⟩
      | .error e => .error e
  | _ => .error .malformed

def fieldOf (cs : List Char) : Field :=
  { name := String.ofList (cs.takeWhile fun c => c ≠ '=')
    hasValue := cs.contains '=' }

def openBrace : Char := '\x7b'

def closeBrace : Char := '\x7d'

/-- A directive from its opening bracket on. -/
def spanPart (path : Option String) (cs : List Char) : Except DirectiveError Directive :=
  let isNameChar (c : Char) : Bool := c ≠ ']' && c ≠ openBrace
  let name := cs.takeWhile isNameChar
  match cs.dropWhile isNameChar with
  | [] => .error .malformed
  | mark :: rest =>
      if mark = ']' then finish path (some (String.ofList name)) none rest
      else
        let field := rest.takeWhile fun c => c ≠ closeBrace
        let span := if name.isEmpty then none else some (String.ofList name)
        match rest.dropWhile fun c => c ≠ closeBrace with
        | _ :: ']' :: rest =>
            if field.isEmpty then .error .malformed
            else finish path span (some (fieldOf field)) rest
        | _ => .error .malformed

/-- Characters that a path or a level can begin with. -/
def isStart (c : Char) : Bool :=
  c = '-' || c = ':' || c = '_' || inRanges c.toNat letterRanges

def ofText (text : List Char) : Except DirectiveError Directive :=
  match trim text with
  | [] => .error .malformed
  | '[' :: rest => spanPart none rest
  | c :: rest =>
      if isStart c then
        let isNameChar (c : Char) : Bool := c ≠ '=' && c ≠ '['
        let name := (c :: rest).takeWhile isNameChar
        match (c :: rest).dropWhile isNameChar with
        | [] =>
            match rank? name with
            | some rank => .ok ⟨none, none, none, rank⟩
            | none => .ok ⟨some (String.ofList name), none, none, everything⟩
        | '[' :: rest => spanPart (some (String.ofList name)) rest
        | rest => finish (some (String.ofList name)) none none rest
      else .error .malformed

/-- Whether a directive can decide about events that happen in no span. -/
def isStatic (d : Directive) : Bool :=
  d.span.isNone &&
    match d.field with
    | none => true
    | some field => !field.hasValue

/-- Whether a directive speaks of an event; the only field of an event is its message. -/
def speaksOf (d : Directive) (e : Event) : Bool :=
  d.isStatic &&
    (match d.path with
      | none => true
      | some path => path.toList.isPrefixOf e.part.path.toList) &&
    match d.field with
    | none => true
    | some field => field.name = "message"

/-- Larger for directives that say more: first the length of the path, then a field. -/
def weight (d : Directive) : Nat :=
  2 * (match d.path with
    | none => 0
    | some path => path.utf8ByteSize + 1) +
    if d.field.isSome then 1 else 0

end Directive

/-- Directives in the order in which they are written. -/
structure Filter where
  directives : List Directive
deriving DecidableEq, Repr

namespace Filter

/-- What stands for a filter without directives: only errors are let through. -/
def onlyErrors : Filter :=
  ⟨[⟨none, none, none, Level.error.rank⟩]⟩

def ofDirectives (directives : List Directive) : Filter :=
  if directives.isEmpty then onlyErrors else ⟨directives⟩

/-- The texts between commas that are not empty. -/
def pieces (text : String) : List (List Char) :=
  (text.toList.splitOn ',').filter fun piece => !piece.isEmpty

/-- Reads directives, all of which have to be in order. -/
def parse? (text : String) : Option Filter :=
  let rec collect : List (List Char) -> Option (List Directive)
    | [] => some []
    | piece :: rest =>
        match Directive.ofText piece with
        | .error _ => none
        | .ok d => (collect rest).map (d :: ·)
  (collect (pieces text)).map ofDirectives

/-- Reads the directives that are in order, and complains about each of the others. -/
def parseLossy (text : String) : Filter × List String :=
  let directives := (pieces text).filterMap fun piece =>
    match Directive.ofText piece with
    | .ok d => some d
    | .error _ => none
  let complaints := (pieces text).filterMap fun piece =>
    match Directive.ofText piece with
    | .ok _ => none
    | .error e => some ("ignoring \x60" ++ String.ofList piece ++ "\x60: " ++ e.message)
  (ofDirectives directives, complaints)

/-- The directive that decides about an event: the weightiest, and of equal ones the last. -/
def deciding? (filter : Filter) (e : Event) : Option Directive :=
  let choose (best : Option Directive) (d : Directive) : Option Directive :=
    if d.speaksOf e then
      match best with
      | none => some d
      | some other => if d.weight < other.weight then some other else some d
    else best
  filter.directives.foldl choose none

def allows (filter : Filter) (e : Event) : Bool :=
  match filter.deciding? e with
  | none => false
  | some d => e.level.rank ≤ d.finest

end Filter

end Log
end RaceTape
