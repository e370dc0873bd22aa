import RaceTape.Toml.Statement

/-!
# TOML documents

The tables that statements build.  A table is made by a head of its own, by the head of a
table inside it, or by a path with points; which of these decides what may be added to it
later.
-/

namespace RaceTape
namespace Toml

/-- How a table came to be. -/
inductive Origin where
  /-- It has a head of its own, or is written in line. -/
  | head
  /-- Only the head of a table inside it was seen. -/
  | implied
  /-- A key with points made it. -/
  | dotted
deriving DecidableEq

/-- A place in a document: a value, a table, or an array of tables. -/
inductive Node where
  | value (v : Value)
  | table (origin : Origin) (entries : List (String × Node))
  | tables (items : List (List (String × Node)))

abbrev Entries := List (String × Node)

namespace Entries

def put (name : String) (node : Node) (entries : Entries) : Entries :=
  if (entries.lookup name).isSome then
    entries.map fun (other, old) => if other = name then (other, node) else (other, old)
  else entries ++ [(name, node)]

/--
Changes the table under a path with `change`, which is told how that table came to be.
Tables that are missing on the way are made with origin `made`; those that are there must
have an origin for which `isOpen` holds.  In an array of tables the way leads through the last one.
-/
def changeAt (made : Origin) (isOpen : Origin -> Bool)
    (change : Origin -> Entries -> Option Entries) :
    Path -> Origin -> Entries -> Option Entries
  | [], origin, entries => change origin entries
  | name :: rest, _, entries =>
      match entries.lookup name with
      | none =>
          (changeAt made isOpen change rest made []).map fun inner =>
            entries.put name (.table made inner)
      | some (.value _) => none
      | some (.table origin inner) =>
          if isOpen origin then
            (changeAt made isOpen change rest origin inner).map fun inner =>
              entries.put name (.table origin inner)
          else none
      | some (.tables items) =>
          match items.reverse with
          | [] => none
          | last :: earlier =>
              (changeAt made isOpen change rest .head last).map fun inner =>
                entries.put name (.tables (inner :: earlier).reverse)

/-- Adds an entry under a name that is free. -/
def add (name : String) (node : Node) (entries : Entries) : Option Entries :=
  if (entries.lookup name).isSome then none else some (entries ++ [(name, node)])

/--
Puts a value under a path.  A table that a path with points leads to has to be made by
such a path itself.
-/
def assign (path : Path) (v : Value) (entries : Entries) : Option Entries :=
  match path.reverse with
  | [] => none
  | name :: front =>
      let change (origin : Origin) (inner : Entries) : Option Entries :=
        if front.isEmpty || origin = .dotted then add name (.value v) inner else none
      changeAt .dotted (fun origin => origin ≠ .head) change front.reverse .head entries

/-- Applies a change to the parent of a path's last name. -/
def changeParent (path : Path) (change : String -> Entries -> Option Entries)
    (entries : Entries) : Option Entries :=
  match path.reverse with
  | [] => none
  | name :: front =>
      changeAt .implied (fun _ => true) (fun _ inner => change name inner) front.reverse .head
        entries

/-- Makes the table of a head, which may be implied so far. -/
def openTable (path : Path) (entries : Entries) : Option Entries :=
  let change (name : String) (inner : Entries) : Option Entries :=
    match inner.lookup name with
    | none => some (inner ++ [(name, .table .head [])])
    | some (.table .implied old) => some (inner.put name (.table .head old))
    | some _ => none
  changeParent path change entries

/-- Makes one more table in an array of tables. -/
def openTables (path : Path) (entries : Entries) : Option Entries :=
  let change (name : String) (inner : Entries) : Option Entries :=
    match inner.lookup name with
    | none => some (inner ++ [(name, .tables [[]])])
    | some (.tables items) => some (inner.put name (.tables (items ++ [[]])))
    | some _ => none
  changeParent path change entries

/-- Puts a value under a path inside the table of the latest head. -/
def assignIn (current path : Path) (v : Value) (entries : Entries) : Option Entries :=
  changeAt .implied (fun _ => true) (fun _ inner => assign path v inner) current .head entries

end Entries

mutual

def Node.toValue : Node -> Value
  | .value v => v
  | .table _ entries => .table (Node.toValues entries)
  | .tables items => .array (Node.toTables items)

def Node.toValues : List (String × Node) -> List (String × Value)
  | [] => []
  | (name, node) :: rest => (name, node.toValue) :: Node.toValues rest

def Node.toTables : List (List (String × Node)) -> List Value
  | [] => []
  | entries :: rest => .table (Node.toValues entries) :: Node.toTables rest

end

/-- The table that is written in line with the given entries. -/
def inlineTable (entries : List (Path × Value)) : Option (List (String × Value)) :=
  let step (table : Option Entries) (entry : Path × Value) : Option Entries :=
    table.bind (Entries.assign entry.1 entry.2)
  (entries.foldl step (some [])).map Node.toValues

/-- A document under construction: its entries, and the table that keys are put into. -/
structure Draft where
  entries : Entries
  current : Path

def Draft.add (draft : Draft) : Statement -> Option Draft
  | .table path => (draft.entries.openTable path).map fun entries => ⟨entries, path⟩
  | .tables path => (draft.entries.openTables path).map fun entries => ⟨entries, path⟩
  | .assign path v =>
      (draft.entries.assignIn draft.current path v).map fun entries => ⟨entries, draft.current⟩

/-- The entries of the document that a text describes. -/
def parse? (text : String) : Option (List (String × Value)) := do
  let statements ← statements inlineTable text.toList
  let step (draft : Option Draft) (s : Statement) : Option Draft := draft.bind (·.add s)
  let draft ← statements.foldl step (some ⟨[], []⟩)
  return Node.toValues draft.entries

end Toml
end RaceTape
