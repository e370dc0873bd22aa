import RaceTape.Bytes
import RaceTape.Text.Utf8

/-!
# Files

A tree of files and directories, with reading and writing by path.  Paths are taken from
the root of the tree, whether they begin with a slash or not.
-/

namespace RaceTape

/-- Why a file cannot be read or written. -/
inductive FileFault where
  | notFound
  | isDirectory
  | notDirectory
  | notText
  /-- Any other reason, as the system words it. -/
  | other (reason : String)
deriving DecidableEq, Repr

def FileFault.message : FileFault -> String
  | .notFound => "No such file or directory (os error 2)"
  | .isDirectory => "Is a directory (os error 21)"
  | .notDirectory => "Not a directory (os error 20)"
  | .notText => "stream did not contain valid UTF-8"
  | .other reason => reason

/-- Bytes as text. -/
def textOfBytes (bytes : Bytes) : Except FileFault String :=
  match Text.Utf8.decode bytes with
  | .ok cs => .ok (String.ofList cs)
  | .error _ => .error .notText

/-- The names from the root to a file or directory. -/
abbrev Location := List String

/-- Files with what they hold, and directories, of which those above a file need not be listed. -/
structure FileTree where
  files : List (Location × Bytes)
  directories : List Location
deriving Repr

namespace FileTree

def empty : FileTree :=
  { files := [], directories := [] }

def file? (tree : FileTree) (location : Location) : Option Bytes :=
  tree.files.lookup location

def isDirectory (tree : FileTree) (location : Location) : Bool :=
  location.isEmpty ||
    tree.directories.any (fun d => location.isPrefixOf d) ||
    tree.files.any (fun f => location.isPrefixOf f.1 && location ≠ f.1)

/-- The parts of a path between slashes. -/
def parts (path : String) : List String :=
  ((path.toList.splitOn '/').filter fun part => !part.isEmpty).map String.ofList

/-- What a path leads to. -/
inductive Place where
  | file (location : Location) (bytes : Bytes)
  | directory (location : Location)
  /-- Nothing is there, but it could be made. -/
  | vacant (location : Location)

/-- One step from a place towards the part `name`. -/
def step (tree : FileTree) (name : String) : Place -> Except FileFault Place
  | .file _ _ => .error .notDirectory
  | .vacant _ => .error .notFound
  | .directory location =>
      if name = "." then .ok (.directory location)
      else if name = ".." then .ok (.directory location.dropLast)
      else
        let next := location ++ [name]
        match tree.file? next with
        | some bytes => .ok (.file next bytes)
        | none =>
            if tree.isDirectory next then .ok (.directory next) else .ok (.vacant next)

def walk (tree : FileTree) (place : Place) : List String -> Except FileFault Place
  | [] => .ok place
  | name :: rest =>
      match tree.step name place with
      | .error fault => .error fault
      | .ok next => tree.walk next rest

/-- Whether a path asks for a directory by ending in a slash. -/
def endsInSlash (path : String) : Bool :=
  path.toList.getLast? = some '/'

def resolve (tree : FileTree) (path : String) : Except FileFault Place :=
  if path.isEmpty then .error .notFound
  else tree.walk (.directory []) (parts path)

def read (tree : FileTree) (path : String) : Except FileFault Bytes :=
  match tree.resolve path with
  | .error fault => .error fault
  | .ok (.directory _) => .error .isDirectory
  | .ok (.vacant _) => .error .notFound
  | .ok (.file _ bytes) => if endsInSlash path then .error .notDirectory else .ok bytes

def readText (tree : FileTree) (path : String) : Except FileFault String :=
  match tree.read path with
  | .error fault => .error fault
  | .ok bytes => textOfBytes bytes

/-- The tree with a file put at a location. -/
def put (tree : FileTree) (location : Location) (bytes : Bytes) : FileTree :=
  { tree with files := (location, bytes) :: tree.files.filter fun f => f.1 ≠ location }

/-- Makes a file or replaces what it holds. -/
def write (tree : FileTree) (path : String) (bytes : Bytes) : Except FileFault FileTree :=
  match tree.resolve path with
  | .error fault => .error fault
  | .ok (.directory _) => .error .isDirectory
  | .ok (.file location _) =>
      if endsInSlash path then .error .notDirectory else .ok (tree.put location bytes)
  | .ok (.vacant location) =>
      if endsInSlash path then .error .isDirectory else .ok (tree.put location bytes)

end FileTree

end RaceTape
