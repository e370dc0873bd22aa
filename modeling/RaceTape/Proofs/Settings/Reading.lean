import RaceTape.Proofs.Settings.Files

/-!
# What a read depends on

A path leads through directories to one location.  The directories above that location are there
if a file is, so a read depends on the file at the location alone.  Only where a path goes up again
does it also take a directory that leads nowhere else.  A file in the place of a directory on the
way is a fault of its own.
-/

namespace RaceTape

namespace Location

/-- The locations out of which two dots lead. -/
def detoursFrom (location : Location) : List String -> List Location
  | [] => []
  | name :: names =>
      if name = ".." then location :: detoursFrom (location.enter name) names
      else detoursFrom (location.enter name) names

def detours (path : String) : List Location :=
  detoursFrom [] (FileTree.parts path)

theorem mem_detoursFrom_cons {place location : Location} {name : String} {names : List String}
    (h : place ∈ detoursFrom (location.enter name) names) :
    place ∈ detoursFrom location (name :: names) := by
  rw [detoursFrom]
  split
  · exact List.mem_cons_of_mem location h
  · exact h

theorem prefix_enter {place location : Location} (h : place <+: location) {name : String}
    (hup : name ≠ "..") : place <+: location.enter name := by
  rw [enter, if_neg hup]
  split
  · exact h
  · exact h.trans (List.prefix_append location [name])

theorem prefix_dropLast {place location : Location} (h : place <+: location)
    (hne : place ≠ location) : place <+: location.dropLast := by
  rcases h with ⟨rest, rfl⟩
  have hrest : rest ≠ [] := by
    rintro rfl
    exact hne (List.append_nil place).symm
  rw [List.dropLast_append_of_ne_nil hrest]
  exact List.prefix_append place rest.dropLast

theorem prefix_or_mem_detoursFrom {place location : Location} (h : place <+: location)
    (names : List String) :
    place <+: names.foldl enter location ∨ place ∈ detoursFrom location names := by
  induction names generalizing location with
  | nil => exact Or.inl h
  | cons name names ih =>
      rw [List.foldl_cons]
      by_cases hup : name = ".."
      · cases hup
        by_cases hplace : place = location
        · right
          rw [hplace, detoursFrom, if_pos rfl]
          exact List.mem_cons_self
        · have henter : place <+: location.enter ".." := prefix_dropLast h hplace
          exact (ih henter).imp_right mem_detoursFrom_cons
      · exact (ih (prefix_enter h hup)).imp_right mem_detoursFrom_cons

end Location

namespace FileTree

variable {tree other : FileTree}

theorem isDirectory_of_file? {place location : Location} {bytes : Bytes}
    (hfile : tree.file? location = some bytes) (habove : place <+: location)
    (hne : place ≠ location) : tree.isDirectory place = true := by
  have hmem : (location, bytes) ∈ tree.files := by
    rcases List.lookup_eq_some_iff.mp hfile with ⟨front, back, hfiles, _⟩
    rw [hfiles]
    exact List.mem_append_right front List.mem_cons_self
  rw [isDirectory, Bool.or_eq_true]
  right
  refine List.any_eq_true.mpr ⟨(location, bytes), hmem, ?_⟩
  rw [Bool.and_eq_true, decide_eq_true_eq]
  exact ⟨List.isPrefixOf_iff_prefix.mpr habove, hne⟩

/-!
## Steps

A dot or two dots lead from a directory to a directory in every tree.  A location on the way to a
file is a directory, unless the way turns back there.
-/

def placeAt (tree : FileTree) (location : Location) : Place :=
  match tree.file? location with
  | some bytes => .file location bytes
  | none => if tree.isDirectory location then .directory location else .vacant location

theorem placeAt_of_file? {location : Location} {bytes : Bytes}
    (h : tree.file? location = some bytes) : tree.placeAt location = .file location bytes := by
  rw [placeAt, h]

theorem placeAt_of_isDirectory {location : Location} (hfile : tree.file? location = none)
    (hdirectory : tree.isDirectory location = true) :
    tree.placeAt location = .directory location := by
  rw [placeAt, hfile]
  exact if_pos hdirectory

theorem location_placeAt (tree : FileTree) (location : Location) :
    (tree.placeAt location).location = location := by
  rw [placeAt]
  split
  · rfl
  · split
    · rfl
    · rfl

theorem walk_of_dots {name : String} (h : name = "." ∨ name = "..") (tree : FileTree)
    (location : Location) (names : List String) :
    tree.walk (.directory location) (name :: names) =
      tree.walk (.directory (location.enter name)) names := by
  rcases h with rfl | rfl
  · rfl
  · rfl

theorem walk_of_name {name : String} (h : ¬(name = "." ∨ name = "..")) (tree : FileTree)
    (location : Location) (names : List String) :
    tree.walk (.directory location) (name :: names) =
      tree.walk (tree.placeAt (location.enter name)) names := by
  rw [not_or] at h
  rw [walk, step, Location.enter, if_neg h.1, if_neg h.2, if_neg h.1, if_neg h.2, placeAt]
  dsimp only
  cases tree.file? (location ++ [name]) with
  | some bytes => rfl
  | none =>
      cases tree.isDirectory (location ++ [name]) with
      | true => rfl
      | false => rfl

theorem eq_nil_of_walk_file {names : List String} {location : Location} {bytes : Bytes}
    {last : Place} (h : tree.walk (.file location bytes) names = .ok last) :
    names = [] ∧ last = .file location bytes := by
  cases names with
  | nil =>
      cases h
      exact ⟨rfl, rfl⟩
  | cons name names => cases h

theorem placeAt_of_walk_directory {names : List String} {location last : Location} {bytes : Bytes}
    (h : tree.walk (tree.placeAt location) names = .ok (.file last bytes)) :
    (names = [] ∧ last = location ∧ tree.file? location = some bytes) ∨
      (tree.isDirectory location = true ∧ names ≠ [] ∧
        tree.walk (.directory location) names = .ok (.file last bytes)) := by
  cases hfile : tree.file? location with
  | some found =>
      rw [placeAt_of_file? hfile] at h
      rcases eq_nil_of_walk_file h with ⟨hnames, hplace⟩
      cases hplace
      exact Or.inl ⟨hnames, rfl, rfl⟩
  | none =>
      rw [placeAt, hfile] at h
      by_cases hdirectory : tree.isDirectory location = true
      · dsimp only at h
        rw [if_pos hdirectory] at h
        refine Or.inr ⟨hdirectory, ?_, h⟩
        rintro rfl
        cases h
      · dsimp only at h
        rw [if_neg hdirectory] at h
        cases names with
        | nil => cases h
        | cons name names => cases h

theorem isDirectory_on_way {names : List String} {location last : Location} {bytes : Bytes}
    (hlast : last = names.foldl Location.enter location) (hfile : tree.file? last = some bytes)
    (hnone : tree.file? location = none)
    (hdetour : location ∈ location.detoursFrom names -> tree.isDirectory location = true) :
    tree.isDirectory location = true := by
  rcases Location.prefix_or_mem_detoursFrom (List.prefix_refl location) names with
    habove | hmem
  · rw [← hlast] at habove
    apply isDirectory_of_file? hfile habove
    rintro rfl
    rw [hnone] at hfile
    cases hfile
  · exact hdetour hmem

/--
A walk that ends at a file ends there in every tree that has the file, if it has the directories
from which the walk turns back.  Else the other tree has a file in the place of a directory.
-/
theorem walk_of_same {names : List String} {location last : Location} {bytes : Bytes}
    (hwalk : tree.walk (.directory location) names = .ok (.file last bytes))
    (hfile : other.file? last = some bytes)
    (hdetours : forall place, place ∈ location.detoursFrom names ->
      tree.isDirectory place = true -> other.isDirectory place = true) :
    other.walk (.directory location) names = .ok (.file last bytes) ∨
      other.walk (.directory location) names = .error .notDirectory := by
  induction names generalizing location with
  | nil => cases hwalk
  | cons name names ih =>
      have hrest : forall place, place ∈ (location.enter name).detoursFrom names ->
          tree.isDirectory place = true -> other.isDirectory place = true :=
        fun place hplace => hdetours place (Location.mem_detoursFrom_cons hplace)
      by_cases hdots : name = "." ∨ name = ".."
      · rw [walk_of_dots hdots] at hwalk ⊢
        exact ih hwalk hrest
      · rw [walk_of_name hdots] at hwalk ⊢
        have hlast := location_of_walk hwalk
        rw [location_placeAt] at hlast
        rcases placeAt_of_walk_directory hwalk with
          ⟨rfl, rfl, _⟩ | ⟨hdirectory, hnames, hwalk⟩
        · rw [placeAt_of_file? hfile]
          exact Or.inl rfl
        · cases hother : other.file? (location.enter name) with
          | some found =>
              rw [placeAt_of_file? hother]
              cases names with
              | nil => exact absurd rfl hnames
              | cons name names => exact Or.inr rfl
          | none =>
              have hnext := isDirectory_on_way hlast hfile hother
                fun hmem => hrest _ hmem hdirectory
              rw [placeAt_of_isDirectory hother hnext]
              exact ih hwalk hrest

theorem file?_of_walk {names : List String} {location last : Location} {bytes : Bytes}
    (hwalk : tree.walk (.directory location) names = .ok (.file last bytes)) :
    tree.file? last = some bytes := by
  induction names generalizing location with
  | nil => cases hwalk
  | cons name names ih =>
      by_cases hdots : name = "." ∨ name = ".."
      · rw [walk_of_dots hdots] at hwalk
        exact ih hwalk
      · rw [walk_of_name hdots] at hwalk
        rcases placeAt_of_walk_directory hwalk with ⟨_, rfl, hfile⟩ | ⟨_, _, hwalk⟩
        · exact hfile
        · exact ih hwalk

/-!
## Reads

Trees are the same at a path if they have the same file there, or both have none.  A path that goes
up passes through directories besides those above the file, and the trees have the same ones of
these.
-/

structure SameAt (tree : FileTree) (path : String) (other : FileTree) : Prop where
  file? : other.file? (Location.ofPath path) = tree.file? (Location.ofPath path)
  detours : forall place, place ∈ Location.detours path ->
    other.isDirectory place = tree.isDirectory place

theorem SameAt.symm {path : String} (h : tree.SameAt path other) : other.SameAt path tree :=
  ⟨h.file?.symm, fun place hplace => (h.detours place hplace).symm⟩

theorem resolve_of_nonempty {path : String} (h : path.isEmpty = false) (tree : FileTree) :
    tree.resolve path = tree.walk (.directory []) (parts path) := by
  rw [resolve, h]
  exact if_neg Bool.false_ne_true

theorem read_eq_ok_iff {path : String} {bytes : Bytes} :
    tree.read path = .ok bytes ↔
      path.isEmpty = false ∧ endsInSlash path = false ∧
        tree.walk (.directory []) (parts path) = .ok (.file (Location.ofPath path) bytes) := by
  constructor
  · intro h
    have hempty : path.isEmpty = false := by
      cases hpath : path.isEmpty with
      | false => rfl
      | true =>
          rw [read, resolve, hpath] at h
          cases h
    rw [read] at h
    split at h
    · cases h
    · cases h
    · cases h
    · next location found hresolve =>
        cases location_of_resolve hresolve
        rw [resolve_of_nonempty hempty] at hresolve
        split at h
        · cases h
        · next hslash =>
            cases h
            exact ⟨hempty, Bool.eq_false_iff.mpr hslash, hresolve⟩
  · rintro ⟨hempty, hslash, hwalk⟩
    rw [read, resolve_of_nonempty hempty, hwalk]
    exact if_neg (Bool.eq_false_iff.mp hslash)

theorem SameAt.read_of_ok {path : String} {bytes : Bytes} (h : tree.SameAt path other)
    (hread : tree.read path = .ok bytes) :
    other.read path = .ok bytes ∨ other.read path = .error .notDirectory := by
  rcases read_eq_ok_iff.mp hread with ⟨hempty, hslash, hwalk⟩
  have hfile : other.file? (Location.ofPath path) = some bytes := by
    rw [h.file?]
    exact file?_of_walk hwalk
  have hother := walk_of_same hwalk hfile fun place hplace hdirectory =>
    (h.detours place hplace).trans hdirectory
  rcases hother with hother | hother
  · exact Or.inl (read_eq_ok_iff.mpr ⟨hempty, hslash, hother⟩)
  · right
    rw [read, resolve_of_nonempty hempty, hother]

theorem SameAt.readText_of_ok {path text : String} (h : tree.SameAt path other)
    (hread : tree.readText path = .ok text) :
    other.readText path = .ok text ∨ other.readText path = .error .notDirectory := by
  rw [readText] at hread
  split at hread
  · cases hread
  · next bytes hbytes =>
      rw [readText]
      rcases h.read_of_ok hbytes with hother | hother
      · rw [hother]
        exact Or.inl hread
      · rw [hother]
        exact Or.inr rfl

/-- There is a text to be read, or there is no file. -/
def IsReadable (tree : FileTree) (path : String) : Prop :=
  (exists text, tree.readText path = .ok text) ∨ tree.readText path = .error .notFound

theorem IsReadable.of_ok {path text : String} (h : tree.readText path = .ok text) :
    tree.IsReadable path :=
  Or.inl ⟨text, h⟩

theorem IsReadable.ne_notDirectory {path : String} (h : tree.IsReadable path) :
    tree.readText path ≠ .error .notDirectory := by
  intro hfault
  rcases h with ⟨text, htext⟩ | hmissing
  · cases htext.symm.trans hfault
  · cases hmissing.symm.trans hfault

theorem SameAt.readText_eq {path : String} (h : tree.SameAt path other)
    (htree : tree.IsReadable path) (hother : other.IsReadable path) :
    other.readText path = tree.readText path := by
  rcases htree with ⟨text, htext⟩ | hmissing
  · rcases h.readText_of_ok htext with hsame | hfault
    · exact hsame.trans htext.symm
    · exact absurd hfault hother.ne_notDirectory
  · rcases hother with ⟨text, htext⟩ | hnone
    · -- A file in the other tree only would be at the same place in this one.
      rcases h.symm.readText_of_ok htext with hsame | hfault
      · exact htext.trans hsame.symm
      · cases hmissing.symm.trans hfault
    · exact hnone.trans hmissing.symm

end FileTree

end RaceTape
