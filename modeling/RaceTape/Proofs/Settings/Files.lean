import RaceTape.Settings.Files

/-!
# What a write changes

A path names one location, whatever the tree holds: a part that is a dot stays, two dots go
up, and any other part goes down.  A write that succeeds puts its bytes there, and every other
file stays as it is.
-/

namespace RaceTape

namespace Location

/-- One part of a path further. -/
def enter (location : Location) (name : String) : Location :=
  if name = "." then location
  else if name = ".." then location.dropLast
  else location ++ [name]

/-- The location that a path names. -/
def ofPath (path : String) : Location :=
  (FileTree.parts path).foldl enter []

end Location

namespace FileTree

/-!
## Where a path leads
-/

def Place.location : Place -> Location
  | .file location _ => location
  | .directory location => location
  | .vacant location => location

theorem location_of_step {tree : FileTree} {name : String} {place next : Place}
    (h : tree.step name place = .ok next) : next.location = place.location.enter name := by
  cases place with
  | file location bytes => cases h
  | vacant location => cases h
  | directory location =>
      show next.location = location.enter name
      rw [step] at h
      unfold Location.enter
      by_cases hdot : name = "."
      · rw [if_pos hdot] at h ⊢
        cases h
        rfl
      · rw [if_neg hdot] at h ⊢
        by_cases hup : name = ".."
        · rw [if_pos hup] at h ⊢
          cases h
          rfl
        · rw [if_neg hup] at h ⊢
          dsimp only at h
          split at h
          · cases h
            rfl
          · split at h
            · cases h
              rfl
            · cases h
              rfl

theorem location_of_walk {tree : FileTree} {names : List String} {place last : Place}
    (h : tree.walk place names = .ok last) :
    last.location = names.foldl Location.enter place.location := by
  induction names generalizing place with
  | nil =>
      cases h
      rfl
  | cons name names ih =>
      rw [walk] at h
      cases hstep : tree.step name place with
      | error fault =>
          rw [hstep] at h
          cases h
      | ok next =>
          rw [hstep] at h
          rw [ih h, location_of_step hstep, List.foldl_cons]

theorem location_of_resolve {tree : FileTree} {path : String} {place : Place}
    (h : tree.resolve path = .ok place) : place.location = Location.ofPath path := by
  unfold resolve at h
  by_cases hempty : path.isEmpty = true
  · rw [if_pos hempty] at h
    cases h
  · rw [if_neg hempty] at h
    exact location_of_walk h

/-!
## What a write leaves

Two trees have a frame if they differ in files at the given locations only.
-/

theorem eq_put_of_write {tree after : FileTree} {path : String} {bytes : Bytes}
    (h : tree.write path bytes = .ok after) : after = tree.put (Location.ofPath path) bytes := by
  unfold write at h
  split at h
  · cases h
  · cases h
  · next location old hplace =>
      split at h
      · cases h
      · cases h
        exact congrArg (tree.put · bytes) (location_of_resolve hplace)
  · next location hplace =>
      split at h
      · cases h
      · cases h
        exact congrArg (tree.put · bytes) (location_of_resolve hplace)

structure Frame (locations : List Location) (before after : FileTree) : Prop where
  directories : after.directories = before.directories
  file? : forall location, location ∉ locations -> after.file? location = before.file? location

namespace Frame

theorem refl (locations : List Location) (tree : FileTree) : Frame locations tree tree :=
  ⟨rfl, fun _ _ => rfl⟩

theorem trans {locations : List Location} {before middle after : FileTree}
    (hfirst : Frame locations before middle) (hsecond : Frame locations middle after) :
    Frame locations before after := by
  constructor
  · exact hsecond.directories.trans hfirst.directories
  · intro location hlocation
    exact (hsecond.file? location hlocation).trans (hfirst.file? location hlocation)

end Frame

theorem lookup_filter_ne {location other : Location} (h : other ≠ location)
    (files : List (Location × Bytes)) :
    (files.filter fun f => f.1 ≠ location).lookup other = files.lookup other := by
  induction files with
  | nil => rfl
  | cons file files ih =>
      rcases file with ⟨place, bytes⟩
      by_cases hplace : place = location
      · have hother : (other == place) = false := by
          rw [hplace]
          exact beq_false_of_ne h
        rw [List.filter_cons_of_neg (by simpa using hplace), ih, List.lookup_cons, hother]
      · rw [List.filter_cons_of_pos (by simpa using hplace), List.lookup_cons, List.lookup_cons,
          ih]

theorem file?_put_of_ne {location other : Location} (h : other ≠ location) (tree : FileTree)
    (bytes : Bytes) : (tree.put location bytes).file? other = tree.file? other := by
  unfold put file?
  rw [List.lookup_cons, beq_false_of_ne h]
  exact lookup_filter_ne h tree.files

theorem frame_of_write {tree after : FileTree} {path : String} {bytes : Bytes}
    {locations : List Location} (hmem : Location.ofPath path ∈ locations)
    (h : tree.write path bytes = .ok after) : Frame locations tree after := by
  rw [eq_put_of_write h]
  constructor
  · rfl
  · intro location hlocation
    apply file?_put_of_ne
    intro heq
    rw [heq] at hlocation
    exact hlocation hmem

end FileTree

end RaceTape
