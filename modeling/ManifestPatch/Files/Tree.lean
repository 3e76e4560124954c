import ManifestPatch.Files.Path
import ManifestPatch.Files.Volume

/-!
# Trees of Files

A **tree of files** holds files at locations, and the directories that the paths of its files pass
through. A path leads from location to location, step by step. Every step starts from a directory:
nothing comes after a file. The root of the tree and what lies above it are always directories.

## Main definitions

* `FileTree.write`: the tree with one more file.
* `FileTree.entry`: what is at a location.
* `FileTree.volume`: the tree as a volume.

## Main results

* `volume_inDirectory`: the files that a directory names are found in it.
-/

namespace ManifestPatch

/-- A **tree of files**: the files with their locations, and the locations of directories. Of two
files at one location the first counts. -/
structure FileTree where
  files : List (Location × ByteArray) := []
  directories : List Location := []
  isName : ∀ file ∈ files, ∀ name ∈ file.1.names, Path.IsName name := by simp

namespace FileTree

/-- The tree with a file written where the path leads, instead of what stood there, and with all
directories that the path passes through. No file is written under a path with a step that is too
long. -/
def write (tree : FileTree) (path : String) (content : ByteArray) : FileTree :=
  if short : ∀ step ∈ Path.steps path, step.utf8ByteSize ≤ Path.maxStepSize then {
    files := (Path.location path, content) :: tree.files
    directories := (Path.start path).passed (Path.steps path) ++ tree.directories
    isName := fun file mem name h => by
      rcases List.mem_cons.1 mem with rfl | mem
      · exact Path.isName_of_mem_location short h
      · exact tree.isName file mem name h }
  else tree

/-- The names of the files directly in a directory. -/
def names (tree : FileTree) (directory : Location) : List String :=
  tree.files.filterMap fun file => directory.nameIn? file.1

/-- What is at a location. -/
def entry (tree : FileTree) (location : Location) : Entry :=
  if location.names = [] then .directory (tree.names location)
  else
    match tree.files.lookup location with
    | some content => .file content
    | none =>
      if location ∈ tree.directories then .directory (tree.names location) else .absent

/-- Where a step of a path leads, or what is found instead. -/
def step (tree : FileTree) (location : Location) (step : String) : Except Entry Location :=
  match tree.entry location with
  | .directory _ =>
    if Path.maxStepSize < step.utf8ByteSize then .error .tooLong else .ok (location.follow step)
  | .file _ | .beyondFile => .error .beyondFile
  | .absent => .error .absent
  | .tooLong => .error .tooLong

/-- Where the steps of a path lead from a location. -/
def walk (tree : FileTree) (location : Location) (steps : List String) : Except Entry Location :=
  steps.foldlM tree.step location

/-- What is found at the end of a walk. -/
def found (tree : FileTree) : Except Entry Location → Entry
  | .ok location => tree.entry location
  | .error entry => entry

/-- The tree as a **volume**. An empty path leads nowhere, and a path that is too long is not
followed. -/
def volume (tree : FileTree) : Volume := fun path =>
  if path = "" then .absent
  else if Path.maxSize < path.utf8ByteSize then .tooLong
  else tree.found (tree.walk (Path.start path) (Path.steps path))

/-! ### Files in directories -/

/-- A name is in a directory when there is a file of that location. -/
theorem mem_names_iff {tree : FileTree} {directory : Location} {name : String} :
    name ∈ tree.names directory ↔ ∃ content, (directory.child name, content) ∈ tree.files := by
  simp only [names, List.mem_filterMap, Location.nameIn?_eq_some_iff]
  constructor
  · rintro ⟨⟨_, content⟩, mem, rfl⟩
    exact ⟨content, mem⟩
  · rintro ⟨content, mem⟩
    exact ⟨_, mem, rfl⟩

/-- What is at the location of a file is a file. -/
theorem entry_of_mem_names {tree : FileTree} {directory : Location} {name : String}
    (h : name ∈ tree.names directory) :
    ∃ content, tree.entry (directory.child name) = .file content := by
  obtain ⟨content, mem⟩ := mem_names_iff.1 h
  cases found : tree.files.lookup (directory.child name) with
  | none => simpa using List.lookup_eq_none_iff.1 found _ mem
  | some first => exact ⟨first, by simp [entry, found]⟩

/-- A directory holds the files that are directly in it. -/
theorem eq_names_of_entry {tree : FileTree} {location : Location} {held : List String}
    (h : tree.entry location = .directory held) : held = tree.names location := by
  unfold entry at h
  split at h
  · cases h; rfl
  · split at h
    · cases h
    · split at h <;> cases h
      rfl

/-- A walk that fails does not end at a directory. -/
theorem walk_ne_directory {tree : FileTree} {location : Location} {steps held : List String} :
    tree.walk location steps ≠ .error (.directory held) := by
  induction steps generalizing location with
  | nil => simp [walk, pure, Except.pure]
  | cons s steps ih =>
    simp only [walk, List.foldlM_cons, bind, Except.bind] at ih ⊢
    split
    next e h =>
      rintro ⟨⟩
      unfold step at h
      split at h
      · split at h <;> cases h
      all_goals cases h
    · exact ih

/-- Where a directory is found, a walk leads there. -/
theorem walk_eq_ok_of_found {tree : FileTree} {start : Location} {steps held : List String}
    (h : tree.found (tree.walk start steps) = .directory held) :
    ∃ location, tree.walk start steps = .ok location ∧ tree.entry location = .directory held := by
  cases walked : tree.walk start steps with
  | ok location => exact ⟨location, rfl, by simpa [found, walked] using h⟩
  | error e =>
    obtain rfl : e = .directory held := by simpa [found, walked] using h
    exact absurd walked walk_ne_directory

/-- An empty step stays in a directory. -/
theorem walk_append_empty {tree : FileTree} {start location : Location} {steps : List String}
    (walked : tree.walk start (steps ++ [""]) = .ok location) :
    tree.walk start steps = .ok location := by
  simp only [walk, List.foldlM_append, bind, Except.bind] at walked ⊢
  split at walked
  · cases walked
  next outer h =>
    rw [h]
    simp only [List.foldlM_cons, List.foldlM_nil, bind, Except.bind, pure, Except.pure] at walked
    split at walked
    · cases walked
    next inner stepped =>
      cases walked
      unfold step at stepped
      split at stepped
      · simpa [Location.follow] using stepped
      all_goals cases stepped

/-- A name leads from a directory into it. -/
theorem walk_append_isName {tree : FileTree} {start location : Location}
    {steps held : List String} {name : String} (walked : tree.walk start steps = .ok location)
    (here : tree.entry location = .directory held) (isName : Path.IsName name) :
    tree.walk start (steps ++ [name]) = .ok (location.child name) := by
  unfold walk at walked ⊢
  simp [List.foldlM_append, walked, bind, Except.bind, pure, Except.pure, step, here,
    Nat.not_lt.2 isName.size_le, Path.follow_of_isName isName]

/-- A path that is too long is not followed. -/
theorem volume_of_lt {tree : FileTree} {path : String}
    (long : Path.maxSize < path.utf8ByteSize) : tree.volume path = .tooLong := by
  have ne : path ≠ "" := by rintro rfl; simp at long
  simp [volume, ne, long]

/-- Every file that a directory names is **found in it**, unless its path is too long. -/
theorem volume_inDirectory {tree : FileTree} {directory name : String} {held : List String}
    (h : tree.volume directory = .directory held) (mem : name ∈ held)
    (short : (Path.inDirectory directory name).utf8ByteSize ≤ Path.maxSize) :
    ∃ content, tree.volume (Path.inDirectory directory name) = .file content := by
  unfold volume at h
  split at h
  · cases h
  next ne =>
    split at h
    · cases h
    obtain ⟨location, walked, here⟩ := walk_eq_ok_of_found h
    obtain rfl := eq_names_of_entry here
    obtain ⟨content, file⟩ := entry_of_mem_names mem
    obtain ⟨first, atFiles⟩ := mem_names_iff.1 mem
    have isName : Path.IsName name := tree.isName _ atFiles name (by simp [Location.child])
    obtain ⟨outer, inner, same⟩ := Path.steps_inDirectory directory isName.no_slash
    have outerWalked : tree.walk (Path.start directory) outer = .ok location := by
      rcases same with same | same
      · rwa [same] at walked
      · exact walk_append_empty (same ▸ walked)
    refine ⟨content, ?_⟩
    simp [volume, Path.inDirectory_ne_empty name ne, Nat.not_lt.2 short,
      Path.start_inDirectory name ne, inner, found,
      walk_append_isName outerWalked here isName, file]

end FileTree

end ManifestPatch
