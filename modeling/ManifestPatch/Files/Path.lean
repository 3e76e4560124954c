import ManifestPatch.Text.Affix

/-!
# Paths

A path is a text of steps with slashes between them. An empty step and `.` stay where they are,
`..` goes back to the directory above, and any other step is a name and goes down. A path that
begins with a slash starts above the root of the tree of files, any other at the root. Steps and
paths have a limited size, which is counted in bytes.

## Main definitions

* `Path.steps`: the steps of a path.
* `Location`: where a path leads.
* `Location.follow`, `Path.location`: where one step and all steps lead.
* `Path.inDirectory`: the path of a file in a directory.

## Main results

* `isName_of_mem_location`: a location is made of names.
* `steps_inDirectory`: the file of a name in a directory is one step further.
-/

namespace ManifestPatch

/-- A **location**: the names that lead down to it from the root of a tree of files, or from what
lies above the root. -/
structure Location where
  /-- Whether the names lead down from above the root. -/
  above : Bool := false
  names : List String := []
  deriving DecidableEq, Repr

namespace Location

/-- The location of a name in a directory. -/
def child (directory : Location) (name : String) : Location :=
  { directory with names := directory.names ++ [name] }

/-- Where a step leads from a location. -/
def follow (location : Location) (step : String) : Location :=
  if step = "" ∨ step = "." then location
  else if step = ".." then
    if location.names = [] then { above := true }
    else { location with names := location.names.dropLast }
  else location.child step

/-- The locations from which steps start that are taken one after the other. -/
def passed (location : Location) : List String → List Location
  | [] => []
  | step :: later => location :: passed (location.follow step) later

/-- The name under which a location is directly in a directory. -/
def nameIn? (directory location : Location) : Option String := do
  let name ← location.names.getLast?
  if location = directory.child name then some name else none

/-- What has a name in a directory is no root. -/
@[simp]
theorem names_child_ne_nil {directory : Location} {name : String} :
    (directory.child name).names ≠ [] := by
  simp [child]

/-- A location has a name in a directory exactly if it is the location of that name there. -/
theorem nameIn?_eq_some_iff {directory location : Location} {name : String} :
    directory.nameIn? location = some name ↔ location = directory.child name := by
  unfold nameIn?
  constructor
  · intro h
    obtain ⟨last, -, h⟩ := Option.bind_eq_some_iff.1 h
    split at h
    next same => cases h; exact same
    · cases h
  · rintro rfl
    simp [child]

end Location

namespace Path

/-- The steps of a path: what stands before, between and after its slashes. -/
def stepsOf : List Char → List (List Char)
  | [] => [[]]
  | c :: rest => if c = '/' then [] :: stepsOf rest else (stepsOf rest).modifyHead (c :: ·)

/-- The **steps** of a path. An empty path has one, which is empty. -/
def steps (path : String) : List String :=
  (stepsOf path.toList).map String.ofList

/-- How many bytes a step may have. -/
def maxStepSize : Nat := 255

/-- How many bytes a path may have. -/
def maxSize : Nat := 4095

/-- A step that goes down: the name of a file or directory. -/
structure IsName (step : String) : Prop where
  no_slash : '/' ∉ step.toList
  ne_empty : step ≠ ""
  ne_here : step ≠ "."
  ne_above : step ≠ ".."
  size_le : step.utf8ByteSize ≤ maxStepSize

/-- Where a path starts. -/
def start (path : String) : Location where
  above := path.toList.head? == some '/'

/-- The **location** that a path leads to. -/
def location (path : String) : Location :=
  (steps path).foldl Location.follow (start path)

/-- The path of the file of this name in a directory. -/
def inDirectory (directory name : String) : String :=
  if Text.endsWith "/" directory then directory ++ name else directory ++ "/" ++ name

/-- Whether a file name has the given extension, after a stem that is not empty. -/
def hasExtension (extension name : String) : Bool :=
  match Text.beforeEnd? ("." ++ extension) name with
  | some stem => !stem.isEmpty
  | none => false

/-- Every path has steps. -/
theorem stepsOf_ne_nil (path : List Char) : stepsOf path ≠ [] := by
  induction path with
  | nil => simp [stepsOf]
  | cons c rest ih => simp only [stepsOf]; split <;> simp [ih]

/-- A text without slashes is one step. -/
theorem stepsOf_of_not_mem {name : List Char} (h : '/' ∉ name) : stepsOf name = [name] := by
  induction name with
  | nil => rfl
  | cons c rest ih =>
    simp only [List.mem_cons, not_or] at h
    simp [stepsOf, Ne.symm h.1, ih h.2]

/-- What follows a slash has steps of its own. -/
theorem stepsOf_append_slash (path rest : List Char) :
    stepsOf (path ++ '/' :: rest) = stepsOf path ++ stepsOf rest := by
  induction path with
  | nil => simp [stepsOf]
  | cons c path ih =>
    simp only [List.cons_append, stepsOf, ih]
    split
    · rfl
    · cases hs : stepsOf path with
      | nil => exact absurd hs (stepsOf_ne_nil path)
      | cons step later => simp

/-- No step has a slash. -/
theorem not_mem_of_mem_stepsOf {path step : List Char} (h : step ∈ stepsOf path) :
    '/' ∉ step := by
  induction path generalizing step with
  | nil => simp_all [stepsOf]
  | cons c rest ih =>
    simp only [stepsOf] at h
    split at h
    · rcases List.mem_cons.1 h with rfl | h
      · simp
      · exact ih h
    next hc =>
      cases hs : stepsOf rest with
      | nil => simp [hs] at h
      | cons first later =>
        simp only [hs, List.modifyHead_cons, List.mem_cons] at h ih
        rcases h with rfl | h
        · simpa [Ne.symm hc] using ih (.inl rfl)
        · exact ih (.inr h)

/-- A name goes down. -/
theorem follow_of_isName {location : Location} {name : String} (h : IsName name) :
    location.follow name = location.child name := by
  simp [Location.follow, h.ne_empty, h.ne_here, h.ne_above]

private theorem isName_of_mem_follow {location : Location} {step name : String}
    (slash : '/' ∉ step.toList) (size : step.utf8ByteSize ≤ maxStepSize)
    (names : ∀ n ∈ location.names, IsName n) (h : name ∈ (location.follow step).names) :
    IsName name := by
  unfold Location.follow at h
  split at h
  · exact names name h
  · split at h
    · split at h
      · cases h
      · exact names name ((List.dropLast_sublist location.names).subset h)
    · rcases List.mem_append.1 h with h | h
      · exact names name h
      · obtain rfl := List.mem_singleton.1 h
        exact ⟨slash, by simp_all, by simp_all, by assumption, size⟩

/-- A location is made of names, if no step is too long. -/
theorem isName_of_mem_location {path name : String}
    (short : ∀ step ∈ steps path, step.utf8ByteSize ≤ maxStepSize)
    (h : name ∈ (location path).names) : IsName name := by
  have all : ∀ (later : List String) (base : Location), (∀ s ∈ later, '/' ∉ s.toList) →
      (∀ s ∈ later, s.utf8ByteSize ≤ maxStepSize) → (∀ n ∈ base.names, IsName n) →
      ∀ n ∈ (later.foldl Location.follow base).names, IsName n := by
    intro later
    induction later with
    | nil => exact fun _ _ _ names => names
    | cons step later ih =>
      intro base slashes sizes names
      exact ih _ (fun s hs => slashes s (.tail _ hs)) (fun s hs => sizes s (.tail _ hs))
        fun _ hn => isName_of_mem_follow (slashes step (.head _)) (sizes step (.head _)) names hn
  refine all (steps path) (start path) (fun s hs => ?_) short (by simp [start]) name h
  obtain ⟨step, mem, rfl⟩ := List.mem_map.1 hs
  simpa using not_mem_of_mem_stepsOf mem

/-- The files of a directory have paths that start where its own does. -/
theorem start_inDirectory {directory : String} (name : String) (h : directory ≠ "") :
    start (inDirectory directory name) = start directory := by
  unfold start inDirectory
  cases hd : directory.toList with
  | nil => exact absurd (String.toList_injective (by simp [hd])) h
  | cons c rest => split <;> simp [hd]

/-- The path of a file in a directory is not empty. -/
theorem inDirectory_ne_empty {directory : String} (name : String) (h : directory ≠ "") :
    inDirectory directory name ≠ "" := by
  unfold inDirectory
  split <;> simp [h]

/-- The file of a name in a directory is one step further than the directory, not counting the
empty step after a slash at the end. -/
theorem steps_inDirectory (directory : String) {name : String} (h : '/' ∉ name.toList) :
    ∃ outer, steps (inDirectory directory name) = outer ++ [name] ∧
      (steps directory = outer ∨ steps directory = outer ++ [""]) := by
  unfold inDirectory
  split
  next ends =>
    obtain ⟨d, rfl⟩ := Text.endsWith_iff.1 ends
    refine ⟨steps d, ?_, .inr ?_⟩ <;>
      simp [steps, stepsOf_append_slash, stepsOf_of_not_mem h, stepsOf]
  next =>
    refine ⟨steps directory, ?_, .inl rfl⟩
    simp [steps, stepsOf_append_slash, stepsOf_of_not_mem h]

end Path

end ManifestPatch
