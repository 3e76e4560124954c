import ManifestPatch.Files.Tree
import ManifestPatch.Proofs.Command.Verdict
import ManifestPatch.Proofs.Keyed
import Mathlib.Data.List.Sort

/-!
# Inspecting Files One by One

A directory among the operands of an inspection stands for the patches that are directly in it, in
the order of their paths; to name these instead makes no difference. The files are then inspected
one after the other, and the first that fails ends the run. So what a run writes is joined from what
each file alone would make it write, up to that file: the step lemmas add a file that succeeds in
front of a run, or one that fails and with it the end, and the run lemma goes through all files.
Nothing is carried over from one file to the next, and a file that is named twice is reported twice.

## Main definitions

* `Volume.StandsFor`: the files that an operand stands for.
* `Volume.Coherent`: what a directory names as a file is no directory.
* `inspecting`, `inspectingAlone`: the outcome of inspecting files, or one file.
* `Outcome.Joins`: an outcome is joined from those of each file alone.
* `Outcome.Reports`: what a file alone comes to.

## Main results

* `FileTree.coherent_volume`: a tree of files is coherent.
* `standsFor_expand`: an operand is replaced by the files that it stands for.
* `reports_inspectFile`: a file alone is reported, or fails.
* `joins_inspectFiles`: the outcome of several files is joined from theirs.
* `run_inspect`: what a command line that asks for an inspection comes to.
-/

namespace ManifestPatch

variable {volume : Volume} {settings : Settings} {config : Option String} {layout : Layout}
  {path file : String} {paths files : List String}

/-! ### What operands stand for -/

/-- The path is **no directory**: it is that of a file, or there is nothing under it. -/
def Volume.IsNoDirectory (volume : Volume) (path : String) : Prop :=
  ∀ names, volume path ≠ .directory names

/-- The **files** that an operand stands for: those of a directory with the extension of JSON, each
once and in ascending order of their paths, and otherwise the operand itself. -/
inductive Volume.StandsFor (volume : Volume) : String → List String → Prop
  | file {path : String} (h : volume.IsNoDirectory path) : StandsFor volume path [path]
  | directory {path : String} {names files : List String} (h : volume path = .directory names)
      (ascending : files.Pairwise (· < ·))
      (mem_iff : ∀ file, file ∈ files ↔
        ∃ name ∈ names, Path.hasExtension "json" name = true ∧ file = Path.inDirectory path name) :
      StandsFor volume path files

/-- A volume is **coherent** if no directory names a directory as a file. -/
def Volume.Coherent (volume : Volume) : Prop :=
  ∀ path names, volume path = .directory names →
    ∀ name ∈ names, volume.IsNoDirectory (Path.inDirectory path name)

/-- **A tree of files** is coherent: under the path of a file there is the file, or nothing if the
path is too long. -/
theorem FileTree.coherent_volume (tree : FileTree) : tree.volume.Coherent := by
  intro path names hpath name hname held
  by_cases hlong : Path.maxSize < (Path.inDirectory path name).utf8ByteSize
  · rw [FileTree.volume_of_lt hlong]
    nofun
  · obtain ⟨content, hfile⟩ := FileTree.volume_inDirectory hpath hname (Nat.not_lt.mp hlong)
    rw [hfile]
    nofun

/-- The paths of the files of a directory are in the order of their names. -/
theorem Path.inDirectory_lt {name name' : String} (directory : String) (h : name < name') :
    inDirectory directory name < inDirectory directory name' := by
  unfold inDirectory
  split
  next => exact append_lt_append directory h
  next => exact append_lt_append (directory ++ "/") h

theorem Volume.IsNoDirectory.expand_eq (h : volume.IsNoDirectory path) :
    volume.expand path = [path] := by
  unfold Volume.expand
  split
  next names hnames => exact absurd hnames (h names)
  all_goals rfl

/-- **An operand is replaced** by the files that it stands for. -/
theorem standsFor_expand (volume : Volume) (path : String) :
    volume.StandsFor path (volume.expand path) := by
  cases h : volume path with
  | directory names =>
      rw [Volume.expand, h]
      refine .directory h ?_ fun file => ?_
      · have hascending := Keyed.pairwise_sortedDistinct (names.filter (Path.hasExtension "json"))
        exact List.pairwise_map.mpr (hascending.imp fun hlt => Path.inDirectory_lt path hlt)
      · simp only [List.mem_map, Keyed.mem_sortedDistinct, List.mem_filter, and_assoc]
        exact exists_congr fun name => and_congr_right fun _ => and_congr_right fun _ => eq_comm
  | file | absent | beyondFile | tooLong =>
      have hno : volume.IsNoDirectory path := fun names hnames => by simp [h] at hnames
      rw [hno.expand_eq]
      exact .file hno

/-- An operand stands for nothing else. -/
theorem Volume.StandsFor.eq_expand (h : volume.StandsFor path files) :
    files = volume.expand path := by
  cases h with
  | file h => exact h.expand_eq.symm
  | directory hpath ascending mem_iff =>
      have hexpand := standsFor_expand volume path
      generalize volume.expand path = files' at hexpand
      cases hexpand with
      | file h => exact absurd hpath (h _)
      | directory hpath' ascending' mem_iff' =>
          obtain rfl := Entry.directory.inj (hpath.symm.trans hpath')
          exact ascending.eq_of_mem_iff ascending' fun file =>
            (mem_iff file).trans (mem_iff' file).symm

/-- In a coherent volume, what operands stand for is no directory. -/
theorem Volume.StandsFor.isNoDirectory (hcoherent : volume.Coherent)
    (h : volume.StandsFor path files) : ∀ file ∈ files, volume.IsNoDirectory file := by
  intro file hmem
  cases h with
  | file h =>
      rw [List.mem_singleton.mp hmem]
      exact h
  | directory h _ mem_iff =>
      obtain ⟨name, hname, -, rfl⟩ := (mem_iff file).mp hmem
      exact hcoherent path _ h name hname

/-- An operand stands for some file, unless it is a directory that has no patch. -/
theorem Volume.StandsFor.ne_nil (h : volume.StandsFor path files)
    (hpatch : ∀ names, volume path = .directory names →
      ∃ name ∈ names, Path.hasExtension "json" name = true) : files ≠ [] := by
  cases h with
  | file => exact List.cons_ne_nil _ _
  | directory h _ mem_iff =>
      obtain ⟨name, hname, hextension⟩ := hpatch _ h
      exact List.ne_nil_of_mem ((mem_iff _).mpr ⟨name, hname, hextension, rfl⟩)

/-- In a coherent volume, the files that operands stand for are no directories. -/
theorem Volume.isNoDirectory_of_mem_patchFiles (hcoherent : volume.Coherent)
    (hfile : file ∈ volume.patchFiles paths) : volume.IsNoDirectory file := by
  obtain ⟨path, -, hmem⟩ := List.mem_flatMap.mp hfile
  exact (standsFor_expand volume path).isNoDirectory hcoherent file hmem

/-- There is some file to inspect if the first operand stands for one. -/
theorem Volume.patchFiles_ne_nil (hpaths : paths ≠ [])
    (hpatches : ∀ path ∈ paths, ∀ names, volume path = .directory names →
      ∃ name ∈ names, Path.hasExtension "json" name = true) : volume.patchFiles paths ≠ [] := by
  obtain ⟨path, rest, rfl⟩ := List.exists_cons_of_ne_nil hpaths
  rw [List.forall_mem_cons] at hpatches
  rw [Volume.patchFiles, List.flatMap_cons]
  exact List.append_ne_nil_of_left_ne_nil
    ((standsFor_expand volume path).ne_nil hpatches.1) _

/-- Files that are no directories stand for themselves. -/
theorem Volume.patchFiles_eq_self (h : ∀ file ∈ files, volume.IsNoDirectory file) :
    volume.patchFiles files = files := by
  induction files with
  | nil => rfl
  | cons file files ih =>
      rw [List.forall_mem_cons] at h
      rw [Volume.patchFiles, List.flatMap_cons, h.1.expand_eq, ← Volume.patchFiles, ih h.2,
        List.singleton_append]

/-- Several operands are **replaced**, each in its place by the files that it stands for. -/
theorem forall₂_standsFor_iff {parts : List (List String)} :
    List.Forall₂ volume.StandsFor paths parts ↔ parts = paths.map volume.expand := by
  constructor
  · intro h
    induction h with
    | nil => rfl
    | cons hpart _ ih => rw [List.map_cons, ← ih, hpart.eq_expand]
  · rintro rfl
    rw [List.forall₂_map_right_iff, List.forall₂_same]
    exact fun path _ => standsFor_expand volume path

/-! ### Outcomes that are joined -/

theorem Status.code_eq_zero_iff {status : Status} : status.code = 0 ↔ status = .success := by
  cases status <;> simp [Status.code]

theorem Status.code_eq_one_iff {status : Status} : status.code = 1 ↔ status = .failure := by
  cases status <;> simp [Status.code]

namespace Outcome

variable {alone : String → Outcome} {o : Outcome}

/-- What is written on the standard output before comes first. -/
theorem stdout_after (written : List Output) (o : Outcome) :
    (after written o).stdout = String.join (written.map Output.outText) ++ o.stdout := by
  rw [stdout, after, List.map_append, String.join_append]
  rfl

/-- What is written on the standard error before comes first. -/
theorem stderr_after (written : List Output) (o : Outcome) :
    (after written o).stderr = String.join (written.map Output.errText) ++ o.stderr := by
  rw [stderr, after, List.map_append, String.join_append]
  rfl

/-- The **standard outputs** for files alone, up to the first that fails. -/
def stdouts (alone : String → Outcome) (files : List String) : String :=
  String.join ((files.takeWhile fun file => (alone file).status.code == 0).map fun file =>
    (alone file).stdout)

theorem stdouts_cons_of_success (hcode : (alone file).status.code = 0) (files : List String) :
    stdouts alone (file :: files) = (alone file).stdout ++ stdouts alone files := by
  rw [stdouts, List.takeWhile_cons_of_pos (by simp [hcode]), List.map_cons, String.join_cons]
  rfl

theorem stdouts_cons_of_failure (hcode : (alone file).status.code = 1) (files : List String) :
    stdouts alone (file :: files) = "" := by
  rw [stdouts, List.takeWhile_cons_of_neg (by simp [hcode])]
  rfl

/-- After files that all succeed comes the standard output for the rest. -/
theorem stdouts_append_of_success {before : List String}
    (hcode : ∀ earlier ∈ before, (alone earlier).status.code = 0) (rest : List String) :
    stdouts alone (before ++ rest) = stdouts alone before ++ stdouts alone rest := by
  induction before with
  | nil => exact String.empty_append.symm
  | cons first before ih =>
      rw [List.forall_mem_cons] at hcode
      rw [List.cons_append, stdouts_cons_of_success hcode.1, stdouts_cons_of_success hcode.1,
        ih hcode.2, String.append_assoc]

/-- An outcome for several files **joins** those for each file alone: the standard output is what
they have up to the first that fails, the exit code tells whether there is one, and the standard
error is that of this one, whatever comes after it. -/
structure Joins (alone : String → Outcome) (files : List String) (o : Outcome) : Prop where
  stdout_eq : o.stdout = stdouts alone files
  code_eq_zero_or_one : o.status.code = 0 ∨ o.status.code = 1
  code_eq_zero_iff : o.status.code = 0 ↔ ∀ file ∈ files, (alone file).status.code = 0
  stderr_of_success : o.status.code = 0 → o.stderr = ""
  stderr_of_failure : ∀ before file after, files = before ++ file :: after →
    (∀ earlier ∈ before, (alone earlier).status.code = 0) → (alone file).status.code ≠ 0 →
      o.stderr = (alone file).stderr

/-- No files make an empty outcome. -/
theorem joins_nil (alone : String → Outcome) : Joins alone [] {} where
  stdout_eq := rfl
  code_eq_zero_or_one := .inl rfl
  code_eq_zero_iff := by simp [Status.code]
  stderr_of_success _ := rfl
  stderr_of_failure before file after h := by simp at h

/-- **A file that succeeds** stands in front of what comes after it. -/
theorem Joins.cons_of_success (hcode : (alone file).status.code = 0)
    (hstderr : (alone file).stderr = "") (h : Joins alone files o) :
    Joins alone (file :: files) (after (alone file).written o) where
  stdout_eq := by
    rw [stdouts_cons_of_success hcode, stdout_after, h.stdout_eq]
    rfl
  code_eq_zero_or_one := h.code_eq_zero_or_one
  code_eq_zero_iff := by
    rw [List.forall_mem_cons, and_iff_right hcode]
    exact h.code_eq_zero_iff
  stderr_of_success hzero := by
    rw [stderr_after, h.stderr_of_success hzero, String.append_empty]
    exact hstderr
  stderr_of_failure before failing rest hfiles hbefore hfailing := by
    have hrest : (after (alone file).written o).stderr = o.stderr := by
      rw [stderr_after]
      change (alone file).stderr ++ o.stderr = o.stderr
      rw [hstderr, String.empty_append]
    rw [hrest]
    cases before with
    | nil =>
        -- the file itself would be the one that fails
        obtain ⟨rfl, -⟩ := List.cons.inj hfiles
        exact absurd hcode hfailing
    | cons first before =>
        rw [List.forall_mem_cons] at hbefore
        exact h.stderr_of_failure before failing rest (List.cons.inj hfiles).2 hbefore.2 hfailing

/-- **A file that fails** is the end, with all that comes after it. -/
theorem joins_cons_of_failure (hcode : (alone file).status.code = 1)
    (hstdout : (alone file).stdout = "") (files : List String) :
    Joins alone (file :: files) (alone file) where
  stdout_eq := by rw [stdouts_cons_of_failure hcode, hstdout]
  code_eq_zero_or_one := .inr hcode
  code_eq_zero_iff := by simp [hcode]
  stderr_of_success hzero := absurd (hcode.symm.trans hzero) Nat.one_ne_zero
  stderr_of_failure before failing rest hfiles hbefore _ := by
    cases before with
    | nil => rw [(List.cons.inj hfiles).1]
    | cons first before =>
        obtain ⟨rfl, -⟩ := List.cons.inj hfiles
        rw [hbefore file List.mem_cons_self] at hcode
        exact absurd hcode Nat.zero_ne_one

/-- **A file that is named twice** is reported twice, if no file up to there fails. -/
theorem Joins.stdout_repeated {before between rest : List String}
    (h : Joins alone (before ++ file :: (between ++ file :: rest)) o)
    (hcode : ∀ earlier ∈ before ++ file :: between, (alone earlier).status.code = 0) :
    o.stdout = stdouts alone before ++ ((alone file).stdout ++
      (stdouts alone between ++ ((alone file).stdout ++ stdouts alone rest))) := by
  obtain ⟨hbefore, hfile, hbetween⟩ : (∀ earlier ∈ before, (alone earlier).status.code = 0) ∧
      (alone file).status.code = 0 ∧ ∀ earlier ∈ between, (alone earlier).status.code = 0 := by
    rwa [List.forall_mem_append, List.forall_mem_cons] at hcode
  rw [h.stdout_eq, stdouts_append_of_success hbefore, stdouts_cons_of_success hfile,
    stdouts_append_of_success hbetween, stdouts_cons_of_success hfile]

end Outcome

/-! ### Files alone -/

/-- The outcome of **inspecting** files with the settings that a file gives. -/
def inspecting (volume : Volume) (config : Option String) (layout : Layout) (files : List String) :
    Outcome :=
  Invocation.run volume { config, command := .inspect layout files }

/-- The outcome of inspecting a file **alone**. -/
def inspectingAlone (volume : Volume) (config : Option String) (layout : Layout) (file : String) :
    Outcome :=
  inspecting volume config layout [file]

/-- What a file alone **comes to**: the report of the patch that it holds and its operations, or a
failure, with no report. -/
inductive Outcome.Reports (volume : Volume) (settings : Settings) (layout : Layout)
    (file : String) : Outcome → Prop
  | report {o : Outcome} {patch : Element} {extraction : Extraction}
      (held : Document.HeldBy volume settings.patchOptions file patch)
      (extracted : Extraction.ofPatch settings.policy patch = .ok extraction)
      (code : o.status.code = 0)
      (stdout : o.stdout = layout.report file (Metadata.ofPatch patch) extraction)
      (stderr : o.stderr = "") : Reports volume settings layout file o
  | unloaded {o : Outcome} {error : LoadError}
      (not_held : Document.NotHeldBy volume settings.patchOptions file error)
      (code : o.status.code = 1) (stdout : o.stdout = "")
      (stderr : o.stderr = (Failure.patch file error).report) :
      Reports volume settings layout file o
  | refused {o : Outcome} {patch : Element} {error : PatchError}
      (held : Document.HeldBy volume settings.patchOptions file patch)
      (refused : Extraction.ofPatch settings.policy patch = .error error)
      (code : o.status.code = 1) (stdout : o.stdout = "")
      (stderr : o.stderr = (Failure.extraction file error).report) :
      Reports volume settings layout file o

namespace Outcome.Reports

variable {o : Outcome} {patch : Element} {extraction : Extraction} {error : LoadError}

/-- A patch whose operations are extracted is reported. -/
theorem of_extracted (h : Reports volume settings layout file o)
    (hheld : Document.HeldBy volume settings.patchOptions file patch)
    (hextracted : Extraction.ofPatch settings.policy patch = .ok extraction) :
    o.status.code = 0 ∧ o.stdout = layout.report file (Metadata.ofPatch patch) extraction := by
  cases h with
  | report held extracted code stdout =>
      obtain rfl := Except.ok.inj (held.load_eq.symm.trans hheld.load_eq)
      obtain rfl := Except.ok.inj (extracted.symm.trans hextracted)
      exact ⟨code, stdout⟩
  | unloaded not_held => exact absurd (not_held.load_eq.symm.trans hheld.load_eq) nofun
  | refused held refused =>
      obtain rfl := Except.ok.inj (held.load_eq.symm.trans hheld.load_eq)
      exact absurd (refused.symm.trans hextracted) nofun

/-- A file that holds no patch fails. -/
theorem of_notHeldBy (h : Reports volume settings layout file o)
    (hnot : Document.NotHeldBy volume settings.patchOptions file error) :
    o.status.code = 1 ∧ o.stderr = (Failure.patch file error).report := by
  cases h with
  | report held | refused held => exact absurd (held.load_eq.symm.trans hnot.load_eq) nofun
  | unloaded not_held code _ stderr =>
      obtain rfl := Except.error.inj (not_held.load_eq.symm.trans hnot.load_eq)
      exact ⟨code, stderr⟩

end Outcome.Reports

/-- **One file** is reported, or fails. -/
theorem reports_inspectFile (settings : Settings) (volume : Volume) (layout : Layout)
    (file : String) :
    Outcome.Reports volume settings layout file (settings.inspectFile volume layout file) := by
  rcases Document.heldBy_or_notHeldBy volume settings.patchOptions file with
    ⟨patch, hheld⟩ | ⟨error, hnot⟩
  swap
  · have hfile : settings.inspectFile volume layout file = .failed (.patch file error) := by
      simp [Settings.inspectFile, Settings.loadPatch, hnot.load_eq, Except.mapError]
    rw [hfile]
    exact .unloaded hnot rfl rfl (by simp [Outcome.failed, Outcome.stderr, Output.errText])
  cases hextraction : Extraction.ofPatch settings.policy patch with
  | error error =>
      have hfile : settings.inspectFile volume layout file =
          Outcome.after ((Metadata.events patch).map .log) (.failed (.extraction file error)) := by
        simp [Settings.inspectFile, Settings.loadPatch, hheld.load_eq, Settings.extract,
          hextraction, Except.mapError]
      rw [hfile]
      refine .refused hheld hextraction rfl ?_ ?_
      · rw [Outcome.stdout_after, join_map_log fun _ => rfl]
        rfl
      · rw [Outcome.stderr_after, join_map_log fun _ => rfl]
        simp [Outcome.failed, Outcome.stderr, Output.errText]
  | ok extraction =>
      have hfile : settings.inspectFile volume layout file =
          Outcome.after ((Metadata.events patch).map .log)
            (Outcome.after (extraction.events.map .log)
              { written := [.out (layout.report file (Metadata.ofPatch patch) extraction)] }) := by
        simp [Settings.inspectFile, Settings.loadPatch, hheld.load_eq, Settings.extract,
          hextraction, Except.mapError, Outcome.after]
      rw [hfile]
      refine .report hheld hextraction rfl ?_ ?_
      · rw [Outcome.stdout_after, Outcome.stdout_after, join_map_log fun _ => rfl,
          join_map_log fun _ => rfl]
        simp [Outcome.stdout, Output.outText]
      · rw [Outcome.stderr_after, Outcome.stderr_after, join_map_log fun _ => rfl,
          join_map_log fun _ => rfl]
        rfl

/-- A single file has the outcome of that file. -/
theorem inspectFiles_singleton (settings : Settings) (volume : Volume) (layout : Layout)
    (file : String) :
    settings.inspectFiles volume layout [file] = settings.inspectFile volume layout file := by
  rw [Settings.inspectFiles]
  cases h : settings.inspectFile volume layout file with
  | mk written status => cases status <;> simp [Settings.inspectFiles, Outcome.after]

/-- **Inspecting** is going through the files that the operands stand for. -/
theorem inspecting_eq_inspectFiles (hgiven : Settings.GivenBy volume config settings)
    (h : volume.patchFiles paths ≠ []) :
    inspecting volume config layout paths =
      settings.inspectFiles volume layout (volume.patchFiles paths) := by
  rw [inspecting, Invocation.run, hgiven.load_eq]
  change settings.inspect volume layout paths = _
  rw [Settings.inspect]
  split
  next hnil => exact absurd hnil h
  next => rfl

theorem inspectingAlone_eq (hgiven : Settings.GivenBy volume config settings)
    (h : volume.IsNoDirectory file) :
    inspectingAlone volume config layout file = settings.inspectFile volume layout file := by
  have hself : volume.patchFiles [file] = [file] := Volume.patchFiles_eq_self (by simpa using h)
  rw [inspectingAlone, inspecting_eq_inspectFiles hgiven (by simp [hself]), hself,
    inspectFiles_singleton]

/-! ### All files -/

/-- **One file after the other**: what going through files comes to is joined from what each of them
alone comes to. -/
theorem joins_inspectFiles (hgiven : Settings.GivenBy volume config settings) (layout : Layout)
    (h : ∀ file ∈ files, volume.IsNoDirectory file) :
    Outcome.Joins (inspectingAlone volume config layout) files
      (settings.inspectFiles volume layout files) := by
  induction files with
  | nil => exact Outcome.joins_nil _
  | cons file files ih =>
      rw [List.forall_mem_cons] at h
      have halone : inspectingAlone volume config layout file =
          settings.inspectFile volume layout file := inspectingAlone_eq hgiven h.1
      have hreports := reports_inspectFile settings volume layout file
      rw [Settings.inspectFiles, ← halone]
      rw [← halone] at hreports
      cases hreports with
      | report _ _ hcode _ hstderr =>
          simp only [Status.code_eq_zero_iff.mp hcode]
          exact (ih h.2).cons_of_success hcode hstderr
      | unloaded _ hcode hstdout _ | refused _ _ hcode hstdout _ =>
          simp only [Status.code_eq_one_iff.mp hcode]
          exact Outcome.joins_cons_of_failure hcode hstdout files

/-! ### The command line -/

/-- The command of an inspection has operands. -/
theorem Given.ne_nil_of_command {given : Given} {level : Level}
    (h : given.command level = .ok (.inspect layout paths)) : paths ≠ [] := by
  cases level with
  | program => exact absurd h nofun
  | inspect =>
      rw [Given.command] at h
      split at h
      next => exact absurd h nofun
      next _ hoperands =>
        obtain ⟨-, rfl⟩ := Command.inspect.inj (Except.ok.inj h)
        exact hoperands
  | resolve | check =>
      rw [Given.command] at h
      split at h <;> exact absurd h nofun

/-- What a command line asks for is the command of some level. -/
theorem Invocation.exists_command_of_parse {arguments : List String} {invocation : Invocation}
    (h : Invocation.parse arguments = .ok invocation) :
    ∃ (given : Given) (level : Level), given.command level = .ok invocation.command := by
  simp only [Invocation.parse, bind, Except.bind] at h
  split at h
  · exact absurd h nofun
  split at h
  · exact absurd h nofun
  · exact absurd h nofun
  split at h
  · exact absurd h nofun
  next level _ =>
    split at h
    · exact absurd h nofun
    next inner _ =>
      cases hcommand : inner.1.command level with
      | error error =>
          rw [hcommand] at h
          exact absurd h nofun
      | ok command =>
          rw [hcommand] at h
          exact ⟨inner.1, level, by rw [hcommand, ← Except.ok.inj h]⟩

/-- A command line that asks for an inspection has operands. -/
theorem ne_nil_of_parse {arguments : List String} {verbose : Bool}
    (h : Invocation.parse arguments =
      .ok { config, verbose, command := .inspect layout paths }) : paths ≠ [] := by
  obtain ⟨given, level, hcommand⟩ := Invocation.exists_command_of_parse h
  exact Given.ne_nil_of_command hcommand

theorem run_eq_inspecting {arguments : List String} {verbose : Bool}
    (hparse : Invocation.parse arguments =
      .ok { config, verbose, command := .inspect layout paths }) :
    run volume arguments = inspecting volume config layout paths := by
  rw [run, hparse]
  rfl

/-- **What an inspection comes to.** A command line names files and directories that have patches.
It comes to the same as one that names, instead of each directory, the patches directly in it, in the
order of their paths. And a command line that names nothing but files joins what they come to each
alone, which is a report or a failure; a file that is named twice is reported twice. -/
theorem run_inspect {arguments : List String} {verbose : Bool} (hcoherent : volume.Coherent)
    (hgiven : Settings.GivenBy volume config settings)
    (hparse : Invocation.parse arguments =
      .ok { config, verbose, command := .inspect layout paths })
    (hpatches : ∀ path ∈ paths, ∀ names, volume path = .directory names →
      ∃ name ∈ names, Path.hasExtension "json" name = true) :
    (∃ parts, List.Forall₂ volume.StandsFor paths parts) ∧
      (∀ parts, List.Forall₂ volume.StandsFor paths parts →
        parts.flatten ≠ [] ∧ (∀ file ∈ parts.flatten, volume.IsNoDirectory file) ∧
          run volume arguments = inspecting volume config layout parts.flatten) ∧
      ∀ files, files ≠ [] → (∀ file ∈ files, volume.IsNoDirectory file) →
        (inspecting volume config layout files).Joins (inspectingAlone volume config layout)
            files ∧
          (∀ file ∈ files, Outcome.Reports volume settings layout file
            (inspectingAlone volume config layout file)) ∧
          ∀ before file between rest, files = before ++ file :: (between ++ file :: rest) →
            (∀ earlier ∈ before ++ file :: between,
              (inspectingAlone volume config layout earlier).status.code = 0) →
            (inspecting volume config layout files).stdout =
              Outcome.stdouts (inspectingAlone volume config layout) before ++
                ((inspectingAlone volume config layout file).stdout ++
                  (Outcome.stdouts (inspectingAlone volume config layout) between ++
                    ((inspectingAlone volume config layout file).stdout ++
                      Outcome.stdouts (inspectingAlone volume config layout) rest))) := by
  refine ⟨⟨_, forall₂_standsFor_iff.mpr rfl⟩, fun parts hparts => ?_, fun files hfiles hno => ?_⟩
  · have hexpanded : parts.flatten = volume.patchFiles paths := by
      rw [forall₂_standsFor_iff.mp hparts]
      rfl
    have hne : volume.patchFiles paths ≠ [] :=
      Volume.patchFiles_ne_nil (ne_nil_of_parse hparse) hpatches
    have hno : ∀ file ∈ volume.patchFiles paths, volume.IsNoDirectory file :=
      fun file => Volume.isNoDirectory_of_mem_patchFiles hcoherent
    have hself : volume.patchFiles (volume.patchFiles paths) = volume.patchFiles paths :=
      Volume.patchFiles_eq_self hno
    rw [hexpanded, run_eq_inspecting hparse]
    refine ⟨hne, hno, ?_⟩
    rw [inspecting_eq_inspectFiles hgiven hne, inspecting_eq_inspectFiles hgiven (by rwa [hself]),
      hself]
  · have hself : volume.patchFiles files = files := Volume.patchFiles_eq_self hno
    have hjoins : (inspecting volume config layout files).Joins
        (inspectingAlone volume config layout) files := by
      rw [inspecting_eq_inspectFiles hgiven (by rwa [hself]), hself]
      exact joins_inspectFiles hgiven layout hno
    refine ⟨hjoins, fun file hmem => ?_, ?_⟩
    · rw [inspectingAlone_eq hgiven (hno file hmem)]
      exact reports_inspectFile settings volume layout file
    · rintro before file between rest rfl hcode
      exact hjoins.stdout_repeated hcode

/-- The patch in the directory is named a second time and reported twice; the file that is not there
ends the run, so that the directory is not looked at again. -/
theorem run_inspect_twice :
    let patchText := "\x7b\"Patch\":\x7b\"mpdId\":\"m\"\x7d\x7d"
    let tree := (({} : FileTree).write "d/a.json" patchText.toUTF8).write "d/notes.txt" "".toUTF8
    let arguments := ["inspect", "d", "d/a.json", "x.json", "d"]
    let report := "d/a.json\n  mpdId: m\n  publishTime: -\n  originalPublishTime: -\n" ++
      "  0 operations\n\n"
    (run tree.volume arguments).stdout = report ++ report ∧
      (run tree.volume arguments).status.code = 1 ∧
      (run tree.volume arguments).stderr =
        (Failure.patch "x.json" (.unreadable .notFound)).report := by
  intro patchText tree arguments report
  have hparse : Invocation.parse arguments =
      .ok { command := .inspect .lines ["d", "d/a.json", "x.json", "d"] } := by
    decide +kernel
  have hdirectory : tree.volume "d" = .directory ["notes.txt", "a.json"] := rfl
  have hno : ∀ file ∈ ["d/a.json", "x.json"], tree.volume.IsNoDirectory file := by
    simp only [List.forall_mem_cons]
    exact ⟨nofun, nofun, nofun⟩
  have htokens : Json.tokens patchText.toList = some
      [.openObject, .string "Patch", .colon,
        .openObject, .string "mpdId", .colon, .string "m", .closeObject, .closeObject] := by
    decide +kernel
  have hjson : Json.parse patchText =
      some (.object [("Patch", .object [("mpdId", .string "m")])]) := by
    rw [Json.parse, htokens]
    rfl
  have hpatch : Document.HeldBy tree.volume { orderedRoot := true } "d/a.json"
      { name := "Patch", attributes := [("mpdId", "m")] } := by
    refine ⟨patchText, by decide +kernel, ?_⟩
    rw [Document.parse, hjson]
    exact (Document.ofJson_object_eq_ok_iff rfl).mpr
      ⟨Document.readElement_object_of_nodes_eq_nil _ _ rfl, by decide +kernel⟩
  have hpatches : ∀ path ∈ ["d", "d/a.json", "x.json", "d"], ∀ names,
      tree.volume path = .directory names →
        ∃ name ∈ names, Path.hasExtension "json" name = true := by
    simp only [List.forall_mem_cons] at hno ⊢
    have hd : ∀ names, tree.volume "d" = .directory names →
        ∃ name ∈ names, Path.hasExtension "json" name = true := by
      intro names hnames
      obtain rfl := Entry.directory.inj (hdirectory.symm.trans hnames)
      exact ⟨"a.json", by decide +kernel, by decide +kernel⟩
    exact ⟨hd, fun names h => absurd h (hno.1 names), fun names h => absurd h (hno.2.1 names), hd,
      nofun⟩
  have hd : tree.volume.StandsFor "d" ["d/a.json"] := by
    have hexpand : tree.volume.expand "d" = ["d/a.json"] := by decide +kernel
    rw [← hexpand]
    exact standsFor_expand tree.volume "d"
  obtain ⟨-, hparts, hfiles⟩ := @run_inspect tree.volume {} none .lines
    ["d", "d/a.json", "x.json", "d"] arguments false tree.coherent_volume .defaults hparse hpatches
  obtain ⟨-, hnone, hrun⟩ := hparts [["d/a.json"], ["d/a.json"], ["x.json"], ["d/a.json"]]
    (.cons hd (.cons (.file (hno _ (by simp))) (.cons (.file (hno _ (by simp))) (.cons hd .nil))))
  obtain ⟨hjoins, hreports, htwice⟩ :=
    hfiles ["d/a.json", "d/a.json", "x.json", "d/a.json"] nofun hnone
  obtain ⟨hcode, hstdout⟩ := (hreports "d/a.json" (by simp)).of_extracted hpatch rfl
  obtain ⟨hcode', hstderr⟩ := (hreports "x.json" (by simp)).of_notHeldBy (.unreadable rfl)
  have hflatten : [["d/a.json"], ["d/a.json"], ["x.json"], ["d/a.json"]].flatten =
      ["d/a.json", "d/a.json", "x.json", "d/a.json"] := rfl
  rw [hrun, hflatten]
  refine ⟨?_, hjoins.code_eq_zero_or_one.resolve_left ?_, ?_⟩
  · rw [htwice [] "d/a.json" [] ["x.json", "d/a.json"] rfl (by simpa using hcode), hstdout,
      Outcome.stdouts_cons_of_failure hcode']
    rfl
  · rw [hjoins.code_eq_zero_iff]
    intro hall
    rw [hall "x.json" (by simp)] at hcode'
    exact absurd hcode' Nat.zero_ne_one
  · rw [hjoins.stderr_of_failure ["d/a.json", "d/a.json"] "x.json" ["d/a.json"] rfl
      (by simpa using hcode) (by simp [hcode']), hstderr]

end ManifestPatch
