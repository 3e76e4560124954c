import ManifestPatch.Command.Outcome
import ManifestPatch.Document.Error
import ManifestPatch.Files.Volume
import ManifestPatch.Patch.Error
import ManifestPatch.Settings.Basic
import ManifestPatch.Text.Column

/-!
# Failures of Commands

Why a command comes to nothing. A failure is reported with its causes, from the nearest to the
farthest, one to a paragraph; they are numbered if there is more than one.

## Main definitions

* `Failure.message`, `Failure.causes`: the wording.
* `Failure.report`: the paragraphs.
* `Outcome.failed`: the outcome of a run that fails.
-/

namespace ManifestPatch

/-- Why a document is not loaded. -/
inductive LoadError where
  /-- Its file cannot be read. -/
  | unreadable (fault : ReadFault)
  /-- What the file holds is no document. -/
  | invalid (error : DocumentError)
  deriving DecidableEq, Repr

/-- Why a command comes to **nothing**. -/
inductive Failure where
  /-- The file with the settings cannot be read. -/
  | unreadableSettings (path : String) (fault : ReadFault)
  /-- What the file holds is no settings. -/
  | invalidSettings (path : String) (error : SettingsError)
  | manifest (path : String) (error : LoadError)
  | patch (path : String) (error : LoadError)
  /-- The patch is loaded, but refused. -/
  | extraction (path : String) (error : PatchError)
  | selector (error : SelectorError)
  /-- There are no patches to inspect. -/
  | noPatches
  deriving DecidableEq, Repr

namespace Failure

/-- The wording of a failure itself. -/
def message : Failure → String
  | .unreadableSettings path fault =>
    "failed to read config from " ++ path ++ ": " ++ fault.message
  | .invalidSettings path error => path ++ ": " ++ error.message
  | .manifest path _ => "failed to load manifest " ++ path
  | .patch path _ => "failed to load patch " ++ path
  | .extraction path _ => "failed to extract operations from " ++ path
  | .selector error => error.message
  | .noPatches => "No .json patch documents found"

/-- What lies behind an error in the document under a path. -/
def loadCauses (path : String) : LoadError → List String
  | .unreadable fault =>
    ["failed to read document from " ++ path ++ ": " ++ fault.message, fault.message]
  | .invalid error => [error.message]

/-- What lies behind an error in the settings. -/
def settingsCauses : SettingsError → List String
  | .unreadable => [SettingsError.unreadable.message]
  | .invalid issues => [(SettingsError.invalid issues).message, Settings.issuesMessage issues]

/-- What lies behind an error in a patch. -/
def patchCauses : PatchError → List String
  | .malformedSelector index source =>
    [(PatchError.malformedSelector index source).message, source.message]
  | .unsupportedKind kind => [(PatchError.unsupportedKind kind).message]

/-- The **causes** of a failure, the nearest first. -/
def causes : Failure → List String
  | .unreadableSettings _ fault => [fault.message]
  | .invalidSettings _ error => settingsCauses error
  | .manifest path error | .patch path error => loadCauses path error
  | .extraction _ error => patchCauses error
  | .selector _ | .noPatches => []

/-- One of several causes: its number in a column, its further lines beside it. -/
def numberedCause (index : Nat) (cause : String) : String :=
  "\n" ++ Text.alignRight 5 (toString index) ++ ": " ++ Text.hanging 7 cause

/-- The paragraph with the causes, if there are any. -/
def causesReport : List String → String
  | [] => ""
  | [cause] => "\n\nCaused by:\n    " ++ Text.hanging 4 cause
  | causes => "\n\nCaused by:" ++ String.join (causes.mapIdx numberedCause)

/-- The **report** of a failure. -/
def report (failure : Failure) : String :=
  "Error: " ++ failure.message ++ causesReport failure.causes ++ "\n"

end Failure

/-- The outcome of a run that fails. -/
def Outcome.failed (failure : Failure) : Outcome :=
  { written := [.err failure.report], status := .failure }

end ManifestPatch
