import ManifestPatch.Command.Describe
import ManifestPatch.Command.Load

/-!
# Checking Patches

Whether the operations of a patch have their places in a manifest. Every operation is looked up in
the manifest as it is, not as the operations before it would leave it.

## Main definitions

* `Operation.verdict`: what is found for one operation.
* `Settings.check`: the run that reports all of them.
-/

namespace ManifestPatch

/-- What is found for an operation. -/
inductive Verdict where
  /-- Its place. -/
  | resolved (target : Target)
  /-- The owner of an attribute, without the attribute that should be changed or removed. -/
  | missingAttribute (target : Target)
  | notFound
  deriving DecidableEq, Repr

/-- The **verdict** on an operation. Only what is added need not be there yet. -/
def Operation.verdict (operation : Operation) (manifest : Element) : Verdict :=
  match operation.resolve manifest with
  | .ok target =>
    if target.isAttribute && operation.kind != .add && target.attributeValue?.isNone then
      .missingAttribute target
    else .resolved target
  | .error _ => .notFound

namespace Verdict

/-- Whether the place was found, with its attribute if it needs one. -/
def isResolved : Verdict → Bool
  | .resolved _ => true
  | .missingAttribute _ | .notFound => false

/-- Whether only the attribute is missing. -/
def isMissingAttribute : Verdict → Bool
  | .missingAttribute _ => true
  | .resolved _ | .notFound => false

/-- Whether nothing was found. -/
def isNotFound : Verdict → Bool
  | .notFound => true
  | .resolved _ | .missingAttribute _ => false

/-- What a conflict can come from. -/
def conflictReport : String :=
  "  CONFLICT: selector matched no element\n  Possible causes:\n"
    ++ "    - Patch is stale (manifest already moved past it)\n"
    ++ "    - Patch was generated for a different manifest\n"

/-- The report of the verdict on an operation. -/
def report (label : String) : Verdict → Output
  | .resolved target =>
    .out ("✓ " ++ label ++ "\n       target: " ++ target.target.element.describe ++ "\n")
  | .missingAttribute target =>
    .out ("⊙ " ++ label ++ "\n       attribute '" ++ target.name ++ "' not present on "
      ++ target.leaf.element.describe ++ "\n")
  | .notFound => .err ("✗ " ++ label ++ "\n" ++ conflictReport)

end Verdict

/-- What is written about the operation at an index: the events of looking it up, then the
verdict. -/
def Operation.check (manifest : Element) (index : Nat) (operation : Operation) : List Output :=
  let sibling := operation.kind.actsOnSiblings
  (operation.selector.resolveEvents manifest sibling).map .log
    ++ [(operation.verdict manifest).report (operation.describeAt index)]

/-- The line of a summary with a count. -/
def summaryLine (count : Nat) (what : String) : String :=
  "  " ++ toString count ++ " " ++ what ++ "\n"

/-- How many verdicts there are of each sort. -/
def summary (verdicts : List Verdict) : String :=
  "\nSummary:\n" ++ summaryLine (verdicts.countP Verdict.isResolved) "resolved"
    ++ summaryLine (verdicts.countP Verdict.isMissingAttribute) "missing attribute"
    ++ summaryLine (verdicts.countP Verdict.isNotFound) "not found"

/-- What stands before the verdicts. -/
def checkHeading (manifestPath patchPath : String) : String :=
  "Checking patch operations...\nManifest: " ++ manifestPath ++ "\nPatch: " ++ patchPath
    ++ "\nNote: each operation is resolved against the unpatched manifest\n\n"

/-- The outcome of looking up all operations: a failure if one of them has no place. -/
def checkReport (manifestPath patchPath : String) (manifest : Element)
    (operations : List Operation) : Outcome :=
  let verdicts := operations.map fun operation => operation.verdict manifest
  { written := .out (checkHeading manifestPath patchPath)
      :: (operations.mapIdx (Operation.check manifest)).flatten ++ [.out (summary verdicts)]
    status := if verdicts.any Verdict.isNotFound then .failure else .success }

/-- The run that **checks** the patch under a path against the manifest under another. -/
def Settings.check (settings : Settings) (volume : Volume) (manifestPath patchPath : String) :
    Outcome :=
  match settings.loadManifest volume manifestPath with
  | .error failure => .failed failure
  | .ok manifest =>
    Outcome.after (settings.rootWarning manifest) <|
      match settings.loadPatch volume patchPath with
      | .error failure => .failed failure
      | .ok patch =>
        match settings.extract patchPath patch with
        | .error failure => .failed failure
        | .ok extraction =>
          Outcome.after (extraction.events.map .log) <|
            checkReport manifestPath patchPath manifest extraction.operations

/-- Every verdict is of one sort. -/
theorem Verdict.countP_add_countP_add_countP (verdicts : List Verdict) :
    verdicts.countP isResolved + verdicts.countP isMissingAttribute
      + verdicts.countP isNotFound = verdicts.length := by
  induction verdicts with
  | nil => rfl
  | cons verdict rest ih =>
    cases verdict <;>
      simp [isResolved, isMissingAttribute, isNotFound, List.countP_cons] <;> omega

end ManifestPatch
