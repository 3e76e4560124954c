import ManifestPatch.Event
import ManifestPatch.Selector.Error

/-!
# Diagnostics and Errors of Patches

A node of a patch that is no operation is either passed over with a **diagnostic**, or it is an
error of the whole patch.
-/

namespace ManifestPatch

/-- Why a node of a patch is no operation. -/
inductive Reason where
  /-- Its tag is no kind of operation. -/
  | unsupportedKind (kind : String)
  /-- Its selector does not parse. -/
  | malformedSelector (error : SelectorError)
  deriving DecidableEq, Repr

/-- A node that was passed over: its index among the children of the patch, and why. -/
structure Diagnostic where
  index : Nat
  reason : Reason
  deriving DecidableEq, Repr

namespace Diagnostic

/-- The wording of a diagnostic. -/
def message (d : Diagnostic) : String :=
  match d.reason with
  | .unsupportedKind kind =>
    "node " ++ toString d.index ++ ": ignoring unsupported type '" ++ kind ++ "'"
  | .malformedSelector error => "node " ++ toString d.index ++ ": skipped, " ++ error.message

/-- The warning that is logged of a diagnostic. -/
def event (d : Diagnostic) : Event :=
  match d.reason with
  | .unsupportedKind kind => .unsupportedKind d.index kind
  | .malformedSelector error => .malformedSelector d.index error.message

end Diagnostic

/-- Why a patch is refused. -/
inductive PatchError where
  /-- The selector of the node at this index does not parse. -/
  | malformedSelector (index : Nat) (source : SelectorError)
  /-- The word is no kind of operation. -/
  | unsupportedKind (kind : String)
  deriving DecidableEq, Repr

/-- The wording of an error. -/
def PatchError.message : PatchError → String
  | .malformedSelector index source =>
    "patch operation " ++ toString index ++ " has a malformed selector: " ++ source.message
  | .unsupportedKind kind => "unsupported patch operation kind '" ++ kind ++ "'"

end ManifestPatch
