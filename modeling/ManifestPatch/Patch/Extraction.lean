import ManifestPatch.Patch.Error
import ManifestPatch.Patch.Operation

/-!
# Extracting Operations

The children of a patch's root are its nodes, and every node is one operation. The tag is the kind,
the attribute `sel` the selector, the text or the children are the payload, and the attribute `pos`
of an addition is the hint. Nodes of other kinds are passed over; what happens to a node whose
selector does not parse is a matter of policy.

## Main definitions

* `Operation.ofNode`: the operation that a node stands for.
* `Extraction.ofPatch`: all operations of a patch, and what was passed over.

## Main results

* `Extraction.length_add_length`: every node is accounted for once.
-/

namespace ManifestPatch

/-- What to do about a node whose selector does not parse. -/
inductive Policy where
  /-- Refuse the whole patch. -/
  | abort
  /-- Pass over the node. -/
  | skip
  deriving DecidableEq, Repr

/-- The word for a policy. -/
def Policy.label : Policy → String
  | .abort => "abort"
  | .skip => "skip"

/-- The kind of operation that a word means, or the error that it means none. -/
def OperationKind.parse (word : String) : Except PatchError OperationKind :=
  match ofLabel? word with
  | some kind => .ok kind
  | none => .error (.unsupportedKind word)

namespace Operation

/-- The attribute of a node that holds its selector. -/
def selectorAttribute : String := "sel"

/-- The attribute of a node that holds its hint. -/
def positionAttribute : String := "pos"

/-- The payload of a node: the text for an attribute, the grouped children for an element. -/
def payloadOf (selector : Selector) (node : Element) : Payload :=
  if selector.targetsAttribute then .text (node.text.getD "") else .elements node.groups

/-- The **operation** that a node stands for. A missing selector is an empty one. -/
def ofNode (node : Element) : Except Reason Operation :=
  match OperationKind.ofLabel? node.name with
  | none => .error (.unsupportedKind node.name)
  | some kind =>
    match Selector.parse ((node.attribute? selectorAttribute).getD "") with
    | .error error => .error (.malformedSelector error)
    | .ok selector =>
      .ok ((make kind selector (payloadOf selector node)).withPosition
        (node.attribute? positionAttribute))

end Operation

/-- What a patch amounts to: its operations in document order, and the nodes passed over. -/
structure Extraction where
  operations : List Operation := []
  diagnostics : List Diagnostic := []
  deriving DecidableEq

namespace Extraction

/-- The extraction with one more operation in front. -/
def consOperation (operation : Operation) (rest : Extraction) : Extraction :=
  { rest with operations := operation :: rest.operations }

/-- The extraction with one more diagnostic in front. -/
def consDiagnostic (diagnostic : Diagnostic) (rest : Extraction) : Extraction :=
  { rest with diagnostics := diagnostic :: rest.diagnostics }

/-- The extraction from the nodes from an index on. -/
def ofNodes (policy : Policy) (index : Nat) : List Element → Except PatchError Extraction
  | [] => .ok {}
  | node :: rest =>
    match Operation.ofNode node with
    | .ok operation => consOperation operation <$> ofNodes policy (index + 1) rest
    | .error reason =>
      match policy, reason with
      | .abort, .malformedSelector source => .error (.malformedSelector index source)
      | _, reason => consDiagnostic { index, reason } <$> ofNodes policy (index + 1) rest

/-- The **extraction** from a patch. -/
def ofPatch (policy : Policy) (patch : Element) : Except PatchError Extraction :=
  ofNodes policy 0 patch.children

/-- The events of an extraction: a summary, and a warning for every node passed over. -/
def events (e : Extraction) : List Event :=
  .extracted e.operations.length e.diagnostics.length :: e.diagnostics.map Diagnostic.event

private theorem map_eq_ok_iff {ε α β : Type} {f : α → β} {x : Except ε α} {b : β} :
    f <$> x = .ok b ↔ ∃ a, x = .ok a ∧ f a = b := by
  cases x <;> simp [Functor.map, Except.map]

theorem length_add_length_of_ofNodes {policy : Policy} {index : Nat} {nodes : List Element}
    {e : Extraction} (h : ofNodes policy index nodes = .ok e) :
    e.operations.length + e.diagnostics.length = nodes.length := by
  fun_induction ofNodes policy index nodes generalizing e with
  | case1 => cases h; rfl
  | case2 index node rest operation _ ih =>
    obtain ⟨r, hr, rfl⟩ := map_eq_ok_iff.1 h
    have := ih hr
    simp only [consOperation, List.length_cons]
    omega
  | case3 => simp at h
  | case4 index node rest reason _ _ ih =>
    obtain ⟨r, hr, rfl⟩ := map_eq_ok_iff.1 h
    have := ih hr
    simp only [consDiagnostic, List.length_cons]
    omega

/-- Every node of a patch is an operation or has a diagnostic. -/
theorem length_add_length {policy : Policy} {patch : Element} {e : Extraction}
    (h : ofPatch policy patch = .ok e) :
    e.operations.length + e.diagnostics.length = patch.children.length :=
  length_add_length_of_ofNodes h

end Extraction

end ManifestPatch
