import ManifestPatch.Patch.Extraction
import ManifestPatch.Proofs.Element.Groups
import Mathlib.Data.List.Forall2

/-!
# Accounting for the Nodes of a Patch

Extraction goes through the nodes of a patch once and puts each on one of two lists. With the
policy to skip it cannot fail, and its result has a **closed form**: both lists are picked from the
numbered nodes, each by what its node is. Since every node is either an operation or gives a reason
why not, the two pickings split the indexes between them.

## Main definitions

* `Operation.StandsFor`: what the operation at a node has to be.
* `Reason.AppliesTo`: why a node is no operation.
* `Splits`: two lists of indexes share out the indexes below a bound.

## Main results

* `Operation.ofNode_eq_ok_iff`, `Operation.ofNode_eq_error_iff`: reading one node.
* `Extraction.ofNodes_skip`: the closed form of an extraction that skips.
* `Extraction.ofPatch_skip_accounts`: every node is accounted for once and in order.
-/

namespace ManifestPatch

/-! ### What a node stands for -/

/-- What the **operation** at a node has to be: of the kind that the node's name is the word for,
with the selector that the attribute `sel` spells, a missing one counting as empty; with the node's
text as payload if that selector addresses an attribute, and else with the node's children, sorted
by name; with the attribute `pos` as hint if something is added, and else without hint. -/
structure Operation.StandsFor (operation : Operation) (node : Element) : Prop where
  label_eq : operation.kind.label = node.name
  parse_eq : Selector.parse ((node.attribute? "sel").getD "") = .ok operation.selector
  text_payload : operation.selector.targetsAttribute = true →
    operation.payload = .text (node.text.getD "")
  element_payload : operation.selector.targetsAttribute = false →
    ∃ groups : Element.Groups, groups.Sorts node.children ∧ operation.payload = .elements groups
  position_of_add : operation.kind = .add → operation.position = node.attribute? "pos"
  position_of_ne_add : operation.kind ≠ .add → operation.position = none

/-- Why a node is **no operation**: its name is no word for a kind; or it is one, but the selector
does not parse. -/
def Reason.AppliesTo (reason : Reason) (node : Element) : Prop :=
  match reason with
  | .unsupportedKind kind => kind = node.name ∧ node.name ∉ ["add", "remove", "replace"]
  | .malformedSelector error =>
    node.name ∈ ["add", "remove", "replace"] ∧
      Selector.parse ((node.attribute? "sel").getD "") = .error error

/-- A word means no kind exactly if it is none of the three. -/
theorem OperationKind.ofLabel?_eq_none_iff {word : String} :
    ofLabel? word = none ↔ word ∉ ["add", "remove", "replace"] := by
  rw [ofLabel?, List.find?_eq_none]
  simp [label, eq_comm (b := word)]

/-- The word for a kind is one of the three. -/
theorem OperationKind.label_mem (kind : OperationKind) :
    kind.label ∈ ["add", "remove", "replace"] := by
  cases kind <;> decide

namespace Operation

/-- An operation made from the parts of a node stands for the node. -/
theorem standsFor_make {node : Element} {kind : OperationKind} {selector : Selector}
    (hkind : kind.label = node.name)
    (hselector : Selector.parse ((node.attribute? "sel").getD "") = .ok selector) :
    ((make kind selector (payloadOf selector node)).withPosition
      (node.attribute? positionAttribute)).StandsFor node where
  label_eq := by rw [kind_withPosition, kind_make, hkind]
  parse_eq := by rw [selector_withPosition, selector_make, hselector]
  text_payload := by
    rw [selector_withPosition, selector_make, payload_withPosition, payload_make]
    intro ha
    rw [payloadOf, if_pos ha]
  element_payload := by
    rw [selector_withPosition, selector_make, payload_withPosition, payload_make]
    intro ha
    refine ⟨node.groups, Element.sorts_groups node, ?_⟩
    rw [payloadOf, if_neg (by simp [ha])]
  position_of_add := by
    rw [kind_withPosition, kind_make, position_withPosition, kind_make]
    intro hadd
    rw [if_pos hadd]
    rfl
  position_of_ne_add := by
    rw [kind_withPosition, kind_make, position_withPosition, kind_make]
    intro hadd
    rw [if_neg hadd, position_make]

/-- What stands for a node has the payload read from it. -/
theorem StandsFor.payload_eq {operation : Operation} {node : Element}
    (h : operation.StandsFor node) : operation.payload = payloadOf operation.selector node := by
  rw [payloadOf]
  by_cases ha : operation.selector.targetsAttribute = true
  · rw [if_pos ha, h.text_payload ha]
  · obtain ⟨groups, hsorts, hpayload⟩ := h.element_payload (Bool.eq_false_iff.mpr ha)
    rw [if_neg ha, hpayload, hsorts.unique (Element.sorts_groups node)]

/-- At most one operation stands for a node. -/
theorem StandsFor.unique {operation operation' : Operation} {node : Element}
    (h : operation.StandsFor node) (h' : operation'.StandsFor node) : operation = operation' := by
  have hkind : operation.kind = operation'.kind := by
    rw [← Option.some.injEq, ← OperationKind.ofLabel?_eq_some_iff.mpr h.label_eq,
      ← OperationKind.ofLabel?_eq_some_iff.mpr h'.label_eq]
  have hselector : operation.selector = operation'.selector :=
    Except.ok.inj (h.parse_eq.symm.trans h'.parse_eq)
  have hpayload : operation.payload = operation'.payload := by
    rw [h.payload_eq, h'.payload_eq, hselector]
  have hposition : operation.position = operation'.position := by
    by_cases hadd : operation.kind = .add
    · rw [h.position_of_add hadd, h'.position_of_add (hkind ▸ hadd)]
    · rw [h.position_of_ne_add hadd, h'.position_of_ne_add (hkind ▸ hadd)]
  cases operation
  cases operation'
  simp_all

/-- A node whose name is a word for a kind and whose selector parses is an operation. -/
theorem ofNode_of_parse {node : Element} {kind : OperationKind} {selector : Selector}
    (hkind : kind.label = node.name)
    (hselector : Selector.parse ((node.attribute? "sel").getD "") = .ok selector) :
    ∃ operation, ofNode node = .ok operation ∧ operation.StandsFor node := by
  refine ⟨_, ?_, standsFor_make hkind hselector⟩
  simp only [ofNode, OperationKind.ofLabel?_eq_some_iff.mpr hkind, selectorAttribute, hselector]

/-- **The reason read from a node is the one that applies to it.** -/
theorem ofNode_eq_error_iff {node : Element} {reason : Reason} :
    ofNode node = .error reason ↔ reason.AppliesTo node := by
  cases hk : OperationKind.ofLabel? node.name with
  | none =>
      have hname := OperationKind.ofLabel?_eq_none_iff.mp hk
      rw [ofNode, hk]
      cases reason with
      | unsupportedKind kind => simp [Reason.AppliesTo, hname, eq_comm]
      | malformedSelector error => simp [Reason.AppliesTo, hname]
  | some kind =>
      have hkind := OperationKind.ofLabel?_eq_some_iff.mp hk
      have hname : node.name ∈ ["add", "remove", "replace"] := hkind ▸ kind.label_mem
      cases hs : Selector.parse ((node.attribute? "sel").getD "") with
      | error error =>
          simp only [ofNode, hk, selectorAttribute, hs, Except.error.injEq]
          cases reason with
          | unsupportedKind kind => simp [Reason.AppliesTo, hname]
          | malformedSelector error => simp [Reason.AppliesTo, hname, hs]
      | ok selector =>
          obtain ⟨operation, hnode, -⟩ := ofNode_of_parse hkind hs
          rw [hnode]
          cases reason with
          | unsupportedKind kind => simp [Reason.AppliesTo, hname]
          | malformedSelector error => simp [Reason.AppliesTo, hs]

/-- **The operation read from a node is the one that stands for it.** -/
theorem ofNode_eq_ok_iff {node : Element} {operation : Operation} :
    ofNode node = .ok operation ↔ operation.StandsFor node := by
  constructor
  · intro h
    cases hk : OperationKind.ofLabel? node.name with
    | none =>
        rw [ofNode, hk] at h
        exact absurd h (by simp)
    | some kind =>
        cases hs : Selector.parse ((node.attribute? "sel").getD "") with
        | error error =>
            simp [ofNode, hk, selectorAttribute, hs] at h
        | ok selector =>
            obtain ⟨operation', hnode, h'⟩ :=
              ofNode_of_parse (OperationKind.ofLabel?_eq_some_iff.mp hk) hs
            rw [hnode, Except.ok.injEq] at h
            exact h ▸ h'
  · intro h
    obtain ⟨operation', hnode, h'⟩ := ofNode_of_parse h.label_eq h.parse_eq
    rw [hnode, h.unique h']

end Operation

/-! ### The closed form of an extraction that skips -/

namespace Extraction

/-- The operation that a numbered node gives, if it is one. -/
def operation? (entry : Element × Nat) : Option Operation :=
  match Operation.ofNode entry.1 with
  | .ok operation => some operation
  | .error _ => none

/-- The diagnostic that a numbered node gives, if it is no operation. -/
def diagnostic? (entry : Element × Nat) : Option Diagnostic :=
  match Operation.ofNode entry.1 with
  | .ok _ => none
  | .error reason => some { index := entry.2, reason }

theorem operation?_eq_some_iff {entry : Element × Nat} {operation : Operation} :
    operation? entry = some operation ↔ operation.StandsFor entry.1 := by
  rw [← Operation.ofNode_eq_ok_iff, operation?]
  cases Operation.ofNode entry.1 <;> simp

theorem diagnostic?_eq_some_iff {entry : Element × Nat} {diagnostic : Diagnostic} :
    diagnostic? entry = some diagnostic ↔
      diagnostic.index = entry.2 ∧ diagnostic.reason.AppliesTo entry.1 := by
  rw [← Operation.ofNode_eq_error_iff, diagnostic?]
  obtain ⟨index, reason⟩ := diagnostic
  cases Operation.ofNode entry.1 <;> simp [eq_comm]

/-- A node gives a diagnostic exactly if it gives no operation. -/
theorem isSome_diagnostic? (entry : Element × Nat) :
    (diagnostic? entry).isSome = !(operation? entry).isSome := by
  rw [diagnostic?, operation?]
  cases Operation.ofNode entry.1 <;> rfl

/-- **An extraction that skips has a closed form**: it picks the operations and the diagnostics
from the numbered nodes. The induction is on the nodes; each goes in front of one list. -/
theorem ofNodes_skip (index : Nat) (nodes : List Element) :
    ofNodes .skip index nodes = .ok
      { operations := (nodes.zipIdx index).filterMap operation?
        diagnostics := (nodes.zipIdx index).filterMap diagnostic? } := by
  induction nodes generalizing index with
  | nil => rfl
  | cons node rest ih =>
      rw [ofNodes, List.zipIdx_cons]
      cases hnode : Operation.ofNode node with
      | ok operation =>
          have hop : operation? (node, index) = some operation := by simp [operation?, hnode]
          have hdiag : diagnostic? (node, index) = none := by simp [diagnostic?, hnode]
          rw [List.filterMap_cons_some hop, List.filterMap_cons_none hdiag]
          simp only [ih]
          rfl
      | error reason =>
          have hop : operation? (node, index) = none := by simp [operation?, hnode]
          have hdiag : diagnostic? (node, index) = some { index, reason } := by
            simp [diagnostic?, hnode]
          rw [List.filterMap_cons_none hop, List.filterMap_cons_some hdiag]
          simp only [ih]
          cases reason <;> rfl

end Extraction

/-! ### Sharing out the indexes -/

/-- Two lists of indexes **split** those below a bound: both ascend, and together they are all of
them, each once. -/
structure Splits (bound : Nat) (left right : List Nat) : Prop where
  left_ascending : left.Pairwise (· < ·)
  right_ascending : right.Pairwise (· < ·)
  perm : (left ++ right).Perm (List.range bound)

/-- What passes a test and what does not split the indexes of a list. -/
theorem splits_filter {α : Type} (l : List α) (test : α × Nat → Bool) :
    Splits l.length ((l.zipIdx.filter test).map Prod.snd)
      ((l.zipIdx.filter fun entry => !test entry).map Prod.snd) := by
  have hindexes : l.zipIdx.map Prod.snd = List.range l.length := by
    rw [List.zipIdx_map_snd, List.range_eq_range']
  have hascending : ∀ test' : α × Nat → Bool,
      ((l.zipIdx.filter test').map Prod.snd).Pairwise (· < ·) := by
    intro test'
    refine List.Pairwise.sublist (List.filter_sublist.map Prod.snd) ?_
    rw [hindexes]
    exact List.pairwise_lt_range
  refine ⟨hascending test, hascending _, ?_⟩
  rw [← List.map_append, ← hindexes]
  exact (List.filter_append_perm test l.zipIdx).map Prod.snd

/-- What is picked from a list comes, one by one, from what gives something. -/
theorem forall₂_filterMap {α β : Type} (pick : α → Option β) (l : List α) :
    List.Forall₂ (fun a b => a ∈ l ∧ pick a = some b)
      (l.filter fun a => (pick a).isSome) (l.filterMap pick) := by
  induction l with
  | nil => exact List.Forall₂.nil
  | cons a l ih =>
      have hrest := ih.imp fun a' b h => And.imp_left (List.mem_cons_of_mem a) h
      cases ha : pick a with
      | none =>
          rw [List.filterMap_cons_none ha, List.filter_cons_of_neg (by simp [ha])]
          exact hrest
      | some b =>
          rw [List.filterMap_cons_some ha, List.filter_cons_of_pos (by simp [ha])]
          exact List.Forall₂.cons ⟨List.mem_cons_self, ha⟩ hrest

/-! ### Accounting -/

namespace Extraction

/-- The only event of an extraction for debugging is the summary. -/
theorem filter_debug_events (e : Extraction) :
    (e.events.filter fun event => event.severity = .debug) =
      [.extracted e.operations.length e.diagnostics.length] := by
  have hwarn : ∀ diagnostic : Diagnostic, diagnostic.event.severity = .warn := by
    rintro ⟨index, reason⟩
    cases reason <;> rfl
  rw [events, List.filter_cons_of_pos (by rfl), List.cons.injEq, List.filter_eq_nil_iff]
  refine ⟨rfl, fun event hmem => ?_⟩
  obtain ⟨diagnostic, -, rfl⟩ := List.mem_map.mp hmem
  simp [hwarn]

/-- **Extraction accounts for every node once and in order.** An extraction that skips succeeds.
The indexes of the nodes are split between operations and diagnostics, each list in their order:
an operation stands for its node, and a diagnostic has its index. A node has a diagnostic for
exactly the reason that applies to it. The counts add up and are those of the one debugging event. -/
theorem ofPatch_skip_accounts (patch : Element) :
    ∃ e, ofPatch .skip patch = .ok e ∧
      (∃ operationIndexes diagnosticIndexes,
        Splits patch.children.length operationIndexes diagnosticIndexes ∧
        List.Forall₂
          (fun i operation => ∃ node, patch.children[i]? = some node ∧ operation.StandsFor node)
          operationIndexes e.operations ∧
        List.Forall₂
          (fun i diagnostic => diagnostic.index = i ∧
            ∃ node, patch.children[i]? = some node ∧ diagnostic.reason.AppliesTo node)
          diagnosticIndexes e.diagnostics) ∧
      (∀ i node, patch.children[i]? = some node → ∀ reason,
        { index := i, reason } ∈ e.diagnostics ↔ reason.AppliesTo node) ∧
      e.operations.length + e.diagnostics.length = patch.children.length ∧
      (e.events.filter fun event => event.severity = .debug) =
        [.extracted e.operations.length e.diagnostics.length] := by
  have hskip := ofNodes_skip 0 patch.children
  refine ⟨_, hskip, ?_, ?_, length_add_length hskip, filter_debug_events _⟩
  · refine ⟨_, _, splits_filter patch.children fun entry => (operation? entry).isSome, ?_, ?_⟩
    · rw [List.forall₂_map_left_iff]
      refine (forall₂_filterMap operation? patch.children.zipIdx).imp ?_
      rintro ⟨node, i⟩ operation ⟨hmem, hop⟩
      exact ⟨node, List.mem_zipIdx_iff_getElem?.mp hmem, operation?_eq_some_iff.mp hop⟩
    · rw [List.forall₂_map_left_iff]
      simp only [← isSome_diagnostic?]
      refine (forall₂_filterMap diagnostic? patch.children.zipIdx).imp ?_
      rintro ⟨node, i⟩ diagnostic ⟨hmem, hdiag⟩
      obtain ⟨hindex, happlies⟩ := diagnostic?_eq_some_iff.mp hdiag
      exact ⟨hindex, node, List.mem_zipIdx_iff_getElem?.mp hmem, happlies⟩
  · intro i node hnode reason
    simp only [List.mem_filterMap, diagnostic?_eq_some_iff]
    constructor
    · rintro ⟨⟨node', i'⟩, hmem, rfl, happlies⟩
      obtain rfl : node = node' :=
        Option.some.inj (hnode.symm.trans (List.mem_zipIdx_iff_getElem?.mp hmem))
      exact happlies
    · intro happlies
      exact ⟨(node, i), List.mem_zipIdx_iff_getElem?.mpr hnode, rfl, happlies⟩

/-- Of a node of no kind, one that adds an attribute and one without selector, the first and the
last have their diagnostics, and all three are counted. -/
theorem ofPatch_skip_accounts_mixed :
    ∃ e, ofPatch .skip
        { name := "Patch",
          children := [{ name := "merge" },
            { name := "add", attributes := [("sel", "/MPD/@id")], text := some "x" },
            { name := "remove" }] } = .ok e ∧
      { index := 0, reason := .unsupportedKind "merge" } ∈ e.diagnostics ∧
      { index := 2, reason := .malformedSelector (.empty "") } ∈ e.diagnostics ∧
      e.operations.length + e.diagnostics.length = 3 := by
  obtain ⟨e, he, -, hdiagnostics, hcount, -⟩ := ofPatch_skip_accounts
    { name := "Patch",
      children := [{ name := "merge" },
        { name := "add", attributes := [("sel", "/MPD/@id")], text := some "x" },
        { name := "remove" }] }
  refine ⟨e, he, ?_, ?_, hcount⟩
  · exact (hdiagnostics 0 _ rfl _).mpr ⟨rfl, by decide⟩
  · exact (hdiagnostics 2 _ rfl _).mpr ⟨by decide, by decide +kernel⟩

end Extraction

end ManifestPatch
