import ManifestPatch.Proofs.Patch.Accounting
import ManifestPatch.Proofs.Reordering

/-!
# Payloads up to Interleaving

An operation on an element carries the children of its node grouped by name. Nothing gets lost in
the groups but the **interleaving** of children with different names: the groups of two elements
are equal exactly if the children of the one are those of the other, reordered across names. So an
operation is the same for all such orders of its payload, and for no other.

## Main results

* `Element.groups_eq_iff_reordered`: when the groups of two elements are equal.
* `Operation.ofNode_children_iff`: which payloads make the same operation.
* `Element.groups_forget_interleaving`: what groups hold, and what they forget.
-/

namespace ManifestPatch

/-- **The groups of two elements are equal** exactly if their children are reordered across
names. -/
theorem Element.groups_eq_iff_reordered {a b : Element} :
    a.groups = b.groups ↔ Reordered Element.name a.children b.children := by
  rw [groups_eq_iff, reordered_iff_filter_eq]
  rfl

namespace Operation

variable {operation : Operation} {node : Element} {groups : Element.Groups}

/-- Elements are the payload of an operation only if it addresses an element. -/
theorem StandsFor.targetsAttribute_eq_false (h : operation.StandsFor node)
    (hpayload : operation.payload = .elements groups) :
    operation.selector.targetsAttribute = false := by
  refine Bool.eq_false_iff.mpr fun ha => ?_
  rw [h.text_payload ha] at hpayload
  exact absurd hpayload nofun

/-- The elements of a payload are the groups of the node. -/
theorem StandsFor.groups_eq (h : operation.StandsFor node)
    (hpayload : operation.payload = .elements groups) : node.groups = groups := by
  have ha := h.targetsAttribute_eq_false hpayload
  rw [h.payload_eq, payloadOf, if_neg (by simp [ha])] at hpayload
  exact Payload.elements.inj hpayload

/-- **Which payloads make the same operation**: with other children, a node stands for the same
operation on an element exactly if the children are reordered across names. -/
theorem ofNode_children_iff (h : ofNode node = .ok operation)
    (hpayload : operation.payload = .elements groups) (children : List Element) :
    ofNode { node with children } = .ok operation ↔
      Reordered Element.name node.children children := by
  rw [ofNode_eq_ok_iff] at h ⊢
  have hgroups := h.groups_eq hpayload
  refine Iff.trans ?_ (@Element.groups_eq_iff_reordered node { node with children })
  constructor
  · intro h'
    rw [hgroups, h'.groups_eq hpayload]
  · intro heq
    exact
      { label_eq := h.label_eq
        parse_eq := h.parse_eq
        text_payload := h.text_payload
        element_payload := fun _ => ⟨groups, by
          rw [← hgroups, heq]
          exact Element.sorts_groups _, hpayload⟩
        position_of_add := h.position_of_add
        position_of_ne_add := h.position_of_ne_add }

end Operation

/-- **Grouping by name forgets exactly the interleaving.** Every element has its groups in ascending
order of their names. There is one under a tag exactly if there is a child of that name; it is not
empty, and is the sequence of these children, whose first is the first child of the name. The groups
hold all children and no others, each as often as it occurs, and their sizes sum up to the number
of children. The groups of two elements are equal exactly if the children of every name are the same
sequence, and this is to say that the children are reordered across names. An operation on an
element is therefore the same for such orders of its payload, and for no other. -/
theorem Element.groups_forget_interleaving :
    (∀ e : Element, Keyed.Ascending e.groups ∧
      (∀ tag,
        ((∃ members, (tag, members) ∈ e.groups) ↔ ∃ child ∈ e.children, child.name = tag) ∧
        (∀ members, (tag, members) ∈ e.groups →
          members ≠ [] ∧ members = e.childrenNamed tag ∧ e.firstChild? tag = members.head?) ∧
        (e.firstChild? tag = none ↔ ∀ members, (tag, members) ∉ e.groups)) ∧
      (e.groups.flatMap Prod.snd).Perm e.children ∧
      (e.groups.map fun group => group.2.length).sum = e.children.length) ∧
    (∀ a b : Element,
      (a.groups = b.groups ↔ ∀ tag, a.childrenNamed tag = b.childrenNamed tag) ∧
      (a.groups = b.groups ↔ Reordered Element.name a.children b.children)) ∧
    ∀ (node : Element) (operation : Operation) (groups : Groups),
      Operation.ofNode node = .ok operation → operation.payload = .elements groups →
        ∀ children, Operation.ofNode { node with children } = .ok operation ↔
          Reordered Element.name node.children children := by
  refine ⟨fun e => ⟨(sorts_groups e).ascending, fun tag => ⟨exists_mem_groups_iff, ?_,
    firstChild?_eq_none_iff⟩, e.perm_flatMap_groups, e.sum_length_groups⟩,
    fun a b => ⟨groups_eq_iff, groups_eq_iff_reordered⟩,
    fun node operation groups => Operation.ofNode_children_iff⟩
  intro members hmem
  obtain ⟨hne, heq⟩ := mem_groups_iff.mp hmem
  exact ⟨hne, heq, firstChild?_of_mem_groups hmem⟩

/-- Of three periods and events, those of one name stay in their order where the other one comes
first or last; where they change places, the operation is another one. -/
theorem Element.groups_forget_interleaving_three :
    let payload : List Element :=
      [{ name := "Period", text := some "1" }, { name := "Event" },
        { name := "Period", text := some "2" }]
    let node : Element := { name := "add", attributes := [("sel", "/MPD")], children := payload }
    ∃ operation groups, Operation.ofNode node = .ok operation ∧
      operation.payload = .elements groups ∧
      groups = [("Event", [{ name := "Event" }]),
        ("Period", [{ name := "Period", text := some "1" }, { name := "Period", text := some "2" }])] ∧
      Operation.ofNode { node with
        children := [{ name := "Event" }, { name := "Period", text := some "1" },
          { name := "Period", text := some "2" }] } = .ok operation ∧
      Operation.ofNode { node with
        children := [{ name := "Event" }, { name := "Period", text := some "2" },
          { name := "Period", text := some "1" }] } ≠ .ok operation := by
  intro payload node
  obtain ⟨-, -, hsame⟩ := groups_forget_interleaving
  have hparse : Selector.parse "/MPD" = .ok { root := { name := "MPD" } } := by decide +kernel
  obtain ⟨operation, hnode, hstands⟩ :=
    @Operation.ofNode_of_parse node .add { root := { name := "MPD" } } rfl hparse
  obtain ⟨groups, hsorts, hpayload⟩ := hstands.element_payload (by
    rw [← Except.ok.inj (hparse.symm.trans hstands.parse_eq)]
    decide +kernel)
  refine ⟨operation, groups, hnode, hpayload, ?_, ?_, ?_⟩
  · rw [hsorts.unique (sorts_groups node)]
    decide +kernel
  · exact (hsame node operation groups hnode hpayload _).mpr (.swap [] _ (by decide))
  · rw [Ne, hsame node operation groups hnode hpayload]
    exact fun h => absurd (h.filter_eq "Period") (by decide +kernel)

end ManifestPatch
