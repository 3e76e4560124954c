import ManifestPatch.Proofs.Element.Written
import ManifestPatch.Proofs.Patch.Policy
import ManifestPatch.Proofs.Selector.RoundTrip

/-!
# Operations Written as JSON

An operation is written as an object with its kind, the text of its selector, its payload and,
if there is one, its hint. This module shows that no two operations are written alike. Three things
make this true. The selector of every operation that can be **obtained** was read from a text, and
such selectors are determined by what is written for them. A payload is written as a string or as
an object, so that even the empty text and the empty groups are told apart. And the elements of a
payload are determined at any depth.

## Main definitions

* `Operation.Obtained`: the operations that come from a patch, or are made from a selector that was
  read, possibly with a hint.

## Main results

* `Operation.Obtained.exists_parse`: the selector of every such operation was read from a text.
* `Payload.toJson_injective`: what is written determines the payload.
* `Operation.toJson_determines`: what is written determines the operation and each of its parts.
-/

namespace ManifestPatch

/-! ### Where operations come from -/

/-- The operations that can be **obtained**: those extracted from some patch, those made from a
selector that was read from a text, and those with another hint. -/
inductive Operation.Obtained : Operation → Prop
  | extracted {policy : Policy} {patch : Element} {e : Extraction} {operation : Operation}
      (h : Extraction.ofPatch policy patch = .ok e) (hmem : operation ∈ e.operations) :
      Obtained operation
  | made {text : String} {selector : Selector} (h : Selector.parse text = .ok selector)
      (kind : OperationKind) (payload : Payload) : Obtained (.make kind selector payload)
  | positioned {operation : Operation} (h : Obtained operation) (position : Option String) :
      Obtained (operation.withPosition position)

/-- Every operation of an extraction stands for a node of the patch, whatever the policy. -/
theorem Extraction.exists_standsFor {policy : Policy} {patch : Element} {e : Extraction}
    (h : ofPatch policy patch = .ok e) {operation : Operation} (hmem : operation ∈ e.operations) :
    ∃ node ∈ patch.children, operation.StandsFor node := by
  have hskip : ofPatch .skip patch = .ok e := by
    cases policy with
    | abort => exact ofPatch_skip_of_abort h
    | skip => exact h
  obtain rfl := Except.ok.inj ((ofNodes_skip 0 patch.children).symm.trans hskip)
  obtain ⟨⟨node, i⟩, hentry, hop⟩ := List.mem_filterMap.mp hmem
  have hnode := List.mem_zipIdx_iff_getElem?.mp hentry
  exact ⟨node, List.mem_of_getElem? hnode, operation?_eq_some_iff.mp hop⟩

/-- The selector of an operation that was obtained was read from a text. The induction is on how it
was obtained; a hint leaves the selector as it is. -/
theorem Operation.Obtained.exists_parse {operation : Operation} (h : operation.Obtained) :
    ∃ text, Selector.parse text = .ok operation.selector := by
  induction h with
  | extracted h hmem =>
      obtain ⟨node, -, hstands⟩ := Extraction.exists_standsFor h hmem
      exact ⟨_, hstands.parse_eq⟩
  | made h kind payload => exact ⟨_, h⟩
  | positioned h position ih => rwa [selector_withPosition]

/-! ### The parts -/

/-- Different kinds have different words. -/
theorem OperationKind.label_injective : Function.Injective label := by
  intro kind kind' h
  rw [← Option.some.injEq, ← ofLabel?_eq_some_iff.mpr h, ← ofLabel?_eq_some_iff.mpr rfl]

/-- **What is written determines the payload**: a text is a string and groups are an object. -/
theorem Payload.toJson_injective : Function.Injective Payload.toJson := by
  intro payload payload' h
  cases payload with
  | text s =>
      cases payload' with
      | text s' => rw [Json.string.inj h]
      | elements groups' => exact absurd h nofun
  | elements groups =>
      cases payload' with
      | text s' => exact absurd h nofun
      | elements groups' => rw [Element.Groups.toJson_injective h]

namespace Operation

/-- **What a written operation holds under each key.** -/
theorem exists_fields (operation : Operation) :
    ∃ fields, operation.toJson = .object fields ∧
      fields.lookup "kind" = some (.string operation.kind.label) ∧
      fields.lookup "selector" = some operation.selector.toJson ∧
      fields.lookup "value" = some operation.payload.toJson ∧
      fields.lookup "position" = operation.position.map .string := by
  refine ⟨_, by rw [toJson], ?_, ?_, ?_, ?_⟩
  · simp
  · simp [List.lookup_cons, List.lookup_append, Element.lookup_optionalField_ne]
  · simp [List.lookup_cons, List.lookup_append, Element.lookup_optionalField_ne]
  · simp [List.lookup_cons, List.lookup_append, Element.lookup_optionalField_self]

variable {operation operation' : Operation}

/-- The selectors of operations that were obtained are determined by what is written for them. -/
theorem Obtained.selector_eq (h : operation.Obtained) (h' : operation'.Obtained)
    (he : operation.selector.toJson = operation'.selector.toJson) :
    operation.selector = operation'.selector := by
  obtain ⟨text, htext⟩ := h.exists_parse
  obtain ⟨text', htext'⟩ := h'.exists_parse
  exact Selector.eq_of_render_eq htext htext' (Json.string.inj he)

/-- Operations that were obtained and are written alike are equal: each part is read off under its
key. -/
theorem Obtained.eq_of_toJson_eq (h : operation.Obtained) (h' : operation'.Obtained)
    (he : operation.toJson = operation'.toJson) : operation = operation' := by
  obtain ⟨fields, hfields, hkind, hselector, hvalue, hposition⟩ := operation.exists_fields
  obtain ⟨fields', hfields', hkind', hselector', hvalue', hposition'⟩ := operation'.exists_fields
  obtain rfl : fields = fields' := by
    rw [hfields, hfields'] at he
    exact Json.object.inj he
  have kind_eq : operation.kind = operation'.kind := by
    rw [hkind'] at hkind
    exact (OperationKind.label_injective (Json.string.inj (Option.some.inj hkind))).symm
  have selector_eq : operation.selector = operation'.selector := by
    rw [hselector'] at hselector
    exact h.selector_eq h' (Option.some.inj hselector).symm
  have payload_eq : operation.payload = operation'.payload := by
    rw [hvalue'] at hvalue
    exact (Payload.toJson_injective (Option.some.inj hvalue)).symm
  have position_eq : operation.position = operation'.position := by
    rw [hposition'] at hposition
    exact (Option.map_injective (fun _ _ => Json.string.inj) hposition).symm
  cases operation
  cases operation'
  rw [Operation.mk.injEq]
  exact ⟨kind_eq, selector_eq, payload_eq, position_eq⟩

/-- **What is written loses nothing.** Two operations that were obtained, from any patches or by
hand, are equal exactly if they are written alike. The same holds of their selectors, whose texts
determine them, of all payloads, be they texts or elements and be they empty, and of all elements
with their attributes, children and texts, at any depth and in their order. -/
theorem toJson_determines (h : operation.Obtained) (h' : operation'.Obtained) :
    (operation.toJson = operation'.toJson ↔ operation = operation') ∧
      (operation.selector.toJson = operation'.selector.toJson ↔
        operation.selector = operation'.selector) ∧
      (∀ payload payload' : Payload, payload.toJson = payload'.toJson ↔ payload = payload') ∧
      ∀ e e' : Element, e.toJson = e'.toJson ↔ e = e' := by
  refine ⟨⟨fun he => h.eq_of_toJson_eq h' he, fun he => he ▸ rfl⟩,
    ⟨fun he => h.selector_eq h' he, fun he => he ▸ rfl⟩, fun payload payload' => ?_,
    fun e e' => ?_⟩
  · exact Payload.toJson_injective.eq_iff
  · exact Element.toJson_injective.eq_iff

/-- An addition of an attribute without text, extracted from a patch, is not written like one made
by hand for the same place, without hint as well, whose payload is no elements. -/
theorem toJson_determines_empty :
    ∃ extracted made : Operation, extracted.Obtained ∧ made.Obtained ∧
      extracted.kind = made.kind ∧ extracted.selector = made.selector ∧
      extracted.position = made.position ∧ extracted.payload = .text "" ∧
      made.payload = .elements [] ∧ extracted.toJson ≠ made.toJson := by
  have hparse : Selector.parse "//MPD/@id" =
      .ok { root := { name := "MPD" }, steps := [{ name := "@id" }] } := by decide +kernel
  have hpatch : Extraction.ofPatch .abort
      { name := "Patch", children := [{ name := "add", attributes := [("sel", "/MPD/@id")] }] } =
      .ok { operations :=
        [.make .add { root := { name := "MPD" }, steps := [{ name := "@id" }] } (.text "")] } := by
    decide +kernel
  have hextracted := Obtained.extracted hpatch (List.mem_singleton_self _)
  have hmade := (Obtained.made hparse .add (.elements [])).positioned none
  refine ⟨_, _, hextracted, hmade, rfl, rfl, rfl, rfl, rfl, fun he => ?_⟩
  exact absurd ((toJson_determines hextracted hmade).1.mp he) (by decide)

end Operation

end ManifestPatch
