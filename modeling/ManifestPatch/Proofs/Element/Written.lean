import ManifestPatch.Element.Printer
import ManifestPatch.Proofs.Element.Alike

/-!
# Elements Written as JSON

An element is written as an object that leaves out what the element does not have. This module
shows that nothing is lost thereby: what the object holds under each of its four keys determines
one part of the element, and a key that is missing means that the part is empty or absent, which
is never written in another way. The induction is on the tree, since the children are written the
same way.

## Main definitions

* `Element.pairJson`: an attribute as it is written.

## Main results

* `Element.exists_fields`: what is found in a written element under each key.
* `Element.toJson_injective`: what is written determines the element, at any depth.
* `Element.Groups.toJson_injective`: what is written determines the groups.
-/

namespace ManifestPatch

namespace Element

/-! ### Fields that may be left out -/

/-- An optional field is found under its key. -/
theorem lookup_optionalField_self (key : String) (v : Option Json) :
    (optionalField key v).lookup key = v := by
  cases v with
  | none => rfl
  | some v => rw [optionalField, List.lookup_cons, beq_self_eq_true]

/-- Under no other key does an optional field leave anything. -/
theorem lookup_optionalField_ne {key other : String} (h : other ≠ key) (v : Option Json) :
    (optionalField key v).lookup other = none := by
  cases v with
  | none => rfl
  | some v => rw [optionalField, List.lookup_cons, beq_false_of_ne h, List.lookup_nil]

/-- A list that is left out is told from every list that is written. -/
theorem arrayUnlessEmpty_injective : Function.Injective arrayUnlessEmpty := by
  intro items items' h
  cases items with
  | nil =>
      cases items' with
      | nil => rfl
      | cons item rest => exact absurd h nofun
  | cons item rest =>
      cases items' with
      | nil => exact absurd h nofun
      | cons item' rest' => exact Json.array.inj (Option.some.inj h)

/-! ### What is found under each key -/

/-- An attribute as it is written: its name and its value as a pair. -/
def pairJson (pair : String × String) : Json :=
  .array [.string pair.1, .string pair.2]

theorem pairJson_injective : Function.Injective pairJson := by
  rintro ⟨name, value⟩ ⟨name', value'⟩ h
  simpa [pairJson] using h

/-- Several elements are written one by one. -/
theorem toJsonList_eq_map (es : List Element) : toJsonList es = es.map toJson := by
  induction es with
  | nil => rfl
  | cons e es ih => rw [toJsonList, ih, List.map_cons]

/-- **What a written element holds under each key.** -/
theorem exists_fields (e : Element) :
    ∃ fields, e.toJson = .object fields ∧
      fields.lookup "name" = some (.string e.name) ∧
      fields.lookup "attributes" = arrayUnlessEmpty (e.attributes.map pairJson) ∧
      fields.lookup "children" = arrayUnlessEmpty (e.children.map toJson) ∧
      fields.lookup "text" = e.text.map .string := by
  obtain ⟨name, attributes, children, text⟩ := e
  refine ⟨optionalField "attributes" (arrayUnlessEmpty (attributes.map pairJson))
    ++ optionalField "children" (arrayUnlessEmpty (children.map toJson))
    ++ ("name", .string name) :: optionalField "text" (text.map .string), ?_, ?_, ?_, ?_, ?_⟩
  · rw [toJson, toJsonList_eq_map]
    rfl
  · simp [List.lookup_append, lookup_optionalField_ne]
  · simp [List.lookup_append, lookup_optionalField_self, lookup_optionalField_ne,
      List.lookup_cons]
  · simp [List.lookup_append, lookup_optionalField_self, lookup_optionalField_ne,
      List.lookup_cons]
  · simp [List.lookup_append, lookup_optionalField_self, lookup_optionalField_ne,
      List.lookup_cons]

/-! ### What is written determines the element -/

/-- Lists whose members are written alike one by one are equal, if this holds of each member of
the first. -/
theorem eq_of_map_toJson_eq {es es' : List Element}
    (h : ∀ e ∈ es, ∀ e', e.toJson = e'.toJson → e = e') (hmap : es.map toJson = es'.map toJson) :
    es = es' := by
  rw [← List.forall₂_eq_eq_eq, List.forall₂_map_left_iff, List.forall₂_map_right_iff] at hmap
  rw [← List.forall₂_eq_eq_eq]
  exact forall₂_imp_of_mem hmap h

/-- **What is written determines the element**: its name, its attributes and its children in their
order, whether there is a text and which, and all this of the elements below. The induction is on
the tree; each part is read off under its key. -/
theorem toJson_injective : Function.Injective toJson := by
  intro e
  induction e using inductionOn with
  | node e ih =>
      intro e' h
      obtain ⟨fields, hfields, hname, hattributes, hchildren, htext⟩ := e.exists_fields
      obtain ⟨fields', hfields', hname', hattributes', hchildren', htext'⟩ := e'.exists_fields
      obtain rfl : fields = fields' := by
        rw [hfields, hfields'] at h
        exact Json.object.inj h
      have name_eq : e.name = e'.name := by
        rw [hname'] at hname
        exact (Json.string.inj (Option.some.inj hname)).symm
      have attributes_eq : e.attributes = e'.attributes := by
        rw [hattributes'] at hattributes
        exact (pairJson_injective.list_map (arrayUnlessEmpty_injective hattributes)).symm
      have children_eq : e.children = e'.children := by
        rw [hchildren'] at hchildren
        exact eq_of_map_toJson_eq ih (arrayUnlessEmpty_injective hchildren).symm
      have text_eq : e.text = e'.text := by
        rw [htext'] at htext
        exact (Option.map_injective (fun _ _ => Json.string.inj) htext).symm
      cases e
      cases e'
      rw [Element.mk.injEq]
      exact ⟨name_eq, attributes_eq, children_eq, text_eq⟩

/-- **What is written determines the groups**: the tags, and the elements under each in their
order. -/
theorem Groups.toJson_injective : Function.Injective Groups.toJson := by
  intro groups groups' h
  have hentry : Function.Injective fun entry : String × List Element =>
      (entry.1, Json.array (toJsonList entry.2)) := by
    rintro ⟨tag, elements⟩ ⟨tag', elements'⟩ heq
    simp only [Prod.mk.injEq, Json.array.injEq, toJsonList_eq_map] at heq
    obtain ⟨rfl, hlist⟩ := heq
    rw [Element.toJson_injective.list_map hlist]
  exact hentry.list_map (Json.object.inj h)

end Element

end ManifestPatch
