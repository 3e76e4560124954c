import ManifestPatch.Document.Error
import ManifestPatch.Text.Affix

/-!
# The Fields of an Element

An element is written as a JSON object whose fields stand for its attributes, its text and its
children. Keys that begin with `__` or `#` are bookkeeping. The children stand in one of two forms.

* **Listed**: the array `__children` holds objects whose fields are the children in document order.
* **Keyed**: without `__children`, every other field that is not an attribute is a child, or an
  array of children, under its tag; the array of the children `X` may stand under `X_asArray`, and
  then counts instead of `X`.

What is neither bookkeeping nor a child, and has a scalar value, is an attribute, if its key begins
with the attribute prefix.

## Main definitions

* `nodes`: the tags and values of an object's children, in order.
* `attributes`: the names and values of its attributes, in order.

## Main results

* `sizeOf_lt_of_mem_nodes`: a child's value is part of the object.
-/

namespace ManifestPatch.Document

/-- The key of an element's text. -/
def textKey : String := "__text"

/-- The key of an element's list of children. -/
def childrenKey : String := "__children"

/-- What the key of an array of children ends with. -/
def arrayEnding : String := "_asArray"

/-- Whether a key is one of **bookkeeping**, and names neither an attribute nor a child. -/
def isBookkeeping (key : String) : Bool :=
  Text.startsWith "__" key || Text.startsWith "#" key

/-- A **node**: the tag of a child and the value that it is read from. -/
structure Node where
  tag : String
  value : Json
  deriving Repr

/-- The nodes under a tag: the items of an array, or the value itself. -/
def nodesUnder (tag : String) : Json → List Node
  | .array items => items.map fun item => { tag, value := item }
  | v => [{ tag, value := v }]

/-! ### Listed children -/

/-- The fields of an entry of the list that are children: all but those that begin with `#`. -/
def childFields (fields : List (String × Json)) : List (String × Json) :=
  fields.filter fun field => !Text.startsWith "#" field.1

/-- The nodes of one entry of the list, which has to be an object. -/
def entryNodes : Json → List (Except Json.Kind Node)
  | .object fields => (childFields fields).flatMap fun field => (nodesUnder field.1 field.2).map .ok
  | v => [.error v.kind]

/-- The tags that one entry of the list uses. -/
def entryTags : Json → List String
  | .object fields => (childFields fields).map Prod.fst
  | _ => []

/-! ### Keyed children -/

/-- Whether the children under `key` stand in an array of their own. -/
def hasArrayForm (fields : List (String × Json)) (key : String) : Bool :=
  (fields.lookup (key ++ arrayEnding)).isSome

/-- The nodes of one field in the keyed form. A scalar is a child only if it is no attribute. -/
def fieldNodes (attributePrefix : String) (fields : List (String × Json))
    (field : String × Json) : List Node :=
  let (key, v) := field
  if isBookkeeping key then []
  else
    match Text.beforeEnd? arrayEnding key with
    | some tag => nodesUnder tag v
    | none =>
      if hasArrayForm fields key then []
      else
        match v with
        | .object _ | .array _ => nodesUnder key v
        | .null => []
        | _ => if Text.startsWith attributePrefix key then [] else nodesUnder key v

/-! ### Both forms -/

/-- The children of an object as **nodes** in order; an error stands where a value is of a kind
that cannot be there. -/
def nodes (attributePrefix : String) (fields : List (String × Json)) :
    List (Except Json.Kind Node) :=
  match fields.lookup childrenKey with
  | some (.array entries) => entries.flatMap entryNodes
  | some v => [.error v.kind]
  | none => (fields.flatMap (fieldNodes attributePrefix fields)).map .ok

/-- The attribute that one field is, if it is one. -/
def fieldAttribute? (attributePrefix : String) (field : String × Json) :
    Option (String × String) :=
  if isBookkeeping field.1 || Text.endsWith arrayEnding field.1 then none
  else
    match Text.afterStart? attributePrefix field.1, field.2.scalarText? with
    | some name, some text => some (name, text)
    | _, _ => none

/-- Whether a field counts as a child, or stands back behind one. -/
def isShadowed (fields : List (String × Json)) (key : String) : Bool :=
  match fields.lookup childrenKey with
  | some (.array entries) => (entries.flatMap entryTags).contains key
  | _ => hasArrayForm fields key

/-- The **attributes** of an object in order. -/
def attributes (attributePrefix : String) (fields : List (String × Json)) :
    List (String × String) :=
  fields.filterMap fun field =>
    if isShadowed fields field.1 then none else fieldAttribute? attributePrefix field

/-- The **text** of an object. -/
def text? (fields : List (String × Json)) : Option String :=
  (fields.lookup textKey).bind Json.scalarText?

/-! ### Children are parts -/

theorem sizeOf_lt_of_mem_fields {fields : List (String × Json)} {key : String} {v : Json}
    (h : (key, v) ∈ fields) : sizeOf v < sizeOf fields := by
  have := List.sizeOf_lt_of_mem h
  simp only [Prod.mk.sizeOf_spec] at this
  omega

theorem sizeOf_le_of_mem_nodesUnder {tag : String} {v : Json} {node : Node}
    (h : node ∈ nodesUnder tag v) : sizeOf node.value ≤ sizeOf v := by
  unfold nodesUnder at h
  split at h
  · obtain ⟨item, hm, rfl⟩ := List.mem_map.1 h
    have := List.sizeOf_lt_of_mem hm
    simp only [Json.array.sizeOf_spec]
    omega
  · simp_all

theorem sizeOf_lt_of_mem_entryNodes {entry : Json} {node : Node}
    (h : .ok node ∈ entryNodes entry) : sizeOf node.value < sizeOf entry := by
  unfold entryNodes at h
  split at h
  · rename_i fields
    simp only [List.mem_flatMap, List.mem_map] at h
    obtain ⟨⟨key, v⟩, hf, node', hn, heq⟩ := h
    obtain rfl : node' = node := by simpa using heq
    have hle : sizeOf node'.value ≤ sizeOf v := sizeOf_le_of_mem_nodesUnder hn
    have := sizeOf_lt_of_mem_fields (List.mem_filter.1 hf).1
    simp only [Json.object.sizeOf_spec]
    omega
  · simp at h

theorem sizeOf_lt_of_mem_fieldNodes {attributePrefix : String} {fields : List (String × Json)}
    {field : String × Json} {node : Node} (hf : field ∈ fields)
    (h : node ∈ fieldNodes attributePrefix fields field) :
    sizeOf node.value < sizeOf fields := by
  obtain ⟨key, v⟩ := field
  have hv := sizeOf_lt_of_mem_fields hf
  suffices ∃ tag, node ∈ nodesUnder tag v by
    obtain ⟨tag, hn⟩ := this
    have := sizeOf_le_of_mem_nodesUnder hn
    omega
  unfold fieldNodes at h
  simp only at h
  repeat' split at h
  all_goals first | exact ⟨_, h⟩ | simp at h

/-- The value of a child is part of the object that the child is in. -/
theorem sizeOf_lt_of_mem_nodes {attributePrefix : String} {fields : List (String × Json)}
    {node : Node} (h : .ok node ∈ nodes attributePrefix fields) :
    sizeOf node.value < sizeOf (Json.object fields) := by
  simp only [Json.object.sizeOf_spec]
  unfold nodes at h
  split at h
  · rename_i entries hl
    obtain ⟨entry, he, hn⟩ := List.mem_flatMap.1 h
    have := sizeOf_lt_of_mem_entryNodes hn
    have := List.sizeOf_lt_of_mem he
    obtain ⟨before, after, rfl, -⟩ := List.lookup_eq_some_iff.1 hl
    have := sizeOf_lt_of_mem_fields
      (List.mem_append_right before
        (List.mem_cons_self (a := (childrenKey, Json.array entries)) (l := after)))
    simp only [Json.array.sizeOf_spec] at this
    omega
  · simp at h
  · simp only [List.mem_map, List.mem_flatMap] at h
    obtain ⟨node', ⟨field, hf, hn⟩, heq⟩ := h
    obtain rfl : node' = node := by simpa using heq
    have := sizeOf_lt_of_mem_fieldNodes hf hn
    omega

end ManifestPatch.Document
