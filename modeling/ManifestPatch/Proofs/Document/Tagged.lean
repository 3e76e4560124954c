import ManifestPatch.Proofs.Document.Content

/-!
# The Nodes of One Tag

In the keyed form the children of a tag stand under the tag, or under the tag with the ending of
arrays, and then what stands under the tag alone does not count. Every key names one tag, so all
nodes of a tag come from one field: the array if there is one, and else the field of the tag.

## Main definitions

* `Document.keyTag`: the tag that a key names.
* `Document.itemsOf`: the children that a value stands for.
* `Document.nodesTagged`: the nodes of one tag.

## Main results

* `Document.tag_of_mem_fieldNodes`: the nodes of a field have the tag that its key names.
* `Document.nodesTagged_of_arrayForm`, `Document.nodesTagged_of_plainForm`: the nodes of a tag come
  from one field.
-/

namespace ManifestPatch.Document

variable {p tag key : String} {fields : List (String × Json)} {v : Json} {node : Node}

/-! ### The tag that a key names -/

/-- The tag that a key names: the key without the ending of arrays. -/
def keyTag (key : String) : String :=
  (Text.beforeEnd? arrayEnding key).getD key

@[simp] theorem beforeEnd?_append_arrayEnding (tag : String) :
    Text.beforeEnd? arrayEnding (tag ++ arrayEnding) = some tag :=
  Text.beforeEnd?_eq_some_iff.mpr rfl

@[simp] theorem keyTag_append_arrayEnding (tag : String) : keyTag (tag ++ arrayEnding) = tag := by
  rw [keyTag, beforeEnd?_append_arrayEnding, Option.getD_some]

/-- A text that does not end so has nothing before that end. -/
theorem beforeEnd?_of_endsWith (h : Text.endsWith arrayEnding key = false) :
    Text.beforeEnd? arrayEnding key = none :=
  Option.isNone_iff_eq_none.mp (Option.isSome_eq_false_iff.mp h)

/-- A key without the ending names itself. -/
theorem keyTag_of_endsWith (h : Text.endsWith arrayEnding key = false) : keyTag key = key := by
  rw [keyTag, beforeEnd?_of_endsWith h, Option.getD_none]

/-- Two keys name a tag: the tag, and the tag with the ending. -/
theorem eq_or_eq_append_keyTag (key : String) :
    key = keyTag key ∨ key = keyTag key ++ arrayEnding := by
  cases h : Text.beforeEnd? arrayEnding key with
  | none => exact .inl (by rw [keyTag, h, Option.getD_none])
  | some tag => exact .inr (by rw [keyTag, h, Option.getD_some, Text.beforeEnd?_eq_some_iff.mp h])

/-- The tag that a key names does not end as the keys of arrays do, if it is the key itself. -/
theorem endsWith_of_keyTag_eq (h : keyTag key = key) :
    Text.endsWith arrayEnding key = false := by
  rw [← Bool.not_eq_true, Text.endsWith_iff]
  rintro ⟨tag, rfl⟩
  rw [keyTag_append_arrayEnding] at h
  have hlength := congrArg String.length h
  rw [String.length_append, show arrayEnding.length = 8 from rfl] at hlength
  omega

/-- The ending makes no bookkeeping of a tag, except of the text that is one underscore. -/
theorem isBookkeeping_append_arrayEnding (h : isBookkeeping tag = false) (hne : tag ≠ "_") :
    isBookkeeping (tag ++ arrayEnding) = false := by
  by_cases hempty : tag = ""
  · subst hempty
    rfl
  · rw [← Bool.not_eq_true, isBookkeeping_append_iff h hempty]
    exact fun hmarked => hne hmarked.1

/-! ### The nodes of a field -/

/-- What a value stands for under a key of children: an array for its items. -/
def itemsOf : Json → List Json
  | .array items => items
  | v => [v]

/-- The nodes under a tag are made of what stands there. -/
theorem nodesUnder_eq_map (tag : String) (v : Json) :
    nodesUnder tag v = (itemsOf v).map (Node.mk tag) := by
  cases v <;> rfl

/-- What stands under a tag has that tag. -/
theorem tag_of_mem_nodesUnder (h : node ∈ nodesUnder tag v) : node.tag = tag := by
  rw [nodesUnder_eq_map] at h
  obtain ⟨item, -, rfl⟩ := List.mem_map.mp h
  rfl

/-- A field gives what stands under the tag that its key names, or nothing. -/
theorem fieldNodes_eq_nil_or (p : String) (fields : List (String × Json))
    (field : String × Json) :
    fieldNodes p fields field = [] ∨
      fieldNodes p fields field = nodesUnder (keyTag field.1) field.2 := by
  obtain ⟨key, v⟩ := field
  simp only [fieldNodes, keyTag]
  cases isBookkeeping key with
  | true => simp
  | false =>
      cases Text.beforeEnd? arrayEnding key with
      | some tag => simp
      | none =>
          cases hasArrayForm fields key with
          | true => simp
          | false => cases v <;> cases Text.startsWith p key <;> simp

/-- **The nodes of a field** have the tag that its key names. -/
theorem tag_of_mem_fieldNodes {field : String × Json} (h : node ∈ fieldNodes p fields field) :
    node.tag = keyTag field.1 := by
  rcases fieldNodes_eq_nil_or p fields field with hnil | hunder
  · rw [hnil] at h
    exact absurd h List.not_mem_nil
  · rw [hunder] at h
    exact tag_of_mem_nodesUnder h

/-- A field under bookkeeping has no nodes. -/
theorem fieldNodes_of_isBookkeeping (h : isBookkeeping key = true) :
    fieldNodes p fields (key, v) = [] := by
  simp [fieldNodes, h]

/-- An array of children has all its nodes. -/
theorem fieldNodes_arrayForm (h : isBookkeeping (tag ++ arrayEnding) = false) :
    fieldNodes p fields (tag ++ arrayEnding, v) = nodesUnder tag v := by
  simp [fieldNodes, h]

/-- What stands back behind an array of children has no nodes. -/
theorem fieldNodes_of_hasArrayForm (hend : Text.endsWith arrayEnding key = false)
    (h : hasArrayForm fields key = true) : fieldNodes p fields (key, v) = [] := by
  simp [fieldNodes, beforeEnd?_of_endsWith hend, h]

/-! ### The nodes of a tag -/

/-- The nodes of one tag, in the keyed form. -/
def nodesTagged (p : String) (fields : List (String × Json)) (tag : String) : List Node :=
  (fields.flatMap (fieldNodes p fields)).filter fun node => node.tag == tag

/-- A field's nodes are either all of a tag or none. -/
theorem filter_fieldNodes (field : String × Json) :
    (fieldNodes p fields field).filter (fun node => node.tag == tag) =
      if keyTag field.1 = tag then fieldNodes p fields field else [] := by
  split_ifs with h
  · rw [List.filter_eq_self]
    intro node hnode
    rw [tag_of_mem_fieldNodes hnode, h, beq_self_eq_true]
  · rw [List.filter_eq_nil_iff]
    intro node hnode
    rw [tag_of_mem_fieldNodes hnode, beq_iff_eq]
    exact h

/-- **Where a tag has an array**, its nodes are those of the array. -/
theorem nodesTagged_of_arrayForm (h : Keyed.Ascending fields)
    (hend : Text.endsWith arrayEnding tag = false)
    (hl : fields.lookup (tag ++ arrayEnding) = some v) :
    nodesTagged p fields tag = fieldNodes p fields (tag ++ arrayEnding, v) := by
  rw [nodesTagged, List.filter_flatMap, h.flatMap_eq_of_lookup hl]
  · rw [filter_fieldNodes, keyTag_append_arrayEnding, if_pos rfl]
  · rintro ⟨key, w⟩ - hne
    rw [filter_fieldNodes, ite_eq_right_iff]
    rintro rfl
    -- the other key that names the tag stands back behind the array
    have hkey := (eq_or_eq_append_keyTag key).resolve_right hne
    rw [← hkey] at hend hl
    exact fieldNodes_of_hasArrayForm hend (by rw [hasArrayForm, hl, Option.isSome_some])

/-- **Where a tag has no array**, its nodes are those of the field of the tag. -/
theorem nodesTagged_of_plainForm (h : Keyed.Ascending fields)
    (hend : Text.endsWith arrayEnding tag = false)
    (habsent : fields.lookup (tag ++ arrayEnding) = none) (hl : fields.lookup tag = some v) :
    nodesTagged p fields tag = fieldNodes p fields (tag, v) := by
  rw [nodesTagged, List.filter_flatMap, h.flatMap_eq_of_lookup hl]
  · rw [filter_fieldNodes, keyTag_of_endsWith hend, if_pos rfl]
  · rintro ⟨key, w⟩ hmem hne
    rw [filter_fieldNodes, if_neg]
    rintro rfl
    -- the other key that names the tag would be that of an array
    have hkey := (eq_or_eq_append_keyTag key).resolve_left hne
    rw [← hkey, h.mem_iff_lookup_eq_some.mp hmem] at habsent
    exact absurd habsent nofun

end ManifestPatch.Document
