import ManifestPatch.Proofs.Document.Keyed

/-!
# Where the Children of a Tag Come From

Without a list, the children of a tag have one **source** among the fields of an object: the field
of its array, and only without one the field of the tag itself. What stands in the source is read
as children, all of it, in its order and once. A scalar under a tag is a child if the prefix keeps
tags and attributes apart, and else it is an attribute.

The key of the array is made from the tag, and is then looked at like any other key. For the tag
that is one underscore this key has two of them at its beginning, which makes it bookkeeping. So
the array is there, and the field of the tag stands back behind it, but it is not read.

## Main definitions

* `Document.childValues`: the values that the children of a tag are to be read from.
* `Document.HasSource`: a tag whose children are looked for.

## Main results

* `Document.nodesTagged_eq_childValues`: the nodes of a tag are made of these values.
* `Document.childrenNamed_keyed_count`: how many children of a tag are read.
* `Document.childrenNamed_keyed_lost`: children of one underscore may be lost.
-/

namespace ManifestPatch.Document

variable {p tag : String} {e : Element} {fields : List (String × Json)}

/-! ### The source of a tag -/

/-- The values under a tag that has no array: a scalar counts only if there is a prefix for
attributes, and the tag does not begin with it. -/
def plainValues (p tag : String) : Json → List Json
  | .null => []
  | .array items => items
  | .object inner => [.object inner]
  | v => if p = "" ∨ Text.startsWith p tag = true then [] else [v]

/-- The values that the **children of a tag** are to be read from: those under the key of its array,
and only without such a key those under the tag. -/
def childValues (p : String) (fields : List (String × Json)) (tag : String) : List Json :=
  match fields.lookup (tag ++ arrayEnding) with
  | some v => itemsOf v
  | none => ((fields.lookup tag).map (plainValues p tag)).getD []

/-- Every text begins with the empty one. -/
theorem startsWith_empty (s : String) : Text.startsWith "" s = true :=
  Text.startsWith_iff.mpr ⟨s, (String.empty_append).symm⟩

/-- A tag **has a source** in an object, where its children are looked for: it is no bookkeeping and
no key of an array, and its own array, if there is one, is read. -/
structure HasSource (fields : List (String × Json)) (tag : String) : Prop where
  not_bookkeeping : isBookkeeping tag = false
  not_array : Text.endsWith arrayEnding tag = false
  array_read : ¬ (tag = "_" ∧ hasArrayForm fields tag = true)

/-- The field of a tag without an array has the nodes of the values that count. -/
theorem fieldNodes_plain (hbook : isBookkeeping tag = false)
    (hend : Text.endsWith arrayEnding tag = false)
    (habsent : fields.lookup (tag ++ arrayEnding) = none) (v : Json) :
    fieldNodes p fields (tag, v) = (plainValues p tag v).map (Node.mk tag) := by
  have hplain : hasArrayForm fields tag = false := hasArrayForm_eq_false_iff.mpr habsent
  have hseparate : (p = "" ∨ Text.startsWith p tag = true) ↔ Text.startsWith p tag = true := by
    refine or_iff_right_of_imp ?_
    rintro rfl
    exact startsWith_empty tag
  cases v with
  | null | array _ | object _ =>
      simp [fieldNodes, plainValues, nodesUnder, hbook, beforeEnd?_of_endsWith hend, hplain]
  | bool _ | number _ | string _ =>
      simp only [fieldNodes, plainValues, hbook, beforeEnd?_of_endsWith hend, hplain, hseparate,
        nodesUnder]
      cases Text.startsWith p tag <;> rfl

/-- A tag under which nothing stands has no nodes. -/
theorem nodesTagged_of_absent (h : Keyed.Ascending fields)
    (habsent : fields.lookup (tag ++ arrayEnding) = none) (hplain : fields.lookup tag = none) :
    nodesTagged p fields tag = [] := by
  rw [nodesTagged, List.filter_flatMap, List.flatMap_eq_nil_iff]
  rintro ⟨key, v⟩ hmem
  rw [filter_fieldNodes, if_neg]
  rintro rfl
  rw [h.mem_iff_lookup_eq_some] at hmem
  rcases eq_or_eq_append_keyTag key with hkey | hkey
  · rw [← hkey, hmem] at hplain
    exact Option.some_ne_none v hplain
  · rw [← hkey, hmem] at habsent
    exact Option.some_ne_none v habsent

/-! ### The nodes of the source -/

/-- **The nodes of a tag** are made of the values in its source. -/
theorem nodesTagged_eq_childValues (h : Keyed.Ascending fields) (hsource : HasSource fields tag) :
    nodesTagged p fields tag = (childValues p fields tag).map (Node.mk tag) := by
  obtain ⟨hbook, hend, hread⟩ := hsource
  rw [childValues]
  cases harray : fields.lookup (tag ++ arrayEnding) with
  | some v =>
      have hne : tag ≠ "_" := by
        rintro rfl
        exact hread ⟨rfl, by rw [hasArrayForm, harray, Option.isSome_some]⟩
      rw [nodesTagged_of_arrayForm h hend harray,
        fieldNodes_arrayForm (isBookkeeping_append_arrayEnding hbook hne), nodesUnder_eq_map]
  | none =>
      cases hplain : fields.lookup tag with
      | some v =>
          rw [nodesTagged_of_plainForm h hend harray hplain, fieldNodes_plain hbook hend harray,
            Option.map_some, Option.getD_some]
      | none =>
          rw [nodesTagged_of_absent h harray hplain, Option.map_none, Option.getD_none,
            List.map_nil]

/-- A field that has nodes is the source of the tag that its key names. -/
theorem childValues_keyTag (h : Keyed.Ascending fields) {key : String} {v : Json}
    (hmem : (key, v) ∈ fields) (hnodes : fieldNodes p fields (key, v) ≠ []) :
    childValues p fields (keyTag key) = itemsOf v := by
  have hfound : fields.lookup key = some v := h.mem_iff_lookup_eq_some.mp hmem
  rcases eq_or_eq_append_keyTag key with hkey | hkey
  · have hend : Text.endsWith arrayEnding key = false := endsWith_of_keyTag_eq hkey.symm
    have hbook : isBookkeeping key = false := by
      rw [← Bool.not_eq_true]
      exact fun hmarked => hnodes (fieldNodes_of_isBookkeeping hmarked)
    have habsent : fields.lookup (key ++ arrayEnding) = none := by
      rw [← hasArrayForm_eq_false_iff, ← Bool.not_eq_true]
      exact fun harray => hnodes (fieldNodes_of_hasArrayForm hend harray)
    -- all of what stands there counts, since some of it does
    have hvalues := (fieldNodes_eq_nil_or p fields (key, v)).resolve_left hnodes
    rw [fieldNodes_plain hbook hend habsent, nodesUnder_eq_map, ← hkey] at hvalues
    have hinjective : Function.Injective (Node.mk key) := fun _ _ heq => (Node.mk.inj heq).2
    rw [← hkey, childValues, habsent, hfound, Option.map_some, Option.getD_some]
    exact hinjective.list_map hvalues
  · rw [childValues, ← hkey, hfound]

/-- One underscore has no nodes if it has an array. -/
theorem nodesTagged_underscore (h : Keyed.Ascending fields)
    (harray : hasArrayForm fields "_" = true) : nodesTagged p fields "_" = [] := by
  obtain ⟨v, hv⟩ := Option.isSome_iff_exists.mp harray
  rw [nodesTagged_of_arrayForm h rfl hv, fieldNodes_of_isBookkeeping rfl]

/-! ### The children that are read -/

/-- **How many children of a tag are read**, from any object without a list that can be read: as
many as there are values in the source of the tag, each of them read once and in order; none, if
the tag is one underscore and has an array. A scalar under a tag that begins with the prefix, and
has no array, is the attribute of what follows the prefix. -/
theorem childrenNamed_keyed_count {name : String} (h : Keyed.Ascending fields)
    (hkeyed : fields.lookup childrenKey = none)
    (hread : readElement p name (.object fields) = .ok e) (hbook : isBookkeeping tag = false)
    (hend : Text.endsWith arrayEnding tag = false) :
    (¬ (tag = "_" ∧ hasArrayForm fields tag = true) →
      (e.childrenNamed tag).length = (childValues p fields tag).length ∧
        List.Forall₂ (fun v child => readElement p tag v = .ok child) (childValues p fields tag)
          (e.childrenNamed tag)) ∧
    (tag = "_" ∧ hasArrayForm fields tag = true → e.childrenNamed tag = []) ∧
    ∀ v text rest, fields.lookup (tag ++ arrayEnding) = none → fields.lookup tag = some v →
      v.scalarText? = some text → tag = p ++ rest → e.attribute? rest = some text := by
  have hchildren : List.Forall₂ (fun node child => readElement p node.tag node.value = .ok child)
      (fields.flatMap (fieldNodes p fields)) e.children := by
    obtain ⟨children, hnodes, rfl⟩ := readElement_object_eq_ok_iff.mp hread
    rw [nodes_of_keyed hkeyed, List.forall₂_map_left_iff] at hnodes
    rw [Element.children_setAttributes]
    exact hnodes
  refine ⟨fun hsource => ?_, ?_, ?_⟩
  · have hvalues :=
      forall₂_childrenNamed (nodesTagged_eq_childValues h ⟨hbook, hend, hsource⟩) hchildren
    exact ⟨hvalues.length_eq.symm, hvalues⟩
  · rintro ⟨rfl, harray⟩
    have hnone : nodesTagged p fields "_" = ([] : List Json).map (Node.mk "_") :=
      nodesTagged_underscore h harray
    exact List.forall₂_nil_left_iff.mp (forall₂_childrenNamed hnone hchildren)
  · rintro v text rest habsent hv htext rfl
    rw [attribute?_eq_some_iff h hread]
    exact ⟨isShadowed_eq_false hkeyed habsent, hbook, hend, v, hv, htext⟩

/-- An array counts instead of what stands under its tag, a scalar without the prefix is a child,
one with the prefix is an attribute, and what has one underscore for its tag is lost. -/
theorem childrenNamed_keyed_count_forms :
    ∃ e, readElement "@" "Set" (.object [("@id", .string "1"), ("A", .bool false),
          ("A_asArray", .array [.object [], .null]), ("B", .string "x"), ("_", .string "y"),
          ("__asArray", .array [.object []])]) = .ok e ∧
      e.attribute? "id" = some "1" ∧ (e.childrenNamed "A").length = 2 ∧
      (e.childrenNamed "B").length = 1 ∧ e.childrenNamed "_" = [] := by
  let fields : List (String × Json) := [("@id", .string "1"), ("A", .bool false),
    ("A_asArray", .array [.object [], .null]), ("B", .string "x"), ("_", .string "y"),
    ("__asArray", .array [.object []])]
  let e : Element := { name := "Set", attributes := [("id", "1")], children := [
    { name := "A" }, { name := "A" }, { name := "B", text := some "x" }] }
  have hfirst : readElement "@" "A" (.object []) = .ok { name := "A" } :=
    readElement_object_of_nodes_eq_nil _ _ rfl
  have hsecond : readElement "@" "A" .null = .ok { name := "A" } :=
    readElement_of_scalar _ _ nofun nofun
  have hthird : readElement "@" "B" (.string "x") = .ok { name := "B", text := some "x" } :=
    readElement_of_scalar _ _ nofun nofun
  have hread : readElement "@" "Set" (.object fields) = .ok e :=
    readElement_object_eq_ok_iff.mpr ⟨_, List.Forall₂.cons hfirst (List.Forall₂.cons hsecond
      (List.Forall₂.cons hthird List.Forall₂.nil)), rfl⟩
  have hascending : Keyed.Ascending fields := by decide
  have hcount {tag : String} (hbook : isBookkeeping tag = false) :=
    childrenNamed_keyed_count hascending rfl hread hbook
  have harray := hcount (rfl : isBookkeeping "A" = false) rfl
  have hplain := hcount (rfl : isBookkeeping "B" = false) rfl
  have hattribute := hcount (rfl : isBookkeeping "@id" = false) rfl
  have hlost := hcount (rfl : isBookkeeping "_" = false) rfl
  exact ⟨e, hread, hattribute.2.2 (.string "1") "1" "id" rfl rfl rfl rfl,
    (harray.1 (by decide)).1, (hplain.1 (by decide)).1, hlost.2.1 ⟨rfl, rfl⟩⟩

/-- **Children of one underscore may be lost**: the object has a child under the tag and an array
with one item beside it, and is read as an element without children. -/
theorem childrenNamed_keyed_lost :
    Keyed.Ascending [("_", Json.object []), ("__asArray", .array [.object []])] ∧
      isBookkeeping "_" = false ∧ Text.endsWith arrayEnding "_" = false ∧
      childValues "" [("_", .object []), ("__asArray", .array [.object []])] "_" = [.object []] ∧
      ∃ e, readElement "" "Set"
          (.object [("_", .object []), ("__asArray", .array [.object []])]) = .ok e ∧
        (e.childrenNamed "_").length = 0 :=
  ⟨by decide, rfl, rfl, rfl, { name := "Set" }, readElement_object_of_nodes_eq_nil _ _ rfl, rfl⟩

end ManifestPatch.Document
