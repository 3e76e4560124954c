import ManifestPatch.Proofs.Document.Tagged
import ManifestPatch.Proofs.Element.Alike

/-!
# Reading a Tree with Keyed Children

Without a list, the children of a tag stand together under a key made from it: in an array, which
may have a key of its own, or alone, if there is one. Each tag chooses its form for itself, and the
form decides where among the keys it comes. So the order of children of different tags is lost, and
it is all that is lost: whatever the forms, what is read is the tree up to interleaving.

## Main definitions

* `Document.FitsKeyed`: no name at a node is taken for something else in the keyed form.
* `Document.WrittenUnder`: the forms in which the children of a tag are written.
* `Document.KeyedForm`: a value is a tree written with its children under their tags.

## Main results

* `Document.KeyedForm.exists_readElement`: a tree in keyed form is read, up to interleaving.
* `Document.keyed_reads_alike`: fitting trees have keyed forms, and all of them are read as alike.
-/

namespace ManifestPatch.Document

variable {p tag : String} {e : Element} {fields : List (String × Json)} {v : Json}
  {values : List Json}

/-! ### The form -/

/-- An element **fits** the keyed form if moreover no key of an array is taken for a child, or for
bookkeeping. -/
structure FitsKeyed (p : String) (e : Element) : Prop extends Fits p e where
  child_not_array : ∀ child ∈ e.children, Text.endsWith arrayEnding child.name = false
  child_ne_underscore : ∀ child ∈ e.children, child.name ≠ "_"

/-- A value **stands for** a group of values: it is their array, or the only one of them. -/
inductive StandsFor : Json → List Json → Prop
  | array (values : List Json) : StandsFor (.array values) values
  | single (v : Json) : StandsFor v [v]

/-- The values of a tag are **written under** it: what stands for them has the key of an array,
whatever else stands under the tag, or stands under the tag, and there is no such key. -/
inductive WrittenUnder (fields : List (String × Json)) (tag : String) (values : List Json) : Prop
  | arrayForm {v : Json} (found : fields.lookup (tag ++ arrayEnding) = some v)
      (stands : StandsFor v values)
  | plainForm {v : Json} (noArray : fields.lookup (tag ++ arrayEnding) = none)
      (found : fields.lookup tag = some v) (stands : StandsFor v values)

/-- A value is an element in **keyed form**: an object that holds its data, and has the children of
every tag, each in keyed form, written under the tag. -/
inductive KeyedForm (p : String) : Element → Json → Prop
  | node {e : Element} {fields : List (String × Json)} {values : String → List Json}
      (holds : Holds p e (IsChildKey e) fields)
      (below : ∀ tag, List.Forall₂ (KeyedForm p) (e.childrenNamed tag) (values tag))
      (written : ∀ child ∈ e.children, WrittenUnder fields child.name (values child.name)) :
      KeyedForm p e (.object fields)

/-- A form is an object. -/
theorem KeyedForm.exists_object (h : KeyedForm p e v) : ∃ fields, v = .object fields := by
  cases h with
  | node => exact ⟨_, rfl⟩

/-- Values of children are objects. -/
theorem exists_object_of_forall₂ {children : List Element}
    (h : List.Forall₂ (KeyedForm p) children values) :
    ∀ w ∈ values, ∃ fields, w = .object fields := by
  intro w hw
  obtain ⟨_, -, hform⟩ := exists_of_forall₂_of_mem h hw
  exact hform.exists_object

/-! ### Groups -/

/-- What stands for objects is an array or an object. -/
theorem StandsFor.array_or_object (h : StandsFor v values)
    (hobjects : ∀ w ∈ values, ∃ fields, w = .object fields) :
    (∃ items, v = .array items) ∨ ∃ fields, v = .object fields := by
  cases h with
  | array => exact .inl ⟨_, rfl⟩
  | single => exact .inr (hobjects v List.mem_cons_self)

/-- What stands for objects brings one node for each of them. -/
theorem StandsFor.nodesUnder_eq (h : StandsFor v values)
    (hobjects : ∀ w ∈ values, ∃ fields, w = .object fields) :
    nodesUnder tag v = values.map (Node.mk tag) := by
  cases h with
  | array => rfl
  | single =>
      obtain ⟨fields, rfl⟩ := hobjects v List.mem_cons_self
      rfl

/-- **The nodes of a tag** are the values that are written under it. -/
theorem WrittenUnder.nodesTagged_eq (h : WrittenUnder fields tag values)
    (hascending : Keyed.Ascending fields) (hbookkeeping : isBookkeeping tag = false)
    (harray : Text.endsWith arrayEnding tag = false) (hne : tag ≠ "_")
    (hobjects : ∀ w ∈ values, ∃ fields, w = .object fields) :
    nodesTagged p fields tag = values.map (Node.mk tag) := by
  cases h with
  | arrayForm found stands =>
      rw [nodesTagged_of_arrayForm hascending harray found,
        fieldNodes_arrayForm (isBookkeeping_append_arrayEnding hbookkeeping hne),
        stands.nodesUnder_eq hobjects]
  | plainForm noArray found stands =>
      rw [nodesTagged_of_plainForm hascending harray noArray found, ← stands.nodesUnder_eq hobjects]
      have hplain : hasArrayForm fields tag = false := by
        rw [hasArrayForm, noArray, Option.isSome_none]
      rcases stands.array_or_object hobjects with ⟨items, rfl⟩ | ⟨inner, rfl⟩ <;>
        simp [fieldNodes, hbookkeeping, beforeEnd?_of_endsWith harray, hplain]

/-- What is written under a tag is no attribute. -/
theorem WrittenUnder.isShadowed_or (h : WrittenUnder fields tag values)
    (hascending : Keyed.Ascending fields) (hunlisted : fields.lookup childrenKey = none)
    (hobjects : ∀ w ∈ values, ∃ fields, w = .object fields) {w : Json}
    (hmem : (tag, w) ∈ fields) :
    isShadowed fields tag = true ∨ fieldAttribute? p (tag, w) = none := by
  cases h with
  | arrayForm found stands =>
      left
      rw [isShadowed, hunlisted, hasArrayForm, found, Option.isSome_some]
  | plainForm noArray found stands =>
      right
      rw [hascending.mem_iff_lookup_eq_some, found] at hmem
      rw [Option.eq_none_iff_forall_ne_some]
      intro pair hpair
      have hscalar := (fieldAttribute?_eq_some_iff.mp hpair).2.2.2
      rcases stands.array_or_object hobjects with ⟨items, rfl⟩ | ⟨inner, rfl⟩ <;>
        simp [← Option.some.inj hmem, Json.scalarText?] at hscalar

/-! ### The object -/

/-- A key for children names the tag of one. -/
theorem IsChildKey.exists_keyTag (hfits : FitsKeyed p e) {key : String} (h : IsChildKey e key) :
    ∃ child ∈ e.children, child.name = keyTag key := by
  obtain ⟨child, hchild, rfl | rfl⟩ := h
  · exact ⟨child, hchild, (keyTag_of_endsWith (hfits.child_not_array child hchild)).symm⟩
  · exact ⟨child, hchild, (keyTag_append_arrayEnding _).symm⟩

/-- An object in keyed form has no list. -/
theorem Holds.lookup_childrenKey (h : Holds p e (IsChildKey e) fields) (hfits : FitsKeyed p e) :
    fields.lookup childrenKey = none := by
  rw [Option.eq_none_iff_forall_ne_some]
  intro v hv
  rcases h.key_cases hv with ⟨pair, hpair, heq⟩ | heq | ⟨child, hchild, heq | heq⟩
  · exact ne_of_isBookkeeping (hfits.attribute_not_bookkeeping pair hpair)
      isBookkeeping_childrenKey heq.symm
  · exact absurd heq (by decide)
  · exact ne_of_isBookkeeping (hfits.child_not_bookkeeping child hchild)
      isBookkeeping_childrenKey heq.symm
  · exact ne_append_arrayEnding rfl _ heq

/-- The key of an attribute has no array beside it. -/
theorem Holds.hasArrayForm_attribute (h : Holds p e (IsChildKey e) fields) (hfits : FitsKeyed p e)
    {pair : String × String} (hpair : pair ∈ e.attributes) :
    hasArrayForm fields (p ++ pair.1) = false := by
  rw [hasArrayForm, Option.isSome_eq_false_iff, Option.isNone_iff_eq_none,
    Option.eq_none_iff_forall_ne_some]
  intro v hv
  rcases h.key_cases hv with ⟨pair', hpair', heq⟩ | heq | ⟨child, hchild, heq | heq⟩
  · exact ne_append_arrayEnding (hfits.attribute_not_array pair' hpair') _ heq.symm
  · exact ne_append_arrayEnding rfl _ heq.symm
  · exact ne_append_arrayEnding (hfits.child_not_array child hchild) _ heq.symm
  · exact hfits.attribute_ne_child pair hpair child hchild ((String.append_left_inj _).mp heq)

/-- Every node has the tag of a child. -/
theorem Holds.exists_child_of_mem_fieldNodes (h : Holds p e (IsChildKey e) fields)
    (hfits : FitsKeyed p e) {node : Node} (hnode : node ∈ fields.flatMap (fieldNodes p fields)) :
    ∃ child ∈ e.children, child.name = node.tag := by
  obtain ⟨field, hfield, hnode⟩ := List.mem_flatMap.mp hnode
  rcases h.rest field hfield with hcontent | hkey
  · rcases mem_contentFields_iff.mp hcontent with ⟨pair, hpair, rfl⟩ | ⟨text, -, rfl⟩
    · have hstart : Text.startsWith p (p ++ pair.1) = true := Text.startsWith_iff.mpr ⟨_, rfl⟩
      simp [fieldNodes, hfits.attribute_not_bookkeeping pair hpair,
        beforeEnd?_of_endsWith (hfits.attribute_not_array pair hpair),
        h.hasArrayForm_attribute hfits hpair, hstart] at hnode
    · rw [fieldNodes_of_isBookkeeping isBookkeeping_textKey] at hnode
      exact absurd hnode List.not_mem_nil
  · rw [tag_of_mem_fieldNodes hnode]
    exact hkey.exists_keyTag hfits

/-- An object in keyed form has, for every tag, the nodes that the values under it stand for. -/
theorem Holds.nodesTagged_eq (h : Holds p e (IsChildKey e) fields) (hfits : FitsKeyed p e)
    {values : String → List Json}
    (hbelow : ∀ tag, List.Forall₂ (KeyedForm p) (e.childrenNamed tag) (values tag))
    (hwritten : ∀ child ∈ e.children, WrittenUnder fields child.name (values child.name))
    (tag : String) : nodesTagged p fields tag = (values tag).map (Node.mk tag) := by
  by_cases hchild : ∃ child ∈ e.children, child.name = tag
  · obtain ⟨child, hchild, rfl⟩ := hchild
    exact (hwritten child hchild).nodesTagged_eq h.ascending
      (hfits.child_not_bookkeeping child hchild) (hfits.child_not_array child hchild)
      (hfits.child_ne_underscore child hchild) (exists_object_of_forall₂ (hbelow child.name))
  · have hnamed : e.childrenNamed tag = [] := by
      rw [Element.childrenNamed, List.filter_eq_nil_iff]
      intro child hmem hname
      exact hchild ⟨child, hmem, eq_of_beq hname⟩
    have hvalues := hbelow tag
    rw [hnamed, List.forall₂_nil_left_iff] at hvalues
    rw [hvalues, List.map_nil, nodesTagged, List.filter_eq_nil_iff]
    intro node hnode htag
    exact hchild (eq_of_beq htag ▸ h.exists_child_of_mem_fieldNodes hfits hnode)

/-! ### Reading -/

/-- An object in keyed form is read as having the data that it holds, and the children that its
nodes are read as. -/
theorem Holds.readElement_keyed (h : Holds p e (IsChildKey e) fields) (hfits : FitsKeyed p e)
    {values : String → List Json}
    (hbelow : ∀ tag, List.Forall₂ (KeyedForm p) (e.childrenNamed tag) (values tag))
    (hwritten : ∀ child ∈ e.children, WrittenUnder fields child.name (values child.name))
    {children : List Element}
    (hchildren : List.Forall₂ (fun node child => readElement p node.tag node.value = .ok child)
      (fields.flatMap (fieldNodes p fields)) children) :
    readElement p e.name (.object fields) =
      .ok { e with attributes := Element.sortByName e.attributes, children } := by
  have hunlisted := h.lookup_childrenKey hfits
  refine h.readElement_eq_ok hfits.toFits (fun hkey => hkey.ne_textKey hfits.toFits rfl) ?_ ?_ ?_
  · intro pair hpair
    rw [isShadowed, hunlisted]
    exact h.hasArrayForm_attribute hfits hpair
  · rintro ⟨key, w⟩ hmem ⟨child, hchild, rfl | rfl⟩
    · exact (hwritten child hchild).isShadowed_or h.ascending hunlisted
        (exists_object_of_forall₂ (hbelow child.name)) hmem
    · exact .inr (fieldAttribute?_of_endsWith (endsWith_append_arrayEnding _))
  · rw [nodes, hunlisted]
    exact List.forall₂_map_left_iff.mpr hchildren

/-- If what is written under every tag can be read, so can all nodes. -/
theorem exists_children {values : String → List Json}
    (htagged : ∀ tag, nodesTagged p fields tag = (values tag).map (Node.mk tag))
    (hread : ∀ tag, ∀ w ∈ values tag, ∃ r, readElement p tag w = .ok r) :
    ∃ children, List.Forall₂ (fun node child => readElement p node.tag node.value = .ok child)
      (fields.flatMap (fieldNodes p fields)) children := by
  refine exists_forall₂ fun node hnode => ?_
  have hmem : node ∈ nodesTagged p fields node.tag :=
    List.mem_filter.mpr ⟨hnode, beq_self_eq_true _⟩
  rw [htagged] at hmem
  obtain ⟨w, hw, heq⟩ := List.mem_map.mp hmem
  rw [← heq]
  exact hread node.tag w hw

/-- **What is read under a tag** is read from the values that are written under it. -/
theorem forall₂_childrenNamed {values : List Json} {r : Element}
    (htagged : nodesTagged p fields tag = values.map (Node.mk tag))
    (h : List.Forall₂ (fun node child => readElement p node.tag node.value = .ok child)
      (fields.flatMap (fieldNodes p fields)) r.children) :
    List.Forall₂ (fun w child => readElement p tag w = .ok child) values
      (r.childrenNamed tag) := by
  have hfilter : List.Forall₂ (fun node child => readElement p node.tag node.value = .ok child)
      (nodesTagged p fields tag) (r.childrenNamed tag) := by
    refine List.rel_filter (fun node child hread => ?_) h
    simp only [name_eq_of_readElement hread]
  rw [htagged, List.forall₂_map_left_iff] at hfilter
  exact hfilter

/-- **A tree in keyed form is read**, and what is read is the tree up to interleaving, with the
attributes in the order of their names. -/
theorem KeyedForm.exists_readElement (hfits : e.Throughout (FitsKeyed p)) (h : KeyedForm p e v) :
    ∃ r, readElement p e.name v = .ok r ∧ r.Alike Element.SameData e.sortAttributes := by
  induction e using Element.inductionOn generalizing v with
  | node e ih =>
      obtain ⟨hhere, hbelow⟩ := hfits
      cases h with
      | @node _ fields values holds below written =>
          have htagged := holds.nodesTagged_eq hhere below written
          -- the children of a tag are read, by induction, wherever they stand
          have hread : ∀ tag, ∀ child ∈ e.childrenNamed tag, ∀ w, KeyedForm p child w →
              ∃ r, readElement p tag w = .ok r ∧
                r.Alike Element.SameData child.sortAttributes := by
            intro tag child hchild w hform
            have hmem := Element.mem_children_of_mem_childrenNamed hchild
            rw [← Element.name_of_mem_childrenNamed hchild]
            exact ih child hmem (hbelow child hmem) hform
          obtain ⟨children, hchildren⟩ := exists_children htagged fun tag w hw => by
            obtain ⟨child, hchild, hform⟩ := exists_of_forall₂_of_mem (below tag) hw
            obtain ⟨r, hr, -⟩ := hread tag child hchild w hform
            exact ⟨r, hr⟩
          refine ⟨_, holds.readElement_keyed hhere below written hchildren, ?_⟩
          refine Element.Alike.node ?_ fun tag => ?_
          · rw [Element.sortAttributes_eq]
            exact ⟨rfl, rfl, rfl⟩
          · rw [Element.childrenNamed_sortAttributes, List.forall₂_map_right_iff]
            have hgroup := forall₂_comp (below tag)
              (forall₂_childrenNamed (htagged tag) (r := { e with children }) hchildren)
            refine (forall₂_imp_of_mem hgroup ?_).flip
            rintro child hchild r ⟨w, hform, hr⟩
            obtain ⟨r', hr', halike⟩ := hread tag child hchild w hform
            obtain rfl : r = r' := Except.ok.inj (hr.symm.trans hr')
            exact halike

/-- The tags of the children are their names. -/
theorem mem_childTags_iff : tag ∈ childTags e ↔ ∃ child ∈ e.children, child.name = tag := by
  rw [childTags, Keyed.mem_sortedDistinct, List.mem_map]

/-- A fitting tree has a keyed form: every tag may have an array of its own. -/
theorem exists_keyedForm (hfits : e.Throughout (FitsKeyed p)) : ∃ v, KeyedForm p e v := by
  induction e using Element.inductionOn with
  | node e ih =>
      obtain ⟨hhere, hbelow⟩ := hfits
      have hgroup : ∀ tag, ∃ values, List.Forall₂ (KeyedForm p) (e.childrenNamed tag) values := by
        intro tag
        refine exists_forall₂ fun child hchild => ?_
        have hmem := Element.mem_children_of_mem_childrenNamed hchild
        exact ih child hmem (hbelow child hmem)
      choose values hvalues using hgroup
      let arrays : List (String × Json) :=
        (childTags e).map fun tag => (tag ++ arrayEnding, .array (values tag))
      have hkeys : arrays.map Prod.fst = (childTags e).map (· ++ arrayEnding) := by
        simp [arrays, Function.comp_def]
      have hnodup : (arrays.map Prod.fst).Nodup := by
        rw [hkeys]
        exact (Keyed.nodup_sortedDistinct _).map fun a b => (String.append_left_inj _).mp
      have hdisjoint : ∀ key ∈ arrays.map Prod.fst, key ∉ (contentFields p e).map Prod.fst := by
        intro key hkey hcontent
        rw [hkeys] at hkey
        obtain ⟨tag, -, rfl⟩ := List.mem_map.mp hkey
        rcases mem_keys_contentFields hcontent with ⟨pair, hpair, heq⟩ | heq
        · exact ne_append_arrayEnding (hhere.attribute_not_array pair hpair) _ heq.symm
        · exact ne_append_arrayEnding rfl _ heq.symm
      have hothers : ∀ field ∈ arrays, IsChildKey e field.1 := by
        intro field hfield
        obtain ⟨tag, htag, rfl⟩ := List.mem_map.mp hfield
        obtain ⟨child, hchild, rfl⟩ := mem_childTags_iff.mp htag
        exact ⟨child, hchild, .inr rfl⟩
      obtain ⟨hholds, hlookup⟩ :=
        holds_ofPairs hhere.toFits (IsChildKey e) arrays hnodup hdisjoint hothers
      refine ⟨_, KeyedForm.node hholds hvalues fun child hchild => ?_⟩
      have hmem : (child.name ++ arrayEnding, .array (values child.name)) ∈ arrays :=
        List.mem_map.mpr ⟨child.name, mem_childTags_iff.mpr ⟨child, hchild, rfl⟩, rfl⟩
      exact WrittenUnder.arrayForm (hlookup _ hmem) (StandsFor.array _)

/-- **The keyed forms agree** with each other and with the tree: a fitting tree has keyed forms,
each of them is read, as the tree up to interleaving, with the attributes of every node in the order
of their names, and what is read from any two of them differs in the interleaving only. -/
theorem keyed_reads_alike (hfits : e.Throughout (FitsKeyed p)) :
    (∃ v, KeyedForm p e v) ∧
      (∀ v, KeyedForm p e v →
        ∃ r, readElement p e.name v = .ok r ∧ r.Alike Element.SameData e.sortAttributes) ∧
      ∀ v v' r r', KeyedForm p e v → KeyedForm p e v' → readElement p e.name v = .ok r →
        readElement p e.name v' = .ok r' → r.Alike Element.SameData r' := by
  refine ⟨exists_keyedForm hfits, fun v => KeyedForm.exists_readElement hfits, ?_⟩
  intro v v' r r' hv hv' hr hr'
  obtain ⟨s, hs, halike⟩ := hv.exists_readElement hfits
  obtain ⟨s', hs', halike'⟩ := hv'.exists_readElement hfits
  obtain rfl : r = s := Except.ok.inj (hr.symm.trans hs)
  obtain rfl : r' = s' := Except.ok.inj (hr'.symm.trans hs')
  exact halike.trans (fun _ _ _ => Element.SameData.trans)
    (halike'.symm fun _ _ => Element.SameData.symm)

/-- The plain forms of two tags come in another order than their arrays, since a letter comes before
the underscore: the children of one tag stay in sequence, and change places with those of the
other. What stands beside an array does not count. -/
theorem keyed_reads_alike_forms :
    readElement "" "Set" (.object [
        ("A", .array [.object [("__text", .string "x")], .object []]),
        ("AB", .object [("id", .string "2")]),
        ("id", .string "1")]) =
      .ok { name := "Set", attributes := [("id", "1")], children := [
        { name := "A", text := some "x" }, { name := "A" },
        { name := "AB", attributes := [("id", "2")] }] } ∧
    readElement "" "Set" (.object [
        ("A", .bool false),
        ("AB_asArray", .object [("id", .string "2")]),
        ("A_asArray", .array [.object [("__text", .string "x")], .object []]),
        ("id", .string "1")]) =
      .ok { name := "Set", attributes := [("id", "1")], children := [
        { name := "AB", attributes := [("id", "2")] }, { name := "A", text := some "x" },
        { name := "A" }] } ∧
    Element.Alike Element.SameData
      { name := "Set", attributes := [("id", "1")], children := [
        { name := "A", text := some "x" }, { name := "A" },
        { name := "AB", attributes := [("id", "2")] }] }
      { name := "Set", attributes := [("id", "1")], children := [
        { name := "AB", attributes := [("id", "2")] }, { name := "A", text := some "x" },
        { name := "A" }] } := by
  let first : Element := { name := "A", text := some "x" }
  let second : Element := { name := "AB", attributes := [("id", "2")] }
  let third : Element := { name := "A" }
  let root : Element :=
    { name := "Set", attributes := [("id", "1")], children := [first, second, third] }
  have hfits : root.Throughout (FitsKeyed "") := by
    refine Element.Throughout.node ⟨by constructor <;> decide, by decide, by decide⟩ ?_
    simp only [root, List.forall_mem_cons]
    exact ⟨.of_children_nil ⟨by constructor <;> decide, by decide, by decide⟩ rfl,
      .of_children_nil ⟨by constructor <;> decide, by decide, by decide⟩ rfl,
      .of_children_nil ⟨by constructor <;> decide, by decide, by decide⟩ rfl, by simp⟩
  have hfirst : KeyedForm "" first (.object [("__text", .string "x")]) := by
    refine KeyedForm.node ⟨by decide, ?_, ?_⟩ (fun _ => List.Forall₂.nil)
      (by simp [first])
    · simp [contentFields, first, textKey]
    · simp [contentFields, first, textKey]
  have hsecond : KeyedForm "" second (.object [("id", .string "2")]) := by
    refine KeyedForm.node ⟨by decide, ?_, ?_⟩ (fun _ => List.Forall₂.nil)
      (by simp [second])
    · simp [contentFields, second]
    · simp [contentFields, second]
  have hthird : KeyedForm "" third (.object []) :=
    KeyedForm.node ⟨by decide, by simp [contentFields, third], by simp⟩
      (fun _ => List.Forall₂.nil) (by simp [third])
  let values : String → List Json := fun tag =>
    if tag = "A" then [.object [("__text", .string "x")], .object []]
    else if tag = "AB" then [.object [("id", .string "2")]] else []
  have hbelow : ∀ tag, List.Forall₂ (KeyedForm "") (root.childrenNamed tag) (values tag) := by
    intro tag
    by_cases hA : tag = "A"
    · subst hA
      exact List.Forall₂.cons hfirst (List.Forall₂.cons hthird List.Forall₂.nil)
    by_cases hAB : tag = "AB"
    · subst hAB
      exact List.Forall₂.cons hsecond List.Forall₂.nil
    · simp [Element.childrenNamed, root, first, second, third, values, hA, hAB, Ne.symm hA,
        Ne.symm hAB]
  let plain : Json := .object [
    ("A", .array [.object [("__text", .string "x")], .object []]),
    ("AB", .object [("id", .string "2")]),
    ("id", .string "1")]
  have hplain : KeyedForm "" root plain := by
    refine KeyedForm.node ⟨by decide, ?_, ?_⟩ hbelow ?_
    · simp [contentFields, root]
    · simp [contentFields, root, first, second, third, IsChildKey]
    · simp only [root, List.forall_mem_cons]
      exact ⟨WrittenUnder.plainForm rfl rfl (StandsFor.array _),
        WrittenUnder.plainForm rfl rfl (StandsFor.single _),
        WrittenUnder.plainForm rfl rfl (StandsFor.array _), by simp⟩
  let arrays : Json := .object [
    ("A", .bool false),
    ("AB_asArray", .object [("id", .string "2")]),
    ("A_asArray", .array [.object [("__text", .string "x")], .object []]),
    ("id", .string "1")]
  have harrays : KeyedForm "" root arrays := by
    refine KeyedForm.node ⟨by decide, ?_, ?_⟩ hbelow ?_
    · simp [contentFields, root]
    · simp [contentFields, root, first, second, third, IsChildKey, arrayEnding]
    · simp only [root, List.forall_mem_cons]
      exact ⟨WrittenUnder.arrayForm rfl (StandsFor.array _),
        WrittenUnder.arrayForm rfl (StandsFor.single _),
        WrittenUnder.arrayForm rfl (StandsFor.array _), by simp⟩
  have hreadFirst : readElement "" "A" (.object [("__text", .string "x")]) = .ok first :=
    readElement_object_of_nodes_eq_nil _ _ rfl
  have hreadSecond : readElement "" "AB" (.object [("id", .string "2")]) = .ok second :=
    readElement_object_of_nodes_eq_nil _ _ rfl
  have hreadThird : readElement "" "A" (.object []) = .ok third :=
    readElement_object_of_nodes_eq_nil _ _ rfl
  have hreadPlain : readElement "" "Set" plain =
      .ok { root with children := [first, third, second] } :=
    readElement_object_eq_ok_iff.mpr ⟨_, List.Forall₂.cons hreadFirst (List.Forall₂.cons hreadThird
      (List.Forall₂.cons hreadSecond List.Forall₂.nil)), rfl⟩
  have hreadArrays : readElement "" "Set" arrays =
      .ok { root with children := [second, first, third] } :=
    readElement_object_eq_ok_iff.mpr ⟨_, List.Forall₂.cons hreadSecond (List.Forall₂.cons hreadFirst
      (List.Forall₂.cons hreadThird List.Forall₂.nil)), rfl⟩
  exact ⟨hreadPlain, hreadArrays,
    (keyed_reads_alike hfits).2.2 _ _ _ _ hplain harrays hreadPlain hreadArrays⟩

end ManifestPatch.Document
