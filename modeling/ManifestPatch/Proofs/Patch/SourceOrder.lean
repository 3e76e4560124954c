import ManifestPatch.Proofs.Document.Order
import ManifestPatch.Proofs.Document.Remarks
import ManifestPatch.Proofs.Document.Source
import ManifestPatch.Proofs.Patch.Accounting

/-!
# Operations in Source Order

From a document to operations there are three stages: the list of children is taken apart into
nodes, the nodes are read as elements, and the elements are read as operations or passed over with
a diagnostic. This module joins the stages. If the order of the root's children matters, the nodes
have an order in the source, either that of the list or, as they all have one tag, that of a single
array. There are as many elements as nodes and as many readings as elements, one by one in that
order; the operations are those readings that are operations, and the index of a diagnostic is its
place among all of them. Remarks have no part in this, wherever they stand.

## Main definitions

* `Document.sourceNodes`: the nodes of a root in the order of the source.
* `Operation.IsReadingOf`: what a node of a patch comes to.
* `Extraction.ofReadings`: the extraction that readings make up.

## Main results

* `Document.forall₂_sourceNodes`: an element has its children read from its nodes one by one.
* `Document.exists_single_source`: nodes of one tag, without a list, are those of a single field.
* `Extraction.ofPatch_skip_ofReadings`: an extraction that skips is made up of one reading a node.
* `Document.ofJson_ordered_extraction`: operations come in source order with the right indexes.
-/

namespace ManifestPatch

/-! ### The nodes of a root -/

namespace Document

variable {p name : String} {e : Element} {fields : List (String × Json)}

/-- The nodes that an entry of a list stands for: under every key that does not begin with `#`, in
the order of the keys, the items of an array, or the value itself. -/
def listedNodes : Json → List Node
  | .object fields => (childFields fields).flatMap fun field => nodesUnder field.1 field.2
  | _ => []

/-- The nodes of a root **in the order of the source**: if it has a list of children, those that
the entries of the list stand for; else those of its fields that are children. -/
def sourceNodes (p : String) : Json → List Node
  | .object fields =>
    match fields.lookup childrenKey with
    | some (.array entries) => entries.flatMap listedNodes
    | some _ => []
    | none => fields.flatMap (fieldNodes p fields)
  | _ => []

/-- An entry that is an object has its nodes, and any other entry is an error. -/
theorem entryNodes_eq (entry : Json) :
    entryNodes entry = (listedNodes entry).map .ok ∨ entryNodes entry = [.error entry.kind] := by
  cases entry with
  | object fields => exact .inl (List.map_flatMap ..).symm
  | null | bool _ | number _ | string _ | array _ => exact .inr rfl

/-- If none of them is an error, the nodes of an object are those in the order of the source. -/
theorem nodes_eq_map_sourceNodes (h : ∀ found, .error found ∉ nodes p fields) :
    nodes p fields = (sourceNodes p (.object fields)).map .ok := by
  rw [nodes, sourceNodes] at *
  cases hl : fields.lookup childrenKey with
  | none => rfl
  | some v =>
      rw [hl] at h
      cases v with
      | array entries =>
          have hentry : ∀ entry ∈ entries, entryNodes entry = (listedNodes entry).map .ok := by
            intro entry hentry
            refine (entryNodes_eq entry).resolve_right fun herror => h entry.kind ?_
            refine List.mem_flatMap.mpr ⟨entry, hentry, ?_⟩
            rw [herror]
            exact List.mem_singleton_self _
          simp only [List.map_flatMap]
          exact List.flatMap_congr hentry
      | null | bool _ | number _ | string _ | object _ =>
          exact absurd (List.mem_singleton_self _) (h _)

/-- **An element has its children read from its nodes**, one by one. -/
theorem forall₂_sourceNodes {root : Json} (h : readElement p name root = .ok e) :
    List.Forall₂ (fun node child => readElement p node.tag node.value = .ok child)
      (sourceNodes p root) e.children := by
  cases root with
  | object fields =>
      obtain ⟨children, hchildren, rfl⟩ := readElement_object_eq_ok_iff.mp h
      have hnodes : nodes p fields = (sourceNodes p (.object fields)).map .ok := by
        refine nodes_eq_map_sourceNodes fun found hfound => ?_
        obtain ⟨child, -, hread⟩ := exists_of_forall₂_of_mem hchildren.flip hfound
        exact readNode_error_ne_ok hread
      rw [hnodes, List.forall₂_map_left_iff] at hchildren
      rwa [Element.children_setAttributes]
  | array items => simp [readElement_array] at h
  | null | bool _ | number _ | string _ =>
      rw [readElement_of_scalar p name (by simp [Json.kind]) (by simp [Json.kind])] at h
      rw [← Except.ok.inj h]
      exact List.Forall₂.nil

/-- A tag by itself has no nodes if there is an array for it. -/
theorem fieldNodes_eq_nil_of_mem {key : String} {v v' : Json} (h : keyTag key = key)
    (hmem : (key ++ arrayEnding, v') ∈ fields) : fieldNodes p fields (key, v) = [] := by
  refine fieldNodes_of_hasArrayForm (endsWith_of_keyTag_eq h) ?_
  rw [hasArrayForm, ← Option.ne_none_iff_isSome, ne_eq, Keyed.lookup_eq_none_iff_notMem, not_not]
  exact List.mem_map_of_mem hmem

/-- Two keys that name one tag do not both have nodes. -/
theorem key_eq_of_fieldNodes_ne_nil {key key' : String} {v v' : Json} (hmem : (key, v) ∈ fields)
    (hmem' : (key', v') ∈ fields) (hnodes : fieldNodes p fields (key, v) ≠ [])
    (hnodes' : fieldNodes p fields (key', v') ≠ []) (htag : keyTag key = keyTag key') :
    key = key' := by
  rcases eq_or_eq_append_keyTag key with hkey | hkey <;>
    rcases eq_or_eq_append_keyTag key' with hkey' | hkey'
  · rw [hkey, hkey', htag]
  · rw [← htag, ← hkey] at hkey'
    exact absurd (fieldNodes_eq_nil_of_mem hkey.symm (hkey' ▸ hmem')) hnodes
  · rw [htag, ← hkey'] at hkey
    exact absurd (fieldNodes_eq_nil_of_mem hkey'.symm (hkey ▸ hmem)) hnodes'
  · rw [hkey, hkey', htag]

/-- If all nodes have one tag, no other tag has values in its source. -/
theorem childValues_eq_nil_of_tags (h : Keyed.Ascending fields) {tag : String}
    (htags : ∀ node ∈ fields.flatMap (fieldNodes p fields), node.tag = tag) {tag' : String}
    (hsource : HasSource fields tag') (hne : tag' ≠ tag) : childValues p fields tag' = [] := by
  have hnone : nodesTagged p fields tag' = [] := by
    rw [nodesTagged, List.filter_eq_nil_iff]
    intro node hnode
    rw [htags node hnode, beq_iff_eq]
    exact hne.symm
  rw [nodesTagged_eq_childValues h hsource] at hnone
  exact List.map_eq_nil_iff.mp hnone

/-- **Nodes of one tag**, without a list of children, are those of a single field, which is the
source of that tag, in the order of the array under it if there is one. -/
theorem exists_single_source (h : Keyed.Ascending fields)
    (htags : ∀ node ∈ fields.flatMap (fieldNodes p fields),
      ∀ node' ∈ fields.flatMap (fieldNodes p fields), node.tag = node'.tag) :
    (fields.flatMap (fieldNodes p fields) = [] ∧
        ∀ tag, HasSource fields tag → childValues p fields tag = []) ∨
      ∃ tag v, ((tag, v) ∈ fields ∨ (tag ++ arrayEnding, v) ∈ fields) ∧
        childValues p fields tag = itemsOf v ∧
        fields.flatMap (fieldNodes p fields) = (childValues p fields tag).map (Node.mk tag) ∧
        ∀ tag', HasSource fields tag' → tag' ≠ tag → childValues p fields tag' = [] := by
  by_cases hnil : fields.flatMap (fieldNodes p fields) = []
  · refine .inl ⟨hnil, fun tag hsource => ?_⟩
    have hnone := nodesTagged_eq_childValues (p := p) h hsource
    rw [nodesTagged, hnil, List.filter_nil] at hnone
    exact List.map_eq_nil_iff.mp hnone.symm
  · obtain ⟨node, hnode⟩ := List.exists_mem_of_ne_nil _ hnil
    obtain ⟨⟨key, v⟩, hmem, hfield⟩ := List.mem_flatMap.mp hnode
    have hne := List.ne_nil_of_mem hfield
    have hvalues := childValues_keyTag h hmem hne
    refine .inr ⟨keyTag key, v, ?_, hvalues, ?_, fun tag' =>
      childValues_eq_nil_of_tags h fun node' hnode' => ?_⟩
    · rcases eq_or_eq_append_keyTag key with hkey | hkey
      · exact .inl (hkey ▸ hmem)
      · exact .inr (hkey ▸ hmem)
    · rw [h.flatMap_eq_of_lookup (h.mem_iff_lookup_eq_some.mp hmem), hvalues, ← nodesUnder_eq_map]
      · exact (fieldNodes_eq_nil_or p fields (key, v)).resolve_left hne
      · -- any other field would have a node of the same tag
        rintro ⟨key', v'⟩ hmem' hkey
        by_contra hne'
        obtain ⟨node', hfield'⟩ := List.exists_mem_of_ne_nil _ hne'
        have htag := htags node hnode node' (List.mem_flatMap.mpr ⟨_, hmem', hfield'⟩)
        rw [tag_of_mem_fieldNodes hfield, tag_of_mem_fieldNodes hfield'] at htag
        exact hkey (key_eq_of_fieldNodes_ne_nil hmem hmem' hne hne' htag).symm
    · rw [htags node' hnode' node hnode, tag_of_mem_fieldNodes hfield]

/-- The nodes of a root whose order matters, and which has no list of children, are of one tag. -/
theorem tag_eq_of_childTags {root : Json} (hread : readElement p name root = .ok e)
    (htags : (childTags e).length ≤ 1) :
    ∀ node ∈ sourceNodes p root, ∀ node' ∈ sourceNodes p root, node.tag = node'.tag := by
  intro node hnode node' hnode'
  have hchildren := (forall₂_sourceNodes hread).flip
  obtain ⟨child, hchild, hc⟩ := exists_of_forall₂_of_mem hchildren hnode
  obtain ⟨child', hchild', hc'⟩ := exists_of_forall₂_of_mem hchildren hnode'
  rw [← name_eq_of_readElement hc, ← name_eq_of_readElement hc']
  by_contra hne
  exact absurd (one_lt_length_childTags hchild hchild' hne) (Nat.not_lt.mpr htags)

end Document

/-! ### The readings of a patch -/

/-- What a node of a patch **comes to**: an operation that stands for it, or a reason why it is
none. -/
def Operation.IsReadingOf (reading : Except Reason Operation) (node : Element) : Prop :=
  match reading with
  | .ok operation => operation.StandsFor node
  | .error reason => reason.AppliesTo node

/-- A node is read as what it comes to. -/
theorem Operation.isReadingOf_ofNode (node : Element) : IsReadingOf (ofNode node) node := by
  cases hnode : ofNode node with
  | ok operation => exact ofNode_eq_ok_iff.mp hnode
  | error reason => exact ofNode_eq_error_iff.mp hnode

namespace Extraction

/-- The extraction that readings **make up**: the operations among them in their order, and for
every other one a diagnostic with its index among all readings. -/
def ofReadings (readings : List (Except Reason Operation)) : Extraction where
  operations := readings.filterMap Except.toOption
  diagnostics := readings.zipIdx.filterMap fun
    | (.ok _, _) => none
    | (.error reason, index) => some { index, reason }

/-- **An extraction that skips** is made up of one reading for every node. -/
theorem ofPatch_skip_ofReadings (patch : Element) :
    ofPatch .skip patch = .ok (ofReadings (patch.children.map Operation.ofNode)) := by
  have hoperation : operation? = fun entry => (Operation.ofNode entry.1).toOption := by
    funext entry
    rw [operation?]
    cases Operation.ofNode entry.1 with
    | ok operation => rfl
    | error reason => rfl
  have hentries : patch.children.zipIdx.map Prod.fst = patch.children :=
    List.zipIdx_map_fst 0 patch.children
  rw [ofPatch, ofNodes_skip, ofReadings, Except.ok.injEq, Extraction.mk.injEq]
  constructor
  · conv_rhs => rw [← hentries]
    rw [List.map_map, List.filterMap_map, hoperation]
    rfl
  · rw [List.zipIdx_map, List.filterMap_map]
    refine List.filterMap_congr ?_
    rintro ⟨node, index⟩ -
    simp only [diagnostic?, Function.comp_apply, Prod.map_apply]
    cases Operation.ofNode node with
    | ok operation => rfl
    | error reason => rfl

/-- A diagnostic has the index of its reading. -/
theorem mem_diagnostics_ofReadings {readings : List (Except Reason Operation)} {index : Nat}
    {reason : Reason} :
    { index, reason } ∈ (ofReadings readings).diagnostics ↔
      readings[index]? = some (.error reason) := by
  rw [ofReadings, List.mem_filterMap]
  constructor
  · rintro ⟨⟨reading, i⟩, hmem, hdiagnostic⟩
    cases reading with
    | ok operation => simp at hdiagnostic
    | error reason' =>
        obtain ⟨rfl, rfl⟩ : i = index ∧ reason' = reason := by simpa using hdiagnostic
        exact List.mem_zipIdx_iff_getElem?.mp hmem
  · intro h
    exact ⟨(.error reason, index), List.mem_zipIdx_iff_getElem?.mpr h, rfl⟩

end Extraction

/-! ### From end to end -/

namespace Document

variable {p name : String} {e : Element} {fields : List (String × Json)}

/-- The nodes of a root **have an order in the source**. If it has a list of children, they are
those of the entries, one entry after the other. Else they all have one tag, and, the keys of the
root being in order, each once, they are made of the values that a single field holds, the source
of that tag, in the order of the array under it if there is one; no other tag has values in its
source, and if there are no nodes, no tag has. -/
structure OrderedSource (p : String) (root : Json) : Prop where
  listed : listsChildren root = true →
    ∃ fields entries, root = .object fields ∧
      fields.lookup childrenKey = some (.array entries) ∧
      sourceNodes p root = entries.flatMap listedNodes
  one_tag : listsChildren root = false →
    ∀ node ∈ sourceNodes p root, ∀ node' ∈ sourceNodes p root, node.tag = node'.tag
  single_source : listsChildren root = false → ∀ fields, root = .object fields →
    Keyed.Ascending fields →
      (sourceNodes p root = [] ∧ ∀ tag, HasSource fields tag → childValues p fields tag = []) ∨
      ∃ tag v, ((tag, v) ∈ fields ∨ (tag ++ arrayEnding, v) ∈ fields) ∧
        childValues p fields tag = itemsOf v ∧
        sourceNodes p root = (childValues p fields tag).map (Node.mk tag) ∧
        ∀ tag', HasSource fields tag' → tag' ≠ tag → childValues p fields tag' = []

/-- Without a list of children, the nodes are those of the fields. -/
theorem sourceNodes_of_listsChildren (h : listsChildren (.object fields) = false) :
    sourceNodes p (.object fields) = fields.flatMap (fieldNodes p fields) := by
  rw [listsChildren, Option.isSome_eq_false_iff, Option.isNone_iff_eq_none] at h
  rw [sourceNodes, h]

/-- **A root whose order matters**, and which is read, has its nodes in an order of the source. -/
theorem orderedSource_of_readElement {root : Json} (hread : readElement p name root = .ok e)
    (hordered : listsChildren root = false → (childTags e).length ≤ 1) :
    OrderedSource p root where
  listed hlists := by
    obtain ⟨fields, entries, rfl, hentries⟩ := exists_entries_of_listsChildren hread hlists
    refine ⟨fields, entries, rfl, hentries, ?_⟩
    rw [sourceNodes, hentries]
  one_tag hlists := tag_eq_of_childTags hread (hordered hlists)
  single_source hlists := by
    rintro fields rfl hascending
    have htags := tag_eq_of_childTags hread (hordered hlists)
    rw [sourceNodes_of_listsChildren hlists] at htags ⊢
    exact exists_single_source hascending htags

/-- **Operations come in source order with the right indexes.** Where the order of the root's
children matters, the nodes of the root have an order in the source. The root has a child for every
node, read from it under its tag, and for every child a reading, which is an operation or a reason;
an extraction that skips is made up of these, the operations in their order, and every diagnostic
with its index among them all. The same document with remarks inserted is read as the same root,
and so is the document itself where the order does not matter. -/
theorem ofJson_ordered_extraction {v : Json}
    (h : ofJson { attributePrefix := p, orderedRoot := true } v = .ok e) :
    ∃ top root readings, v = .object top ∧
      (top.filter fun field => isRootKey field.1) = [(e.name, root)] ∧
      OrderedSource p root ∧
      List.Forall₂ (fun node child => readElement p node.tag node.value = .ok child)
        (sourceNodes p root) e.children ∧
      List.Forall₂ Operation.IsReadingOf readings e.children ∧
      Extraction.ofPatch .skip e = .ok (.ofReadings readings) ∧
      (∀ index reason, { index, reason } ∈ (Extraction.ofReadings readings).diagnostics ↔
        readings[index]? = some (.error reason)) ∧
      (∀ root' top', Remarked root root' →
        (top'.filter fun field => isRootKey field.1) = [(e.name, root')] →
        ofJson { attributePrefix := p, orderedRoot := true } (.object top') = .ok e) ∧
      ofJson { attributePrefix := p } v = .ok e := by
  obtain ⟨top, root, rfl, hroot, hread, hordered⟩ := ofJson_eq_ok_iff.mp h
  refine ⟨top, root, e.children.map Operation.ofNode, rfl, hroot,
    orderedSource_of_readElement hread (hordered rfl), forall₂_sourceNodes hread, ?_,
    Extraction.ofPatch_skip_ofReadings e, fun _ _ => Extraction.mem_diagnostics_ofReadings, ?_, ?_⟩
  · rw [List.forall₂_map_left_iff, List.forall₂_same]
    exact fun child _ => Operation.isReadingOf_ofNode child
  · intro root' top' hremarked hroot'
    rw [ofJson_object_eq_ok_iff hroot', ← hremarked.readElement_eq, ← hremarked.listsChildren_eq]
    exact ⟨hread, hordered⟩
  · exact (ofJson_object_eq_ok_iff hroot).mpr ⟨hread, nofun⟩

/-- In a list of children, an array of two removals stands between an entry of white space and one
with a comment. The second removal has no selector and the edit after it is of no kind: these have
the indexes 1 and 2. Without a list, the array of removals counts and the removal beside it does
not. -/
theorem ofJson_ordered_extraction_remarks :
    (ofJson { orderedRoot := true } (.object [("Patch", .object [("__children", .array
        [.object [("#text", .string "")],
          .object [("remove", .array [.object [("sel", .string "/MPD/Period")], .object []])],
          .object [("#comment", .string ""), ("merge", .object [])]])])]) =
        .ok { name := "Patch", children :=
          [{ name := "remove", attributes := [("sel", "/MPD/Period")] }, { name := "remove" },
            { name := "merge" }] } ∧
      ∃ readings, Extraction.ofPatch .skip { name := "Patch", children :=
          [{ name := "remove", attributes := [("sel", "/MPD/Period")] }, { name := "remove" },
            { name := "merge" }] } = .ok (.ofReadings readings) ∧
        readings[1]? = some (.error (.malformedSelector (.empty ""))) ∧
        readings[2]? = some (.error (.unsupportedKind "merge"))) ∧
    ofJson { orderedRoot := true } (.object [("Patch", .object [("mpdId", .string "a"),
        ("remove", .object []),
        ("remove_asArray", .array [.object [("sel", .string "/MPD/Period")], .object []])])]) =
        .ok { name := "Patch", attributes := [("mpdId", "a")], children :=
          [{ name := "remove", attributes := [("sel", "/MPD/Period")] }, { name := "remove" }] } ∧
      sourceNodes "" (.object [("mpdId", .string "a"), ("remove", .object []),
          ("remove_asArray", .array [.object [("sel", .string "/MPD/Period")], .object []])]) =
        [⟨"remove", .object [("sel", .string "/MPD/Period")]⟩, ⟨"remove", .object []⟩] ∧
      ∃ readings, Extraction.ofPatch .skip
          { name := "Patch", attributes := [("mpdId", "a")], children :=
            [{ name := "remove", attributes := [("sel", "/MPD/Period")] }, { name := "remove" }] } =
          .ok (.ofReadings readings) ∧
        readings[1]? = some (.error (.malformedSelector (.empty ""))) := by
  have hfirst : readElement "" "remove" (.object [("sel", .string "/MPD/Period")]) =
      .ok { name := "remove", attributes := [("sel", "/MPD/Period")] } :=
    readElement_object_of_nodes_eq_nil "" "remove" rfl
  have htext : Contributes "" "Patch" (.object [("#text", .string "")]) [] := .nil
  have hremovals : Contributes "" "Patch"
      (.object [("remove", .array [.object [("sel", .string "/MPD/Period")], .object []])])
      [{ name := "remove", attributes := [("sel", "/MPD/Period")] }, { name := "remove" }] :=
    .cons hfirst (.cons (readElement_object_nil _ _) .nil)
  have hmerge : Contributes "" "Patch" (.object [("#comment", .string ""), ("merge", .object [])])
      [{ name := "merge" }] :=
    .cons (readElement_object_nil _ _) .nil
  have hread : ofJson { orderedRoot := true } (.object [("Patch", .object [("__children", .array
      [.object [("#text", .string "")],
        .object [("remove", .array [.object [("sel", .string "/MPD/Period")], .object []])],
        .object [("#comment", .string ""), ("merge", .object [])]])])]) =
      .ok { name := "Patch", children :=
        [{ name := "remove", attributes := [("sel", "/MPD/Period")] }, { name := "remove" },
          { name := "merge" }] } := by
    refine (ofJson_object_eq_ok_iff rfl).mpr ⟨readElement_object_eq_ok_iff.mpr ⟨_,
      (forall₂_readNode_listed rfl).mpr ⟨_, .cons htext (.cons hremovals (.cons hmerge .nil)),
        rfl⟩, rfl⟩, by simp [listsChildren, childrenKey]⟩
  have harray : readElement "" "Patch" (.object [("mpdId", .string "a"), ("remove", .object []),
      ("remove_asArray", .array [.object [("sel", .string "/MPD/Period")], .object []])]) =
      .ok { name := "Patch", attributes := [("mpdId", "a")], children :=
        [{ name := "remove", attributes := [("sel", "/MPD/Period")] }, { name := "remove" }] } :=
    readElement_object_eq_ok_iff.mpr ⟨_, .cons hfirst (.cons (readElement_object_nil _ _) .nil),
      rfl⟩
  have hkeyed : ofJson { orderedRoot := true } (.object [("Patch", .object [("mpdId", .string "a"),
      ("remove", .object []),
      ("remove_asArray", .array [.object [("sel", .string "/MPD/Period")], .object []])])]) =
      .ok { name := "Patch", attributes := [("mpdId", "a")], children :=
        [{ name := "remove", attributes := [("sel", "/MPD/Period")] }, { name := "remove" }] } :=
    (ofJson_object_eq_ok_iff rfl).mpr ⟨harray, fun _ _ => by decide +kernel⟩
  obtain ⟨-, -, readings, -, -, -, -, -, hskip, hindex, -⟩ := ofJson_ordered_extraction hread
  obtain ⟨top, root, readings', hv, hroot, hsource, -, -, hskip', hindex', -⟩ :=
    ofJson_ordered_extraction hkeyed
  obtain rfl := Json.object.inj hv
  obtain rfl := (Prod.mk.inj (List.cons.inj hroot).1).2
  -- the removals have values in their source, so that it is the only one
  have hnodes := (hsource.single_source rfl _ rfl (by decide)).resolve_left
    fun hnone => absurd (hnone.2 "remove" ⟨rfl, rfl, by decide⟩) (by decide)
  obtain ⟨tag, -, -, -, hnodes, hothers⟩ := hnodes
  obtain rfl : "remove" = tag := by
    by_contra hne
    exact absurd (hothers "remove" ⟨rfl, rfl, by decide⟩ hne) (by decide)
  have hdiagnostics : (Extraction.ofReadings readings).diagnostics =
      [{ index := 1, reason := .malformedSelector (.empty "") },
        { index := 2, reason := .unsupportedKind "merge" }] := by
    rw [← Except.ok.inj hskip]
    decide +kernel
  have hdiagnostics' : (Extraction.ofReadings readings').diagnostics =
      [{ index := 1, reason := .malformedSelector (.empty "") }] := by
    rw [← Except.ok.inj hskip']
    decide +kernel
  refine ⟨⟨hread, readings, hskip, (hindex 1 _).mp ?_, (hindex 2 _).mp ?_⟩,
    hkeyed, hnodes, readings', hskip', (hindex' 1 _).mp ?_⟩
  · rw [hdiagnostics]
    exact List.mem_cons_self
  · rw [hdiagnostics]
    exact List.mem_cons_of_mem _ List.mem_cons_self
  · rw [hdiagnostics']
    exact List.mem_cons_self

end Document

end ManifestPatch
