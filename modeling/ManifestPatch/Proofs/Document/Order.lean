import ManifestPatch.Proofs.Document.Reading

/-!
# The Order of a Root's Children

Where the order of the root's children matters, a root with children of several tags has to list
them. The list is an array, whose order a JSON text keeps; its entries are objects, whose key order
it does not. What is read is then made of parts, one for each entry in the order of the array. An
entry with several keys contributes children of several tags, in the order of the keys; the list is
not searched for such entries. The order comes from the array alone exactly if there are none.

## Main definitions

* `Document.Contributes`: the children that are read from one entry of a list.
* `Document.bringingKeys`: the keys of an entry that bring children.
* `Document.OneTag`: children that all have one tag.

## Main results

* `Document.Contributes.oneTag_iff`: what an entry contributes has one tag exactly if one key
  brings it.
* `Document.ofJson_ordered_parts`: a root whose order matters is made of what its entries
  contribute.
* `Document.ofJson_ordered_mixes_tags`: one entry may contribute children of two tags.
-/

namespace ManifestPatch.Document

variable {p parent : String}

/-! ### What an entry contributes -/

/-- An entry of a list **contributes** the children that are read from its nodes, in their order. -/
def Contributes (p parent : String) (entry : Json) (part : List Element) : Prop :=
  List.Forall₂ (fun node? child => readNode p parent node? = .ok child) (entryNodes entry) part

/-- Whether a value is an array of nothing, and brings no child. -/
def isEmptyArray : Json → Bool
  | .array [] => true
  | _ => false

/-- The keys of an entry that **bring children**: those that do not begin with `#`, unless there is
an empty array under them. -/
def bringingKeys : Json → List String
  | .object fields =>
    ((childFields fields).filter fun field => !isEmptyArray field.2).map Prod.fst
  | _ => []

/-- Children are of **one tag**. -/
def OneTag (part : List Element) : Prop :=
  ∀ a ∈ part, ∀ b ∈ part, a.name = b.name

/-- A value brings nodes of its tag, and of no other, unless it is an empty array. -/
theorem mem_tags_nodesUnder {key tag : String} {v : Json} :
    (∃ node ∈ nodesUnder key v, node.tag = tag) ↔ key = tag ∧ isEmptyArray v = false := by
  cases v with
  | array items =>
      cases items with
      | nil => simp [nodesUnder, isEmptyArray]
      | cons item items => simp [nodesUnder, isEmptyArray]
  | null | bool _ | number _ | string _ | object _ => simp [nodesUnder, isEmptyArray]

/-- The nodes of an object in a list are those of its fields that are children. -/
theorem ok_mem_entryNodes_object {fields : List (String × Json)} {node : Node} :
    .ok node ∈ entryNodes (.object fields) ↔
      ∃ field ∈ childFields fields, node ∈ nodesUnder field.1 field.2 := by
  simp [entryNodes]

/-- The keys that bring children are the tags of the nodes. -/
theorem mem_bringingKeys_iff {entry : Json} {tag : String} :
    tag ∈ bringingKeys entry ↔ ∃ node, .ok node ∈ entryNodes entry ∧ node.tag = tag := by
  cases entry with
  | object fields =>
      simp only [bringingKeys, List.mem_map, List.mem_filter, Bool.not_eq_true',
        ok_mem_entryNodes_object]
      constructor
      · rintro ⟨field, ⟨hfield, harray⟩, htag⟩
        obtain ⟨node, hnode, rfl⟩ := mem_tags_nodesUnder.mpr ⟨htag, harray⟩
        exact ⟨node, ⟨field, hfield, hnode⟩, rfl⟩
      · rintro ⟨node, ⟨field, hfield, hnode⟩, rfl⟩
        obtain ⟨htag, harray⟩ := mem_tags_nodesUnder.mp ⟨node, hnode, rfl⟩
        exact ⟨field, ⟨hfield, harray⟩, htag⟩
  | null | bool _ | number _ | string _ | array _ => simp [bringingKeys, entryNodes]

/-- The tags of what an entry contributes are the keys that bring children. -/
theorem Contributes.mem_bringingKeys_iff {entry : Json} {part : List Element}
    (h : Contributes p parent entry part) {tag : String} :
    tag ∈ bringingKeys entry ↔ ∃ child ∈ part, child.name = tag := by
  rw [Document.mem_bringingKeys_iff]
  constructor
  · rintro ⟨node, hnode, rfl⟩
    obtain ⟨child, hchild, hread⟩ := exists_of_forall₂_of_mem h.flip hnode
    exact ⟨child, hchild, name_eq_of_readElement hread⟩
  · rintro ⟨child, hchild, rfl⟩
    obtain ⟨node?, hnode, hread⟩ := exists_of_forall₂_of_mem h hchild
    cases node? with
    | ok node => exact ⟨node, hnode, (name_eq_of_readElement hread).symm⟩
    | error found => exact absurd hread readNode_error_ne_ok

/-- **What an entry contributes has one tag** exactly if one key brings it. -/
theorem Contributes.oneTag_iff {entry : Json} {part : List Element}
    (h : Contributes p parent entry part) :
    OneTag part ↔ ∀ key ∈ bringingKeys entry, ∀ key' ∈ bringingKeys entry, key = key' := by
  simp only [h.mem_bringingKeys_iff]
  constructor
  · rintro htag key ⟨a, ha, rfl⟩ key' ⟨b, hb, rfl⟩
    exact htag a ha b hb
  · intro hkey a ha b hb
    exact hkey a.name ⟨a, ha, rfl⟩ b.name ⟨b, hb, rfl⟩

/-! ### The whole list -/

/-- Children that are listed come in parts, as the entries contribute them. -/
theorem forall₂_readNode_listed {fields : List (String × Json)} {entries : List Json}
    {children : List Element} (hlist : fields.lookup childrenKey = some (.array entries)) :
    List.Forall₂ (fun node? child => readNode p parent node? = .ok child) (nodes p fields)
        children ↔
      ∃ parts, List.Forall₂ (Contributes p parent) entries parts ∧ children = parts.flatten := by
  rw [nodes, hlist]
  exact forall₂_flatMap_left_iff

/-- An object that lists its children, and is read, has them in an array. -/
theorem exists_entries_of_listsChildren {name : String} {root : Json} {e : Element}
    (hread : readElement p name root = .ok e) (hlists : listsChildren root = true) :
    ∃ fields entries, root = .object fields ∧
      fields.lookup childrenKey = some (.array entries) := by
  cases root with
  | object fields =>
      obtain ⟨children, hchildren, -⟩ := readElement_object_eq_ok_iff.mp hread
      cases hl : fields.lookup childrenKey with
      | none => simp [listsChildren, hl] at hlists
      | some v =>
          cases v with
          | array entries => exact ⟨fields, entries, rfl, hl⟩
          | null | bool _ | number _ | string _ | object _ =>
              -- any other value gives a single node, which is an error
              simp [nodes, hl, List.forall₂_cons_left_iff] at hchildren
  | null | bool _ | number _ | string _ | array _ => simp [listsChildren] at hlists

/-- Children of different tags make for more than one tag. -/
theorem one_lt_length_childTags {e a b : Element} (ha : a ∈ e.children) (hb : b ∈ e.children)
    (hne : a.name ≠ b.name) : 1 < (childTags e).length :=
  Keyed.one_lt_length_sortedDistinct (List.mem_map_of_mem ha) (List.mem_map_of_mem hb) hne

/-- An object without fields is an element without anything. -/
theorem readElement_object_nil (p name : String) :
    readElement p name (.object []) = .ok { name } :=
  readElement_object_of_nodes_eq_nil p name rfl

/-- **A root whose order matters** and whose children are of several tags lists them in an array.
It is made of what the entries contribute, in the order of the array. No entry contributes children
of two tags exactly if in none of them two keys bring children. -/
theorem ofJson_ordered_parts {v : Json} {e : Element}
    (h : ofJson { attributePrefix := p, orderedRoot := true } v = .ok e)
    (htags : ∃ a ∈ e.children, ∃ b ∈ e.children, a.name ≠ b.name) :
    ∃ top fields entries parts, v = .object top ∧
      (top.filter fun field => isRootKey field.1) = [(e.name, .object fields)] ∧
      fields.lookup childrenKey = some (.array entries) ∧
      List.Forall₂ (Contributes p e.name) entries parts ∧ e.children = parts.flatten ∧
      ((∀ part ∈ parts, OneTag part) ↔
        ∀ entry ∈ entries, ∀ key ∈ bringingKeys entry, ∀ key' ∈ bringingKeys entry,
          key = key') := by
  obtain ⟨a, ha, b, hb, hne⟩ := htags
  obtain ⟨top, root, rfl, hroot, hread, hordered⟩ := ofJson_eq_ok_iff.mp h
  have hlists : listsChildren root = true := by
    rw [← Bool.not_eq_false]
    intro hunlisted
    exact absurd (hordered rfl hunlisted) (Nat.not_le.mpr (one_lt_length_childTags ha hb hne))
  obtain ⟨fields, entries, rfl, hentries⟩ := exists_entries_of_listsChildren hread hlists
  obtain ⟨children, hchildren, he⟩ := readElement_object_eq_ok_iff.mp hread
  obtain ⟨parts, hparts, rfl⟩ := (forall₂_readNode_listed hentries).mp hchildren
  refine ⟨top, fields, entries, parts, rfl, hroot, hentries, hparts, ?_, ?_, ?_⟩
  · rw [he, Element.children_setAttributes]
  · intro htag entry hentry
    obtain ⟨part, hpart, hcontributes⟩ := exists_of_forall₂_of_mem hparts.flip hentry
    exact (Contributes.oneTag_iff hcontributes).mp (htag part hpart)
  · intro hkey part hpart
    obtain ⟨entry, hentry, hcontributes⟩ := exists_of_forall₂_of_mem hparts hpart
    exact hcontributes.oneTag_iff.mpr (hkey entry hentry)

/-- A comment, an array of one kind of edit and an empty array of another make one part. -/
theorem ofJson_ordered_parts_array :
    ofJson { orderedRoot := true } (.object [("Patch", .object [("__children", .array
        [.object [("remove", .object [])], .object [("#text", .object []),
          ("add", .array [.object [], .object []]), ("replace", .array [])]])])]) =
        .ok { name := "Patch", children := [{ name := "remove" }, { name := "add" },
          { name := "add" }] } ∧
      ∃ parts, [({ name := "remove" } : Element), { name := "add" }, { name := "add" }] =
          parts.flatten ∧
        List.Forall₂ (Contributes "" "Patch")
          [.object [("remove", .object [])], .object [("#text", .object []),
            ("add", .array [.object [], .object []]), ("replace", .array [])]] parts ∧
        ∀ part ∈ parts, OneTag part := by
  have hfirst : Contributes "" "Patch" (.object [("remove", .object [])]) [{ name := "remove" }] :=
    List.Forall₂.cons (readElement_object_nil _ _) List.Forall₂.nil
  have hsecond : Contributes "" "Patch" (.object [("#text", .object []),
      ("add", .array [.object [], .object []]), ("replace", .array [])])
      [{ name := "add" }, { name := "add" }] :=
    List.Forall₂.cons (readElement_object_nil _ _)
      (List.Forall₂.cons (readElement_object_nil _ _) List.Forall₂.nil)
  have hread : ofJson { orderedRoot := true } (.object [("Patch", .object [("__children", .array
      [.object [("remove", .object [])], .object [("#text", .object []),
        ("add", .array [.object [], .object []]), ("replace", .array [])]])])]) =
      .ok { name := "Patch", children := [{ name := "remove" }, { name := "add" },
        { name := "add" }] } := by
    refine (ofJson_object_eq_ok_iff rfl).mpr ⟨readElement_object_eq_ok_iff.mpr ⟨_,
      (forall₂_readNode_listed rfl).mpr ⟨_, List.Forall₂.cons hfirst (List.Forall₂.cons hsecond
        List.Forall₂.nil), rfl⟩, rfl⟩, by simp [listsChildren, childrenKey]⟩
  obtain ⟨top, fields, entries, parts, htop, hkey, hentries, hparts, hflatten, htag⟩ :=
    ofJson_ordered_parts hread
      ⟨{ name := "remove" }, by simp, { name := "add" }, by simp, by simp⟩
  cases htop
  cases hkey
  cases hentries
  refine ⟨hread, parts, hflatten, hparts, htag.mpr ?_⟩
  decide

/-- **One entry may contribute children of two tags.** Whether an edit is written before or after
another one in the same entry, the entry is the same, and the root is read as having them in the
order of their tags. -/
theorem ofJson_ordered_mixes_tags :
    Json.ofFields [("remove", .object []), ("add", .object [])] =
        .object [("add", .object []), ("remove", .object [])] ∧
      ofJson { orderedRoot := true } (.object [("Patch", .object [("__children",
          .array [.object [("add", .object []), ("remove", .object [])]])])]) =
        .ok { name := "Patch", children := [{ name := "add" }, { name := "remove" }] } ∧
      Contributes "" "Patch" (.object [("add", .object []), ("remove", .object [])])
        [{ name := "add" }, { name := "remove" }] ∧
      ¬ OneTag [{ name := "add" }, { name := "remove" }] := by
  have hentry : Contributes "" "Patch" (.object [("add", .object []), ("remove", .object [])])
      [{ name := "add" }, { name := "remove" }] :=
    List.Forall₂.cons (readElement_object_nil _ _)
      (List.Forall₂.cons (readElement_object_nil _ _) List.Forall₂.nil)
  have hroot : readElement "" "Patch" (.object [("__children",
      .array [.object [("add", .object []), ("remove", .object [])]])]) =
        .ok { name := "Patch", children := [{ name := "add" }, { name := "remove" }] } :=
    readElement_object_eq_ok_iff.mpr ⟨_, hentry, rfl⟩
  refine ⟨rfl, (ofJson_object_eq_ok_iff rfl).mpr ⟨hroot, by simp [listsChildren, childrenKey]⟩,
    hentry, ?_⟩
  simp [OneTag]

end ManifestPatch.Document
