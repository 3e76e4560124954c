import ManifestPatch.Proofs.Document.Content
import ManifestPatch.Proofs.Element.Alike

/-!
# Reading Back a Tree with Listed Children

A tree is written with every node's children in an array, each in an object under its name; copies
of them may stand under their names beside it, whatever these are. Reading such an object gives the
tree back: every child in its place among all the others, every text, also an empty one, and every
attribute, with the attributes of a node in the order of their names.

## Main definitions

* `Document.ListedForm`: a value is a tree written with its children listed.

## Main results

* `Document.ListedForm.readElement_eq_ok`: a tree is read back from its listed form.
* `Document.listed_reads_back`: fitting trees have listed forms, and are read back from each as
  elements and as documents.
-/

namespace ManifestPatch.Document

variable {p : String} {e : Element} {fields : List (String × Json)}

/-! ### The form -/

/-- An entry of a list: a child under its name. -/
def entryOf (child : Element) (v : Json) : Json :=
  .object [(child.name, v)]

/-- A value is an element in **listed form**: an object that holds its data and lists its children
in their order, each in listed form. Any values may stand under the keys that the keyed form has
for children. -/
inductive ListedForm (p : String) : Element → Json → Prop
  | node {e : Element} {fields : List (String × Json)} {values : List Json}
      (holds : Holds p e (fun key => key = childrenKey ∨ IsChildKey e key) fields)
      (listed : fields.lookup childrenKey =
        some (.array (List.zipWith entryOf e.children values)))
      (below : List.Forall₂ (ListedForm p) e.children values) :
      ListedForm p e (.object fields)

/-- A form is an object. -/
theorem ListedForm.exists_object {v : Json} (h : ListedForm p e v) :
    ∃ fields, v = .object fields := by
  cases h with
  | node => exact ⟨_, rfl⟩

/-! ### Entries -/

/-- A name that is no bookkeeping does not begin with `#`. -/
theorem startsWith_of_isBookkeeping {name : String} (h : isBookkeeping name = false) :
    Text.startsWith "#" name = false :=
  (Bool.or_eq_false_iff.mp h).2

/-- The field of an entry is a child. -/
theorem childFields_entry {child : Element} (h : isBookkeeping child.name = false) (v : Json) :
    childFields [(child.name, v)] = [(child.name, v)] := by
  rw [childFields, List.filter_singleton, startsWith_of_isBookkeeping h]
  rfl

/-- An entry that holds an object is one node. -/
theorem entryNodes_entryOf {child : Element} (h : isBookkeeping child.name = false)
    (fields : List (String × Json)) :
    entryNodes (entryOf child (.object fields)) = [.ok ⟨child.name, .object fields⟩] := by
  simp [entryOf, entryNodes, childFields_entry h, nodesUnder]

/-- The tags that a list of entries uses are the names of the children. -/
theorem flatMap_entryTags {children : List Element} {values : List Json}
    (hlength : children.length = values.length)
    (hnames : ∀ child ∈ children, isBookkeeping child.name = false) :
    (List.zipWith entryOf children values).flatMap entryTags = children.map Element.name := by
  induction children generalizing values with
  | nil => rfl
  | cons child children ih =>
      cases values with
      | nil => simp at hlength
      | cons v values =>
          rw [List.forall_mem_cons] at hnames
          rw [List.zipWith_cons_cons, List.flatMap_cons, List.map_cons,
            ih (Nat.succ.inj hlength) hnames.2]
          simp [entryOf, entryTags, childFields_entry hnames.1]

/-- A list of entries is read child by child. -/
theorem forall₂_readNode_entries {parent : String} {children : List Element} {values : List Json}
    (h : List.Forall₂ (ListedForm p) children values)
    (hnames : ∀ child ∈ children, isBookkeeping child.name = false)
    (hread : ∀ child ∈ children, ∀ v, ListedForm p child v →
      readElement p child.name v = .ok child.sortAttributes) :
    List.Forall₂ (fun node? child => readNode p parent node? = .ok child)
      ((List.zipWith entryOf children values).flatMap entryNodes)
      (children.map Element.sortAttributes) := by
  induction h with
  | nil => exact List.Forall₂.nil
  | @cons child v children values hchild _ ih =>
      rw [List.forall_mem_cons] at hnames hread
      obtain ⟨fields, rfl⟩ := hchild.exists_object
      rw [List.zipWith_cons_cons, List.flatMap_cons, entryNodes_entryOf hnames.1]
      exact List.Forall₂.cons (hread.1 _ hchild) (ih hnames.2 hread.2)

/-! ### Reading back -/

/-- Where children are listed, a key stands back exactly if it is a child's name. -/
theorem isShadowed_listed {values : List Json} {key : String}
    (hlength : e.children.length = values.length) (hfits : Fits p e)
    (hlist : fields.lookup childrenKey =
      some (.array (List.zipWith entryOf e.children values))) :
    isShadowed fields key = true ↔ ∃ child ∈ e.children, child.name = key := by
  simp [isShadowed, hlist, flatMap_entryTags hlength hfits.child_not_bookkeeping]

/-- **A tree is read back** from its listed form. -/
theorem ListedForm.readElement_eq_ok (hfits : e.Throughout (Fits p)) {v : Json}
    (h : ListedForm p e v) : readElement p e.name v = .ok e.sortAttributes := by
  induction e using Element.inductionOn generalizing v with
  | node e ih =>
      obtain ⟨hhere, hbelow⟩ := hfits
      cases h with
      | @node _ fields values holds listed below =>
          have hshadowed : ∀ key, isShadowed fields key = true ↔
              ∃ child ∈ e.children, child.name = key :=
            fun key => isShadowed_listed below.length_eq hhere listed
          have hchildren : List.Forall₂ (fun node? child => readNode p e.name node? = .ok child)
              (nodes p fields) (e.children.map Element.sortAttributes) := by
            rw [nodes, listed]
            exact forall₂_readNode_entries below hhere.child_not_bookkeeping
              fun child hchild _ => ih child hchild (hbelow child hchild)
          rw [holds.readElement_eq_ok hhere ?_ ?_ ?_ hchildren, Element.sortAttributes_eq]
          · rintro (hkey | hkey)
            · exact absurd hkey (by decide)
            · exact hkey.ne_textKey hhere rfl
          · intro pair hpair
            rw [← Bool.not_eq_true, hshadowed]
            rintro ⟨child, hchild, heq⟩
            exact hhere.attribute_ne_child pair hpair child hchild heq.symm
          · rintro field - (hkey | ⟨child, hchild, hkey | hkey⟩)
            · exact .inr (fieldAttribute?_of_isBookkeeping (hkey ▸ isBookkeeping_childrenKey))
            · exact .inl ((hshadowed field.1).mpr ⟨child, hchild, hkey.symm⟩)
            · exact .inr (fieldAttribute?_of_endsWith (hkey ▸ endsWith_append_arrayEnding _))

/-- A fitting tree has a listed form. -/
theorem exists_listedForm (hfits : e.Throughout (Fits p)) : ∃ v, ListedForm p e v := by
  induction e using Element.inductionOn with
  | node e ih =>
      obtain ⟨hhere, hbelow⟩ := hfits
      obtain ⟨values, hvalues⟩ := exists_forall₂ fun child hchild =>
        ih child hchild (hbelow child hchild)
      have hnew : childrenKey ∉ (contentFields p e).map Prod.fst := by
        intro hmem
        rcases mem_keys_contentFields hmem with ⟨pair, hpair, heq⟩ | heq
        · exact ne_of_isBookkeeping (hhere.attribute_not_bookkeeping pair hpair)
            isBookkeeping_childrenKey heq.symm
        · exact absurd heq (by decide)
      let list : String × Json := (childrenKey, .array (List.zipWith entryOf e.children values))
      obtain ⟨hholds, hlookup⟩ := holds_ofPairs hhere
        (fun key => key = childrenKey ∨ IsChildKey e key) [list] (by simp)
        (by simpa [list] using hnew) (by simp [list])
      exact ⟨_, ListedForm.node hholds (hlookup list List.mem_cons_self) hvalues⟩

/-- **Reading recovers every tree**: a fitting tree has listed forms, and from each of them it is
read back with the attributes of every node in the order of their names, as an element and as the
root of a document, whether or not the order of the root's children matters. -/
theorem listed_reads_back (hfits : e.Throughout (Fits p)) :
    (∃ v, ListedForm p e v) ∧
      ∀ v, ListedForm p e v →
        readElement p e.name v = .ok e.sortAttributes ∧
          (isRootKey e.name = true → ∀ orderedRoot,
            ofJson { attributePrefix := p, orderedRoot } (.object [(e.name, v)]) =
              .ok e.sortAttributes) := by
  refine ⟨exists_listedForm hfits, fun v hv => ?_⟩
  have hread := hv.readElement_eq_ok hfits
  refine ⟨hread, fun hname orderedRoot => ?_⟩
  refine (ofJson_object_eq_ok_iff (by simp [hname])).mpr ⟨hread, fun _ hunlisted => ?_⟩
  cases hv with
  | node holds listed below => simp [listsChildren, listed] at hunlisted

/-- Children of two names are read back in their places, with a copy of one of them and another
value beside the list; an empty text is kept, and a missing one stays away. -/
theorem listed_reads_back_mixed :
    ofJson { attributePrefix := "_", orderedRoot := true } (.object [("MPD", .object [
        ("A", .null),
        ("B_asArray", .array [.bool true]),
        ("__children", .array [
          .object [("B", .object [("__children", .array []), ("__text", .string "")])],
          .object [("A", .object [("__children", .array []), ("_id", .string "2")])],
          .object [("B", .object [("__children", .array [])])]]),
        ("_id", .string "1"),
        ("_type", .string "dynamic")])]) =
      .ok { name := "MPD", attributes := [("id", "1"), ("type", "dynamic")],
            children := [{ name := "B", text := some "" },
              { name := "A", attributes := [("id", "2")] }, { name := "B" }] } := by
  let first : Element := { name := "B", text := some "" }
  let second : Element := { name := "A", attributes := [("id", "2")] }
  let third : Element := { name := "B" }
  let root : Element :=
    { name := "MPD", attributes := [("type", "dynamic"), ("id", "1")]
      children := [first, second, third] }
  have hfits : root.Throughout (Fits "_") := by
    refine Element.Throughout.node (by constructor <;> decide) ?_
    simp only [root, List.forall_mem_cons]
    exact ⟨.of_children_nil (by constructor <;> decide) rfl,
      .of_children_nil (by constructor <;> decide) rfl,
      .of_children_nil (by constructor <;> decide) rfl, by simp⟩
  have hfirst : ListedForm "_" first
      (.object [("__children", .array []), ("__text", .string "")]) := by
    refine ListedForm.node ⟨by decide, ?_, ?_⟩ rfl List.Forall₂.nil
    · simp [contentFields, first, textKey]
    · simp [contentFields, first, textKey, childrenKey]
  have hsecond : ListedForm "_" second
      (.object [("__children", .array []), ("_id", .string "2")]) := by
    refine ListedForm.node ⟨by decide, ?_, ?_⟩ rfl List.Forall₂.nil
    · simp [contentFields, second]
    · simp [contentFields, second, childrenKey]
  have hthird : ListedForm "_" third (.object [("__children", .array [])]) := by
    refine ListedForm.node ⟨by decide, ?_, ?_⟩ rfl List.Forall₂.nil
    · simp [contentFields, third]
    · simp [childrenKey]
  have hroot : ListedForm "_" root (.object [
      ("A", .null),
      ("B_asArray", .array [.bool true]),
      ("__children", .array [
        .object [("B", .object [("__children", .array []), ("__text", .string "")])],
        .object [("A", .object [("__children", .array []), ("_id", .string "2")])],
        .object [("B", .object [("__children", .array [])])]]),
      ("_id", .string "1"),
      ("_type", .string "dynamic")]) := by
    refine ListedForm.node ⟨by decide, ?_, ?_⟩ rfl
      (List.Forall₂.cons hfirst (List.Forall₂.cons hsecond (List.Forall₂.cons hthird
        List.Forall₂.nil)))
    · simp [contentFields, root]
    · simp [contentFields, root, first, second, third, childrenKey, IsChildKey, arrayEnding]
  have hsorted : [("id", "1"), ("type", "dynamic")] = Element.sortByName root.attributes :=
    Element.eq_sortByName (by decide) (by decide) (by simp [root, or_comm])
  rw [((listed_reads_back hfits).2 _ hroot).2 (by decide) true, Element.sortAttributes_eq,
    ← hsorted]
  simp [root, first, second, third, Element.sortAttributes_eq, Element.sortByName]

end ManifestPatch.Document
