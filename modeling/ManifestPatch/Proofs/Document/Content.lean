import ManifestPatch.Proofs.Document.Reading

/-!
# What an Object Holds at One Node

Whatever form the children are written in, the attributes and the text of a node stand in its
object in one way: an attribute under its name with the prefix before it, the text under `__text`.
All keys of an object share one space, so names can get in each other's way. Elements whose names
do not are **fitting**, and an object that holds the data of a fitting element is read as having
that data, with the attributes in the order of their names.

## Main definitions

* `Document.Fits`: no name at a node is taken for something else.
* `Document.contentFields`: the fields of the attributes and the text.
* `Document.Holds`: an object has those fields, and others under given keys only.

## Main results

* `Document.isBookkeeping_append_iff`: when bookkeeping arises by appending.
* `Document.ascending_attributes`: the attributes of an object are in the order of their names.
* `Document.attribute?_eq_some_iff`: which attribute of a name an object is read as having.
* `Document.Holds.readElement_eq_ok`: an object that holds the data of an element is read as having
  them.
* `Document.holds_ofPairs`: such objects exist.
-/

namespace ManifestPatch.Document

variable {p : String} {e : Element} {others : String → Prop} {fields : List (String × Json)}

/-! ### Markers of keys -/

/-- A key that is made with the ending has it. -/
@[simp] theorem endsWith_append_arrayEnding (tag : String) :
    Text.endsWith arrayEnding (tag ++ arrayEnding) = true :=
  Text.endsWith_iff.mpr ⟨tag, rfl⟩

/-- A text that does not end so is no key that is made with the ending. -/
theorem ne_append_arrayEnding {key : String} (h : Text.endsWith arrayEnding key = false)
    (tag : String) : key ≠ tag ++ arrayEnding := by
  rintro rfl
  simp at h

@[simp] theorem isBookkeeping_textKey : isBookkeeping textKey = true := rfl

@[simp] theorem isBookkeeping_childrenKey : isBookkeeping childrenKey = true := rfl

/-- A key that is no bookkeeping differs from one that is. -/
theorem ne_of_isBookkeeping {key marker : String} (h : isBookkeeping key = false)
    (hmarker : isBookkeeping marker = true) : key ≠ marker := by
  rintro rfl
  exact absurd (h.symm.trans hmarker) nofun

/-- **When bookkeeping arises by appending** to a text that is none: exactly if the text is one
underscore, and what is appended begins with another. -/
theorem isBookkeeping_append_iff {s t : String} (h : isBookkeeping s = false) (hne : s ≠ "") :
    isBookkeeping (s ++ t) = true ↔ s = "_" ∧ Text.startsWith "_" t = true := by
  have hempty : s.toList ≠ [] := fun heq => hne (String.toList_injective heq)
  have hone : s = "_" ↔ s.toList = ['_'] := String.toList_inj.symm
  rw [hone]
  revert h hempty
  simp only [isBookkeeping, Text.startsWith, Text.afterStart?, String.toList_append]
  -- the markers are looked for in the first two characters of the whole
  rcases s.toList with _ | ⟨a, _ | ⟨b, rest⟩⟩
  · simp
  · intro hhash _
    have hhash : '#' ≠ a := by simpa [Text.dropStart?] using hhash
    cases t.toList with
    | nil => simp [Text.dropStart?, hhash]
    | cons b rest => by_cases ha : '_' = a <;> by_cases hb : '_' = b <;> grind [Text.dropStart?]
  · simp [Text.dropStart?]

/-! ### Attributes of an object -/

/-- **What field is which attribute**: one with a scalar value whose key is the name with the
prefix before it, and is marked as nothing else. -/
theorem fieldAttribute?_eq_some_iff {field : String × Json} {pair : String × String} :
    fieldAttribute? p field = some pair ↔
      isBookkeeping field.1 = false ∧ Text.endsWith arrayEnding field.1 = false ∧
        field.1 = p ++ pair.1 ∧ field.2.scalarText? = some pair.2 := by
  obtain ⟨name, text⟩ := pair
  rw [← Text.afterStart?_eq_some_iff, fieldAttribute?]
  cases isBookkeeping field.1 <;> cases Text.endsWith arrayEnding field.1 <;>
    cases Text.afterStart? p field.1 <;> cases field.2.scalarText? <;> simp

/-- A key has no array form if there is nothing under the key of the array. -/
theorem hasArrayForm_eq_false_iff {key : String} :
    hasArrayForm fields key = false ↔ fields.lookup (key ++ arrayEnding) = none := by
  rw [hasArrayForm, Option.isSome_eq_false_iff, Option.isNone_iff_eq_none]

/-- With neither a list of children nor an array of its own, a field stands back behind none. -/
theorem isShadowed_eq_false {key : String} (hunlisted : fields.lookup childrenKey = none)
    (habsent : fields.lookup (key ++ arrayEnding) = none) : isShadowed fields key = false := by
  rw [isShadowed, hunlisted]
  exact hasArrayForm_eq_false_iff.mpr habsent

/-- The attributes of an object are those fields that do not stand back behind a child. -/
theorem mem_attributes_iff {pair : String × String} :
    pair ∈ attributes p fields ↔
      ∃ field ∈ fields, isShadowed fields field.1 = false ∧
        fieldAttribute? p field = some pair := by
  simp only [attributes, List.mem_filterMap, Option.ite_none_left_eq_some, Bool.not_eq_true]

/-- What follows a common beginning is in the order of the whole texts. -/
theorem lt_of_append_lt_append {a b : String} (h : p ++ a < p ++ b) : a < b := by
  refine Classical.byContradiction fun hge => ?_
  by_cases hlt : b < a
  · exact String.lt_irrefl _ (String.lt_trans h (append_lt_append p hlt))
  · obtain rfl : a = b := String.le_antisymm (String.not_lt.mp hlt) (String.not_lt.mp hge)
    exact String.lt_irrefl _ h

/-- **The attributes of an object** are in the order of their names, which the prefix does not
change. -/
theorem ascending_attributes (h : Keyed.Ascending fields) :
    Keyed.Ascending (attributes p fields) := by
  refine List.Pairwise.filterMap _ ?_ h
  intro field field' hlt pair hpair pair' hpair'
  simp only [Option.ite_none_left_eq_some] at hpair hpair'
  rw [(fieldAttribute?_eq_some_iff.mp hpair.2).2.2.1,
    (fieldAttribute?_eq_some_iff.mp hpair'.2).2.2.1] at hlt
  exact lt_of_append_lt_append hlt

/-- **The attribute of a name** is the scalar under the name with the prefix before it, unless that
key is marked as something else or stands back behind a child. -/
theorem attribute?_eq_some_iff (h : Keyed.Ascending fields) {parent : String}
    (hread : readElement p parent (.object fields) = .ok e) {name text : String} :
    e.attribute? name = some text ↔
      isShadowed fields (p ++ name) = false ∧ isBookkeeping (p ++ name) = false ∧
        Text.endsWith arrayEnding (p ++ name) = false ∧
          ∃ v, fields.lookup (p ++ name) = some v ∧ v.scalarText? = some text := by
  obtain ⟨children, -, rfl⟩ := readElement_object_eq_ok_iff.mp hread
  rw [Element.setAttributes_of_nodup rfl (ascending_attributes h).nodup_keys, Element.attribute?,
    ← (ascending_attributes h).mem_iff_lookup_eq_some, mem_attributes_iff]
  constructor
  · rintro ⟨⟨key, v⟩, hfield, hshown, hattribute⟩
    obtain ⟨hbook, hend, rfl, htext⟩ := fieldAttribute?_eq_some_iff.mp hattribute
    exact ⟨hshown, hbook, hend, v, h.mem_iff_lookup_eq_some.mp hfield, htext⟩
  · rintro ⟨hshown, hbook, hend, v, hl, htext⟩
    exact ⟨(p ++ name, v), h.mem_iff_lookup_eq_some.mpr hl, hshown,
      fieldAttribute?_eq_some_iff.mpr ⟨hbook, hend, rfl, htext⟩⟩

/-! ### Holding the data of an element -/

/-- An element **fits** the prefix if no name at this node is taken for something else: attributes
and children are no bookkeeping, and the key of an attribute is neither that of an array nor that
of a child. -/
structure Fits (p : String) (e : Element) : Prop where
  nodup_names : (e.attributes.map Prod.fst).Nodup
  attribute_not_bookkeeping : ∀ pair ∈ e.attributes, isBookkeeping (p ++ pair.1) = false
  attribute_not_array : ∀ pair ∈ e.attributes, Text.endsWith arrayEnding (p ++ pair.1) = false
  attribute_ne_child : ∀ pair ∈ e.attributes, ∀ child ∈ e.children, p ++ pair.1 ≠ child.name
  child_not_bookkeeping : ∀ child ∈ e.children, isBookkeeping child.name = false

/-- The fields of an element's attributes and of its text. -/
def contentFields (p : String) (e : Element) : List (String × Json) :=
  e.attributes.map (fun pair => (p ++ pair.1, .string pair.2)) ++
    (e.text.map fun text => (textKey, .string text)).toList

/-- A key that may stand for children: the name of one, alone or with the ending of arrays. -/
def IsChildKey (e : Element) (key : String) : Prop :=
  ∃ child ∈ e.children, key = child.name ∨ key = child.name ++ arrayEnding

/-- An object **holds** the attributes and the text of an element, beside fields under other
keys. -/
structure Holds (p : String) (e : Element) (others : String → Prop)
    (fields : List (String × Json)) : Prop where
  ascending : Keyed.Ascending fields
  content : ∀ field ∈ contentFields p e, field ∈ fields
  rest : ∀ field ∈ fields, field ∈ contentFields p e ∨ others field.1

/-- A field of the content is an attribute or the text. -/
theorem mem_contentFields_iff {field : String × Json} :
    field ∈ contentFields p e ↔
      (∃ pair ∈ e.attributes, field = (p ++ pair.1, .string pair.2)) ∨
        ∃ text, e.text = some text ∧ field = (textKey, .string text) := by
  simp only [contentFields, List.mem_append, List.mem_map, Option.mem_toList,
    Option.map_eq_some_iff, eq_comm (b := field)]

/-- The keys of the content. -/
theorem mem_keys_contentFields {key : String} (h : key ∈ (contentFields p e).map Prod.fst) :
    (∃ pair ∈ e.attributes, key = p ++ pair.1) ∨ key = textKey := by
  obtain ⟨field, hfield, rfl⟩ := List.mem_map.mp h
  rcases mem_contentFields_iff.mp hfield with ⟨pair, hpair, rfl⟩ | ⟨text, -, rfl⟩
  · exact .inl ⟨pair, hpair, rfl⟩
  · exact .inr rfl

/-- The keys of an object that holds the content. -/
theorem Holds.key_cases (h : Holds p e others fields) {key : String} {v : Json}
    (hl : fields.lookup key = some v) :
    (∃ pair ∈ e.attributes, key = p ++ pair.1) ∨ key = textKey ∨ others key := by
  rw [← or_assoc]
  refine (h.rest (key, v) (h.ascending.mem_iff_lookup_eq_some.mpr hl)).imp_left fun hcontent => ?_
  exact mem_keys_contentFields (List.mem_map_of_mem hcontent)

/-- The field of an attribute is that attribute. -/
theorem Fits.fieldAttribute?_eq (hfits : Fits p e) {pair : String × String}
    (hpair : pair ∈ e.attributes) :
    fieldAttribute? p (p ++ pair.1, .string pair.2) = some pair :=
  fieldAttribute?_eq_some_iff.mpr ⟨hfits.attribute_not_bookkeeping pair hpair,
    hfits.attribute_not_array pair hpair, rfl, rfl⟩

/-- Where bookkeeping has its fields, there is no attribute. -/
theorem fieldAttribute?_of_isBookkeeping {field : String × Json}
    (h : isBookkeeping field.1 = true) : fieldAttribute? p field = none := by
  rw [fieldAttribute?, h, Bool.true_or, if_pos rfl]

/-- An array of children is no attribute. -/
theorem fieldAttribute?_of_endsWith {field : String × Json}
    (h : Text.endsWith arrayEnding field.1 = true) : fieldAttribute? p field = none := by
  rw [fieldAttribute?, h, Bool.or_true, if_pos rfl]

/-- An object that holds an element's attributes has these, in the order of their names, if no
other field is taken for one and none of them stands back. -/
theorem Holds.attributes_eq (h : Holds p e others fields) (hfits : Fits p e)
    (hseen : ∀ pair ∈ e.attributes, isShadowed fields (p ++ pair.1) = false)
    (hothers : ∀ field ∈ fields, others field.1 →
      isShadowed fields field.1 = true ∨ fieldAttribute? p field = none) :
    attributes p fields = Element.sortByName e.attributes := by
  refine Element.eq_sortByName hfits.nodup_names (ascending_attributes h.ascending) fun pair => ?_
  rw [mem_attributes_iff]
  constructor
  · rintro ⟨field, hfield, hshown, hpair⟩
    rcases h.rest field hfield with hcontent | hother
    · rcases mem_contentFields_iff.mp hcontent with ⟨pair', hpair', rfl⟩ | ⟨text, -, rfl⟩
      · rw [hfits.fieldAttribute?_eq hpair'] at hpair
        exact Option.some.inj hpair ▸ hpair'
      · rw [fieldAttribute?_of_isBookkeeping isBookkeeping_textKey] at hpair
        exact absurd hpair nofun
    · rcases hothers field hfield hother with hshadowed | hnone
      · exact absurd (hshadowed.symm.trans hshown) nofun
      · exact absurd (hnone.symm.trans hpair) nofun
  · intro hpair
    refine ⟨(p ++ pair.1, .string pair.2), h.content _ ?_, hseen pair hpair,
      hfits.fieldAttribute?_eq hpair⟩
    exact mem_contentFields_iff.mpr (.inl ⟨pair, hpair, rfl⟩)

/-- An object that holds an element's text, or that it has none, has that text. -/
theorem Holds.text?_eq (h : Holds p e others fields) (hfits : Fits p e)
    (hothers : ¬ others textKey) : text? fields = e.text := by
  cases htext : e.text with
  | some text =>
      have hfield := h.content (textKey, .string text)
        (mem_contentFields_iff.mpr (.inr ⟨text, htext, rfl⟩))
      rw [text?, h.ascending.mem_iff_lookup_eq_some.mp hfield]
      rfl
  | none =>
      suffices habsent : fields.lookup textKey = none by
        rw [text?, habsent]
        rfl
      rw [Option.eq_none_iff_forall_ne_some]
      intro v hv
      have hfield := h.ascending.mem_iff_lookup_eq_some.mpr hv
      rcases h.rest _ hfield with hcontent | hother
      · rcases mem_contentFields_iff.mp hcontent with ⟨pair, hpair, heq⟩ | ⟨text, hsome, -⟩
        · exact ne_of_isBookkeeping (hfits.attribute_not_bookkeeping pair hpair)
            isBookkeeping_textKey (Prod.mk.inj heq).1.symm
        · exact absurd (hsome.symm.trans htext) nofun
      · exact hothers hother

/-- **An object that holds the data of an element** is read as having them, with the children that
its nodes are read as. -/
theorem Holds.readElement_eq_ok (h : Holds p e others fields) (hfits : Fits p e)
    (htext : ¬ others textKey)
    (hseen : ∀ pair ∈ e.attributes, isShadowed fields (p ++ pair.1) = false)
    (hothers : ∀ field ∈ fields, others field.1 →
      isShadowed fields field.1 = true ∨ fieldAttribute? p field = none)
    {children : List Element}
    (hchildren : List.Forall₂ (fun node? child => readNode p e.name node? = .ok child)
      (nodes p fields) children) :
    readElement p e.name (.object fields) =
      .ok { e with attributes := Element.sortByName e.attributes, children } := by
  refine readElement_object_eq_ok_iff.mpr ⟨children, hchildren, ?_⟩
  rw [Element.setAttributes_of_nodup rfl (ascending_attributes h.ascending).nodup_keys,
    h.attributes_eq hfits hseen hothers, h.text?_eq hfits htext]

/-- A key for children is not the key of the text. -/
theorem IsChildKey.ne_textKey (hfits : Fits p e) {key : String} (h : IsChildKey e key) :
    key ≠ textKey := by
  rintro rfl
  obtain ⟨child, hchild, heq | heq⟩ := h
  · exact ne_of_isBookkeeping (hfits.child_not_bookkeeping child hchild) isBookkeeping_textKey
      heq.symm
  · exact ne_append_arrayEnding rfl _ heq

/-! ### Making such an object -/

/-- The content of a fitting element has no key twice. -/
theorem Fits.nodup_keys_contentFields (hfits : Fits p e) :
    ((contentFields p e).map Prod.fst).Nodup := by
  rw [contentFields, List.map_append, List.nodup_append]
  refine ⟨?_, ?_, ?_⟩
  · have hnames := hfits.nodup_names.map (fun a b => (String.append_right_inj p).mp)
    simpa [Function.comp_def] using hnames
  · cases e.text <;> simp
  · intro key hkey key' htext heq
    obtain ⟨pair, hpair, rfl⟩ : ∃ pair ∈ e.attributes, p ++ pair.1 = key := by
      simpa using hkey
    have hkey' : key' = textKey := by
      cases ht : e.text <;> simp [ht] at htext
      exact htext
    exact ne_of_isBookkeeping (hfits.attribute_not_bookkeeping pair hpair) isBookkeeping_textKey
      (heq.trans hkey')

/-- **An object made from the content** and from fields under other keys holds the content, and
finds the other fields under their keys. -/
theorem holds_ofPairs (hfits : Fits p e) (others : String → Prop) (extra : List (String × Json))
    (hextra : (extra.map Prod.fst).Nodup)
    (hdisjoint : ∀ key ∈ extra.map Prod.fst, key ∉ (contentFields p e).map Prod.fst)
    (hothers : ∀ field ∈ extra, others field.1) :
    Holds p e others (Keyed.ofPairs (contentFields p e ++ extra)) ∧
      ∀ field ∈ extra,
        (Keyed.ofPairs (contentFields p e ++ extra)).lookup field.1 = some field.2 := by
  have hnodup : ((contentFields p e ++ extra).map Prod.fst).Nodup := by
    rw [List.map_append, List.nodup_append]
    refine ⟨hfits.nodup_keys_contentFields, hextra, ?_⟩
    rintro key hkey key' hkey' rfl
    exact hdisjoint key hkey' hkey
  have hascending := Keyed.ascending_ofPairs (contentFields p e ++ extra)
  refine ⟨⟨hascending, ?_, ?_⟩, ?_⟩
  · intro field hfield
    exact (Keyed.mem_ofPairs hnodup).mpr (List.mem_append_left _ hfield)
  · intro field hfield
    exact (List.mem_append.mp ((Keyed.mem_ofPairs hnodup).mp hfield)).imp_right (hothers field)
  · intro field hfield
    rw [← hascending.mem_iff_lookup_eq_some]
    exact (Keyed.mem_ofPairs hnodup).mpr (List.mem_append_right _ hfield)

end ManifestPatch.Document
