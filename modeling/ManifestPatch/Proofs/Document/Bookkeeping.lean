import ManifestPatch.Proofs.Document.Listed
import ManifestPatch.Proofs.Document.Tagged

/-!
# Bookkeeping Has No Effect

Parsers leave notes in the objects that they write: keys that begin with `__`, and comments and
white space under keys that begin with `#`. The reader looks up three keys of this kind by name,
for the text, the list of children, and the array of the tag that is one underscore. All others are
**inert**: with whatever value they come and go, in the wrapper, in any element and in any entry of
a list, the document is read as the same element, or refused for the same reason.

What two values have to have in common is said level by level. The relations of fields and of
entries therefore have a parameter, the relation of the values below; it is closed for values as a
whole in `Document.SameEffect`, and the descent of the reader to the values of nodes carries the
result through all levels.

## Main definitions

* `Document.isInert`: whether a key is one of bookkeeping that the reader never looks up.
* `Document.SameEffect`: two values differ in inert fields, and in entries of remarks, at any places
  and depths.
* `Document.DocumentSameEffect`: the same for documents, with the wrapper.

## Main results

* `Document.isInert_append_arrayEnding`: the ending of arrays makes no effect of bookkeeping.
* `Document.FieldsSameEffect.nodes_rel`: the nodes of two objects have the same tags.
* `Document.SameEffect.readElement_eq`: the two values are read as the same element.
* `Document.ofJson_inert`: inert fields make no difference to a document.
-/

namespace ManifestPatch.Document

/-! ### Inert keys -/

/-- The keys of bookkeeping that the reader looks up: those of the text and of the list of children,
and that of the array of the tag `_`. -/
def readerKeys : List String := [textKey, childrenKey, "_" ++ arrayEnding]

/-- A key of bookkeeping is **inert** if the reader does not look it up. -/
def isInert (key : String) : Bool :=
  isBookkeeping key && !readerKeys.contains key

/-- The fields of an object that are not inert. -/
def effectiveFields (fields : List (String × Json)) : List (String × Json) :=
  fields.filter fun field => !isInert field.1

/-- Whether an entry of a list holds nothing but **remarks**, under keys that begin with `#`. -/
def isRemarkEntry : Json → Bool
  | .object fields => (childFields fields).isEmpty
  | _ => false

/-- The entries of a list that hold something else than remarks. -/
def effectiveEntries (entries : List Json) : List Json :=
  entries.filter fun entry => !isRemarkEntry entry

/-! ### Values of the same effect -/

/-- Two fields of one key, the values of which are related. -/
inductive SameKey (R : Json → Json → Prop) : String × Json → String × Json → Prop
  | of (key : String) {v v' : Json} (h : R v v') : SameKey R (key, v) (key, v')

/-- Two entries of a list have the **same effect** if they hold the same children, or are the same
and no object. -/
inductive EntrySameEffect (R : Json → Json → Prop) : Json → Json → Prop
  | object {fields fields' : List (String × Json)}
      (h : List.Forall₂ (SameKey R) (childFields fields) (childFields fields')) :
      EntrySameEffect R (.object fields) (.object fields')
  | other {v : Json} (h : v.kind ≠ .object) : EntrySameEffect R v v

/-- Two fields have the **same effect**: of one list of children the entries do that hold something
else than remarks, and under any other key the values are related. -/
inductive FieldSameEffect (R : Json → Json → Prop) : String × Json → String × Json → Prop
  | value {key : String} (hkey : key ≠ childrenKey) {v v' : Json} (h : R v v') :
      FieldSameEffect R (key, v) (key, v')
  | list {entries entries' : List Json}
      (h : List.Forall₂ (EntrySameEffect R) (effectiveEntries entries)
        (effectiveEntries entries')) :
      FieldSameEffect R (childrenKey, .array entries) (childrenKey, .array entries')
  | other {v : Json} (h : v.kind ≠ .array) : FieldSameEffect R (childrenKey, v) (childrenKey, v)

/-- Two values have the **same effect** if they differ in inert fields, in remarks in the entries of
a list, and in entries of remarks only, at any places and depths. -/
inductive SameEffect : Json → Json → Prop
  | same (v : Json) : SameEffect v v
  | array {items items' : List Json} (h : List.Forall₂ SameEffect items items') :
      SameEffect (.array items) (.array items')
  | object {fields fields' : List (String × Json)}
      (h : List.Forall₂ (FieldSameEffect SameEffect) (effectiveFields fields)
        (effectiveFields fields')) :
      SameEffect (.object fields) (.object fields')

/-- Two documents have the **same effect** if they are the same, or wrappers that differ in inert
fields, with values of the same effect under the other keys. -/
inductive DocumentSameEffect : Json → Json → Prop
  | same (v : Json) : DocumentSameEffect v v
  | object {top top' : List (String × Json)}
      (h : List.Forall₂ (SameKey SameEffect) (effectiveFields top) (effectiveFields top')) :
      DocumentSameEffect (.object top) (.object top')

/-- The fields of two objects of the **same effect**. -/
def FieldsSameEffect (fields fields' : List (String × Json)) : Prop :=
  List.Forall₂ (FieldSameEffect SameEffect) (effectiveFields fields) (effectiveFields fields')

/-- Two nodes of one tag with values of the **same effect**. -/
structure NodeSameEffect (node node' : Node) : Prop where
  tag : node.tag = node'.tag
  value : SameEffect node.value node'.value

variable {p key tag : String} {v v' : Json} {fields fields' : List (String × Json)}
  {entries entries' : List Json} {R : Json → Json → Prop}

/-! ### Inserting fields and entries -/

theorem SameKey.refl (field : String × Json) : SameKey SameEffect field field :=
  .of field.1 (.same field.2)

theorem EntrySameEffect.refl (entry : Json) : EntrySameEffect SameEffect entry entry := by
  cases entry with
  | object fields => exact .object (List.forall₂_same.mpr fun field _ => .refl field)
  | null | bool _ | number _ | string _ | array _ => exact .other nofun

theorem FieldSameEffect.refl (field : String × Json) : FieldSameEffect SameEffect field field := by
  obtain ⟨key, v⟩ := field
  by_cases hkey : key = childrenKey
  · subst hkey
    cases v with
    | array entries => exact .list (List.forall₂_same.mpr fun entry _ => .refl entry)
    | null | bool _ | number _ | string _ | object _ => exact .other nofun
  · exact .value hkey (.same v)

/-- A field is among what is not inert by its key. -/
theorem effectiveFields_cons (key : String) (v : Json) (fields : List (String × Json)) :
    effectiveFields ((key, v) :: fields) =
      if isInert key then effectiveFields fields else (key, v) :: effectiveFields fields := by
  rw [effectiveFields, List.filter_cons]
  cases isInert key <;> rfl

/-- An insertion under an inert key is not among what is not inert. -/
theorem effectiveFields_insert (h : isInert key = true) (v : Json)
    (fields : List (String × Json)) :
    effectiveFields (Keyed.insert key v fields) = effectiveFields fields :=
  Keyed.filter_upsert (fun key => !isInert key) (by rw [h, Bool.not_true]) (fun _ => v) fields

/-- **Inserting an inert field** into an object has no effect. -/
theorem SameEffect.insert (h : isInert key = true) (v : Json) (fields : List (String × Json)) :
    SameEffect (.object fields) (.object (Keyed.insert key v fields)) := by
  refine .object ?_
  rw [effectiveFields_insert h]
  exact List.forall₂_same.mpr fun field _ => .refl field

/-- **Inserting an inert field** into the wrapper of a document has no effect. -/
theorem DocumentSameEffect.insert (h : isInert key = true) (v : Json)
    (top : List (String × Json)) :
    DocumentSameEffect (.object top) (.object (Keyed.insert key v top)) := by
  refine .object ?_
  rw [effectiveFields_insert h]
  exact List.forall₂_same.mpr fun field _ => .refl field

/-- **Inserting a remark** into an entry has no effect. -/
theorem EntrySameEffect.insert (h : Text.startsWith "#" key = true) (v : Json)
    (fields : List (String × Json)) :
    EntrySameEffect SameEffect (.object fields) (.object (Keyed.insert key v fields)) := by
  refine .object ?_
  rw [childFields, childFields,
    Keyed.insert, Keyed.filter_upsert (fun key => !Text.startsWith "#" key) (by rw [h, Bool.not_true])]
  exact List.forall₂_same.mpr fun field _ => .refl field

/-- **Inserting an entry of remarks** into a list has no effect. -/
theorem FieldSameEffect.insert_entry {entry : Json} (h : isRemarkEntry entry = true)
    (before after : List Json) :
    FieldSameEffect SameEffect (childrenKey, .array (before ++ after))
      (childrenKey, .array (before ++ entry :: after)) := by
  refine .list ?_
  rw [effectiveEntries, effectiveEntries, List.filter_append, List.filter_append,
    List.filter_cons_of_neg (by simp [h])]
  exact List.forall₂_same.mpr fun entry _ => .refl entry

/-! ### Keys -/

/-- What is inert is bookkeeping. -/
theorem isBookkeeping_of_isInert (h : isInert key = true) : isBookkeeping key = true :=
  (Bool.and_eq_true_iff.mp h).1

/-- What is no bookkeeping is not inert. -/
theorem isInert_of_isBookkeeping (h : isBookkeeping key = false) : isInert key = false := by
  rw [isInert, h, Bool.false_and]

/-- What begins with `#` is bookkeeping. -/
theorem isBookkeeping_of_remark (h : Text.startsWith "#" key = true) :
    isBookkeeping key = true := by
  rw [isBookkeeping, h, Bool.or_true]

/-- What begins with `#` is inert. -/
theorem isInert_of_remark (h : Text.startsWith "#" key = true) : isInert key = true := by
  have hread : readerKeys.contains key = false := by
    refine Bool.eq_false_iff.mpr fun hmem => ?_
    have hnone : ∀ key ∈ readerKeys, Text.startsWith "#" key = false := by decide
    exact absurd (h.symm.trans (hnone key (List.contains_iff_mem.mp hmem))) nofun
  rw [isInert, isBookkeeping_of_remark h, hread]
  rfl

/-- What is appended to bookkeeping leaves it bookkeeping. -/
theorem isBookkeeping_append (h : isBookkeeping tag = true) (rest : String) :
    isBookkeeping (tag ++ rest) = true := by
  simp only [isBookkeeping, Bool.or_eq_true, Text.startsWith_iff] at h ⊢
  rcases h with ⟨after, rfl⟩ | ⟨after, rfl⟩
  · exact .inl ⟨after ++ rest, String.append_assoc ..⟩
  · exact .inr ⟨after ++ rest, String.append_assoc ..⟩

/-- **The key of an array** is inert exactly if the tag is bookkeeping: the array form of a note is a
note, and the one of anything else is read. -/
theorem isInert_append_arrayEnding (tag : String) :
    isInert (tag ++ arrayEnding) = isBookkeeping tag := by
  cases hbook : isBookkeeping tag with
  | false =>
      by_cases hunderscore : tag = "_"
      · subst hunderscore
        decide
      · exact isInert_of_isBookkeeping (isBookkeeping_append_arrayEnding hbook hunderscore)
  | true =>
      have hread : tag ++ arrayEnding ∉ readerKeys := by
        simp only [readerKeys, List.mem_cons, List.not_mem_nil, or_false, not_or]
        refine ⟨Ne.symm (ne_append_arrayEnding rfl tag), Ne.symm (ne_append_arrayEnding rfl tag), ?_⟩
        -- the one array that is looked up is that of a tag that is no bookkeeping
        intro heq
        rw [(String.append_left_inj _).mp heq] at hbook
        exact absurd hbook (by decide)
      rw [isInert, isBookkeeping_append hbook, Bool.true_and, Bool.not_eq_true',
        ← Bool.not_eq_true, List.contains_iff_mem]
      exact hread

/-! ### Values -/

theorem NodeSameEffect.refl (node : Node) : NodeSameEffect node node :=
  ⟨rfl, .same node.value⟩

/-- Values of the same effect are the same if they are scalars. -/
theorem SameEffect.scalarText?_eq (h : SameEffect v v') : v.scalarText? = v'.scalarText? := by
  cases h with
  | same | array _ | object _ => rfl

/-- Values of the same effect stand for the same nodes under a tag. -/
theorem SameEffect.nodesUnder_rel (h : SameEffect v v') (tag : String) :
    List.Forall₂ NodeSameEffect (nodesUnder tag v) (nodesUnder tag v') := by
  cases h with
  | same => exact List.forall₂_same.mpr fun node _ => .refl node
  | array h =>
      rw [nodesUnder, nodesUnder, List.forall₂_map_left_iff, List.forall₂_map_right_iff]
      exact h.imp fun _ _ hitem => ⟨rfl, hitem⟩
  | object h => exact .cons ⟨rfl, .object h⟩ .nil

/-! ### Look-ups -/

/-- Fields of the same effect have one key. -/
theorem FieldSameEffect.key_eq {field field' : String × Json}
    (h : FieldSameEffect R field field') : field.1 = field'.1 := by
  cases h with
  | value _ _ | list _ | other _ => rfl

/-- Under a key other than that of the list of children, the values are related. -/
theorem FieldSameEffect.rel_of_ne (h : FieldSameEffect R (key, v) (key, v'))
    (hkey : key ≠ childrenKey) : R v v' := by
  cases h with
  | value _ h => exact h
  | list _ | other _ => exact absurd rfl hkey

/-- A look-up of a key that is not inert does not see what is. -/
theorem lookup_effectiveFields (h : isInert key = false) (fields : List (String × Json)) :
    (effectiveFields fields).lookup key = fields.lookup key :=
  Keyed.lookup_filter_key (fun key => !isInert key) (by rw [h, Bool.not_false]) fields

/-- Under a key that is not inert, two objects of the same effect have the same effect. -/
theorem FieldsSameEffect.rel_lookup (h : FieldsSameEffect fields fields')
    (hkey : isInert key = false) :
    Option.Rel (fun v v' => FieldSameEffect SameEffect (key, v) (key, v')) (fields.lookup key)
      (fields'.lookup key) := by
  rw [← lookup_effectiveFields hkey fields, ← lookup_effectiveFields hkey fields']
  exact Keyed.rel_lookup h (fun _ _ => FieldSameEffect.key_eq) key

/-- Two objects of the same effect both have no list of children, or lists of the same effect, or the
same value in its place. -/
theorem FieldsSameEffect.children_cases (h : FieldsSameEffect fields fields') :
    fields.lookup childrenKey = none ∧ fields'.lookup childrenKey = none ∨
      (∃ entries entries', fields.lookup childrenKey = some (.array entries) ∧
        fields'.lookup childrenKey = some (.array entries') ∧
        List.Forall₂ (EntrySameEffect SameEffect) (effectiveEntries entries)
          (effectiveEntries entries')) ∨
      ∃ v, v.kind ≠ .array ∧ fields.lookup childrenKey = some v ∧
        fields'.lookup childrenKey = some v := by
  have hlist := h.rel_lookup (show isInert childrenKey = false by decide)
  generalize fields.lookup childrenKey = found, fields'.lookup childrenKey = found' at hlist
  cases hlist with
  | none => exact .inl ⟨rfl, rfl⟩
  | some hfield =>
      cases hfield with
      | value hkey _ => exact absurd rfl hkey
      | list hentries => exact .inr (.inl ⟨_, _, rfl, rfl, hentries⟩)
      | other hkind => exact .inr (.inr ⟨_, hkind, rfl, rfl⟩)

/-- Two objects of the same effect have arrays of children for the same tags. -/
theorem FieldsSameEffect.hasArrayForm_eq (h : FieldsSameEffect fields fields')
    (hkey : isBookkeeping key = false) : hasArrayForm fields key = hasArrayForm fields' key := by
  have harray := h.rel_lookup ((isInert_append_arrayEnding key).trans hkey)
  rw [hasArrayForm, hasArrayForm]
  generalize fields.lookup (key ++ arrayEnding) = found,
    fields'.lookup (key ++ arrayEnding) = found' at harray
  cases harray with
  | none | some _ => rfl

/-- **The texts** of two objects of the same effect are the same. -/
theorem FieldsSameEffect.text?_eq (h : FieldsSameEffect fields fields') :
    text? fields = text? fields' := by
  have htext := h.rel_lookup (show isInert textKey = false by decide)
  rw [text?, text?]
  generalize fields.lookup textKey = found, fields'.lookup textKey = found' at htext
  cases htext with
  | none => rfl
  | some hfield => exact (hfield.rel_of_ne (by decide)).scalarText?_eq

/-! ### Entries -/

/-- If an entry of remarks gives nothing, what is collected from entries comes from the others. -/
theorem flatMap_effectiveEntries {α : Type} {collect : Json → List α}
    (hnone : ∀ fields, childFields fields = [] → collect (.object fields) = [])
    (entries : List Json) :
    (effectiveEntries entries).flatMap collect = entries.flatMap collect := by
  refine flatMap_filter_of_eq_nil (fun entry hremark => ?_) entries
  rw [Bool.not_eq_false'] at hremark
  cases entry with
  | object fields => exact hnone fields (List.isEmpty_iff.mp hremark)
  | null | bool _ | number _ | string _ | array _ => simp [isRemarkEntry] at hremark

/-- An entry that is no object is a single node that is an error. -/
theorem entryNodes_of_kind (h : v.kind ≠ .object) : entryNodes v = [.error v.kind] := by
  cases v with
  | object fields => exact absurd rfl h
  | null | bool _ | number _ | string _ | array _ => rfl

/-- The nodes of entries of the same effect have the same effect. -/
theorem EntrySameEffect.entryNodes_rel (h : EntrySameEffect SameEffect v v') :
    List.Forall₂ (Agree NodeSameEffect) (entryNodes v) (entryNodes v') := by
  cases h with
  | object h =>
      refine List.rel_flatMap h ?_
      rintro _ _ ⟨key, hvalue⟩
      exact forall₂_agree_ok (hvalue.nodesUnder_rel key)
  | other hkind =>
      rw [entryNodes_of_kind hkind]
      exact .cons (.error v.kind) .nil

/-- Entries of the same effect use the same tags. -/
theorem EntrySameEffect.entryTags_eq (h : EntrySameEffect R v v') : entryTags v = entryTags v' := by
  cases h with
  | object h =>
      rw [entryTags, entryTags, ← List.forall₂_eq_eq_eq, List.forall₂_map_left_iff,
        List.forall₂_map_right_iff]
      refine h.imp ?_
      rintro _ _ ⟨key, -⟩
      rfl
  | other _ => rfl

/-- The nodes of lists of entries of the same effect have the same effect. -/
theorem flatMap_entryNodes_rel
    (h : List.Forall₂ (EntrySameEffect SameEffect) (effectiveEntries entries)
      (effectiveEntries entries')) :
    List.Forall₂ (Agree NodeSameEffect) (entries.flatMap entryNodes)
      (entries'.flatMap entryNodes) := by
  have hnone : ∀ fields, childFields fields = [] → entryNodes (.object fields) = [] := by
    intro fields hremarks
    rw [entryNodes, hremarks, List.flatMap_nil]
  rw [← flatMap_effectiveEntries hnone entries, ← flatMap_effectiveEntries hnone entries']
  exact List.rel_flatMap h fun _ _ => EntrySameEffect.entryNodes_rel

/-- Lists of entries of the same effect use the same tags. -/
theorem flatMap_entryTags_eq
    (h : List.Forall₂ (EntrySameEffect R) (effectiveEntries entries) (effectiveEntries entries')) :
    entries.flatMap entryTags = entries'.flatMap entryTags := by
  have hnone : ∀ fields, childFields fields = [] → entryTags (.object fields) = [] := by
    intro fields hremarks
    rw [entryTags, hremarks, List.map_nil]
  rw [← flatMap_effectiveEntries hnone entries, ← flatMap_effectiveEntries hnone entries',
    ← List.forall₂_eq_eq_eq]
  refine List.rel_flatMap h fun _ _ hentry => ?_
  rw [List.forall₂_eq_eq_eq, hentry.entryTags_eq]

/-! ### Fields -/

/-- If bookkeeping gives nothing, and from every other key related values give what is related, so
do two objects of the same effect. -/
theorem FieldsSameEffect.flatMap_rel {α : Type} {S : α → α → Prop}
    {collect collect' : String × Json → List α} (h : FieldsSameEffect fields fields')
    (hnone : ∀ field, isBookkeeping field.1 = true → collect field = [] ∧ collect' field = [])
    (hvalue : ∀ key v v', isBookkeeping key = false → SameEffect v v' →
      List.Forall₂ S (collect (key, v)) (collect' (key, v'))) :
    List.Forall₂ S (fields.flatMap collect) (fields'.flatMap collect') := by
  have hinert : ∀ field : String × Json, (!isInert field.1) = false →
      isBookkeeping field.1 = true :=
    fun field hfield => isBookkeeping_of_isInert (by rwa [Bool.not_eq_false'] at hfield)
  rw [← flatMap_filter_of_eq_nil fun field hfield => (hnone field (hinert field hfield)).1,
    ← flatMap_filter_of_eq_nil fun field hfield => (hnone field (hinert field hfield)).2]
  refine List.rel_flatMap h ?_
  rintro ⟨key, v⟩ ⟨key', v'⟩ hfield
  obtain rfl : key = key' := hfield.key_eq
  cases hbook : isBookkeeping key with
  | true =>
      rw [(hnone (key, v) hbook).1, (hnone (key, v') hbook).2]
      exact .nil
  | false =>
      exact hvalue key v v' hbook
        (hfield.rel_of_ne (ne_of_isBookkeeping hbook isBookkeeping_childrenKey))

/-- The nodes of a field in the keyed form have the same effect. -/
theorem FieldsSameEffect.fieldNodes_rel (h : FieldsSameEffect fields fields') (p : String)
    (hkey : isBookkeeping key = false) (hvalue : SameEffect v v') :
    List.Forall₂ NodeSameEffect (fieldNodes p fields (key, v)) (fieldNodes p fields' (key, v')) := by
  simp only [fieldNodes, hkey, h.hasArrayForm_eq hkey]
  cases Text.beforeEnd? arrayEnding key with
  | some tag => exact hvalue.nodesUnder_rel tag
  | none =>
      cases hasArrayForm fields' key with
      | true => exact .nil
      | false =>
          cases hvalue with
          | same => exact List.forall₂_same.mpr fun node _ => .refl node
          | array h => exact (SameEffect.array h).nodesUnder_rel key
          | object h => exact (SameEffect.object h).nodesUnder_rel key

/-- **The nodes of two objects of the same effect** have the same tags and values of the same effect,
and what is an error in one is the same error in the other. -/
theorem FieldsSameEffect.nodes_rel (h : FieldsSameEffect fields fields') (p : String) :
    List.Forall₂ (Agree NodeSameEffect) (nodes p fields) (nodes p fields') := by
  rcases h.children_cases with ⟨hl, hl'⟩ | ⟨entries, entries', hl, hl', hentries⟩ |
    ⟨v, hkind, hl, hl'⟩
  · rw [nodes_of_keyed hl, nodes_of_keyed hl']
    refine forall₂_agree_ok (h.flatMap_rel ?_ fun key v v' hkey => h.fieldNodes_rel p hkey)
    exact fun field hbook => ⟨fieldNodes_of_isBookkeeping hbook, fieldNodes_of_isBookkeeping hbook⟩
  · rw [nodes_of_listed hl, nodes_of_listed hl']
    exact flatMap_entryNodes_rel hentries
  · rw [nodes_of_not_array hl hkind, nodes_of_not_array hl' hkind]
    exact .cons (.error v.kind) .nil

/-- In two objects of the same effect the same keys stand back behind children. -/
theorem FieldsSameEffect.isShadowed_eq (h : FieldsSameEffect fields fields')
    (hkey : isBookkeeping key = false) : isShadowed fields key = isShadowed fields' key := by
  rw [isShadowed, isShadowed, h.hasArrayForm_eq hkey]
  rcases h.children_cases with ⟨hl, hl'⟩ | ⟨entries, entries', hl, hl', hentries⟩ | ⟨v, -, hl, hl'⟩
  · rw [hl, hl']
  · simp only [hl, hl', flatMap_entryTags_eq hentries]
  · rw [hl, hl']

/-- **The attributes of two objects of the same effect** are the same. -/
theorem FieldsSameEffect.attributes_eq (h : FieldsSameEffect fields fields') (p : String) :
    attributes p fields = attributes p fields' := by
  rw [attributes, attributes, List.filterMap_eq_flatMap_toList, List.filterMap_eq_flatMap_toList,
    ← List.forall₂_eq_eq_eq]
  refine h.flatMap_rel ?_ ?_
  · intro field hbook
    simp only [fieldAttribute?_of_isBookkeeping hbook, ite_self, Option.toList_none, and_self]
  · intro key v v' hkey hvalue
    rw [List.forall₂_eq_eq_eq, h.isShadowed_eq hkey, fieldAttribute?, fieldAttribute?,
      hvalue.scalarText?_eq]

/-! ### Reading -/

/-- **Values of the same effect** are read as the same element, or refused for the same reason. -/
theorem SameEffect.readElement_eq (h : SameEffect v v') (p name : String) :
    readElement p name v = readElement p name v' := by
  induction hsize : sizeOf v using Nat.strongRecOn generalizing v v' name with
  | ind size ih =>
  subst hsize
  cases h with
  | same => rfl
  | array _ => rw [readElement, readElement]
  | @object fields fields' h =>
      replace h : FieldsSameEffect fields fields' := h
      have hread : (nodes p fields).mapM (readNode p name) =
          (nodes p fields').mapM (readNode p name) := by
        refine mapM_eq_of_forall₂ (forall₂_imp_of_mem (h.nodes_rel p) ?_)
        rintro node? hmem _ hnode
        cases hnode with
        | error found => rfl
        | @ok node node' hnode =>
            -- the value of a node is a part of the object
            rw [readNode, readNode, hnode.tag]
            exact ih _ (sizeOf_lt_of_mem_nodes hmem) hnode.value _ rfl
      rw [readElement_object, readElement_object, hread, h.attributes_eq p, h.text?_eq]

/-- Values of the same effect both list their children or neither does. -/
theorem SameEffect.listsChildren_eq (h : SameEffect v v') : listsChildren v = listsChildren v' := by
  cases h with
  | same | array _ => rfl
  | @object fields fields' h =>
      replace h : FieldsSameEffect fields fields' := h
      rw [listsChildren, listsChildren]
      rcases h.children_cases with ⟨hl, hl'⟩ | ⟨entries, entries', hl, hl', -⟩ | ⟨v, -, hl, hl'⟩
      · rw [hl, hl']
      · rw [hl, hl', Option.isSome_some, Option.isSome_some]
      · rw [hl, hl']

/-! ### Documents -/

/-- A key that can name a root is not inert. -/
theorem isInert_of_isRootKey (h : isRootKey key = true) : isInert key = false := by
  rw [isRootKey, Bool.and_eq_true, Bool.not_eq_true'] at h
  exact isInert_of_isBookkeeping h.1

/-- The fields of a wrapper that can hold a root are among those that are not inert. -/
theorem filter_isRootKey_effectiveFields (top : List (String × Json)) :
    ((effectiveFields top).filter fun field => isRootKey field.1) =
      top.filter fun field => isRootKey field.1 := by
  rw [effectiveFields, List.filter_filter]
  refine List.filter_congr fun field _ => ?_
  cases hroot : isRootKey field.1 with
  | false => rw [Bool.false_and]
  | true => rw [isInert_of_isRootKey hroot, Bool.not_false, Bool.and_self]

/-- Two documents of the same effect have the same keys that can name a root, with values of the
same effect. -/
theorem rel_rootFields {top top' : List (String × Json)}
    (h : List.Forall₂ (SameKey SameEffect) (effectiveFields top) (effectiveFields top')) :
    List.Forall₂ (SameKey SameEffect) (top.filter fun field => isRootKey field.1)
      (top'.filter fun field => isRootKey field.1) := by
  rw [← filter_isRootKey_effectiveFields top, ← filter_isRootKey_effectiveFields top']
  refine List.rel_filter ?_ h
  rintro _ _ ⟨key, -⟩
  exact Iff.rfl

/-- Bookkeeping **has no effect**: documents of the same effect are read as the same element, or
refused for the same reason, whatever the options. This takes in the arrays of what is bookkeeping,
as their keys are inert, and no other arrays. -/
theorem ofJson_inert (h : DocumentSameEffect v v') :
    (∀ options, ofJson options v = ofJson options v') ∧
      ∀ tag, isInert (tag ++ arrayEnding) = isBookkeeping tag := by
  refine ⟨fun options => ?_, isInert_append_arrayEnding⟩
  cases h with
  | same => rfl
  | @object top top' h =>
      have hroots := rel_rootFields h
      rw [ofJson, ofJson]
      generalize (top.filter fun field => isRootKey field.1) = roots,
        (top'.filter fun field => isRootKey field.1) = roots' at hroots
      cases hroots with
      | nil => rfl
      | cons hfield hrest =>
          obtain ⟨name, hroot⟩ := hfield
          cases hrest with
          | nil => simp only [hroot.readElement_eq, hroot.listsChildren_eq]
          | cons _ _ => rfl

/-- Notes stand in the wrapper, in the root, in an element below and in an entry, and one entry is a
note. The array `__sel_asArray` takes no attribute away, and the nested array in it is not read. -/
theorem ofJson_inert_notes :
    ofJson { orderedRoot := true } (.object [
        ("#doc", .null),
        ("Patch", .object [
          ("#comment", .array []),
          ("__children", .array [
            .object [("#text", .string "")],
            .object [("#cdata", .bool true), ("add", .object [
              ("__sel_asArray", .array [.array []]), ("sel", .string "/MPD")])]]),
          ("__cnt", .string "1")]),
        ("__prefix", .object [])]) =
      .ok { name := "Patch",
            children := [{ name := "add", attributes := [("sel", "/MPD")] }] } ∧
    isInert ("__sel" ++ arrayEnding) = true := by
  let edit : Json := .object [("sel", .string "/MPD")]
  let noted : Json :=
    .object [("__sel_asArray", .array [.array []]), ("sel", .string "/MPD")]
  let root : Json := .object [("__children", .array [.object [("add", edit)]])]
  let notedRoot : Json := .object [
    ("#comment", .array []),
    ("__children", .array [
      .object [("#text", .string "")], .object [("#cdata", .bool true), ("add", noted)]]),
    ("__cnt", .string "1")]
  have hkey : isInert "__sel_asArray" = true := by decide
  have hedit : SameEffect edit noted :=
    SameEffect.insert hkey (.array [.array []]) [("sel", .string "/MPD")]
  have hentry : EntrySameEffect SameEffect (.object [("add", edit)])
      (.object [("#cdata", .bool true), ("add", noted)]) := by
    refine .object ?_
    rw [childFields, childFields, List.filter_cons_of_pos (by decide),
      List.filter_cons_of_neg (by decide), List.filter_cons_of_pos (by decide)]
    exact .cons (.of "add" hedit) .nil
  have hroot : SameEffect root notedRoot := by
    refine .object ?_
    -- what is not inert in the root is its list, and what is no remark in the list is one entry
    rw [effectiveFields_cons, effectiveFields_cons, if_neg (by decide), if_pos (by decide),
      effectiveFields_cons, effectiveFields_cons, if_neg (by decide), if_pos (by decide)]
    refine .cons (.list ?_) .nil
    rw [effectiveEntries, effectiveEntries, List.filter_cons_of_pos (by decide),
      List.filter_cons_of_neg (by decide), List.filter_cons_of_pos (by decide)]
    exact .cons hentry .nil
  have hdocument : DocumentSameEffect (.object [("Patch", root)])
      (.object [("#doc", .null), ("Patch", notedRoot), ("__prefix", .object [])]) := by
    refine .object ?_
    rw [effectiveFields_cons, effectiveFields_cons, if_neg (by decide), if_pos (by decide),
      effectiveFields_cons, effectiveFields_cons, if_neg (by decide), if_pos (by decide)]
    exact .cons (.of "Patch" hroot) .nil
  obtain ⟨hread, harray⟩ := ofJson_inert hdocument
  refine ⟨?_, harray "__sel"⟩
  rw [← hread]
  have hchild : readElement "" "add" (.object [("sel", .string "/MPD")]) =
      .ok { name := "add", attributes := [("sel", "/MPD")] } :=
    readElement_object_of_nodes_eq_nil _ _ rfl
  have helement : readElement "" "Patch" (.object [("__children", .array
      [.object [("add", .object [("sel", .string "/MPD")])]])]) =
        .ok { name := "Patch",
              children := [{ name := "add", attributes := [("sel", "/MPD")] }] } :=
    readElement_object_eq_ok_iff.mpr ⟨_, .cons hchild .nil, rfl⟩
  exact (ofJson_object_eq_ok_iff (List.filter_cons_of_pos (by decide))).mpr
    ⟨helement, fun _ hlist => absurd hlist (by decide)⟩

end ManifestPatch.Document
