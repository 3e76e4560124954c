import ManifestPatch.Proofs.Document.Reading
import ManifestPatch.Proofs.Element.Alike
import ManifestPatch.Proofs.Reordering

/-!
# Elements and Their Edits

An element is made from an empty one by edits: attributes are set, the text is set or appended to,
and children are pushed. This module says what an element holds after any edits in terms of the
edits alone. Every edit touches one part of the element only, so each part is a matter of the edits
of that part, and how edits of different parts interleave does not matter. That no attribute stands
twice is kept by every edit; it holds throughout every tree that is built by edits, and of every
tree that is read from a document, since that sets its attributes the same way.

## Main definitions

* `Element.Edit`: the edits, and the part that each of them touches.
* `Element.Stores`: what an element holds after edits.
* `Element.Built`: trees that are built by edits.

## Main results

* `Element.map_fst_foldl_setIn`: names are listed in the order of their first setting.
* `Element.text_edit_of_some`, `Element.text_edit_of_none`: what is appended to a text.
* `Element.Edit.apply_comm`: edits of different parts can be made in either order.
* `Element.edited_stores`: an element is a faithful store.
-/

namespace ManifestPatch

namespace Element

/-! ### Edits -/

/-- The parts of an element that edits touch. -/
inductive Part where
  | attributes
  | text
  | children
  deriving DecidableEq, Repr

/-- An **edit** of an element. -/
inductive Edit where
  | setAttribute (name value : String)
  | setText (text : String)
  | appendText (piece : String)
  | pushChild (child : Element)

namespace Edit

/-- The part that an edit touches. -/
def part : Edit → Part
  | setAttribute _ _ => .attributes
  | setText _ | appendText _ => .text
  | pushChild _ => .children

/-- The element after one more edit. -/
def apply (e : Element) : Edit → Element
  | setAttribute name value => e.setAttribute name value
  | setText text => e.setText text
  | appendText piece => e.appendText piece
  | pushChild child => e.pushChild child

/-- The attribute that an edit sets, with its value. -/
def setting? : Edit → Option (String × String)
  | setAttribute name value => some (name, value)
  | setText _ | appendText _ | pushChild _ => none

/-- The piece that an edit appends to the text. -/
def piece? : Edit → Option String
  | appendText piece => some piece
  | setAttribute _ _ | setText _ | pushChild _ => none

/-- The one edit that sets an attribute to a value. -/
theorem setting?_eq_some_iff {edit : Edit} {pair : String × String} :
    edit.setting? = some pair ↔ edit = .setAttribute pair.1 pair.2 := by
  cases edit with
  | setAttribute name value => simp [setting?, Prod.ext_iff]
  | setText | appendText | pushChild => simp [setting?]

/-- The child that an edit pushes. -/
def child? : Edit → Option Element
  | pushChild child => some child
  | setAttribute _ _ | setText _ | appendText _ => none

/-- **Edits of different parts** can be made in either order. -/
theorem apply_comm (e : Element) (a b : Edit) (h : a.part ≠ b.part) :
    apply (apply e a) b = apply (apply e b) a := by
  cases a with
  | setAttribute =>
      cases b with
      | setAttribute => exact absurd rfl h
      | setText | appendText | pushChild => rfl
  | setText | appendText =>
      cases b with
      | setText | appendText => exact absurd rfl h
      | setAttribute | pushChild => rfl
  | pushChild =>
      cases b with
      | pushChild => exact absurd rfl h
      | setAttribute | setText | appendText => rfl

end Edit

/-- The element after **edits**, made one after the other. -/
def edit (e : Element) (edits : List Edit) : Element :=
  edits.foldl Edit.apply e

/-- The element made by edits from an empty one. -/
def edited (name : String) (edits : List Edit) : Element :=
  edit { name } edits

variable {e : Element} {edits before after : List Edit} {name value : String}

@[simp] theorem edit_nil (e : Element) : e.edit [] = e := rfl

@[simp] theorem edit_cons (e : Element) (first : Edit) (edits : List Edit) :
    e.edit (first :: edits) = (first.apply e).edit edits := rfl

/-- Edits in two parts are made one part after the other. -/
theorem edit_append (e : Element) (before after : List Edit) :
    e.edit (before ++ after) = (e.edit before).edit after :=
  List.foldl_append

/-- No edit touches the name. -/
@[simp] theorem name_edit (e : Element) (edits : List Edit) : (e.edit edits).name = e.name := by
  induction edits generalizing e with
  | nil => rfl
  | cons first edits ih =>
      rw [edit_cons, ih]
      cases first <;> rfl

/-- Children are pushed in the order of their edits. -/
theorem children_edit (e : Element) (edits : List Edit) :
    (e.edit edits).children = e.children ++ edits.filterMap Edit.child? := by
  induction edits generalizing e with
  | nil => simp
  | cons first edits ih =>
      rw [edit_cons, ih]
      cases first with
      | pushChild child => simp [Edit.apply, pushChild, Edit.child?]
      | setAttribute | setText | appendText => rfl

/-! ### Attributes -/

/-- The **names** of an element's attributes differ. -/
def DistinctNames (e : Element) : Prop :=
  (e.attributes.map Prod.fst).Nodup

/-- Setting an attribute leaves the names as they are, or adds one that is new. -/
theorem map_fst_setIn (name value : String) (attributes : List (String × String)) :
    (setIn name value attributes).map Prod.fst =
      if name ∈ attributes.map Prod.fst then attributes.map Prod.fst
      else attributes.map Prod.fst ++ [name] := by
  split
  next hmem =>
    induction attributes with
    | nil => exact absurd hmem List.not_mem_nil
    | cons pair rest ih =>
        obtain ⟨key, old⟩ := pair
        by_cases hkey : key = name
        · rw [setIn, if_pos hkey, List.map_cons, List.map_cons]
        · rw [List.map_cons, List.mem_cons] at hmem
          rw [setIn, if_neg hkey, List.map_cons, List.map_cons,
            ih (hmem.resolve_left (Ne.symm hkey))]
  next hnew => rw [setIn_of_notMem hnew, List.map_append, List.map_singleton]

/-- Setting an attribute keeps the names distinct. -/
theorem nodup_setIn {attributes : List (String × String)} (h : (attributes.map Prod.fst).Nodup)
    (name value : String) : ((setIn name value attributes).map Prod.fst).Nodup := by
  rw [map_fst_setIn]
  split
  next => exact h
  next hnew =>
    rw [← List.concat_eq_append]
    exact h.concat hnew

/-- One edit keeps the names distinct. -/
theorem DistinctNames.apply (h : e.DistinctNames) (edit : Edit) :
    (edit.apply e).DistinctNames := by
  cases edit with
  | setAttribute name value => exact nodup_setIn h name value
  | setText | appendText | pushChild => exact h

/-- **Edits keep the names distinct.** -/
theorem DistinctNames.edit (h : e.DistinctNames) (edits : List Edit) :
    (e.edit edits).DistinctNames := by
  induction edits generalizing e with
  | nil => exact h
  | cons first edits ih => exact ih (h.apply first)

/-- Setting several attributes is making as many edits. -/
theorem setAttributes_eq_edit (e : Element) (pairs : List (String × String)) :
    e.setAttributes pairs = e.edit (pairs.map fun pair => .setAttribute pair.1 pair.2) := by
  rw [Element.edit, List.foldl_map]
  rfl

/-- Without attributes, no name stands twice. -/
theorem distinctNames_of_attributes_eq_nil (h : e.attributes = []) : e.DistinctNames := by
  rw [DistinctNames, h]
  exact List.nodup_nil

/-- **Names are listed in the order of their first setting.** The induction is on the settings from
the last one back: a name that was set before stays where it is. -/
theorem map_fst_foldl_setIn (pairs : List (String × String)) :
    (pairs.foldl (fun attributes pair => setIn pair.1 pair.2 attributes) []).map Prod.fst =
      (pairs.map Prod.fst).eraseDups := by
  induction pairs using List.reverseRecOn with
  | nil => rfl
  | append_singleton pairs pair ih =>
      rw [List.foldl_append, List.foldl_cons, List.foldl_nil, map_fst_setIn, ih, List.map_append,
        List.eraseDups_append, List.map_singleton]
      by_cases hmem : pair.1 ∈ pairs.map Prod.fst
      · simp [List.removeAll, hmem]
      · simp [List.removeAll, hmem, List.eraseDups_cons]

/-- The attributes after edits are those that the edits set. -/
theorem attributes_edit (e : Element) (edits : List Edit) :
    (e.edit edits).attributes =
      (edits.filterMap Edit.setting?).foldl (fun attributes pair => setIn pair.1 pair.2 attributes)
        e.attributes := by
  induction edits generalizing e with
  | nil => rfl
  | cons first edits ih =>
      rw [edit_cons, ih]
      cases first <;> rfl

/-- An attribute that is not set stays as it is. -/
theorem attribute?_edit_of_notMem (h : ∀ value, .setAttribute name value ∉ edits) :
    (e.edit edits).attribute? name = e.attribute? name := by
  induction edits generalizing e with
  | nil => rfl
  | cons first edits ih =>
      rw [edit_cons, ih fun value hmem => h value (List.mem_cons_of_mem first hmem)]
      cases first with
      | setAttribute other value =>
          have hne : name ≠ other := by
            rintro rfl
            exact h value List.mem_cons_self
          exact attribute?_setAttribute_ne e value hne
      | setText | appendText | pushChild => rfl

/-- **An attribute has the value of its last setting.** -/
theorem attribute?_edit_of_last (h : ∀ value', .setAttribute name value' ∉ after) :
    (e.edit (before ++ .setAttribute name value :: after)).attribute? name = some value := by
  rw [edit_append, edit_cons, attribute?_edit_of_notMem h]
  exact attribute?_setAttribute_self _ name value

/-- The names of the attributes after edits of an empty element. -/
theorem map_fst_attributes_edited (name : String) (edits : List Edit) :
    (edited name edits).attributes.map Prod.fst =
      ((edits.filterMap Edit.setting?).map Prod.fst).eraseDups := by
  rw [edited, attributes_edit, map_fst_foldl_setIn]

/-- An attribute is missing exactly if it was never set. -/
theorem attribute?_edited_eq_none_iff {key : String} :
    (edited name edits).attribute? key = none ↔ ∀ value, .setAttribute key value ∉ edits := by
  rw [attribute?, Keyed.lookup_eq_none_iff_notMem, map_fst_attributes_edited, List.mem_eraseDups]
  simp [List.mem_filterMap, Edit.setting?_eq_some_iff]

/-! ### Text -/

/-- There is a text exactly if there was one or an edit touches it. -/
theorem text_edit_eq_none_iff :
    (e.edit edits).text = none ↔ e.text = none ∧ ∀ edit ∈ edits, edit.part ≠ .text := by
  induction edits generalizing e with
  | nil => simp
  | cons first edits ih =>
      rw [edit_cons, ih, List.forall_mem_cons]
      cases first with
      | setAttribute | pushChild => simp [Edit.apply, Edit.part, setAttribute, pushChild]
      | setText | appendText => simp [Edit.apply, Edit.part, setText, appendText]

/-- **Pieces are appended in their order** to a text that is there and is not set. -/
theorem text_edit_of_some {text : String} (h : e.text = some text)
    (hset : ∀ text', .setText text' ∉ edits) :
    (e.edit edits).text = some (text ++ String.join (edits.filterMap Edit.piece?)) := by
  induction edits generalizing e text with
  | nil => simp [h]
  | cons first edits ih =>
      have hrest : ∀ text', .setText text' ∉ edits := fun text' hmem =>
        hset text' (List.mem_cons_of_mem first hmem)
      rw [edit_cons]
      cases first with
      | setAttribute | pushChild => exact ih h hrest
      | setText text' => exact absurd List.mem_cons_self (hset text')
      | appendText piece =>
          have happ : (e.appendText piece).text = some (text ++ piece) := by
            rw [appendText, h, Option.getD_some]
          rw [Edit.apply, ih happ hrest]
          simp [Edit.piece?, String.append_assoc]

/-- Where there is no text and none is set, the first piece begins one. -/
theorem text_edit_of_none (h : e.text = none) (hset : ∀ text, .setText text ∉ edits)
    (htouched : ∃ edit ∈ edits, edit.part = .text) :
    (e.edit edits).text = some (String.join (edits.filterMap Edit.piece?)) := by
  induction edits generalizing e with
  | nil => exact absurd htouched (by simp)
  | cons first edits ih =>
      have hrest : ∀ text, .setText text ∉ edits := fun text hmem =>
        hset text (List.mem_cons_of_mem first hmem)
      rw [edit_cons]
      cases first with
      | setAttribute | pushChild => exact ih h hrest (by simpa [Edit.part] using htouched)
      | setText text => exact absurd List.mem_cons_self (hset text)
      | appendText piece =>
          have happ : (e.appendText piece).text = some piece := by
            rw [appendText, h, Option.getD_none, String.empty_append]
          rw [Edit.apply, text_edit_of_some happ hrest]
          simp [Edit.piece?]

/-! ### Trees -/

/-- Trees that are **built** by edits: every child that is pushed was built so before. -/
inductive Built : Element → Prop
  | edited (name : String) (edits : List Edit)
      (h : ∀ child, Edit.pushChild child ∈ edits → Built child) : Built (edited name edits)

/-- Edits of an empty element give distinct names. -/
theorem distinctNames_edited (name : String) (edits : List Edit) :
    (edited name edits).DistinctNames :=
  (distinctNames_of_attributes_eq_nil rfl).edit edits

/-- **Throughout a tree that is built by edits**, names are distinct. -/
theorem Built.throughout (h : Built e) : e.Throughout DistinctNames := by
  induction h with
  | edited name edits _ ih =>
      refine Throughout.node (distinctNames_edited name edits) fun child hchild => ?_
      rw [Element.edited, children_edit, List.nil_append, List.mem_filterMap] at hchild
      obtain ⟨edit, hedit, hpush⟩ := hchild
      cases edit with
      | pushChild child' =>
          obtain rfl : child' = child := Option.some.inj hpush
          exact ih child' hedit
      | setAttribute | setText | appendText => exact absurd hpush nofun

/-- **Throughout an element that is read**, names are distinct. -/
theorem throughout_of_readElement {p : String} {v : Json}
    (h : Document.readElement p name v = .ok e) : e.Throughout DistinctNames := by
  induction hsize : sizeOf v using Nat.strongRecOn generalizing v name e with
  | ind size ih =>
  subst hsize
  cases v with
  | object fields =>
      obtain ⟨children, hchildren, rfl⟩ := Document.readElement_object_eq_ok_iff.mp h
      refine Throughout.node ?_ fun child hchild => ?_
      · rw [setAttributes_eq_edit]
        exact (distinctNames_of_attributes_eq_nil rfl).edit _
      rw [children_setAttributes] at hchild
      obtain ⟨node?, hnode, hread⟩ := exists_of_forall₂_of_mem hchildren hchild
      cases node? with
      | error found => exact absurd hread Document.readNode_error_ne_ok
      | ok node => exact ih _ (Document.sizeOf_lt_of_mem_nodes hnode) hread rfl
  | array items => simp [Document.readElement_array] at h
  | null | bool _ | number _ | string _ =>
      rw [Document.readElement_of_scalar p name (by simp [Json.kind]) (by simp [Json.kind])] at h
      rw [← Except.ok.inj h]
      exact Throughout.of_children_nil (distinctNames_of_attributes_eq_nil rfl) rfl

/-! ### A faithful store -/

/-- An element **stores** what edits of an empty element of a name have put there. No attribute
stands twice, and they are in the order in which they were first set; each has the value of its last
setting, and one that was never set is missing. There is no text if none was set or appended to, and
else it is the one set last, or the empty one, with all pieces that were appended later. The
children are those pushed, in their order. -/
structure Stores (e : Element) (name : String) (edits : List Edit) : Prop where
  name_eq : e.name = name
  distinct : e.DistinctNames
  names_eq : e.attributes.map Prod.fst =
    ((edits.filterMap Edit.setting?).map Prod.fst).eraseDups
  attribute?_of_last : ∀ before key value after, edits = before ++ .setAttribute key value :: after →
    (∀ value', .setAttribute key value' ∉ after) → e.attribute? key = some value
  attribute?_eq_none_iff : ∀ key,
    e.attribute? key = none ↔ ∀ value, .setAttribute key value ∉ edits
  text_eq_none_iff : e.text = none ↔ ∀ edit ∈ edits, edit.part ≠ .text
  text_of_last : ∀ before text after, edits = before ++ .setText text :: after →
    (∀ text', .setText text' ∉ after) →
      e.text = some (text ++ String.join (after.filterMap Edit.piece?))
  text_of_pieces : (∃ edit ∈ edits, edit.part = .text) → (∀ text, .setText text ∉ edits) →
    e.text = some (String.join (edits.filterMap Edit.piece?))
  children_eq : e.children = edits.filterMap Edit.child?

/-- After any edits, an empty element stores them. -/
theorem stores_edited (name : String) (edits : List Edit) :
    (edited name edits).Stores name edits where
  name_eq := name_edit _ edits
  distinct := distinctNames_edited name edits
  names_eq := map_fst_attributes_edited name edits
  attribute?_of_last := by
    rintro before key value after rfl hlast
    exact attribute?_edit_of_last hlast
  attribute?_eq_none_iff := fun _ => attribute?_edited_eq_none_iff
  text_eq_none_iff := by simp [edited, text_edit_eq_none_iff]
  text_of_last := by
    rintro before text after rfl hlast
    rw [edited, edit_append, edit_cons]
    exact text_edit_of_some rfl hlast
  text_of_pieces := fun htouched hset => text_edit_of_none rfl hset htouched
  children_eq := children_edit _ edits

/-- Edits that are reordered across parts make the same element. -/
theorem edit_eq_of_reordered {edits' : List Edit} (h : Reordered Edit.part edits edits')
    (e : Element) : e.edit edits = e.edit edits' :=
  h.foldl_eq Edit.apply_comm e

/-- **An element is a faithful store** under all edits. Made by any edits from an empty element, it
stores them; edits in another order make the same element, if those of each part are in the same
order. No attribute stands twice at any node of a tree that is built by edits, or that is read from
any value under any prefix. -/
theorem edited_stores :
    (∀ name edits, (edited name edits).Stores name edits) ∧
    (∀ name edits edits',
      (∀ part, (edits.filter fun edit => edit.part == part) =
        edits'.filter fun edit => edit.part == part) →
        edited name edits' = edited name edits) ∧
    (∀ e, Built e → e.Throughout DistinctNames) ∧
    ∀ p name v e, Document.readElement p name v = .ok e → e.Throughout DistinctNames :=
  ⟨stores_edited, fun _ _ _ h => (edit_eq_of_reordered (reordered_of_filter_eq h) _).symm,
    fun _ => Built.throughout, fun _ _ _ _ => throughout_of_readElement⟩

/-- An attribute is set again after another one, a text is replaced while pieces are appended, and a
child is pushed in between; with the child pushed first, the element is the same. -/
theorem edited_stores_mixed :
    let edits : List Edit := [.appendText "x", .setAttribute "id" "1", .setText "a",
      .setAttribute "lang" "en", .pushChild { name := "c" }, .appendText "b",
      .setAttribute "id" "2", .appendText ""]
    let e := edited "Period" edits
    e.attributes.map Prod.fst = ["id", "lang"] ∧ e.attribute? "id" = some "2" ∧
      e.attribute? "start" = none ∧ e.text = some "ab" ∧ e.children = [{ name := "c" }] ∧
      edited "Period" [.pushChild { name := "c" }, .appendText "x", .setText "a", .appendText "b",
        .appendText "", .setAttribute "id" "1", .setAttribute "lang" "en",
        .setAttribute "id" "2"] = e ∧
      e.Throughout DistinctNames := by
  intro edits e
  obtain ⟨hstores, hreordered, hbuilt, -⟩ := edited_stores
  have h := hstores "Period" edits
  refine ⟨h.names_eq.trans (by decide +kernel), ?_, ?_, ?_, h.children_eq, ?_, ?_⟩
  · exact h.attribute?_of_last (edits.take 6) "id" "2" [.appendText ""] rfl (by simp)
  · exact (h.attribute?_eq_none_iff "start").mpr (by simp [edits])
  · rw [h.text_of_last [.appendText "x", .setAttribute "id" "1"] "a" _ rfl (by simp)]
    decide +kernel
  · refine hreordered "Period" edits _ fun part => ?_
    cases part with
    | attributes | text | children => rfl
  · refine hbuilt e (.edited "Period" edits fun child hchild => ?_)
    obtain rfl : child = { name := "c" } := by simpa [edits] using hchild
    exact .edited "c" [] (by simp)

end Element

end ManifestPatch
