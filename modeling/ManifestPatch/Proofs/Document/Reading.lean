import ManifestPatch.Document.Reader
import ManifestPatch.Proofs.Element.Attributes
import ManifestPatch.Proofs.Pointwise

/-!
# Reading an Object

An object is read node by node. What that means for the element is stated here once, as an
equivalence, so that no other module has to open the reader: the children are read one by one from
the nodes, and name, text and attributes are the object's own. Which nodes these are depends on
what stands under the key of the list of children.

## Main results

* `Document.nodes_of_listed`, `Document.nodes_of_keyed`: the nodes of an object by its form.
* `Document.readElement_object_eq_ok_iff`: what an object is read as.
* `Document.name_eq_of_readElement`: an element has the name that it is read under.
* `Document.ofJson_eq_ok_iff`: what a document is read as.
-/

namespace ManifestPatch.Document

variable {p name : String} {fields : List (String × Json)} {e : Element}

/-! ### The nodes of an object -/

/-- An object has no list of children, or one, or something else in its place. -/
theorem lookup_childrenKey_cases (fields : List (String × Json)) :
    fields.lookup childrenKey = none ∨
      (∃ entries, fields.lookup childrenKey = some (.array entries)) ∨
      ∃ v, v.kind ≠ .array ∧ fields.lookup childrenKey = some v := by
  cases hl : fields.lookup childrenKey with
  | none => exact .inl rfl
  | some v =>
      cases v with
      | array entries => exact .inr (.inl ⟨entries, rfl⟩)
      | null | bool _ | number _ | string _ | object _ =>
          exact .inr (.inr ⟨_, by simp [Json.kind], rfl⟩)

/-- With a list of children, the nodes are those of its entries. -/
theorem nodes_of_listed {entries : List Json}
    (h : fields.lookup childrenKey = some (.array entries)) :
    nodes p fields = entries.flatMap entryNodes := by
  rw [nodes, h]

/-- What is no array, but stands in its place, is a single node that is an error. -/
theorem nodes_of_not_array {v : Json} (h : fields.lookup childrenKey = some v)
    (hkind : v.kind ≠ .array) : nodes p fields = [.error v.kind] := by
  rw [nodes, h]
  cases v with
  | array entries => exact absurd rfl hkind
  | null | bool _ | number _ | string _ | object _ => rfl

/-- Without a list of children, the nodes are those of the fields. -/
theorem nodes_of_keyed (h : fields.lookup childrenKey = none) :
    nodes p fields = (fields.flatMap (fieldNodes p fields)).map .ok := by
  rw [nodes, h]

/-! ### Elements -/

@[simp] theorem readNode_error_ne_ok {found : Json.Kind} :
    readNode p name (.error found) ≠ .ok e :=
  nofun

/-- **What an object is read as**: its children are read one by one from its nodes. -/
theorem readElement_object_eq_ok_iff :
    readElement p name (.object fields) = .ok e ↔
      ∃ children, List.Forall₂ (fun node? child => readNode p name node? = .ok child)
          (nodes p fields) children ∧
        e = ({ name, children, text := text? fields } : Element).setAttributes
          (attributes p fields) := by
  simp only [readElement_object, ← mapM_eq_ok_iff]
  cases (nodes p fields).mapM (readNode p name) with
  | error reason => simp [bind, Except.bind]
  | ok children => simp [bind, Except.bind, pure, Except.pure, eq_comm (a := e)]

/-- An object is refused exactly if one of its nodes is, for the reason of the first. -/
theorem readElement_object_eq_error_iff {reason : DocumentError} :
    readElement p name (.object fields) = .error reason ↔
      (nodes p fields).mapM (readNode p name) = .error reason := by
  rw [readElement_object]
  cases (nodes p fields).mapM (readNode p name) with
  | error reason' => simp [bind, Except.bind]
  | ok children => simp [bind, Except.bind, pure, Except.pure]

/-- An array is no element. -/
theorem readElement_array (p name : String) (items : List Json) :
    readElement p name (.array items) = .error (.unexpectedValue name .array) := by
  rw [readElement]
  rfl

/-- A scalar is read as an element with its text. -/
theorem readElement_of_scalar (p name : String) {v : Json} (harray : v.kind ≠ .array)
    (hobject : v.kind ≠ .object) :
    readElement p name v = .ok { name, text := v.scalarText? } := by
  cases v with
  | array items => exact absurd rfl harray
  | object fields => exact absurd rfl hobject
  | null | bool _ | number _ | string _ =>
      rw [readElement]
      · rfl
      all_goals simp

/-- An object without nodes is an element without children. -/
theorem readElement_object_of_nodes_eq_nil (p name : String) {fields : List (String × Json)}
    (h : nodes p fields = []) :
    readElement p name (.object fields) =
      .ok (({ name, text := text? fields } : Element).setAttributes (attributes p fields)) :=
  readElement_object_eq_ok_iff.mpr ⟨[], h ▸ List.Forall₂.nil, rfl⟩

/-- An element has the name that it is read under. -/
theorem name_eq_of_readElement {v : Json} (h : readElement p name v = .ok e) : e.name = name := by
  cases v with
  | object fields =>
      obtain ⟨children, -, rfl⟩ := readElement_object_eq_ok_iff.mp h
      rw [Element.name_setAttributes]
  | array items => simp [readElement_array] at h
  | null | bool _ | number _ | string _ =>
      rw [readElement_of_scalar p name (by simp [Json.kind]) (by simp [Json.kind])] at h
      rw [← Except.ok.inj h]

/-! ### Documents -/

/-- A document with one root key is read from the value under it, unless the order of the root's
children matters and is not kept. -/
theorem ofJson_object_eq_ok_iff {options : Options} {top : List (String × Json)} {root : Json}
    (hroot : (top.filter fun field => isRootKey field.1) = [(name, root)]) :
    ofJson options (.object top) = .ok e ↔
      readElement options.attributePrefix name root = .ok e ∧
        (options.orderedRoot = true → listsChildren root = false → (childTags e).length ≤ 1) := by
  simp only [ofJson, hroot]
  cases readElement options.attributePrefix name root with
  | error reason => simp [bind, Except.bind]
  | ok element =>
      simp only [bind, Except.bind, pure, Except.pure, Except.ok.injEq]
      by_cases hrefused :
          (options.orderedRoot && !listsChildren root && decide ((childTags element).length > 1)) =
            true
      · rw [if_pos hrefused]
        simp only [Bool.and_eq_true, Bool.not_eq_true', decide_eq_true_eq] at hrefused
        obtain ⟨⟨hordered, hlists⟩, htags⟩ := hrefused
        constructor
        · intro h
          simp [throw, throwThe, MonadExceptOf.throw] at h
        · rintro ⟨rfl, h⟩
          exact absurd (h hordered hlists) (Nat.not_le.mpr htags)
      · rw [if_neg hrefused]
        simp only [Bool.and_eq_true, Bool.not_eq_true', decide_eq_true_eq] at hrefused
        constructor
        · intro h
          obtain rfl : element = e := Except.ok.inj h
          exact ⟨rfl, fun hordered hlists =>
            Nat.not_lt.mp fun htags => hrefused ⟨⟨hordered, hlists⟩, htags⟩⟩
        · rintro ⟨rfl, -⟩
          rfl

/-- **What a document is read as**: it has one key that can name a root, and the element is read
from the value under that key; where the order of the root's children matters, the root lists them,
or they have one tag at most. -/
theorem ofJson_eq_ok_iff {options : Options} {v : Json} :
    ofJson options v = .ok e ↔
      ∃ top root, v = .object top ∧
        (top.filter fun field => isRootKey field.1) = [(e.name, root)] ∧
        readElement options.attributePrefix e.name root = .ok e ∧
        (options.orderedRoot = true → listsChildren root = false → (childTags e).length ≤ 1) := by
  constructor
  · intro h
    cases v with
    | object top =>
        cases hroot : top.filter fun field => isRootKey field.1 with
        | nil => simp [ofJson, hroot] at h
        | cons field others =>
            obtain ⟨name, root⟩ := field
            cases others with
            | cons other others => simp [ofJson, hroot] at h
            | nil =>
                obtain ⟨hread, hordered⟩ := (ofJson_object_eq_ok_iff hroot).mp h
                obtain rfl : e.name = name := name_eq_of_readElement hread
                exact ⟨top, root, rfl, hroot, hread, hordered⟩
    | null | bool _ | number _ | string _ | array _ => simp [ofJson] at h
  · rintro ⟨top, root, rfl, hroot, hread, hordered⟩
    exact (ofJson_object_eq_ok_iff hroot).mpr ⟨hread, hordered⟩

end ManifestPatch.Document
