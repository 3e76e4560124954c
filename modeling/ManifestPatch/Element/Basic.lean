import ManifestPatch.Keyed

/-!
# Elements

The tree that manifests and patches are read into. An **element** has a name, attributes in the
order in which they were first set, child elements in document order, and possibly a text. A child
that occurs several times is so many children, and a child that occurs once is one; nothing tells
apart how the document spelled them.

## Main definitions

* `Element.setAttribute`, `Element.appendText`, `Element.pushChild`: the edits that build a tree.
* `Element.childrenNamed`, `Element.firstChild?`, `Element.groups`: the children by name.
-/

namespace ManifestPatch

/-- An **element** of a manifest or of a patch. -/
structure Element where
  name : String
  attributes : List (String × String) := []
  children : List Element := []
  text : Option String := none
  deriving Repr, Inhabited

namespace Element

/-! ### Equality -/

mutual

/-- Whether two elements are the same, decided part by part. -/
protected def decEq : (a b : Element) → Decidable (a = b)
  | ⟨name, attributes, children, text⟩, ⟨name', attributes', children', text'⟩ =>
    match Element.decEqList children children' with
    | isTrue hc =>
      if h : name = name' ∧ attributes = attributes' ∧ text = text' then
        isTrue (by simp [h, hc])
      else isFalse (by simp only [Element.mk.injEq]; grind)
    | isFalse hc => isFalse (by simp [hc])

/-- Whether two lists of elements are the same. -/
protected def decEqList : (as bs : List Element) → Decidable (as = bs)
  | [], [] => isTrue rfl
  | [], _ :: _ => isFalse (by simp)
  | _ :: _, [] => isFalse (by simp)
  | a :: as, b :: bs =>
    match Element.decEq a b, Element.decEqList as bs with
    | isTrue h, isTrue hs => isTrue (by simp [h, hs])
    | isFalse h, _ => isFalse (by simp [h])
    | _, isFalse hs => isFalse (by simp [hs])

end

instance : DecidableEq Element :=
  Element.decEq

/-! ### Attributes -/

/-- The attributes with `name` set to `value`: in place if it was there, else at the end. -/
def setIn (name value : String) : List (String × String) → List (String × String)
  | [] => [(name, value)]
  | (key, old) :: rest =>
    if key = name then (key, value) :: rest else (key, old) :: setIn name value rest

/-- The element with an attribute set. -/
def setAttribute (e : Element) (name value : String) : Element :=
  { e with attributes := setIn name value e.attributes }

/-- The element with several attributes set, one after the other. -/
def setAttributes (e : Element) (pairs : List (String × String)) : Element :=
  pairs.foldl (fun e pair => e.setAttribute pair.1 pair.2) e

/-- The value of an attribute, if the element has it. -/
def attribute? (e : Element) (name : String) : Option String :=
  e.attributes.lookup name

/-! ### Text -/

/-- The element with this text instead of its own. -/
def setText (e : Element) (text : String) : Element :=
  { e with text := some text }

/-- The element with a piece appended to its text; a missing text counts as empty. -/
def appendText (e : Element) (piece : String) : Element :=
  { e with text := some (e.text.getD "" ++ piece) }

/-! ### Children -/

/-- The element with one more child at the end. -/
def pushChild (e child : Element) : Element :=
  { e with children := e.children ++ [child] }

/-- The children of a name, in document order. -/
def childrenNamed (e : Element) (name : String) : List Element :=
  e.children.filter fun child => child.name == name

/-- The first child of a name. -/
def firstChild? (e : Element) (name : String) : Option Element :=
  e.children.find? fun child => child.name == name

/-- The **groups** of elements: under every name that occurs, in ascending order of the names, the
elements of that name in document order. -/
abbrev Groups :=
  List (String × List Element)

/-- The groups with one more element at the end of its group. -/
def Groups.push (groups : Groups) (child : Element) : Groups :=
  Keyed.upsert child.name (fun group? => group?.getD [] ++ [child]) groups

/-- The children of the element, grouped by name. -/
def groups (e : Element) : Groups :=
  e.children.foldl Groups.push []

/-! ### First facts -/

theorem lookup_setIn_self (name value : String) (attributes : List (String × String)) :
    (setIn name value attributes).lookup name = some value := by
  induction attributes with
  | nil => simp [setIn]
  | cons pair rest ih =>
    obtain ⟨key, old⟩ := pair
    by_cases h : key = name
    · simp [setIn, h]
    · simp [setIn, h, List.lookup_cons, beq_false_of_ne (Ne.symm h), ih]

theorem lookup_setIn_ne {name other : String} (value : String)
    (attributes : List (String × String)) (h : other ≠ name) :
    (setIn name value attributes).lookup other = attributes.lookup other := by
  induction attributes with
  | nil => simp [setIn, List.lookup_cons, beq_false_of_ne h]
  | cons pair rest ih =>
    obtain ⟨key, old⟩ := pair
    by_cases hk : key = name
    · subst hk
      simp [setIn, List.lookup_cons, beq_false_of_ne h]
    · simp [setIn, hk, List.lookup_cons, ih]

/-- An attribute that is set is read back. -/
theorem attribute?_setAttribute_self (e : Element) (name value : String) :
    (e.setAttribute name value).attribute? name = some value :=
  lookup_setIn_self name value e.attributes

/-- Setting an attribute leaves the others as they are. -/
theorem attribute?_setAttribute_ne (e : Element) {name other : String} (value : String)
    (h : other ≠ name) : (e.setAttribute name value).attribute? other = e.attribute? other :=
  lookup_setIn_ne value e.attributes h

/-- The first child of a name is the first of the children of that name. -/
theorem head?_childrenNamed (e : Element) (name : String) :
    (e.childrenNamed name).head? = e.firstChild? name := by
  simp [childrenNamed, firstChild?, List.head?_filter]

end Element

end ManifestPatch
