import ManifestPatch.Text.Affix

/-!
# Selectors

A **selector** addresses one element or one attribute of a manifest by a path of components, as in
`/MPD/Period[@id="p1"]/AdaptationSet[2]/@lang`. A component names an element, optionally qualified
by one predicate; in last place it may name an attribute instead, marked by a leading `@`.

A selector has at least one component by construction: the first component, which stands for the
root of the manifest, and the steps below it.
-/

namespace ManifestPatch

/-- The optional qualifier of a component, which picks one among the siblings of a name. -/
inductive Predicate where
  /-- The sibling at this ordinal, counted from one. -/
  | position (ordinal : UInt64)
  /-- The first sibling whose attribute `name` has exactly this value. -/
  | attributeIs (name value : String)
  deriving DecidableEq, Repr

/-- One step of a selector: a name, which begins with `@` if it means an attribute, and at most one
predicate. Any name can stand here; only a parsed component is known to be well formed. -/
structure Component where
  name : String
  predicate : Option Predicate := none
  deriving DecidableEq, Repr

/-- A **selector**: the component that stands for the root, and the steps below it in order. -/
structure Selector where
  root : Component
  steps : List Component := []
  deriving DecidableEq, Repr

namespace Component

/-- The name of the attribute that the component means, if it means one. -/
def attributeName? (c : Component) : Option String :=
  Text.afterStart? "@" c.name

/-- Whether the component means an attribute. -/
def isAttribute (c : Component) : Bool :=
  c.attributeName?.isSome

/-- The ordinal, if that is the predicate. -/
def position? (c : Component) : Option UInt64 :=
  match c.predicate with
  | some (.position ordinal) => some ordinal
  | _ => none

/-- The attribute name and value to be matched, if that is the predicate. -/
def attributeMatch? (c : Component) : Option (String × String) :=
  match c.predicate with
  | some (.attributeIs name value) => some (name, value)
  | _ => none

/-- A component means an attribute exactly if its name is `@` and the name of the attribute. -/
theorem attributeName?_eq_some_iff {c : Component} {name : String} :
    c.attributeName? = some name ↔ c.name = "@" ++ name :=
  Text.afterStart?_eq_some_iff

end Component

namespace Selector

/-- All components, from the root to the leaf. -/
def components (s : Selector) : List Component :=
  s.root :: s.steps

/-- The last component, which names the element or the attribute that is addressed. -/
def leaf (s : Selector) : Component :=
  s.steps.getLastD s.root

/-- Whether the selector addresses an attribute. -/
def targetsAttribute (s : Selector) : Bool :=
  s.leaf.isAttribute

/-- Whether the selector addresses an element. -/
def targetsElement (s : Selector) : Bool :=
  !s.targetsAttribute

/-- The leaf is the last of the components. -/
theorem getLast?_components (s : Selector) : s.components.getLast? = some s.leaf := by
  simp [components, leaf, List.getLast?_cons, List.getLastD_eq_getLast?]

end Selector

end ManifestPatch
