import ManifestPatch.Element.Basic

/-!
# Places in a Tree

A **path** is a list of child indexes, counted from zero among all children, and leads from an
element down. A **place** is an element together with the path to it, so that two equal elements in
one tree are still told apart.
-/

namespace ManifestPatch

/-- The element that a path leads to. -/
def Element.at? (e : Element) : List Nat → Option Element
  | [] => some e
  | i :: path =>
    match e.children[i]? with
    | some child => child.at? path
    | none => none

/-- An element and the path that leads to it from the root of its tree. -/
structure Place where
  path : List Nat
  element : Element
  deriving DecidableEq, Repr

namespace Place

/-- The place of the root itself. -/
def ofRoot (root : Element) : Place :=
  { path := [], element := root }

/-- The places of all children, in document order. -/
def children (place : Place) : List Place :=
  place.element.children.zipIdx.map fun (child, index) =>
    { path := place.path ++ [index], element := child }

/-- The places of the children of a name, in document order. -/
def childrenNamed (place : Place) (name : String) : List Place :=
  place.children.filter fun child => child.element.name == name

/-- The path of the place leads from `root` to its element. -/
def In (place : Place) (root : Element) : Prop :=
  root.at? place.path = some place.element

end Place

end ManifestPatch
