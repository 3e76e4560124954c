import ManifestPatch.Element.Place
import ManifestPatch.Event
import ManifestPatch.Selector.Printer

/-!
# Resolving Selectors

A selector is resolved against a tree by walking down from the root, one component after the
other. The first component stands for the root and its name is not looked at; every other one
selects a child of the element reached so far. An attribute is no element, so that a trailing
attribute ends the walk at its owner.

## Main definitions

* `Component.select`: the child that a component selects.
* `Selector.resolve`: where a selector leads, or why it leads nowhere.
-/

namespace ManifestPatch

/-- The child of a place that a component **selects**: among the children of its name the one at
the given ordinal, the first with the given attribute, or simply the first. -/
def Component.select (c : Component) (parent : Place) : Option Place :=
  let candidates := parent.childrenNamed c.name
  match c.predicate with
  | none => candidates.head?
  | some (.position ordinal) =>
    if ordinal = 0 then none else candidates[ordinal.toNat - 1]?
  | some (.attributeIs name value) =>
    candidates.find? fun child => child.element.attribute? name == some value

/-- Where a selector leads. -/
structure Target where
  /-- The name of the element, or that of the attribute without its `@`. -/
  name : String
  isAttribute : Bool
  /-- The element that the last step selects; for an attribute, its owner. -/
  leaf : Place
  /-- The element that an edit has to change. -/
  target : Place
  deriving DecidableEq, Repr

/-- The present value of the attribute that is addressed, if the owner has it. -/
def Target.attributeValue? (t : Target) : Option String :=
  if t.isAttribute then t.leaf.element.attribute? t.name else none

/-- Why a selector leads nowhere. -/
inductive Miss where
  /-- The component at this level, counted from the root's zero, selects no child. -/
  | unmatched (level : Nat) (component : Component)
  /-- The parent of the root was asked for. -/
  | noParent
  deriving DecidableEq, Repr

namespace Selector

/-- The **walk** down from `leaf` along the steps from `level` on: the place reached and the one
before it, or the step that selects nothing. -/
def walk (level : Nat) (parent : Option Place) (leaf : Place) :
    List Component → Except Miss (Option Place × Place)
  | [] => .ok (parent, leaf)
  | step :: rest =>
    if rest.isEmpty && step.isAttribute then .ok (some leaf, leaf)
    else
      match step.select leaf with
      | some next => walk (level + 1) (some leaf) next rest
      | none => .error (.unmatched level step)

/-- Where the selector leads from `root`. An attribute is edited at its owner. An element is edited
in place, or, for an operation on siblings, at its parent. -/
def resolve (s : Selector) (root : Element) (sibling : Bool) : Except Miss Target := do
  let (parent?, leaf) ← walk 1 none (.ofRoot root) s.steps
  match s.leaf.attributeName? with
  | some name => return { name, isAttribute := true, leaf, target := leaf }
  | none =>
    if sibling then
      match parent? with
      | some parent => return { name := s.leaf.name, isAttribute := false, leaf, target := parent }
      | none => throw .noParent
    else return { name := s.leaf.name, isAttribute := false, leaf, target := leaf }

/-- What is logged of a failure: the step that selected nothing. That the root has no parent is
not worth an event. -/
def missEvents (s : Selector) : Miss → List Event
  | .unmatched level component => [.unmatched s.render level component.render]
  | .noParent => []

/-- The events of one resolution. -/
def resolveEvents (s : Selector) (root : Element) (sibling : Bool) : List Event :=
  match s.resolve root sibling with
  | .ok _ => []
  | .error miss => s.missEvents miss

end Selector

end ManifestPatch
