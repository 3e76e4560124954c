import ManifestPatch.Element.Printer
import ManifestPatch.Selector.Parser
import ManifestPatch.Selector.Target

/-!
# Operations

A patch edits a manifest by a list of **operations**. Each has a kind, a selector for the place, a
payload (a text for an attribute, elements for an element), and, if it adds something, possibly a
hint where.

## Main definitions

* `Operation.make`, `Operation.withPosition`: an operation and its hint.
* `Operation.resolve`: the place in a manifest that an operation means.
* `Operation.toJson`: an operation as JSON.
-/

namespace ManifestPatch

/-- What an operation does. -/
inductive OperationKind where
  | add
  | remove
  | replace
  deriving DecidableEq, Repr

namespace OperationKind

/-- The word for a kind. -/
def label : OperationKind → String
  | .add => "add"
  | .remove => "remove"
  | .replace => "replace"

/-- The kind that a word means. -/
def ofLabel? (word : String) : Option OperationKind :=
  [add, remove, replace].find? fun kind => kind.label == word

/-- Whether the operation acts on the children of the parent: it adds one or takes one away. What
replaces an element stays in place. -/
def actsOnSiblings : OperationKind → Bool
  | .add | .remove => true
  | .replace => false

/-- The word for a kind means that kind. -/
theorem ofLabel?_eq_some_iff {word : String} {kind : OperationKind} :
    ofLabel? word = some kind ↔ kind.label = word := by
  constructor
  · intro h
    simpa using List.find?_some h
  · rintro rfl
    cases kind <;> decide

end OperationKind

/-- The **payload** of an operation. -/
inductive Payload where
  /-- The value of an attribute. -/
  | text (s : String)
  /-- Elements, grouped by name. -/
  | elements (groups : Element.Groups)
  deriving DecidableEq

namespace Payload

/-- The text, if that is the payload. -/
def text? : Payload → Option String
  | .text s => some s
  | .elements _ => none

/-- The elements, if they are the payload. -/
def elements? : Payload → Option Element.Groups
  | .text _ => none
  | .elements groups => some groups

/-- A payload as JSON: a string or an object. -/
def toJson : Payload → Json
  | .text s => .string s
  | .elements groups => groups.toJson

end Payload

/-- One **operation** of a patch. -/
structure Operation where
  kind : OperationKind
  selector : Selector
  payload : Payload
  /-- Where an addition goes, as the patch words it. -/
  position : Option String := none
  deriving DecidableEq

namespace Operation

/-- An operation without a hint where. -/
def make (kind : OperationKind) (selector : Selector) (payload : Payload) : Operation :=
  { kind, selector, payload }

/-- The operation with another hint, or none. Only an addition has a hint. -/
def withPosition (operation : Operation) (position : Option String) : Operation :=
  if operation.kind = .add then { operation with position } else operation

@[simp] theorem kind_make (kind : OperationKind) (selector : Selector) (payload : Payload) :
    (make kind selector payload).kind = kind := rfl

@[simp] theorem selector_make (kind : OperationKind) (selector : Selector) (payload : Payload) :
    (make kind selector payload).selector = selector := rfl

@[simp] theorem payload_make (kind : OperationKind) (selector : Selector) (payload : Payload) :
    (make kind selector payload).payload = payload := rfl

@[simp] theorem position_make (kind : OperationKind) (selector : Selector) (payload : Payload) :
    (make kind selector payload).position = none := rfl

@[simp] theorem kind_withPosition (operation : Operation) (position : Option String) :
    (operation.withPosition position).kind = operation.kind := by
  rw [withPosition]
  split <;> rfl

@[simp] theorem selector_withPosition (operation : Operation) (position : Option String) :
    (operation.withPosition position).selector = operation.selector := by
  rw [withPosition]
  split <;> rfl

@[simp] theorem payload_withPosition (operation : Operation) (position : Option String) :
    (operation.withPosition position).payload = operation.payload := by
  rw [withPosition]
  split <;> rfl

/-- An addition gets the hint, and nothing else does. -/
theorem position_withPosition (operation : Operation) (position : Option String) :
    (operation.withPosition position).position =
      if operation.kind = .add then position else operation.position := by
  rw [withPosition]
  split <;> rfl

/-- The place in a manifest that the operation means. -/
def resolve (operation : Operation) (root : Element) : Except Miss Target :=
  operation.selector.resolve root operation.kind.actsOnSiblings

/-- An **operation** as JSON; the hint is left out if there is none. -/
def toJson (operation : Operation) : Json :=
  .object <|
    ("kind", .string operation.kind.label)
      :: Element.optionalField "position" (operation.position.map .string)
      ++ [("selector", operation.selector.toJson), ("value", operation.payload.toJson)]

end Operation

end ManifestPatch
