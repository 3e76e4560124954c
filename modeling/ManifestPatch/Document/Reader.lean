import ManifestPatch.Document.Fields
import ManifestPatch.Element.Basic
import ManifestPatch.Json.Parser

/-!
# Reading Documents

A **document** is a JSON object with one key that names the root element; the root and everything
below it is read from the value under that key. Where the order of the root's children matters, a
root with children of several tags has to list them.

## Main definitions

* `Document.readElement`: the element that a value stands for.
* `Document.ofJson`: the root element of a document.
* `Document.parse`: the same from a text.

## Main results

* `readElement_object`: an object is read child by child, the first error winning.
-/

namespace ManifestPatch.Document

/-- How documents are read. -/
structure Options where
  /-- What the keys of attributes begin with. Every key begins with the empty text. -/
  attributePrefix : String := ""
  /-- Whether the order of the root's children matters. -/
  orderedRoot : Bool := false
  deriving DecidableEq, Repr

/-- The **element** that a value stands for: an object with its fields, a scalar with its text, and
`null` as an element without anything. -/
def readElement (attributePrefix : String) (name : String) (v : Json) :
    Except DocumentError Element :=
  match v with
  | .object fields => do
    let children ← (nodes attributePrefix fields).attach.mapM fun ⟨node?, isNode⟩ =>
      match node?, isNode with
      | .ok node, isNode =>
        have := sizeOf_lt_of_mem_nodes isNode
        readElement attributePrefix node.tag node.value
      | .error found, _ => throw (.unexpectedValue name found)
    let element : Element := { name, children, text := text? fields }
    return element.setAttributes (attributes attributePrefix fields)
  | .array _ => throw (.unexpectedValue name .array)
  | v => return { name, text := v.scalarText? }
termination_by v
decreasing_by simpa using this

/-- The child that a node stands for, in the element of the given name. -/
def readNode (attributePrefix : String) (parent : String) :
    Except Json.Kind Node → Except DocumentError Element
  | .ok node => readElement attributePrefix node.tag node.value
  | .error found => throw (.unexpectedValue parent found)

/-- An object is read by reading its nodes in order. -/
theorem readElement_object (attributePrefix name : String) (fields : List (String × Json)) :
    readElement attributePrefix name (.object fields) = do
      let children ← (nodes attributePrefix fields).mapM (readNode attributePrefix name)
      let element : Element := { name, children, text := text? fields }
      return element.setAttributes (attributes attributePrefix fields) := by
  rw [readElement, List.mapM_subtype (g := readNode attributePrefix name), List.unattach_attach]
  rintro (_ | _) _ <;> rfl

/-- Whether a key of a document can name its root element. -/
def isRootKey (key : String) : Bool :=
  !isBookkeeping key && !Text.endsWith arrayEnding key

/-- Whether a value lists its children. -/
def listsChildren : Json → Bool
  | .object fields => (fields.lookup childrenKey).isSome
  | _ => false

/-- The tags of an element's children, in ascending order, each once. -/
def childTags (e : Element) : List String :=
  Keyed.sortedDistinct (e.children.map Element.name)

/-- The root element of a **document**. -/
def ofJson (options : Options) (v : Json) : Except DocumentError Element :=
  match v with
  | .object fields =>
    match fields.filter fun field => isRootKey field.1 with
    | [(name, root)] => do
      let element ← readElement options.attributePrefix name root
      let tags := childTags element
      if options.orderedRoot && !listsChildren root && tags.length > 1 then
        throw (.unorderedChildren name tags)
      return element
    | _ => throw .noSingleRoot
  | _ => throw .noSingleRoot

/-- The root element of a document given as text. -/
def parse (options : Options) (text : String) : Except DocumentError Element :=
  match Json.parse text with
  | some v => ofJson options v
  | none => throw .notJson

end ManifestPatch.Document
