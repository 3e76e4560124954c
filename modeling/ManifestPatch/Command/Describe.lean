import ManifestPatch.Patch.Operation
import ManifestPatch.Text.Column
import ManifestPatch.Text.Quoted

/-!
# Descriptions

Elements, operations and payloads in a few words, for people to read.
-/

namespace ManifestPatch

/-- An element by its start tag, and the number of its children if it has any. -/
def Element.describe (e : Element) : String :=
  let attributes := e.attributes.map fun (name, value) => " " ++ name ++ "=\"" ++ value ++ "\""
  let children :=
    if e.children.isEmpty then "" else " (" ++ toString e.children.length ++ " children)"
  "<" ++ e.name ++ String.join attributes ++ ">" ++ children

/-- A payload: a quoted text, or how many elements there are of each name. -/
def Payload.describe : Payload → String
  | .text s => "= " ++ Text.quoted s
  | .elements [] => "(no elements)"
  | .elements groups =>
    ", ".intercalate <| groups.map fun (name, group) =>
      name ++ " x" ++ toString group.length

namespace Operation

/-- An operation: its kind in a column, its selector, and its hint if it has one. -/
def describe (operation : Operation) : String :=
  let hint := match operation.position with
    | some position => " pos=" ++ position
    | none => ""
  Text.alignLeft 7 operation.kind.label ++ " " ++ operation.selector.render ++ hint

/-- An operation with its number in a column; `index` counts from zero and the number from one. -/
def describeAt (index : Nat) (operation : Operation) : String :=
  Text.alignRight 3 (toString (index + 1)) ++ ". " ++ operation.describe

end Operation

end ManifestPatch
