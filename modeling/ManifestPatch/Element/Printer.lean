import ManifestPatch.Element.Basic
import ManifestPatch.Json.Basic

/-!
# Elements as JSON

An element is written as an object with its name, its attributes as pairs, its children and its
text. What an element does not have is left out; an empty text is not the same as none.
-/

namespace ManifestPatch.Element

/-- A field that is left out if there is nothing to write. -/
def optionalField (key : String) : Option Json → List (String × Json)
  | some v => [(key, v)]
  | none => []

/-- A list as an array, unless it is empty. -/
def arrayUnlessEmpty : List Json → Option Json
  | [] => none
  | items => some (.array items)

mutual

/-- An **element** as a JSON value. -/
def toJson : Element → Json
  | ⟨name, attributes, children, text⟩ =>
    let pairs := attributes.map fun (key, v) => Json.array [.string key, .string v]
    .object <|
      optionalField "attributes" (arrayUnlessEmpty pairs)
        ++ optionalField "children" (arrayUnlessEmpty (toJsonList children))
        ++ ("name", .string name) :: optionalField "text" (text.map .string)

/-- Several elements as JSON values. -/
def toJsonList : List Element → List Json
  | [] => []
  | e :: rest => e.toJson :: toJsonList rest

end

/-- Groups of elements as an object with an array under every tag. -/
def Groups.toJson (groups : Groups) : Json :=
  .object (groups.map fun (tag, elements) => (tag, .array (toJsonList elements)))

end ManifestPatch.Element
