import ManifestPatch.Json.Basic

/-!
# Errors of Documents

Why a JSON text or value is no document, and the wording.
-/

namespace ManifestPatch

/-- Why something is no **document**. -/
inductive DocumentError where
  /-- The text is not JSON. -/
  | notJson
  /-- The value is not an object with exactly one key that can name a root element. -/
  | noSingleRoot
  /-- A value of this kind stands where the element cannot have it. -/
  | unexpectedValue (element : String) (found : Json.Kind)
  /-- The order of the children matters, but the document does not keep it; the tags are those of
  the children, in ascending order. -/
  | unorderedChildren (element : String) (tags : List String)
  deriving DecidableEq, Repr

/-- The wording of an error. -/
def DocumentError.message : DocumentError → String
  | .notJson => "invalid JSON document"
  | .noSingleRoot => "document must be an object with exactly one root element key"
  | .unexpectedValue element found =>
    "unexpected " ++ found.label ++ " while reading element '" ++ element ++ "'"
  | .unorderedChildren element tags =>
    "children of '" ++ element ++ "' (" ++ ", ".intercalate tags
      ++ ") carry no document order; expected a __children list"

end ManifestPatch
