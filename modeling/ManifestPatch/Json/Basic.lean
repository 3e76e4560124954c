import ManifestPatch.Json.Number
import ManifestPatch.Keyed

/-!
# JSON Values

A **JSON value** as it is held in memory: an object is a list of fields in ascending order of the
keys, each key once.
-/

namespace ManifestPatch

/-- A **JSON value**. -/
inductive Json where
  | null
  | bool (b : Bool)
  | number (n : Json.Number)
  | string (s : String)
  | array (items : List Json)
  | object (fields : List (String × Json))
  deriving Repr, Inhabited

namespace Json

/-- The object with these fields, given in any order; of a repeated key the last value counts. -/
def ofFields (fields : List (String × Json)) : Json :=
  .object (Keyed.ofPairs fields)

/-- The **kinds** of values. -/
inductive Kind where
  | null
  | boolean
  | number
  | string
  | array
  | object
  deriving DecidableEq, Repr

/-- The word for a kind. -/
def Kind.label : Kind → String
  | .null => "null"
  | .boolean => "boolean"
  | .number => "number"
  | .string => "string"
  | .array => "array"
  | .object => "object"

/-- The kind of a value. -/
def kind : Json → Kind
  | .null => .null
  | .bool _ => .boolean
  | .number _ => .number
  | .string _ => .string
  | .array _ => .array
  | .object _ => .object

/-- The text of a value that is a single text, number or truth value. -/
def scalarText? : Json → Option String
  | .string s => some s
  | .number n => some n.render
  | .bool b => some (if b then "true" else "false")
  | _ => none

end Json

end ManifestPatch
