import ManifestPatch.Json.Basic
import ManifestPatch.Selector.Basic

/-!
# Writing Selectors

Every component is written after a `/`, positions in decimal, attribute comparisons with `@` and
the value in quotes: single quotes if the value has a double quote, double quotes else. The value
is written as it is, so that a value with both quotes has no faithful form.
-/

namespace ManifestPatch

/-- The quote that a value is written in. -/
def Predicate.quoteFor (value : String) : Char :=
  if '"' ∈ value.toList then '\'' else '"'

/-- A predicate with its brackets. -/
def Predicate.render : Predicate → String
  | .position ordinal => "[" ++ toString ordinal.toNat ++ "]"
  | .attributeIs name value =>
    let quote := (quoteFor value).toString
    "[@" ++ name ++ "=" ++ quote ++ value ++ quote ++ "]"

/-- A component: its name and its predicate. -/
def Component.render (c : Component) : String :=
  c.name ++ (c.predicate.elim "" Predicate.render)

/-- A **selector** as text, every component after a separator. -/
def Selector.render (s : Selector) : String :=
  String.join (s.components.map fun c => "/" ++ c.render)

/-- A **selector** as JSON: the string of its text. -/
def Selector.toJson (s : Selector) : Json :=
  .string s.render

instance : ToString Component where
  toString := Component.render

instance : ToString Selector where
  toString := Selector.render

end ManifestPatch
