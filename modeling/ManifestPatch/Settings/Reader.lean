import ManifestPatch.Settings.Basic
import ManifestPatch.Toml.Parser

/-!
# Reading Settings

Settings are written in TOML, in two sections: `document` with `attribute_prefix` and `root`, and
`extraction` with `malformed_selector`. What is left out has its default, and what is not known is
passed over. A section may also be an array, which holds its values in that order, or a date,
which holds none of them.

## Main definitions

* `Settings.ofToml`: the settings in a TOML document.
* `Settings.parse`: the same from a text, if they make sense.
-/

namespace ManifestPatch.Settings

/-- The value of each of the keys in a section, if it is there. A section that is left out has
none of them. -/
def sectionValues (keys : List String) : Option Toml → Option (List (Option Toml))
  | none => some (keys.map fun _ => none)
  | some (.table _ entries) => some (keys.map fun key => entries.lookup key)
  | some (.array items) => some ((List.range keys.length).map fun i => items[i]?)
  | some (.tables elements) =>
    let items := elements.reverse.map fun entries => Toml.table .header entries
    some ((List.range keys.length).map fun i => items[i]?)
  | some (.datetime _) => some (keys.map fun _ => none)
  | some _ => none

/-- A text, or the default if it is left out. -/
def textOr (default : String) : Option Toml → Option String
  | none => some default
  | some (.string s) => some s
  | some _ => none

/-- The policy that a word means. -/
def policyOfLabel? (word : String) : Option Policy :=
  [Policy.abort, Policy.skip].find? fun policy => policy.label == word

/-- Whether a value holds nothing. -/
def isEmptyValue : Toml → Bool
  | .array items => items.isEmpty
  | .table _ entries => entries.isEmpty
  | .tables elements => elements.isEmpty
  | _ => false

/-- A policy, as a word or as the only key of a table, or the default if it is left out. -/
def policyOr (default : Policy) : Option Toml → Option Policy
  | none => some default
  | some (.string word) => policyOfLabel? word
  | some (.table _ [(word, v)]) => if isEmptyValue v then policyOfLabel? word else none
  | some _ => none

/-- The settings in a TOML document. -/
def ofToml (entries : Toml.Entries) : Option Settings := do
  let document ← sectionValues ["attribute_prefix", "root"] (entries.lookup "document")
  let extraction ← sectionValues ["malformed_selector"] (entries.lookup "extraction")
  let defaults : Settings := {}
  return {
    attributePrefix := ← textOr defaults.attributePrefix (document[0]?).join
    root := ← textOr defaults.root (document[1]?).join
    policy := ← policyOr defaults.policy (extraction[0]?).join }

/-- The **settings** in a text. -/
def parse (text : String) : Except SettingsError Settings :=
  match (Toml.parse text).bind ofToml with
  | none => .error .unreadable
  | some settings =>
    match settings.issues with
    | [] => .ok settings
    | issues => .error (.invalid issues)

end ManifestPatch.Settings
