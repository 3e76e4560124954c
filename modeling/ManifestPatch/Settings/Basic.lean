import ManifestPatch.Document.Reader
import ManifestPatch.Patch.Extraction
import ManifestPatch.Text.Blank

/-!
# Settings

How documents are read and what is done about malformed selectors is a matter of **settings**. Not
every choice makes sense: the root has to have a name, and the prefix that marks attributes must
neither look like bookkeeping nor have white space.

## Main definitions

* `Settings.issues`: everything that is wrong with the settings.
* `Settings.manifestOptions`, `Settings.patchOptions`: how the two kinds of documents are read.
-/

namespace ManifestPatch

/-- The **settings**. -/
structure Settings where
  /-- What the keys of attributes begin with. -/
  attributePrefix : String := ""
  /-- The name that the root of a manifest should have. -/
  root : String := "MPD"
  /-- What to do about a malformed selector. -/
  policy : Policy := .abort
  deriving DecidableEq, Repr

namespace Settings

/-- What can be wrong with the settings. -/
inductive Issue where
  /-- The root has no name but white space. -/
  | blankRoot
  /-- The prefix begins like a key of bookkeeping. -/
  | reservedPrefix (attributePrefix : String)
  /-- The prefix has white space. -/
  | blankInPrefix
  deriving DecidableEq, Repr

/-- The wording of an issue. -/
def Issue.message : Issue → String
  | .blankRoot => "config missing required field 'document.root'"
  | .reservedPrefix attributePrefix =>
    "invalid value for 'document.attribute_prefix': '" ++ attributePrefix
      ++ "' collides with parser bookkeeping keys"
  | .blankInPrefix => "invalid value for 'document.attribute_prefix': whitespace not allowed"

/-- The wording of several issues. -/
def issuesMessage (issues : List Issue) : String :=
  "; ".intercalate (issues.map Issue.message)

/-- Everything that is wrong with the settings. -/
def issues (settings : Settings) : List Issue :=
  (if (Text.trim settings.root.toList).isEmpty then [.blankRoot] else [])
    ++ (if Document.isBookkeeping settings.attributePrefix then
        [.reservedPrefix settings.attributePrefix] else [])
    ++ (if settings.attributePrefix.toList.any Text.isBlank then [.blankInPrefix] else [])

/-- How manifests are read: their order does not matter. -/
def manifestOptions (settings : Settings) : Document.Options :=
  { attributePrefix := settings.attributePrefix, orderedRoot := false }

/-- How patches are read: the order of the operations matters. -/
def patchOptions (settings : Settings) : Document.Options :=
  { attributePrefix := settings.attributePrefix, orderedRoot := true }

/-- Settings without issues have a prefix that no key of bookkeeping begins with. -/
theorem not_isBookkeeping_of_issues {settings : Settings} (h : settings.issues = []) :
    Document.isBookkeeping settings.attributePrefix = false := by
  simp only [issues, List.append_eq_nil_iff] at h
  cases hb : Document.isBookkeeping settings.attributePrefix with
  | false => rfl
  | true => simp [hb] at h

end Settings

/-- Why a text is no settings. -/
inductive SettingsError where
  /-- The text is not TOML, or a value in it is of the wrong type. -/
  | unreadable
  /-- The settings make no sense. -/
  | invalid (issues : List Settings.Issue)
  deriving DecidableEq, Repr

/-- The wording of an error. -/
def SettingsError.message : SettingsError → String
  | .unreadable => "failed to parse config TOML"
  | .invalid issues => "invalid config: " ++ Settings.issuesMessage issues

end ManifestPatch
