import ManifestPatch.Command.Describe
import ManifestPatch.Command.Load

/-!
# Locating

Where a selector leads in a manifest.

## Main definitions

* `Settings.locate`: the run that reports it.
-/

namespace ManifestPatch

/-- A target in a few lines: the attribute with its value or the element, then the element it is
at and the one that an edit would change. -/
def Target.describe (t : Target) : String :=
  let subject :=
    if t.isAttribute then
      let value := match t.attributeValue? with
        | some value => Text.quoted value
        | none => "(not present)"
      "  attribute: " ++ t.name ++ "\n  value: " ++ value ++ "\n"
    else "  element: " ++ t.name ++ "\n"
  subject ++ "  leaf: " ++ t.leaf.element.describe ++ "\n  target: "
    ++ t.target.element.describe ++ "\n"

/-- The outcome of resolving a selector in a manifest. A selector that leads nowhere is a failure,
but no error. -/
def Selector.report (s : Selector) (manifest : Element) (sibling : Bool) : Outcome :=
  Outcome.after ((s.resolveEvents manifest sibling).map .log) <|
    match s.resolve manifest sibling with
    | .ok target => { written := [.out ("✓ " ++ s.render ++ "\n" ++ target.describe)] }
    | .error _ => { written := [.err ("✗ " ++ s.render ++ ": not found\n")], status := .failure }

/-- The run that **locates** a selector in the manifest under a path. -/
def Settings.locate (settings : Settings) (volume : Volume) (manifestPath : String)
    (sibling : Bool) (selectorText : String) : Outcome :=
  match settings.loadManifest volume manifestPath with
  | .error failure => .failed failure
  | .ok manifest =>
    Outcome.after (settings.rootWarning manifest) <|
      match Selector.parse selectorText with
      | .error error => .failed (.selector error)
      | .ok selector => selector.report manifest sibling

end ManifestPatch
