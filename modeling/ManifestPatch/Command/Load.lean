import ManifestPatch.Command.Failure
import ManifestPatch.Document.Reader
import ManifestPatch.Settings.Reader

/-!
# Loading

Settings, manifests and patches from the files of a volume.
-/

namespace ManifestPatch

/-- The settings in the file under a path, or the defaults if there is no path. -/
def Settings.load (volume : Volume) : Option String → Except Failure Settings
  | none => .ok {}
  | some path => do
    let text ← (volume.read path).mapError (Failure.unreadableSettings path)
    (Settings.parse text).mapError (Failure.invalidSettings path)

/-- The document in the file under a path. -/
def Document.load (volume : Volume) (options : Document.Options) (path : String) :
    Except LoadError Element := do
  let text ← (volume.read path).mapError LoadError.unreadable
  (Document.parse options text).mapError LoadError.invalid

namespace Settings

/-- The **manifest** under a path. -/
def loadManifest (settings : Settings) (volume : Volume) (path : String) :
    Except Failure Element :=
  (Document.load volume settings.manifestOptions path).mapError (Failure.manifest path)

/-- The **patch** under a path. -/
def loadPatch (settings : Settings) (volume : Volume) (path : String) : Except Failure Element :=
  (Document.load volume settings.patchOptions path).mapError (Failure.patch path)

/-- The **operations** of the patch under a path. -/
def extract (settings : Settings) (path : String) (patch : Element) : Except Failure Extraction :=
  (Extraction.ofPatch settings.policy patch).mapError (Failure.extraction path)

/-- A warning if the root of a manifest has not the name that the settings expect. -/
def rootWarning (settings : Settings) (manifest : Element) : List Output :=
  if manifest.name = settings.root then []
  else
    [.err ("Warning: manifest root is <" ++ manifest.name ++ ">, expected <" ++ settings.root
      ++ ">\n")]

end Settings

end ManifestPatch
