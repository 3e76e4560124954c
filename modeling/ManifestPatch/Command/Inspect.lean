import ManifestPatch.Command.Describe
import ManifestPatch.Command.Load
import ManifestPatch.Json.Printer
import ManifestPatch.Keyed
import ManifestPatch.Files.Path
import ManifestPatch.Patch.Metadata

/-!
# Inspecting Patches

What patches say about themselves and which operations they have, file by file. A directory stands
for the patches that are directly in it.

## Main definitions

* `Volume.patchFiles`: the files that paths stand for.
* `Settings.inspect`: the run that reports all of them, up to the first that fails.
-/

namespace ManifestPatch

/-- The **files** that a path stands for: those of a directory with the extension of JSON, in
ascending order of their names, and otherwise just the path. -/
def Volume.expand (volume : Volume) (path : String) : List String :=
  match volume path with
  | .directory names =>
    (Keyed.sortedDistinct (names.filter (Path.hasExtension "json"))).map (Path.inDirectory path)
  | .file _ | .absent | .beyondFile | .tooLong => [path]

/-- The files that several paths stand for. A file that is named twice is there twice. -/
def Volume.patchFiles (volume : Volume) (paths : List String) : List String :=
  paths.flatMap volume.expand

/-- How a patch is reported. -/
inductive Layout where
  /-- As lines for people. -/
  | lines
  /-- As one JSON value. -/
  | json
  deriving DecidableEq, Repr

/-- What a line says of an attribute that may be missing. -/
def orDash (value : Option String) : String :=
  value.getD "-"

/-- The lines about the metadata of a patch. -/
def Metadata.lines (m : Metadata) : String :=
  "  mpdId: " ++ orDash m.mpdId
    ++ "\n  publishTime: " ++ orDash (m.publishTime.map Instant.renderOffset)
    ++ "\n  originalPublishTime: " ++ orDash (m.originalPublishTime.map Instant.renderOffset)
    ++ "\n"

/-- The line about the operation at an index. -/
def Operation.line (index : Nat) (operation : Operation) : String :=
  "  " ++ operation.describeAt index ++ " " ++ operation.payload.describe ++ "\n"

/-- The line about a node that was passed over. -/
def Diagnostic.line (d : Diagnostic) : String :=
  "  ⊘ " ++ d.message ++ "\n"

/-- The lines about an extraction: the operations, and what was passed over. -/
def Extraction.lines (e : Extraction) : String :=
  "  " ++ toString e.operations.length ++ " operations\n"
    ++ String.join (e.operations.mapIdx Operation.line)
    ++ String.join (e.diagnostics.map Diagnostic.line)

/-- The report of a patch. -/
def Layout.report (layout : Layout) (path : String) (m : Metadata) (e : Extraction) : String :=
  match layout with
  | .lines => path ++ "\n" ++ m.lines ++ e.lines ++ "\n"
  | .json =>
    Json.pretty (.object [("file", .string path), ("metadata", m.toJson),
      ("operations", .array (e.operations.map Operation.toJson))]) ++ "\n"

namespace Settings

/-- The outcome of inspecting one file. -/
def inspectFile (settings : Settings) (volume : Volume) (layout : Layout) (path : String) :
    Outcome :=
  match settings.loadPatch volume path with
  | .error failure => .failed failure
  | .ok patch =>
    Outcome.after ((Metadata.events patch).map .log) <|
      match settings.extract path patch with
      | .error failure => .failed failure
      | .ok extraction =>
        { written := extraction.events.map .log
            ++ [.out (layout.report path (Metadata.ofPatch patch) extraction)] }

/-- The outcome of inspecting files in order, up to the first that fails. -/
def inspectFiles (settings : Settings) (volume : Volume) (layout : Layout) :
    List String → Outcome
  | [] => {}
  | path :: rest =>
    let first := settings.inspectFile volume layout path
    match first.status with
    | .success => Outcome.after first.written (settings.inspectFiles volume layout rest)
    | .failure | .misuse => first

/-- The run that **inspects** the patches under paths. -/
def inspect (settings : Settings) (volume : Volume) (layout : Layout) (paths : List String) :
    Outcome :=
  match volume.patchFiles paths with
  | [] => .failed .noPatches
  | files => settings.inspectFiles volume layout files

end Settings

end ManifestPatch
