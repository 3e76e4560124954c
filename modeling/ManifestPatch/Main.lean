import ManifestPatch.Command.Run

/-!
# The Program

Looks up the paths of the command line in the file system, runs the command on what is found there,
and writes its outcome. Warnings are always logged, events for debugging only if that is asked for.
-/

namespace ManifestPatch

/-- The line of the log for an event. -/
def Event.line (event : Event) : String :=
  let field : String × Event.Field → String
    | (name, .number n) => " " ++ name ++ "=" ++ toString n
    | (name, .text s) => " " ++ name ++ "=" ++ s
  event.severity.label ++ " " ++ event.message ++ String.join (event.fields.map field) ++ "\n"

/-- What the file system has under a path. The one path that it finds invalid is one that is too
long; what else cannot be read counts as absent. -/
def lookUp (path : String) : IO Entry := do
  let place := System.mkFilePath [path]
  try
    if (← place.metadata).type == .dir then
      let found ← place.readDir
      let files ← found.toList.filterM fun entry =>
        return (← entry.path.symlinkMetadata).type == .file
      return .directory (files.map fun entry => entry.fileName)
    else
      return .file (← IO.FS.readBinFile place)
  catch
    | .inappropriateType .. => return .beyondFile
    | .invalidArgument .. => return .tooLong
    | _ => return .absent

/-- What the file system has under several paths, as a volume. -/
def lookUpAll (paths : List String) : IO Volume := do
  let found ← paths.mapM fun path => return (path, ← lookUp path)
  return fun path => (found.lookup path).getD .absent

/-- Writes an outcome. -/
def emit (verbose : Bool) (outcome : Outcome) : IO UInt32 := do
  for piece in outcome.written do
    match piece with
    | .out text => IO.print text
    | .err text => IO.eprint text
    | .log event => if verbose || event.severity == .warn then IO.eprint event.line
  return outcome.status.code.toUInt32

/-- Carries out a command line. -/
def execute (arguments : List String) : IO UInt32 := do
  match Invocation.parse arguments with
  | .error halt => emit false halt.outcome
  | .ok invocation =>
    let named ← lookUpAll invocation.paths
    let volume ← lookUpAll (invocation.paths ++ named.patchFiles invocation.paths)
    emit invocation.verbose (invocation.run volume)

end ManifestPatch

/-- The **program**. -/
def main (arguments : List String) : IO UInt32 :=
  ManifestPatch.execute arguments
