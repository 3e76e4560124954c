import ManifestPatch.Command.Check
import ManifestPatch.Command.Help
import ManifestPatch.Command.Locate

/-!
# Running Commands

The whole program as a function: from the files of a volume and a command line to an outcome. First
the command line has to make sense, then the settings have to load, and then the command runs.

## Main definitions

* `run`: the outcome of a command line.
* `Invocation.paths`: the paths that a run looks at first.
-/

namespace ManifestPatch

/-- The outcome of a command under given settings. -/
def Command.run (settings : Settings) (volume : Volume) : Command → Outcome
  | .inspect layout paths => settings.inspect volume layout paths
  | .resolve manifest sibling selector => settings.locate volume manifest sibling selector
  | .check manifest patch => settings.check volume manifest patch

/-- The operands and option values of a command that are paths. -/
def Command.paths : Command → List String
  | .inspect _ paths => paths
  | .resolve manifest _ _ => [manifest]
  | .check manifest patch => [manifest, patch]

namespace Invocation

/-- The outcome of an invocation. -/
def run (volume : Volume) (invocation : Invocation) : Outcome :=
  match Settings.load volume invocation.config with
  | .error failure => .failed failure
  | .ok settings => invocation.command.run settings volume

/-- The paths that an invocation names. A run looks at these, and at the files of the directories
among them. -/
def paths (invocation : Invocation) : List String :=
  invocation.config.toList ++ invocation.command.paths

end Invocation

/-- The **outcome** of a command line. -/
def run (volume : Volume) (arguments : List String) : Outcome :=
  match Invocation.parse arguments with
  | .error halt => halt.outcome
  | .ok invocation => invocation.run volume

end ManifestPatch
