import ManifestPatch.Event

/-!
# Outcomes

What a run of the program leaves behind: what it wrote, in order, and how it ended.

## Main definitions

* `Outcome.after`: a run that goes on after something was written.
* `Outcome.stdout`, `Outcome.stderr`: what stands on either stream.
-/

namespace ManifestPatch

/-- A piece of what a run writes. -/
inductive Output where
  /-- Text on the standard output. -/
  | out (text : String)
  /-- Text on the standard error. -/
  | err (text : String)
  /-- An event for the log. -/
  | log (event : Event)
  deriving DecidableEq, Repr

namespace Output

/-- The text on the standard output. -/
def outText : Output → String
  | .out text => text
  | .err _ | .log _ => ""

/-- The text on the standard error; the log is kept apart. -/
def errText : Output → String
  | .err text => text
  | .out _ | .log _ => ""

end Output

/-- How a run ends. -/
inductive Status where
  | success
  | failure
  /-- The command line makes no sense. -/
  | misuse
  deriving DecidableEq, Repr

/-- The exit code of a status. -/
def Status.code : Status → Nat
  | .success => 0
  | .failure => 1
  | .misuse => 2

/-- The **outcome** of a run. -/
structure Outcome where
  written : List Output := []
  status : Status := .success
  deriving DecidableEq, Repr

namespace Outcome

/-- The outcome of a run before which something was written. -/
def after (written : List Output) (rest : Outcome) : Outcome :=
  { rest with written := written ++ rest.written }

/-- The **standard output**. -/
def stdout (o : Outcome) : String :=
  String.join (o.written.map Output.outText)

/-- The **standard error**. -/
def stderr (o : Outcome) : String :=
  String.join (o.written.map Output.errText)

end Outcome

end ManifestPatch
