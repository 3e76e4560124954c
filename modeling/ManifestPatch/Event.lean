/-!
# Log Events

What the library has to say beside its answers. An event is a value like any other: functions
return their events, and whoever runs them may write a log.
-/

namespace ManifestPatch

/-- How much an event matters. -/
inductive Severity where
  | debug
  | warn
  deriving DecidableEq, Repr

/-- The upper-case name of a severity. -/
def Severity.label : Severity → String
  | .debug => "DEBUG"
  | .warn => "WARN"

/-- A **log event**. -/
inductive Event where
  /-- A patch was read: so many operations, and so many nodes skipped. -/
  | extracted (operations skipped : Nat)
  /-- The patch node at this index has a kind that is none of an operation. -/
  | unsupportedKind (index : Nat) (kind : String)
  /-- The patch node at this index was skipped because of its selector. -/
  | malformedSelector (index : Nat) (error : String)
  /-- A timestamp of the patch could not be read. -/
  | unreadableTime (field value : String)
  /-- The component of a selector at this level selects no element. -/
  | unmatched (selector : String) (level : Nat) (component : String)
  deriving DecidableEq, Repr

/-- The value of one field of an event. -/
inductive Event.Field where
  | number (n : Nat)
  | text (s : String)
  deriving DecidableEq, Repr

namespace Event

/-- How much the event matters: only a failed look-up and the count of operations are for
debugging. -/
def severity : Event → Severity
  | .extracted .. | .unmatched .. => .debug
  | .unsupportedKind .. | .malformedSelector .. | .unreadableTime .. => .warn

/-- What the event says. -/
def message : Event → String
  | .extracted .. => "extracted patch operations"
  | .unsupportedKind .. => "ignoring patch node of unsupported type"
  | .malformedSelector .. => "skipping patch node with malformed selector"
  | .unreadableTime .. => "ignoring unparseable patch timestamp"
  | .unmatched .. => "selector did not match"

/-- The particulars of the event, by name. -/
def fields : Event → List (String × Field)
  | .extracted operations skipped =>
    [("operations", .number operations), ("skipped", .number skipped)]
  | .unsupportedKind index kind => [("index", .number index), ("kind", .text kind)]
  | .malformedSelector index error => [("index", .number index), ("error", .text error)]
  | .unreadableTime field value => [("field", .text field), ("value", .text value)]
  | .unmatched selector level component =>
    [("selector", .text selector), ("level", .number level), ("component", .text component)]

end Event

end ManifestPatch
