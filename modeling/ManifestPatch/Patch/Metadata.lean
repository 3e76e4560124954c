import ManifestPatch.Element.Basic
import ManifestPatch.Event
import ManifestPatch.Json.Basic
import ManifestPatch.Timestamp.Parser
import ManifestPatch.Timestamp.Printer

/-!
# Metadata of Patches

What the root of a patch says about the patch: when it was published, when the manifest it applies
to was published, and the identifier of that manifest.
-/

namespace ManifestPatch

/-- The **metadata** of a patch. -/
structure Metadata where
  publishTime : Option Instant := none
  originalPublishTime : Option Instant := none
  mpdId : Option String := none
  deriving DecidableEq, Repr

namespace Metadata

/-- The attribute that holds when the patch was published. -/
def publishTimeAttribute : String := "publishTime"

/-- The attribute that holds when the manifest was published. -/
def originalPublishTimeAttribute : String := "originalPublishTime"

/-- The attribute that holds the identifier of the manifest. -/
def mpdIdAttribute : String := "mpdId"

/-- The instant that an attribute of the patch denotes. -/
def instant? (patch : Element) (field : String) : Option Instant :=
  (patch.attribute? field).bind Instant.parse?

/-- The warning about an attribute that should denote an instant and does not. -/
def instantEvents (patch : Element) (field : String) : List Event :=
  match patch.attribute? field with
  | none => []
  | some text =>
    match Instant.parse? text with
    | some _ => []
    | none => [.unreadableTime field text]

/-- The identifier of the manifest; an empty one counts for nothing. -/
def mpdId? (patch : Element) : Option String :=
  (patch.attribute? mpdIdAttribute).filter fun id => !id.isEmpty

/-- The **metadata** that a patch states. -/
def ofPatch (patch : Element) : Metadata where
  publishTime := instant? patch publishTimeAttribute
  originalPublishTime := instant? patch originalPublishTimeAttribute
  mpdId := mpdId? patch

/-- The events of reading the metadata. -/
def events (patch : Element) : List Event :=
  instantEvents patch publishTimeAttribute ++ instantEvents patch originalPublishTimeAttribute

/-- A text, or `null` for none. -/
def textOrNull : Option String → Json
  | some s => .string s
  | none => .null

/-- The metadata as JSON. -/
def toJson (m : Metadata) : Json :=
  .object [
    ("mpd_id", textOrNull m.mpdId),
    ("original_publish_time", textOrNull (m.originalPublishTime.map Instant.renderZulu)),
    ("publish_time", textOrNull (m.publishTime.map Instant.renderZulu))]

end Metadata

end ManifestPatch
