import ManifestPatch.Command.Arguments
import ManifestPatch.Command.Check
import ManifestPatch.Command.Describe
import ManifestPatch.Command.Failure
import ManifestPatch.Command.Help
import ManifestPatch.Command.Inspect
import ManifestPatch.Command.Load
import ManifestPatch.Command.Locate
import ManifestPatch.Command.Outcome
import ManifestPatch.Command.Run
import ManifestPatch.Decimal.Binary64
import ManifestPatch.Decimal.Shortest
import ManifestPatch.Document.Error
import ManifestPatch.Document.Fields
import ManifestPatch.Document.Reader
import ManifestPatch.Element.Basic
import ManifestPatch.Element.Place
import ManifestPatch.Element.Printer
import ManifestPatch.Event
import ManifestPatch.Files.Path
import ManifestPatch.Files.Tree
import ManifestPatch.Files.Volume
import ManifestPatch.Json.Basic
import ManifestPatch.Json.Number
import ManifestPatch.Json.Parser
import ManifestPatch.Json.Printer
import ManifestPatch.Json.Token
import ManifestPatch.Keyed
import ManifestPatch.Main
import ManifestPatch.Patch.Error
import ManifestPatch.Patch.Extraction
import ManifestPatch.Patch.Metadata
import ManifestPatch.Patch.Operation
import ManifestPatch.Proofs.Command.Inspection
import ManifestPatch.Proofs.Command.Report
import ManifestPatch.Proofs.Command.Verdict
import ManifestPatch.Proofs.Document.Bookkeeping
import ManifestPatch.Proofs.Document.Content
import ManifestPatch.Proofs.Document.Keyed
import ManifestPatch.Proofs.Document.Listed
import ManifestPatch.Proofs.Document.Offences
import ManifestPatch.Proofs.Document.Order
import ManifestPatch.Proofs.Document.Reading
import ManifestPatch.Proofs.Document.Remarks
import ManifestPatch.Proofs.Document.Source
import ManifestPatch.Proofs.Document.Tagged
import ManifestPatch.Proofs.Element.Alike
import ManifestPatch.Proofs.Element.Attributes
import ManifestPatch.Proofs.Element.Edits
import ManifestPatch.Proofs.Element.Groups
import ManifestPatch.Proofs.Element.Written
import ManifestPatch.Proofs.Json.KeyOrder
import ManifestPatch.Proofs.Keyed
import ManifestPatch.Proofs.Patch.Accounting
import ManifestPatch.Proofs.Patch.Payload
import ManifestPatch.Proofs.Patch.Policy
import ManifestPatch.Proofs.Patch.SourceOrder
import ManifestPatch.Proofs.Patch.Written
import ManifestPatch.Proofs.Pointwise
import ManifestPatch.Proofs.Reordering
import ManifestPatch.Proofs.Selector.Address
import ManifestPatch.Proofs.Selector.Component
import ManifestPatch.Proofs.Selector.Composition
import ManifestPatch.Proofs.Selector.Concatenation
import ManifestPatch.Proofs.Selector.Cut
import ManifestPatch.Proofs.Selector.Growth
import ManifestPatch.Proofs.Selector.Interleaving
import ManifestPatch.Proofs.Selector.Miss
import ManifestPatch.Proofs.Selector.Offence
import ManifestPatch.Proofs.Selector.Reading
import ManifestPatch.Proofs.Selector.Resolution
import ManifestPatch.Proofs.Selector.RoundTrip
import ManifestPatch.Proofs.Selector.Separators
import ManifestPatch.Proofs.Selector.WellFormed
import ManifestPatch.Proofs.Settings.Prefix
import ManifestPatch.Proofs.Timestamp.Spelling
import ManifestPatch.Proofs.Timestamp.Universal
import ManifestPatch.Selector.Basic
import ManifestPatch.Selector.Error
import ManifestPatch.Selector.Name
import ManifestPatch.Selector.Parser
import ManifestPatch.Selector.Printer
import ManifestPatch.Selector.Target
import ManifestPatch.Settings.Basic
import ManifestPatch.Settings.Reader
import ManifestPatch.Text.Affix
import ManifestPatch.Text.Blank
import ManifestPatch.Text.Column
import ManifestPatch.Text.Letter
import ManifestPatch.Text.Printable
import ManifestPatch.Text.Quoted
import ManifestPatch.Text.Ranges
import ManifestPatch.Text.Scanner
import ManifestPatch.Timestamp.Basic
import ManifestPatch.Timestamp.Calendar
import ManifestPatch.Timestamp.Parser
import ManifestPatch.Timestamp.Printer
import ManifestPatch.Toml.Basic
import ManifestPatch.Toml.Parser
import ManifestPatch.Toml.Quoted
import ManifestPatch.Toml.Scalar
