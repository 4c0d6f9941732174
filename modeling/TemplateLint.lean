import TemplateLint.Command.Arguments
import TemplateLint.Command.Perform
import TemplateLint.Command.Report
import TemplateLint.Command.Templates
import TemplateLint.Config.File
import TemplateLint.Config.Resolution
import TemplateLint.Config.Search
import TemplateLint.Document.Basic
import TemplateLint.Document.Store
import TemplateLint.Document.Template
import TemplateLint.Failure
import TemplateLint.Json.Decode
import TemplateLint.Json.Fault
import TemplateLint.Json.Printer
import TemplateLint.Json.Reader
import TemplateLint.Json.Typed
import TemplateLint.Json.Value
import TemplateLint.Json5.Fault
import TemplateLint.Json5.Meaning
import TemplateLint.Json5.Syntax
import TemplateLint.Lint.Bridge
import TemplateLint.Lint.Diagnostic
import TemplateLint.Lint.Interpreter
import TemplateLint.Lint.Package
import TemplateLint.Lint.Problem
import TemplateLint.Main
import TemplateLint.Number.Binary64
import TemplateLint.Number.Notation
import TemplateLint.Number.Power
import TemplateLint.Number.Shortest
import TemplateLint.Options
import TemplateLint.Server.Call
import TemplateLint.Server.Capability
import TemplateLint.Server.Delivery
import TemplateLint.Server.Frame
import TemplateLint.Server.Inquiry
import TemplateLint.Server.Item
import TemplateLint.Server.Message
import TemplateLint.Server.Params
import TemplateLint.Server.Place
import TemplateLint.Server.Serve
import TemplateLint.Session.Event
import TemplateLint.Session.Handlers
import TemplateLint.Session.Job
import TemplateLint.Session.Pool
import TemplateLint.Session.State
import TemplateLint.Session.Turn
import TemplateLint.Session.Validation
import TemplateLint.Session.Watcher
import TemplateLint.Settings
import TemplateLint.System.Environment
import TemplateLint.System.Machine
import TemplateLint.System.OsFault
import TemplateLint.System.Path
import TemplateLint.System.Program
import TemplateLint.System.Tree
import TemplateLint.Text.Blank
import TemplateLint.Text.Category
import TemplateLint.Text.Composition
import TemplateLint.Text.Direction
import TemplateLint.Text.Joining
import TemplateLint.Text.Quoted
import TemplateLint.Text.Table
import TemplateLint.Text.Utf8
import TemplateLint.Uri.Basic
import TemplateLint.Uri.Folding
import TemplateLint.Uri.Host
import TemplateLint.Uri.Name
import TemplateLint.Uri.Percent
import TemplateLint.Uri.Punycode
import TemplateLint.Uri.Reading
import TemplateLint.Proofs.Config.Candidates
import TemplateLint.Proofs.Document.Store
import TemplateLint.Proofs.Document.Versions
import TemplateLint.Proofs.Session.Publication
import TemplateLint.Proofs.Session.Run
import TemplateLint.Proofs.Session.Kept
import TemplateLint.Proofs.Session.Validation
import TemplateLint.Proofs.Session.Conversation
import TemplateLint.Proofs.Session.Diagnostics
import TemplateLint.Proofs.Session.Forgetful
import TemplateLint.Proofs.Session.Agreement
import TemplateLint.Proofs.Session.Transparency
import TemplateLint.Proofs.Session.Stage
import TemplateLint.Proofs.Session.Interleaving
import TemplateLint.Proofs.Session.Edits
import TemplateLint.Proofs.Session.Contract
import TemplateLint.Proofs.Session.Switch
import TemplateLint.Proofs.Session.Renewal
import TemplateLint.Proofs.Session.Lifecycle
import TemplateLint.Proofs.Session.Silence
import TemplateLint.Proofs.Session.Inspection
import TemplateLint.Proofs.Session.Exclusion
import TemplateLint.Proofs.Session.Discipline
import TemplateLint.Proofs.Uri.Files
import TemplateLint.Proofs.Command.Checks
import TemplateLint.Proofs.Command.FrontEnds
import TemplateLint.Proofs.Session.Arrival
import TemplateLint.Proofs.Session.Batch
import TemplateLint.Proofs.Command.Order
import TemplateLint.Proofs.System.Listing
import TemplateLint.Proofs.System.Locations
import TemplateLint.Proofs.Command.Isolation
import TemplateLint.Proofs.Config.Evidence
import TemplateLint.Proofs.Session.Refusal
import TemplateLint.Proofs.Lint.ShortCode
import TemplateLint.Proofs.Lint.Tokens
import TemplateLint.Proofs.Command.Collection
import TemplateLint.Proofs.Text.Ascii
import TemplateLint.Proofs.Command.Lines
import TemplateLint.Proofs.Session.Complaints
import TemplateLint.Proofs.Session.Currency
import TemplateLint.Proofs.Lint.Location
import TemplateLint.Proofs.Command.Directories
import TemplateLint.Proofs.Config.Expansion
import TemplateLint.Proofs.Session.Expansion
import TemplateLint.Proofs.Command.Expansion
import TemplateLint.Proofs.Config.Settings
import TemplateLint.Proofs.Command.Totals
import TemplateLint.Proofs.Lint.Global
import TemplateLint.Proofs.Uri.Pieces
import TemplateLint.Proofs.Document.Templates
import TemplateLint.Proofs.Lint.Occurrences
import TemplateLint.Proofs.Document.Openings
import TemplateLint.Proofs.System.Ancestors
import TemplateLint.Proofs.Config.Extent
import TemplateLint.Proofs.Text.Utf8
import TemplateLint.Proofs.Json.Scalars
import TemplateLint.Proofs.Json.Collections
import TemplateLint.Proofs.Lint.Problems
