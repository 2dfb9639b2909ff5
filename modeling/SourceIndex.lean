import SourceIndex.Address
import SourceIndex.Collaborators
import SourceIndex.Command.Arguments
import SourceIndex.Command.Run
import SourceIndex.Decimal.Double
import SourceIndex.Decimal.Shortest
import SourceIndex.Disk
import SourceIndex.Document
import SourceIndex.Extraction
import SourceIndex.Host.Answer
import SourceIndex.Host.Basic
import SourceIndex.Host.Client
import SourceIndex.Host.Domain
import SourceIndex.Host.Domain.Characters
import SourceIndex.Host.Domain.Punycode
import SourceIndex.Host.Domain.Table
import SourceIndex.Host.RateLimit
import SourceIndex.Host.Status
import SourceIndex.Host.Url
import SourceIndex.Host.Url.Numeric
import SourceIndex.Host.Url.Site
import SourceIndex.Index.Basic
import SourceIndex.Index.Connection
import SourceIndex.Index.Database
import SourceIndex.Index.Files
import SourceIndex.Index.Location
import SourceIndex.Index.Memory
import SourceIndex.Json.Basic
import SourceIndex.Json.Decode
import SourceIndex.Json.Printer
import SourceIndex.Json.Reader
import SourceIndex.Keyed
import SourceIndex.Main
import SourceIndex.Mirror
import SourceIndex.Parser.Basic
import SourceIndex.Parser.Channel
import SourceIndex.Parser.Frame
import SourceIndex.Path
import SourceIndex.Plan
import SourceIndex.Program
import SourceIndex.Progress
import SourceIndex.Record
import SourceIndex.Rehearsal.Clones
import SourceIndex.Rehearsal.Server
import SourceIndex.Rehearsal.Stage
import SourceIndex.Rehearsal.Workshop
import SourceIndex.Rehearsal.World
import SourceIndex.Settings
import SourceIndex.Summary
import SourceIndex.Sync.Basic
import SourceIndex.Sync.Batch
import SourceIndex.Sync.Project
import SourceIndex.Sync.Step
import SourceIndex.Text.Ascii
import SourceIndex.Text.Base64
import SourceIndex.Text.Blank
import SourceIndex.Text.Canonical
import SourceIndex.Text.Canonical.Table
import SourceIndex.Text.Lines
import SourceIndex.Text.Numeral
import SourceIndex.Text.Order
import SourceIndex.Text.Percent
import SourceIndex.Text.Printable
import SourceIndex.Text.Utf8
import SourceIndex.Toml.Basic
import SourceIndex.Toml.Reader
import SourceIndex.Proofs.Fallible
import SourceIndex.Proofs.Extraction.Course
import SourceIndex.Proofs.Extraction
import SourceIndex.Proofs.Plan.Preparation
import SourceIndex.Proofs.Index.Holdings
import SourceIndex.Proofs.Index.Storage
import SourceIndex.Proofs.Sync.Containment
import SourceIndex.Proofs.Plan.Making
import SourceIndex.Rehearsal.Scene
import SourceIndex.Proofs.Sync.Interruption
import SourceIndex.Proofs.Plan.Reconciliation
import SourceIndex.Proofs.Sync.Convergence
import SourceIndex.Proofs.Sync.Course
import SourceIndex.Proofs.Index.Anchoring
import SourceIndex.Proofs.Sync.Rollback
import SourceIndex.Proofs.Host.Listing
import SourceIndex.Proofs.Sync.Removal
import SourceIndex.Proofs.Sync.Repetition
import SourceIndex.Proofs.Plan.Resumption
import SourceIndex.Proofs.Sync.Recovery
import SourceIndex.Proofs.Address
import SourceIndex.Proofs.Index.Parts
import SourceIndex.Proofs.Index.Refusals
import SourceIndex.Proofs.Sync.Isolation
import SourceIndex.Proofs.Sync.Agreement
import SourceIndex.Proofs.Sync.Commutation
import SourceIndex.Proofs.Text.Base64
import SourceIndex.Proofs.Text.Utf8
import SourceIndex.Proofs.Parser.Reading
import SourceIndex.Proofs.Parser.Actions
import SourceIndex.Proofs.Parser.Chronicle
import SourceIndex.Proofs.Parser.Course
import SourceIndex.Proofs.Parser.Lifecycle
import SourceIndex.Proofs.Parser.Attribution
import SourceIndex.Proofs.Parser.Answers
import SourceIndex.Proofs.Parser.Recycling
import SourceIndex.Proofs.Index.Records
import SourceIndex.Proofs.Index.Equivalence
import SourceIndex.Proofs.Sync.Batches
import SourceIndex.Proofs.Document
import SourceIndex.Proofs.Sync.Production
import SourceIndex.Proofs.Sync.Shape
import SourceIndex.Proofs.Sync.Freshness
import SourceIndex.Proofs.Json.Numerals
import SourceIndex.Proofs.Json.Canonical
import SourceIndex.Proofs.Json.RoundTrip
import SourceIndex.Proofs.Index.Restoration
import SourceIndex.Proofs.Path
import SourceIndex.Proofs.Sync.WorkingCopies
import SourceIndex.Proofs.Sync.Visits
import SourceIndex.Proofs.Sync.AbsoluteRequests
import SourceIndex.Proofs.Sync.Confinement
import SourceIndex.Proofs.Plan.Conservation
import SourceIndex.Proofs.Plan.Disjointness
import SourceIndex.Proofs.Extraction.Outcomes
import SourceIndex.Proofs.Address.Spelling
import SourceIndex.Proofs.Address.Canonical
import SourceIndex.Proofs.Index.WriteBack
import SourceIndex.Proofs.Extraction.Exchanges
import SourceIndex.Proofs.Extraction.Requests
import SourceIndex.Proofs.Sync.Requests
import SourceIndex.Proofs.Address.Locators
import SourceIndex.Proofs.Host.Journal
import SourceIndex.Proofs.Host.Retries
import SourceIndex.Proofs.Host.Pauses
import SourceIndex.Proofs.Sync.Likeness
import SourceIndex.Proofs.Extraction.Directory
import SourceIndex.Proofs.Document.Places
import SourceIndex.Proofs.Host.Resolution
import SourceIndex.Proofs.Sync.Resolution
import SourceIndex.Proofs.Progress
import SourceIndex.Proofs.Sync.Progress
import SourceIndex.Proofs.Index.Statistics
import SourceIndex.Proofs.Progress.Words
import SourceIndex.Proofs.Record
import SourceIndex.Proofs.Text.Characters
import SourceIndex.Proofs.Text.Trimming
import SourceIndex.Proofs.Parser.Framing
import SourceIndex.Proofs.Path.Normalization
import SourceIndex.Proofs.Address.Lists
