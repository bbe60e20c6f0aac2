import Mooring.Command.Basic
import Mooring.Command.Check
import Mooring.Command.Document
import Mooring.Command.Reader
import Mooring.CommandLine.Arguments
import Mooring.CommandLine.Footprint
import Mooring.CommandLine.Invocation
import Mooring.CommandLine.Session
import Mooring.Container.Basic
import Mooring.Container.Document
import Mooring.Container.History
import Mooring.Container.Report
import Mooring.Container.Status
import Mooring.Double.Basic
import Mooring.Double.Shortest
import Mooring.Double.Text
import Mooring.Engine.Arguments
import Mooring.Engine.Basic
import Mooring.Engine.Client
import Mooring.Engine.Listener
import Mooring.Engine.Simulated
import Mooring.Error
import Mooring.Files.Tree
import Mooring.Json.Basic
import Mooring.Json.Reader
import Mooring.Json.Record
import Mooring.Json.Relaxed
import Mooring.Json.Writer
import Mooring.Lifecycle.Event
import Mooring.Lifecycle.Failures
import Mooring.Lifecycle.Installation
import Mooring.Lifecycle.Launcher
import Mooring.Lifecycle.LogCapture
import Mooring.Lifecycle.Poller
import Mooring.Lifecycle.Recovery
import Mooring.Lifecycle.Routine
import Mooring.Lifecycle.Tracker
import Mooring.Lifecycle.World
import Mooring.Logging
import Mooring.OrderedMap
import Mooring.Path.Basic
import Mooring.Path.Comparing
import Mooring.Path.Error
import Mooring.Path.Reader
import Mooring.Path.Scanning
import Mooring.Path.Selection
import Mooring.Pattern.Basic
import Mooring.Pattern.Class
import Mooring.Pattern.Reader
import Mooring.Proofs.Container.Ending
import Mooring.Proofs.Files.Tree
import Mooring.Proofs.Json.Tokens
import Mooring.Proofs.Lifecycle.Calls
import Mooring.Proofs.Lifecycle.Discipline
import Mooring.Proofs.Lifecycle.Finalization
import Mooring.Proofs.Lifecycle.Interleaving
import Mooring.Proofs.Lifecycle.Redelivery
import Mooring.Proofs.Lifecycle.Refinement
import Mooring.Proofs.Lifecycle.Settling
import Mooring.Proofs.Lifecycle.Watch
import Mooring.Proofs.Resolution.Inputs
import Mooring.Proofs.Resolution.Order
import Mooring.Proofs.Resolution.Permutation
import Mooring.Proofs.Resolution.Reference
import Mooring.Proofs.Store.Directory
import Mooring.Proofs.Store.Lookup
import Mooring.Proofs.Store.Order
import Mooring.Proofs.Text.Numeral
import Mooring.Resolution.Basic
import Mooring.Resolution.Error
import Mooring.Resolution.HostPath
import Mooring.Resolution.Order
import Mooring.Resolution.Rules
import Mooring.Resolution.Template
import Mooring.Resolved.Basic
import Mooring.Resolved.Document
import Mooring.Server.Basic
import Mooring.Settings.Basic
import Mooring.Settings.Reader
import Mooring.Site.Basic
import Mooring.Site.Directory
import Mooring.Store.Basic
import Mooring.Store.Directory
import Mooring.Text.Blank
import Mooring.Text.Category
import Mooring.Text.CharSet
import Mooring.Text.Letters
import Mooring.Text.Property
import Mooring.Text.Quoted
import Mooring.Text.Script
import Mooring.Text.Search
import Mooring.Text.ShellWords
import Mooring.Text.Utf8
import Mooring.Text.Whole
import Mooring.Time.Instant
import Mooring.Time.Rfc3339
import Mooring.Toml.Basic
import Mooring.Toml.Reader
import Mooring.Main
import Mooring.Proofs.Json.RoundTrip
import Mooring.Proofs.Store.Mirror
import Mooring.Proofs.Store.Session
import Mooring.Proofs.Store.Bystanders
import Mooring.Proofs.Time.Calendar
import Mooring.Proofs.Time.Rfc3339
import Mooring.Proofs.Json.Record
import Mooring.Proofs.Server.File
import Mooring.Proofs.Store.Growth
import Mooring.Proofs.Lifecycle.Polling
import Mooring.Proofs.Lifecycle.Account
import Mooring.Proofs.Container.Document
import Mooring.Proofs.Container.Timeless
import Mooring.Proofs.Store.Filing
import Mooring.Proofs.Lifecycle.Finalizing
import Mooring.Proofs.Lifecycle.Schedules
import Mooring.Proofs.Lifecycle.Likeness
import Mooring.Proofs.Lifecycle.Independence
import Mooring.Proofs.Lifecycle.Repertoire
import Mooring.Proofs.Lifecycle.Repetition
import Mooring.Proofs.Lifecycle.Lifetimes
import Mooring.Proofs.Lifecycle.Interruption
import Mooring.Proofs.Lifecycle.Restarts
import Mooring.Proofs.Lifecycle.Killing
import Mooring.Proofs.Path.Embedding
import Mooring.Proofs.Json.Documents
import Mooring.Proofs.Lifecycle.Launching
import Mooring.Proofs.Lifecycle.Overtaking
import Mooring.Proofs.Lifecycle.Secrecy
import Mooring.Proofs.Resolution.Outcome
import Mooring.Proofs.Container.Chronicle
import Mooring.Proofs.Container.Death
import Mooring.Proofs.Engine.Ambiguity
import Mooring.Proofs.Path.Operands
import Mooring.Proofs.Resolution.Carets
import Mooring.Proofs.Resolution.Substitution
import Mooring.Proofs.Command.Faults
import Mooring.Proofs.Resolution.Errors
import Mooring.Proofs.Resolution.Checked
import Mooring.Proofs.Lifecycle.Announcements
import Mooring.Proofs.Resolution.Resources
import Mooring.Proofs.Server.Mapping
import Mooring.Proofs.Store.Bearers
import Mooring.Proofs.Path.Printing
import Mooring.Proofs.Resolution.Candidates
import Mooring.Proofs.Resolution.Parents
import Mooring.Proofs.Lifecycle.Preparing
import Mooring.Proofs.Lifecycle.FailureRuns
import Mooring.Proofs.Store.Circulation
import Mooring.Proofs.Path.Occurrences
