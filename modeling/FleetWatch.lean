import FleetWatch.Text.Blank
import FleetWatch.Text.DecimalDigit
import FleetWatch.Text.Alphanumeric
import FleetWatch.Text.Utf8
import FleetWatch.Number.Binary64
import FleetWatch.Number.Shortest
import FleetWatch.Json.Basic
import FleetWatch.Json.Token
import FleetWatch.Json.Reader
import FleetWatch.Json.Writer
import FleetWatch.Time.Date
import FleetWatch.Time.Instant
import FleetWatch.Time.Timestamp
import FleetWatch.Text.Search
import FleetWatch.Text.Excerpt
import FleetWatch.Disk.Path
import FleetWatch.Disk.Basic
import FleetWatch.Roster
import FleetWatch.Session.Record
import FleetWatch.Session.Entry
import FleetWatch.Session.Log
import FleetWatch.Session.Feed
import FleetWatch.Session.Liveness
import FleetWatch.Session.View
import FleetWatch.Notes.Pattern
import FleetWatch.Notes.Counters
import FleetWatch.Host.Uptime
import FleetWatch.Host.Health
import FleetWatch.Notes.Snapshot
import FleetWatch.Notes.Memory
import FleetWatch.Toml.Basic
import FleetWatch.Toml.Table
import FleetWatch.Toml.Scanner
import FleetWatch.Toml.Scalar
import FleetWatch.Toml.Reader
import FleetWatch.Config.Basic
import FleetWatch.Config.Decode
import FleetWatch.Config.Environment
import FleetWatch.Config.Error
import FleetWatch.Config.Discovery
import FleetWatch.Config.Options
import FleetWatch.Poll.Schedule
import FleetWatch.Poll.Dashboard
import FleetWatch.Http.Message
import FleetWatch.Http.Server
import FleetWatch.Disk.Volume
import FleetWatch.CommandLine.Arguments
import FleetWatch.CommandLine.Run
import FleetWatch.Poll.Reach
import FleetWatch.Outer.Files
import FleetWatch.Outer.Host
import FleetWatch.Outer.Listener
import FleetWatch.Main
import FleetWatch.Proofs.Session.Selection
import FleetWatch.Proofs.Session.FeedOrder
import FleetWatch.Proofs.Session.LastHeard
import FleetWatch.Proofs.Session.AppendOnly
import FleetWatch.Proofs.Time.ReadBack
import FleetWatch.Proofs.Session.EntryInstant
import FleetWatch.Proofs.Session.Acceptance
import FleetWatch.Proofs.Session.AgentIsolation
import FleetWatch.Proofs.Session.LineIsolation
import FleetWatch.Proofs.Json.Grammar
import FleetWatch.Proofs.Json.Lexical
import FleetWatch.Proofs.Text.Encoding
import FleetWatch.Proofs.Session.EntryIdentity
import FleetWatch.Proofs.Poll.AnyOrder
import FleetWatch.Proofs.Http.Guard
import FleetWatch.Proofs.Session.FeedAging
import FleetWatch.Proofs.Session.LivenessDecay
import FleetWatch.Proofs.Session.EntryForm
import FleetWatch.Proofs.Session.BadgeText
import FleetWatch.Proofs.Session.Leniency
import FleetWatch.Proofs.Config.Nearest
import FleetWatch.Proofs.Text.Decoding
import FleetWatch.Proofs.Session.PlaceIdentity
import FleetWatch.Proofs.Session.Undated
import FleetWatch.Proofs.Http.RightToken
import FleetWatch.Proofs.Disk.Reordering
import FleetWatch.Proofs.Session.ListingOrder
import FleetWatch.Proofs.Session.Recency
import FleetWatch.Proofs.Time.Scanning
import FleetWatch.Proofs.Time.Separator
import FleetWatch.Proofs.Number.WholeNumber
import FleetWatch.Proofs.Json.IntegerWord
import FleetWatch.Proofs.Time.EpochMillis
import FleetWatch.Proofs.Time.ImpliedUtc
import FleetWatch.Proofs.Notes.Lines
import FleetWatch.Proofs.Notes.LastHeading
import FleetWatch.Proofs.Notes.Items
import FleetWatch.Proofs.Notes.StatedTotal
import FleetWatch.Proofs.Notes.LeadHeadings
import FleetWatch.Proofs.Config.Validation
import FleetWatch.Proofs.Host.UptimeText
import FleetWatch.Proofs.Time.FileTime
import FleetWatch.Proofs.Notes.OvernightLog
import FleetWatch.Proofs.Poll.Answers
