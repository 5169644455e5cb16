import NetNames.Alias
import NetNames.Classification
import NetNames.Console.Action
import NetNames.Console.Arguments
import NetNames.Console.Command
import NetNames.Console.Grid
import NetNames.Console.Help
import NetNames.Console.Local
import NetNames.Console.Remote
import NetNames.Console.Run
import NetNames.Console.Usage
import NetNames.DefaultDomain
import NetNames.Descriptor
import NetNames.Directory.Basic
import NetNames.Directory.Dn
import NetNames.Directory.Layout
import NetNames.Directory.Published
import NetNames.Directory.Store
import NetNames.FileTree
import NetNames.Json.Codec
import NetNames.Json.Reader
import NetNames.Json.Value
import NetNames.Keyed
import NetNames.Log
import NetNames.Log.Filter
import NetNames.Log.Line
import NetNames.Main
import NetNames.NamesFile.Block
import NetNames.NamesFile.Error
import NetNames.NamesFile.Inclusion
import NetNames.NamesFile.Line
import NetNames.NamesFile.Reader
import NetNames.NamesFile.Writer
import NetNames.Patch.Alignment
import NetNames.Patch.Hunk
import NetNames.Path
import NetNames.Pattern.Basic
import NetNames.Pattern.CharSet
import NetNames.Pattern.Match
import NetNames.Pattern.Reader
import NetNames.Pattern.Select
import NetNames.Registry
import NetNames.Server.Address
import NetNames.Server.Basic
import NetNames.Server.Filter
import NetNames.Server.HostForm
import NetNames.Server.HostName
import NetNames.Server.Session
import NetNames.Server.Url
import NetNames.Settings.Basic
import NetNames.Settings.Decode
import NetNames.Settings.Load
import NetNames.Stamp
import NetNames.Status
import NetNames.Sync.Pass
import NetNames.Sync.Plan
import NetNames.Sync.Reconcile
import NetNames.Sync.Report
import NetNames.Tally
import NetNames.Text.Class
import NetNames.Text.Direction
import NetNames.Text.Emoji
import NetNames.Text.Hex
import NetNames.Text.Ignorable
import NetNames.Text.Joining
import NetNames.Text.Letters
import NetNames.Text.Lines
import NetNames.Text.Marks
import NetNames.Text.Punycode
import NetNames.Text.Quoted
import NetNames.Text.Sequence
import NetNames.Text.Unseen
import NetNames.Text.Uppercase
import NetNames.Text.Utf8
import NetNames.Text.Width
import NetNames.Toml.Reader
import NetNames.Toml.Value
import NetNames.Proofs.Directory.EntryDn
import NetNames.Proofs.Directory.Attributes
import NetNames.Proofs.Directory.Services
import NetNames.Proofs.Registry.Canonical
import NetNames.Proofs.Directory.Slot
import NetNames.Proofs.Sync.Run
import NetNames.Proofs.Sync.Account
import NetNames.Proofs.Sync.Deletion
import NetNames.Proofs.Directory.Search
import NetNames.Proofs.Directory.Published
import NetNames.Proofs.Sync.History
import NetNames.Proofs.Sync.Frame
import NetNames.Proofs.Sync.Compared
import NetNames.Proofs.Sync.Round
import NetNames.Proofs.Sync.Convergence
import NetNames.Proofs.Sync.Reached
import NetNames.Proofs.Sync.Idempotence
import NetNames.Proofs.Sync.Isolation
import NetNames.Proofs.Directory.OwnName
import NetNames.Proofs.Sync.Due
import NetNames.Proofs.Sync.Healing
import NetNames.Proofs.Sync.Clearance
import NetNames.Proofs.Sync.Accounting
import NetNames.Proofs.Sync.Leftover
import NetNames.Proofs.Sync.Changes
import NetNames.Proofs.Sync.Stale
import NetNames.Proofs.Sync.Fulfilment
import NetNames.Proofs.NamesFile.Chained
import NetNames.Proofs.NamesFile.DocumentOrder
import NetNames.Proofs.NamesFile.Walk
import NetNames.Proofs.NamesFile.Heads
import NetNames.Proofs.NamesFile.Rendered
import NetNames.Proofs.NamesFile.Concatenation
import NetNames.Proofs.NamesFile.Reread
import NetNames.Proofs.NamesFile.Neighbours
import NetNames.Proofs.Directory.Spelling
import NetNames.Proofs.Text.Matching
import NetNames.Proofs.Directory.Escaped
import NetNames.Proofs.Directory.Requests
import NetNames.Proofs.Sync.Additions
import NetNames.Proofs.Descriptor.Mining
import NetNames.Proofs.NamesFile.DefaultDomain
import NetNames.Proofs.Directory.Subtree
import NetNames.Proofs.Registry.Built
import NetNames.Proofs.Files.Written
import NetNames.Proofs.NamesFile.Counted
import NetNames.Proofs.Console.Steps
import NetNames.Proofs.Console.Export
import NetNames.Proofs.Json.Reading
import NetNames.Proofs.Json.Written
import NetNames.Proofs.Json.Records
import NetNames.Proofs.Alias.Qualified
import NetNames.Proofs.Sync.Republished
