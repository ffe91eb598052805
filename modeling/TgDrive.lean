import TgDrive.Core.RoundTrip
import TgDrive.Core.Tree
import TgDrive.Data.Table
import TgDrive.Effect.Exec
import TgDrive.Effect.Only
import TgDrive.Effect.Interleave
import TgDrive.Core.Cache
import TgDrive.Core.Backend
import TgDrive.Core.Device
import TgDrive.Core.Block
import TgDrive.Data.Span
import TgDrive.Data.Ranges
import TgDrive.Core.Content
import TgDrive.Core.ReadSpec
import TgDrive.Core.Integrity
import TgDrive.Core.Leftover
import TgDrive.Core.Transparency
import TgDrive.Core.WriteSpec
import TgDrive.Core.FlushSpec
import TgDrive.Core.CrashSafety
import TgDrive.Core.Generations
import TgDrive.Core.Concurrent
import TgDrive.Core.Concrete
import TgDrive.Core.Envelope
import TgDrive.Telegram.Channel
import TgDrive.Telegram.Client
import TgDrive.Telegram.ObjectSpec
import TgDrive.Telegram.ManifestSpec
import TgDrive.Telegram.CommitSpec
import TgDrive.Telegram.Selection
import TgDrive.Cli.Recover
import TgDrive.Cli.Fsck
import TgDrive.Cli.Format
import TgDrive.Cli.Stocked
import TgDrive.Cli.Serve
import TgDrive.Cli.Rollback
import TgDrive.Cli.Interrupted
import TgDrive.Cli.Persistence
import TgDrive.Telegram.History
import TgDrive.Telegram.Fetched
import TgDrive.Nbd.Server
import TgDrive.Nbd.Transmission
import TgDrive.Nbd.Negotiation
import TgDrive.Core.Locks
import TgDrive.Effect.Meets
import TgDrive.Core.Checked
import TgDrive.Nbd.Bounds
import TgDrive.Core.References
import TgDrive.Cli.Forward
import TgDrive.Core.Eviction
import TgDrive.Core.Wal
import TgDrive.Cli.Sizes
import TgDrive.Cli.Bench
import TgDrive.Cli.HandOver
import TgDrive.Effect.Link
import TgDrive.Effect.Tickets
import TgDrive.Core.Limits
import TgDrive.Core.Pressure
import TgDrive.Core.Ideal
import TgDrive.Nbd.Flat
import TgDrive.Nbd.Export
import TgDrive.Nbd.Exact
import TgDrive.Cli.BenchRun
import TgDrive.Cli.Collect
import TgDrive.Cli.Local
import TgDrive.Cli.Stray
import TgDrive.Effect.Simulates
import TgDrive.Core.Clients
import TgDrive.Core.Sessions
