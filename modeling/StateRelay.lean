import StateRelay.Bytes
import StateRelay.Environment
import StateRelay.Text.Blank
import StateRelay.Text.Hex
import StateRelay.Text.Quoted
import StateRelay.Number.Double
import StateRelay.Number.Shortest
import StateRelay.Json.Basic
import StateRelay.Json.Access
import StateRelay.Json.Printer
import StateRelay.Json.Error
import StateRelay.Json.Token
import StateRelay.Json.Skip
import StateRelay.Json.Decoder
import StateRelay.Checked
import StateRelay.Entry.Basic
import StateRelay.Entry.Codec
import StateRelay.Network
import StateRelay.Sink.Config
import StateRelay.Sink.Error
import StateRelay.Backoff
import StateRelay.Checkpoint.Basic
import StateRelay.Log.Event
import StateRelay.Action
import StateRelay.Sink.Transport
import StateRelay.Session
import StateRelay.Handler
import StateRelay.Dispatcher
import StateRelay.Staging
import StateRelay.Retry
import StateRelay.FileTree.Path
import StateRelay.FileTree.Basic
import StateRelay.Checkpoint.Store
import StateRelay.Checkpoint.Directory
import StateRelay.Batch
import StateRelay.ChangeLog
import StateRelay.Replay.Error
import StateRelay.Replay.Run
import StateRelay.Text.Utf8
import StateRelay.Text.RangeMap
import StateRelay.Text.Composition
import StateRelay.Net.Domain
import StateRelay.Net.Percent
import StateRelay.Net.Address
import StateRelay.Net.Url.Query
import StateRelay.Net.Uri
import StateRelay.Text.Numeral
import StateRelay.Migration.Error
import StateRelay.Migration.Changeset
import StateRelay.Migration.Migrator
import StateRelay.Migration.Memory
import StateRelay.Migration.PostSync
import StateRelay.Database.Error
import StateRelay.Database.Options
import StateRelay.Database.PasswordFile
import StateRelay.Sink.Http
import StateRelay.Sink.WebSocket
import StateRelay.Log.Config
import StateRelay.Log.Pattern
import StateRelay.Log.Directive
import StateRelay.Log.Filter
import StateRelay.Log.Line
import StateRelay.CommandLine.Words
import StateRelay.CommandLine.RunOptions
import StateRelay.CommandLine.MigrateOptions
import StateRelay.CommandLine.Program
import StateRelay.CommandLine.Help
import StateRelay.Command.Failure
import StateRelay.Command.Run
import StateRelay.Command.Migrate
import StateRelay.Command.Info
import StateRelay.Command.Program
import StateRelay.Main
import StateRelay.Proofs.Replay.Resumption
import StateRelay.Proofs.Replay.Language
import StateRelay.Proofs.Sink.Posts
import StateRelay.Proofs.Session
import StateRelay.Proofs.Transactions
import StateRelay.Proofs.Json.Token
import StateRelay.Proofs.Json.Decoder
import StateRelay.Proofs.Json.Value
import StateRelay.Proofs.Entry.Codec
import StateRelay.Proofs.Json.Line
import StateRelay.Proofs.ChangeLog
import StateRelay.Proofs.Checkpoint.Codec
import StateRelay.Proofs.FileTree.Basic
import StateRelay.Proofs.Checkpoint.Directory
import StateRelay.Proofs.Checkpoint.Answers
import StateRelay.Proofs.Checkpoint.Saving
import StateRelay.Proofs.Migration.Tape
import StateRelay.Proofs.Migration.Protocol
import StateRelay.Proofs.Migration.Changeset
import StateRelay.Proofs.Migration.Store
import StateRelay.Proofs.Migration.Up
import StateRelay.Proofs.Migration.Reversal
import StateRelay.Proofs.Migration.History
import StateRelay.Proofs.Budget
import StateRelay.Proofs.Replay.Emission
import StateRelay.Proofs.Sink.Offers
import StateRelay.Proofs.Watermark
import StateRelay.Proofs.Partition
import StateRelay.Proofs.Replay.Delivery
import StateRelay.Proofs.Replay.Savable
import StateRelay.Proofs.Entry.Image
import StateRelay.Proofs.Migration.Retries
import StateRelay.Proofs.Migration.Descent
import StateRelay.Proofs.Migration.Resumption
import StateRelay.Proofs.Migration.Restoration
import StateRelay.Proofs.ChangeLog.Truncation
import StateRelay.Proofs.Entry.Spelling
import StateRelay.Proofs.Command.Run
import StateRelay.Proofs.Entry.Normal
import StateRelay.Proofs.Replay.Summary
import StateRelay.Proofs.Slices
import StateRelay.Proofs.Replay.Bounds
import StateRelay.Proofs.Migration.Registration
import StateRelay.Proofs.Entry.Key
import StateRelay.Proofs.Number.Double
import StateRelay.Proofs.Backoff
import StateRelay.Proofs.Migration.Repetitions
import StateRelay.Proofs.Overflow
import StateRelay.Proofs.Framing
