import HeaderFollower.Address
import HeaderFollower.Backoff
import HeaderFollower.Bytes.Base64
import HeaderFollower.Bytes.Hex
import HeaderFollower.Bytes.Sha256
import HeaderFollower.Bytes.Words
import HeaderFollower.Client.Basic
import HeaderFollower.Client.Calls
import HeaderFollower.Client.Error
import HeaderFollower.Client.Outgoing
import HeaderFollower.Client.ServerSide
import HeaderFollower.Client.Sink
import HeaderFollower.Client.Step
import HeaderFollower.Client.Timeline
import HeaderFollower.Config.Basic
import HeaderFollower.Config.Check
import HeaderFollower.Config.Document
import HeaderFollower.Config.Error
import HeaderFollower.Config.Report
import HeaderFollower.Cost
import HeaderFollower.Daemon.Arguments
import HeaderFollower.Daemon.Error
import HeaderFollower.Daemon.Files
import HeaderFollower.Daemon.Launch
import HeaderFollower.Daemon.Log
import HeaderFollower.Daemon.LogRule
import HeaderFollower.Daemon.Offline
import HeaderFollower.Daemon.Report
import HeaderFollower.Daemon.Supervisor
import HeaderFollower.Duration
import HeaderFollower.Events
import HeaderFollower.Header.Basic
import HeaderFollower.Header.Hash
import HeaderFollower.Header.Report
import HeaderFollower.Header.Sample
import HeaderFollower.Json.Basic
import HeaderFollower.Json.Number
import HeaderFollower.Json.Reader
import HeaderFollower.Json.Record
import HeaderFollower.Json.Text
import HeaderFollower.Json.Writer
import HeaderFollower.Main
import HeaderFollower.Network
import HeaderFollower.Node.Basic
import HeaderFollower.Node.Dialogue
import HeaderFollower.Node.Error
import HeaderFollower.Node.Request
import HeaderFollower.Node.Session
import HeaderFollower.Node.Start
import HeaderFollower.Number.Binary64
import HeaderFollower.Number.Shortest
import HeaderFollower.Protocol.Call
import HeaderFollower.Protocol.Message
import HeaderFollower.Protocol.Method
import HeaderFollower.Protocol.Reply
import HeaderFollower.Protocol.Request
import HeaderFollower.Queue
import HeaderFollower.Shutdown
import HeaderFollower.Store.Basic
import HeaderFollower.Store.Error
import HeaderFollower.Store.File
import HeaderFollower.Store.Index
import HeaderFollower.Store.Op
import HeaderFollower.Sync.Basic
import HeaderFollower.Sync.Batch
import HeaderFollower.Sync.CatchUp
import HeaderFollower.Sync.Error
import HeaderFollower.Sync.Follow
import HeaderFollower.Sync.Rewind
import HeaderFollower.Sync.Script
import HeaderFollower.Sync.TipUpdate
import HeaderFollower.Text.Alphanumeric
import HeaderFollower.Text.Blank
import HeaderFollower.Text.CaseTable
import HeaderFollower.Text.Lowercase
import HeaderFollower.Text.Pattern
import HeaderFollower.Text.Quoted
import HeaderFollower.Text.Slice
import HeaderFollower.Text.Unprintable
import HeaderFollower.Tls.Certificate
import HeaderFollower.Tls.Pem
import HeaderFollower.Tls.Trust
import HeaderFollower.Toml.Basic
import HeaderFollower.Toml.Number
import HeaderFollower.Toml.Reader
import HeaderFollower.Toml.Table
import HeaderFollower.Toml.Text
import HeaderFollower.Toml.Writer
import HeaderFollower.Wire.Lines
import HeaderFollower.Proofs.Header.Chained
import HeaderFollower.Proofs.Store.Indexed
import HeaderFollower.Proofs.Store.File
import HeaderFollower.Proofs.Store.Held
import HeaderFollower.Proofs.Store.Sound
import HeaderFollower.Proofs.Sync.Batch
import HeaderFollower.Proofs.Sync.Steps
import HeaderFollower.Proofs.Sync.Run
import HeaderFollower.Proofs.Sync.Outcome
import HeaderFollower.Proofs.Sync.Synced
import HeaderFollower.Proofs.Bytes.Hex
import HeaderFollower.Proofs.Store.Smooth
import HeaderFollower.Proofs.Sync.Honest
import HeaderFollower.Proofs.Sync.Fork
import HeaderFollower.Proofs.Sync.Rewind
import HeaderFollower.Proofs.Sync.CatchUp
import HeaderFollower.Proofs.Sync.TipUpdate
import HeaderFollower.Proofs.Sync.Capped
import HeaderFollower.Proofs.Sync.Agreement
import HeaderFollower.Proofs.Header.Growth
import HeaderFollower.Proofs.Sync.VisibleTip
import HeaderFollower.Proofs.Sync.Announced
import HeaderFollower.Proofs.Sync.Recovery
import HeaderFollower.Proofs.Node.Session
import HeaderFollower.Proofs.Node.Start
import HeaderFollower.Proofs.Daemon.Retries
import HeaderFollower.Proofs.Client.Turn
import HeaderFollower.Proofs.Client.Winding
import HeaderFollower.Proofs.Client.Schedule
import HeaderFollower.Proofs.Client.Fair
import HeaderFollower.Proofs.Client.Correlated
import HeaderFollower.Proofs.Client.Fatal
import HeaderFollower.Proofs.Node.Dialogue
import HeaderFollower.Proofs.Node.Checks
import HeaderFollower.Proofs.Node.FailedStart
import HeaderFollower.Proofs.Node.Gate
import HeaderFollower.Proofs.Json.Text
import HeaderFollower.Proofs.Json.Number
import HeaderFollower.Proofs.Json.RoundTrip
import HeaderFollower.Proofs.Protocol.Request
import HeaderFollower.Proofs.Client.Pushes
import HeaderFollower.Proofs.Node.Delivery
import HeaderFollower.Proofs.Sync.GoingBack
import HeaderFollower.Proofs.Sync.Aftermath
import HeaderFollower.Proofs.Node.Ending
import HeaderFollower.Proofs.Store.Breaks
import HeaderFollower.Proofs.Sync.OneByOne
import HeaderFollower.Proofs.Wire.Segments
import HeaderFollower.Proofs.Client.Receiving
import HeaderFollower.Proofs.Client.Charges
import HeaderFollower.Proofs.Client.Endings
import HeaderFollower.Proofs.Client.Penalties
import HeaderFollower.Proofs.Address
import HeaderFollower.Proofs.Store.HashIndex
import HeaderFollower.Proofs.Node.Watched
import HeaderFollower.Proofs.Json.Members
import HeaderFollower.Proofs.Protocol.Message
import HeaderFollower.Proofs.Bytes.Words
import HeaderFollower.Proofs.Header.Records
import HeaderFollower.Proofs.Header.Display
import HeaderFollower.Proofs.Store.Range
