import ChangeLog.Acks
import ChangeLog.Ambient
import ChangeLog.Bytes
import ChangeLog.Bytes.Blake3
import ChangeLog.Bytes.Crc32
import ChangeLog.Bytes.Hex
import ChangeLog.Command
import ChangeLog.Command.Failure
import ChangeLog.Command.Form
import ChangeLog.Command.Grammar
import ChangeLog.Command.Help
import ChangeLog.Command.Notice
import ChangeLog.Command.Reading
import ChangeLog.Command.Session
import ChangeLog.Command.Style
import ChangeLog.Command.Usage
import ChangeLog.Config
import ChangeLog.Consumer
import ChangeLog.Cursor
import ChangeLog.Cursor.Id
import ChangeLog.Disk
import ChangeLog.Disk.Path
import ChangeLog.Event
import ChangeLog.Event.Id
import ChangeLog.Http.Error
import ChangeLog.Http.LongPoll
import ChangeLog.Http.MediaType
import ChangeLog.Http.Percent
import ChangeLog.Http.Query
import ChangeLog.Http.Reply
import ChangeLog.Http.Route
import ChangeLog.Http.Server
import ChangeLog.Http.View
import ChangeLog.Journal
import ChangeLog.Journal.Frame
import ChangeLog.Journal.Scan
import ChangeLog.Json.Number
import ChangeLog.Json.Reader
import ChangeLog.Json.Value
import ChangeLog.Log
import ChangeLog.Log.Error
import ChangeLog.Log.Replay
import ChangeLog.Main
import ChangeLog.Net.Address
import ChangeLog.Proofs.Acks
import ChangeLog.Proofs.Acks.Interrupted
import ChangeLog.Proofs.Acks.Unreliable
import ChangeLog.Proofs.Bytes.Crc32
import ChangeLog.Proofs.Bytes.Hex
import ChangeLog.Proofs.Codec
import ChangeLog.Proofs.Command.Consuming
import ChangeLog.Proofs.Command.Printing
import ChangeLog.Proofs.Cursor
import ChangeLog.Proofs.Disk
import ChangeLog.Proofs.Disk.Path
import ChangeLog.Proofs.Event.Identity
import ChangeLog.Proofs.Exact
import ChangeLog.Proofs.Http.LongPoll
import ChangeLog.Proofs.Http.Posted
import ChangeLog.Proofs.Http.Requests
import ChangeLog.Proofs.Http.Resuming
import ChangeLog.Proofs.Http.Showing
import ChangeLog.Proofs.Journal.Chain
import ChangeLog.Proofs.Journal.DamagedByte
import ChangeLog.Proofs.Journal.DamagedLength
import ChangeLog.Proofs.Journal.Holds
import ChangeLog.Proofs.Journal.Recovery
import ChangeLog.Proofs.Journal.TornTail
import ChangeLog.Proofs.Log
import ChangeLog.Proofs.Log.Bounds
import ChangeLog.Proofs.Log.Calls
import ChangeLog.Proofs.Log.Closed
import ChangeLog.Proofs.Log.Delivery
import ChangeLog.Proofs.Log.Growth
import ChangeLog.Proofs.Log.LostProgress
import ChangeLog.Proofs.Log.LostTail
import ChangeLog.Proofs.Log.Refusal
import ChangeLog.Proofs.Log.Renaming
import ChangeLog.Proofs.Log.Replay
import ChangeLog.Proofs.Log.Restart
import ChangeLog.Proofs.Run
import ChangeLog.Proofs.Store.DamagedEvent
import ChangeLog.Proofs.Store.Events
import ChangeLog.Proofs.Store.Progress
import ChangeLog.Proofs.Store.ProgressOrder
import ChangeLog.Proofs.Store.ProgressRefinement
import ChangeLog.Proofs.Store.Refinement
import ChangeLog.Proofs.Time.Calendar
import ChangeLog.Proofs.Time.Rfc3339
import ChangeLog.Roster
import ChangeLog.Store.Error
import ChangeLog.Store.Events
import ChangeLog.Store.Progress
import ChangeLog.Store.Unreliable
import ChangeLog.Text.Binary64
import ChangeLog.Text.Blank
import ChangeLog.Text.Decimal
import ChangeLog.Text.Integer
import ChangeLog.Text.Quoted
import ChangeLog.Text.Shown
import ChangeLog.Text.Split
import ChangeLog.Text.Unassigned
import ChangeLog.Text.Utf8
import ChangeLog.Time.Calendar
import ChangeLog.Time.Instant
import ChangeLog.Time.Rfc3339
import ChangeLog.Toml.Document
import ChangeLog.Toml.Item
import ChangeLog.Toml.Lexeme
import ChangeLog.Toml.Number
import ChangeLog.Wire
