import HttpEngine.Address
import HttpEngine.Address.Reader
import HttpEngine.Address.Text
import HttpEngine.Bytes
import HttpEngine.Bytes.Fold
import HttpEngine.Connection
import HttpEngine.Connection.Manager
import HttpEngine.Connection.Switchboard
import HttpEngine.Decimal
import HttpEngine.Decimal.Digits
import HttpEngine.Duration
import HttpEngine.Event
import HttpEngine.Exchange
import HttpEngine.Handler
import HttpEngine.Handler.Stock
import HttpEngine.Header.Map
import HttpEngine.Header.Name
import HttpEngine.Heartbeat
import HttpEngine.Host
import HttpEngine.IoFault
import HttpEngine.Limits
import HttpEngine.Machine
import HttpEngine.Payload
import HttpEngine.Pool
import HttpEngine.Pool.Desk
import HttpEngine.Reply
import HttpEngine.Request
import HttpEngine.Request.Fault
import HttpEngine.Request.Parser
import HttpEngine.Response
import HttpEngine.Route.Endpoint
import HttpEngine.Route.Registry
import HttpEngine.Route.Table
import HttpEngine.Server.Fault
import HttpEngine.Server.Life
import HttpEngine.Service
import HttpEngine.Settings
import HttpEngine.Status
import HttpEngine.Stream
import HttpEngine.Text.Quoted
import HttpEngine.Text.Record
import HttpEngine.Text.Shown
import HttpEngine.Text.Utf8
import HttpEngine.Proofs.Bytes.Cut
import HttpEngine.Proofs.Request.Chunking
import HttpEngine.Proofs.Bytes.Trim
import HttpEngine.Proofs.Decimal.Reading
import HttpEngine.Proofs.Header.Index
import HttpEngine.Proofs.Request.Grammar
import HttpEngine.Proofs.Request.Language
import HttpEngine.Proofs.Connection.Transfers
import HttpEngine.Proofs.Exchange.Answer
import HttpEngine.Proofs.Connection.Entries
import HttpEngine.Proofs.Service.Books
import HttpEngine.Proofs.Service.Following
import HttpEngine.Proofs.Service.Isolation
import HttpEngine.Proofs.Named
import HttpEngine.Proofs.Pool.Queue
import HttpEngine.Proofs.Pool.Wakeups
import HttpEngine.Proofs.Pool.Handover
import HttpEngine.Proofs.Pool.Orderly
import HttpEngine.Proofs.Pool.Ledger
import HttpEngine.Proofs.Pool.Conservation
import HttpEngine.Proofs.Connection.Mirror
import HttpEngine.Proofs.Connection.Teardown
import HttpEngine.Proofs.Connection.Numbers
import HttpEngine.Proofs.Connection.Slots
import HttpEngine.Proofs.Route.Setup
import HttpEngine.Proofs.Service.Responses
import HttpEngine.Proofs.Server.Advertising
import HttpEngine.Proofs.Bytes.Text
import HttpEngine.Proofs.Decimal.Writing
import HttpEngine.Proofs.Address.Text
import HttpEngine.Proofs.Request.Writing
import HttpEngine.Proofs.Response.Naming
import HttpEngine.Proofs.Response.Reading
import HttpEngine.Proofs.Bytes.Lines
import HttpEngine.Proofs.Response.Framing
import HttpEngine.Proofs.Bytes.Positions
import HttpEngine.Proofs.Pool.Fairness
import HttpEngine.Proofs.Request.Positions
import HttpEngine.Proofs.Request.Safety
import HttpEngine.Proofs.Header.Edits
import HttpEngine.Proofs.Header.Hashing
import HttpEngine.Proofs.Header.Equality
import HttpEngine.Proofs.Request.Headers
import HttpEngine.Proofs.Limits.Range
import HttpEngine.Proofs.Route.Hashing
import HttpEngine.Proofs.Settings.Building
import HttpEngine.Proofs.Decimal.Numerals
import HttpEngine.Proofs.Heartbeat.Rounds
import HttpEngine.Proofs.Payload.Integers
import HttpEngine.Proofs.Decimal.Words
import HttpEngine.Proofs.Payload.Joining
