import IntentGateway.Action
import IntentGateway.Address.Basic
import IntentGateway.Address.Keccak
import IntentGateway.Amount.Column
import IntentGateway.Amount.Wire
import IntentGateway.Binary64.Basic
import IntentGateway.Binary64.Reading
import IntentGateway.Binary64.Text
import IntentGateway.Client.Call
import IntentGateway.Client.Query
import IntentGateway.Failure
import IntentGateway.Fee
import IntentGateway.Gateway.Basic
import IntentGateway.Gateway.Confirmation
import IntentGateway.Gateway.Operation
import IntentGateway.Gateway.Policy
import IntentGateway.Http
import IntentGateway.Http.Target
import IntentGateway.Intent.Basic
import IntentGateway.Intent.View
import IntentGateway.Json.Reader
import IntentGateway.Json.Token
import IntentGateway.Json.Writer
import IntentGateway.Link.Basic
import IntentGateway.Link.Fault
import IntentGateway.Link.Retry
import IntentGateway.Link.Script
import IntentGateway.Link.Seconds
import IntentGateway.Marker
import IntentGateway.Nesting
import IntentGateway.Numeral.Basic
import IntentGateway.Numeral.Lax
import IntentGateway.Refusal.Basic
import IntentGateway.Refusal.Reason
import IntentGateway.Refusal.Received
import IntentGateway.Remote.Chain
import IntentGateway.Remote.Intent
import IntentGateway.Rpc.Envelope
import IntentGateway.Rpc.Handler
import IntentGateway.Schema.Checked
import IntentGateway.Schema.Issue
import IntentGateway.Schema.Record
import IntentGateway.Schema.Scalar
import IntentGateway.Service
import IntentGateway.Settings.Basic
import IntentGateway.Settings.DatabaseUrl
import IntentGateway.Status
import IntentGateway.Store.Basic
import IntentGateway.Store.Call
import IntentGateway.Text.Blank
import IntentGateway.Text.Digit
import IntentGateway.Text.Encoding
import IntentGateway.Text.Hex
import IntentGateway.Text.Printable
import IntentGateway.Text.Quoted
import IntentGateway.Text.Ranges
import IntentGateway.Text.Raw
import IntentGateway.Text.Replace
import IntentGateway.Value.Basic
import IntentGateway.Value.Integer
import IntentGateway.Value.Text
import IntentGateway.Watcher
import IntentGateway.Proofs.Numeral.Decimal
import IntentGateway.Proofs.Binary64.Range
import IntentGateway.Proofs.Binary64.Rounding
import IntentGateway.Proofs.Binary64.Decimal
import IntentGateway.Proofs.Value.Nesting
import IntentGateway.Proofs.Value.Shown
import IntentGateway.Proofs.Json.Form
import IntentGateway.Proofs.Json.Reading
import IntentGateway.Proofs.Json.Nesting
import IntentGateway.Proofs.Json.Lexing
import IntentGateway.Proofs.Json.Floating
import IntentGateway.Proofs.Json.RoundTrip
import IntentGateway.Proofs.Schema.Decoding
import IntentGateway.Proofs.Store.Lookup
import IntentGateway.Proofs.Store.Effect
import IntentGateway.Proofs.Store.Evolution
import IntentGateway.Proofs.Store.Race
import IntentGateway.Proofs.Gateway.Event
import IntentGateway.Proofs.Gateway.Settlement
import IntentGateway.Proofs.Gateway.Errand
import IntentGateway.Proofs.Gateway.Origin
import IntentGateway.Proofs.Address.Canonical
import IntentGateway.Proofs.Gateway.WellFormed
import IntentGateway.Proofs.Gateway.Columns
import IntentGateway.Proofs.Gateway.Persistence
import IntentGateway.Proofs.Gateway.Confirmation
import IntentGateway.Proofs.Gateway.Phase
import IntentGateway.Proofs.Gateway.Concurrency
import IntentGateway.Proofs.Gateway.Refusal
import IntentGateway.Proofs.Remote.Block
import IntentGateway.Proofs.Remote.Intent
import IntentGateway.Proofs.Watcher.Poll
import IntentGateway.Proofs.Rpc.Request
import IntentGateway.Proofs.Rpc.Answer
import IntentGateway.Proofs.Rpc.Failing
import IntentGateway.Proofs.Gateway.Reason
import IntentGateway.Proofs.Rpc.Stage
import IntentGateway.Proofs.Gateway.Repetition
import IntentGateway.Proofs.Refusal.Received
import IntentGateway.Proofs.Link.Retry
import IntentGateway.Proofs.Link.Lossy
import IntentGateway.Proofs.Client.Call
import IntentGateway.Proofs.Client.Reply
import IntentGateway.Proofs.Client.Promise
import IntentGateway.Proofs.Client.Wire
import IntentGateway.Proofs.Client.Once
import IntentGateway.Proofs.Client.Round
import IntentGateway.Proofs.Client.Session
import IntentGateway.Proofs.Text.Hex
import IntentGateway.Proofs.Marker
import IntentGateway.Proofs.Gateway.Rescan
import IntentGateway.Proofs.Watcher.Scan
import IntentGateway.Proofs.Refusal.Relay
import IntentGateway.Proofs.Gateway.Ending
import IntentGateway.Proofs.Gateway.Readback
import IntentGateway.Proofs.Gateway.Transfer
import IntentGateway.Proofs.Rpc.Visit
import IntentGateway.Proofs.Gateway.Advance
import IntentGateway.Proofs.Rpc.Amount
import IntentGateway.Proofs.Gateway.Magnitude
import IntentGateway.Proofs.Client.Wait
import IntentGateway.Proofs.Link.Course
import IntentGateway.Proofs.Address.Spelling
import IntentGateway.Proofs.Gateway.Listing
import IntentGateway.Proofs.Fee
import IntentGateway.Proofs.Store.Confined
import IntentGateway.Proofs.Gateway.Independence
import IntentGateway.Proofs.Numeral.Spelling
import IntentGateway.Proofs.Amount.Wire
import IntentGateway.Proofs.Amount.Column
import IntentGateway.Proofs.Remote.Balances
import IntentGateway.Proofs.Address.Normal
import IntentGateway.Proofs.Text.Replace
import IntentGateway.Proofs.Settings.Environment
import IntentGateway.Proofs.Settings.DatabaseUrl
