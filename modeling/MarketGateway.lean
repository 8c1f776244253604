import MarketGateway.Calendar
import MarketGateway.Conversion.Amount
import MarketGateway.Conversion.Balance
import MarketGateway.Conversion.Book
import MarketGateway.Conversion.ClientId
import MarketGateway.Conversion.ClientIdSource
import MarketGateway.Conversion.Market
import MarketGateway.Conversion.Order
import MarketGateway.Crypto.Base64
import MarketGateway.Crypto.Ed25519
import MarketGateway.Crypto.Sha512
import MarketGateway.Decimal.Arithmetic
import MarketGateway.Decimal.Basic
import MarketGateway.Decimal.Reading
import MarketGateway.Error
import MarketGateway.Exchange
import MarketGateway.Gateway.Basic
import MarketGateway.Gateway.Calls
import MarketGateway.Gateway.Drain
import MarketGateway.Gateway.Feed
import MarketGateway.Http.Call
import MarketGateway.Http.Client
import MarketGateway.Http.Endpoint
import MarketGateway.Json.Basic
import MarketGateway.Json.Double
import MarketGateway.Json.Number
import MarketGateway.Json.Parser
import MarketGateway.Json.Printer
import MarketGateway.Json.Reading
import MarketGateway.Json.Schema
import MarketGateway.Limits.Callers
import MarketGateway.Limits.Throttle
import MarketGateway.Market.Book
import MarketGateway.Market.Rule
import MarketGateway.Market.TradingPair
import MarketGateway.Proofs.Calendar.Days
import MarketGateway.Proofs.Calendar.Notation
import MarketGateway.Proofs.Consumer.History
import MarketGateway.Proofs.Consumer.LifeCycle
import MarketGateway.Proofs.Consumer.Replay
import MarketGateway.Proofs.Consumer.Schedule
import MarketGateway.Proofs.Consumer.Silence
import MarketGateway.Proofs.Consumer.Step
import MarketGateway.Proofs.Conversion.Amounts
import MarketGateway.Proofs.Conversion.BalanceBounds
import MarketGateway.Proofs.Conversion.BalanceTable
import MarketGateway.Proofs.Conversion.ClientIds
import MarketGateway.Proofs.Conversion.Faults
import MarketGateway.Proofs.Conversion.FillTimes
import MarketGateway.Proofs.Conversion.Fills
import MarketGateway.Proofs.Conversion.Funding
import MarketGateway.Proofs.Conversion.OrderIds
import MarketGateway.Proofs.Conversion.Overflow
import MarketGateway.Proofs.Conversion.Readability
import MarketGateway.Proofs.Conversion.Reports
import MarketGateway.Proofs.Conversion.Rows
import MarketGateway.Proofs.Conversion.Rules
import MarketGateway.Proofs.Conversion.Snapshots
import MarketGateway.Proofs.Crypto.Base64
import MarketGateway.Proofs.Crypto.Canonical
import MarketGateway.Proofs.Crypto.Edwards
import MarketGateway.Proofs.Crypto.Field
import MarketGateway.Proofs.Crypto.Points
import MarketGateway.Proofs.Crypto.Signature
import MarketGateway.Proofs.Decimal.Notation
import MarketGateway.Proofs.Decimal.Order
import MarketGateway.Proofs.Decimal.Range
import MarketGateway.Proofs.Feed.Cancellation
import MarketGateway.Proofs.Feed.Delivery
import MarketGateway.Proofs.Feed.MarketData
import MarketGateway.Proofs.Feed.Room
import MarketGateway.Proofs.Feed.Stalling
import MarketGateway.Proofs.Feed.UserEvents
import MarketGateway.Proofs.Gateway.ListedPairs
import MarketGateway.Proofs.Gateway.OrderNumbers
import MarketGateway.Proofs.Gateway.Requests
import MarketGateway.Proofs.Gateway.TradingRules
import MarketGateway.Proofs.Http.Answers
import MarketGateway.Proofs.Http.Calls
import MarketGateway.Proofs.Http.Retries
import MarketGateway.Proofs.Http.SignedRequests
import MarketGateway.Proofs.Json.ComesBack
import MarketGateway.Proofs.Json.Fields
import MarketGateway.Proofs.Json.Forms
import MarketGateway.Proofs.Json.Identifiers
import MarketGateway.Proofs.Json.Integers
import MarketGateway.Proofs.Json.Ordered
import MarketGateway.Proofs.Json.Readers
import MarketGateway.Proofs.Json.Records
import MarketGateway.Proofs.Json.RoundTrip
import MarketGateway.Proofs.Keys
import MarketGateway.Proofs.Limits.Accounting
import MarketGateway.Proofs.Limits.Buckets
import MarketGateway.Proofs.Link.Step
import MarketGateway.Proofs.Link.Subscriptions
import MarketGateway.Proofs.Link.Watchdog
import MarketGateway.Proofs.Market.Notation
import MarketGateway.Proofs.Runs
import MarketGateway.Proofs.Session.Connection
import MarketGateway.Proofs.Session.Reading
import MarketGateway.Proofs.Settings.Changes
import MarketGateway.Proofs.Settings.EnvironmentFile
import MarketGateway.Proofs.Settings.Precedence
import MarketGateway.Proofs.Signing.Instructions
import MarketGateway.Proofs.Signing.MessageIdentity
import MarketGateway.Proofs.Signing.OrderFields
import MarketGateway.Proofs.Signing.SecretKeys
import MarketGateway.Proofs.Sorting
import MarketGateway.Proofs.Stream.Decoding
import MarketGateway.Proofs.Stream.Delays
import MarketGateway.Proofs.Stream.Rehearsal
import MarketGateway.Proofs.Stream.Requests
import MarketGateway.Proofs.Text.Integer
import MarketGateway.Proofs.Text.Splitting
import MarketGateway.Proofs.Text.Trimming
import MarketGateway.Proofs.Trading.Messages
import MarketGateway.Proofs.Wire.Events
import MarketGateway.Proofs.Wire.Identifiers
import MarketGateway.Settings.Basic
import MarketGateway.Settings.Environment
import MarketGateway.Settings.EnvironmentFile
import MarketGateway.Settings.Files
import MarketGateway.Signing.Credentials
import MarketGateway.Signing.Instruction
import MarketGateway.Signing.Message
import MarketGateway.Stream.Backoff
import MarketGateway.Stream.Consumer
import MarketGateway.Stream.Frame
import MarketGateway.Stream.Link
import MarketGateway.Stream.Message
import MarketGateway.Stream.Rehearsal
import MarketGateway.Stream.Router
import MarketGateway.Stream.Session
import MarketGateway.Text.Alphanumeric
import MarketGateway.Text.Ascii
import MarketGateway.Text.Blank
import MarketGateway.Text.Escaped
import MarketGateway.Text.Integer
import MarketGateway.Text.Quoted
import MarketGateway.Text.UpperCase
import MarketGateway.Trading.Account
import MarketGateway.Trading.Order
import MarketGateway.Wire.Account
import MarketGateway.Wire.Event
import MarketGateway.Wire.Market
