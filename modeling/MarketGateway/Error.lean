import MarketGateway.Calendar
import MarketGateway.Crypto.Base64
import MarketGateway.Json.Reading
import MarketGateway.Market.TradingPair

/-!
# Errors

An error is a category with its cause; `ExchangeError.message` is the one place where errors are put
into words. `Fault` adds the arithmetic that has no result.
-/

namespace MarketGateway

/-! ### Configuration -/

inductive InvalidConfig where
  | window (ms : Nat)
  | marketKind (text : String)
  | notANumber (name : String) (error : Text.IntegerError)
  | environmentFile (path : String) (reason : String)
  | other (text : String)

def maxWindowMs : Nat := 60000

def windowRule (ms : Nat) : String :=
  "window must be within 1..=" ++ toString maxWindowMs ++ " ms, got " ++ toString ms

def InvalidConfig.message : InvalidConfig → String
  | .window ms => "signing " ++ windowRule ms
  | .marketKind text =>
    "unknown market kind " ++ Text.quoted text ++ ", expected spot or perpetual"
  | .notANumber name error => name ++ " is not a number: " ++ error.message
  | .environmentFile path reason => "Failed to load .env file '" ++ path ++ "': " ++ reason
  | .other text => text

inductive ConfigError where
  | missingVariable (name : String)
  | invalid (cause : InvalidConfig)

def ConfigError.message : ConfigError → String
  | .missingVariable name => "Missing environment variable: " ++ name
  | .invalid cause => "Invalid configuration: " ++ cause.message

/-! ### Causes -/

/-- What is wrong with credentials or with the settings of a client. -/
inductive SetupError where
  | secretEncoding (error : Crypto.Base64.DecodeError)
  | secretLength (length : Nat)
  | emptyApiKey
  | window (ms : Nat)
  | userAgent
  | other (text : String)

def SetupError.message : SetupError → String
  | .secretEncoding error => "Invalid base64 secret key: " ++ error.message
  | .secretLength length => "Secret key must decode to 32 bytes, got " ++ toString length
  | .emptyApiKey => "API key must not be empty"
  | .window ms => windowRule ms
  | .userAgent => "Failed to build HTTP client: builder error: failed to parse header value"
  | .other text => text

/-- A call that is refused before anything is sent. -/
inductive BadCall where
  | pair (error : TradingPair.SplitError)
  | noPrice (orderId : String)
  | foreignOrder (orderId : String)
  | noPairs
  | spotFunding
  | noMarkPrice (symbol : String)
  | other (text : String)

def BadCall.message : BadCall → String
  | .pair error => error.message
  | .noPrice orderId => orderId ++ " requires a price"
  | .foreignOrder orderId => orderId ++ " has no exchange id and is not a connector order id"
  | .noPairs => "no trading pairs configured for the public stream"
  | .spotFunding => "funding info is only available on perpetual markets"
  | .noMarkPrice symbol => "no mark price for " ++ symbol
  | .other text => text

def Decimal.ReadError.report (e : Decimal.ReadError) : String := "Invalid decimal: " ++ e.message

inductive Unreadable where
  | json
  | response
  | value (error : Json.ReadError)
  | serverTime (found : Json)
  | event (stream : String) (error : Json.ReadError)
  | decimal (field : String) (text : String) (error : Decimal.ReadError)
  | price (text : String) (error : Decimal.ReadError)
  | quantity (text : String) (error : Decimal.ReadError)
  | fillTime (text : String) (error : Calendar.ReadError)
  | other (text : String)

def Unreadable.message : Unreadable → String
  | .json => "JSON parse error"
  | .response => "Failed to parse JSON response"
  | .value error => "Failed to deserialize JSON: " ++ error.message
  | .serverTime found => "Bad server time: " ++ found.render
  | .event stream error => "Bad " ++ stream ++ " payload: " ++ error.message
  | .decimal field text error =>
    "Bad decimal in " ++ field ++ ": " ++ Text.quoted text ++ " (" ++ error.message ++ ")"
  | .price text error => "Bad price " ++ Text.quoted text ++ ": " ++ error.report
  | .quantity text error => "Bad quantity " ++ Text.quoted text ++ ": " ++ error.report
  | .fillTime text error => "Bad fill time " ++ text ++ ": " ++ error.message
  | .other text => text

inductive NetworkFailure where
  | request
  | webSocket
  | other (text : String)

def NetworkFailure.message : NetworkFailure → String
  | .request => "Request failed"
  | .webSocket => "WebSocket connection failed"
  | .other text => text

/-- The unit in which a duration is written: its name, and the count of decimal places down to a
nanosecond. -/
def durationUnit (ns : Nat) : String × Nat :=
  if 10 ^ 9 ≤ ns then ("s", 9)
  else if 10 ^ 6 ≤ ns then ("ms", 6)
  else if 10 ^ 3 ≤ ns then ("µs", 3)
  else ("ns", 0)

/-- A duration in its largest unit, with the fraction that is needed. -/
def durationText (ns : Nat) : String :=
  let (unit, places) := durationUnit ns
  let digits := if places = 0 then [] else Decimal.paddedDigits places (ns % 10 ^ places)
  let fraction := (digits.reverse.dropWhile (· = '0')).reverse
  toString (ns / 10 ^ places) ++
    String.ofList (if fraction.isEmpty then [] else '.' :: fraction) ++ unit

inductive Timeout where
  | handshake
  | connect (ns : Nat)
  | silence (ns : Nat)
  | other (text : String)

def Timeout.message : Timeout → String
  | .handshake => "WebSocket connection timeout"
  | .connect ns => "connect did not finish within " ++ durationText ns
  | .silence ns => "no frames for more than " ++ durationText ns
  | .other text => text

inductive SocketFailure where
  | notConnected
  | noWriteHalf
  | send
  | read
  | ended
  | closedByPeer (frame : String)
  | other (text : String)

def SocketFailure.message : SocketFailure → String
  | .notConnected => "WebSocket not connected"
  | .noWriteHalf => "WebSocket write stream not available"
  | .send => "Failed to send WebSocket message"
  | .read => "WebSocket error"
  | .ended => "stream ended by peer"
  | .closedByPeer frame => "Connection closed by peer: " ++ frame
  | .other text => text

inductive Unwritable where
  | signedBody
  | other (text : String)

def Unwritable.message : Unwritable → String
  | .signedBody => "Signed body is not valid JSON"
  | .other text => text

inductive HttpFailure where
  | invalidUrl
  | refused
  | timedOut
deriving DecidableEq

/-! ### Errors of the exchange -/

inductive ExchangeError where
  | http (failure : HttpFailure)
  | json
  | api (code : Int) (text : String)
  | auth (text : String)
  | authenticationRequired
  | invalidParameters (cause : BadCall)
  | network (cause : NetworkFailure)
  | timeout (cause : Timeout)
  | socket (cause : SocketFailure)
  | unreadable (cause : Unreadable)
  | unwritable (cause : Unwritable)
  | setup (cause : SetupError)
  | config (cause : ConfigError)
  | cancelled
  | other (text : String)

namespace ExchangeError

def message : ExchangeError → String
  | .http _ => "HTTP request failed"
  | .json => "JSON parsing error"
  | .api code text => "API error: " ++ toString code ++ " - " ++ text
  | .auth text => "Authentication error: " ++ text
  | .authenticationRequired => "Authentication required: no credentials configured"
  | .invalidParameters cause => "Invalid parameters: " ++ cause.message
  | .network cause => "Network error: " ++ cause.message
  | .timeout cause => "Connection timed out: " ++ cause.message
  | .socket cause => "WebSocket error: " ++ cause.message
  | .unreadable cause => "Deserialization error: " ++ cause.message
  | .unwritable cause => "Serialization error: " ++ cause.message
  | .setup cause => "Configuration error: " ++ cause.message
  | .config cause => "Configuration error: " ++ cause.message
  | .cancelled => "Operation cancelled"
  | .other text => "Other error: " ++ text

/-- The exchange refused the call because the order does not exist. -/
def isOrderNotFound : ExchangeError → Bool
  | .api code text =>
    code == 404 || Text.contains text "INVALID_ORDER" || Text.contains text "RESOURCE_NOT_FOUND"
  | _ => false

/-- Small letters, as far as words of ASCII letters are looked for: besides the ASCII capitals only
the Kelvin sign has an ASCII letter as its small form. -/
def searchable (text : String) : String :=
  Text.lowerAscii (Text.replaceChar '\u212A' 'k' text)

def mentionsTime (text : String) : Bool :=
  let s := searchable text
  Text.contains s "timestamp" || Text.contains s "clock skew" || Text.contains s "window" ||
    (Text.contains s "time" && Text.contains s "sync")

/-- The refusal points at a clock that drifts or at a signature that is no longer valid. -/
def isTimeSyncRelated : ExchangeError → Bool
  | .api _ text => mentionsTime text
  | .auth text => mentionsTime text
  | _ => false

/-- The error may go away by itself. -/
def isTransient : ExchangeError → Bool
  | .network _ | .timeout _ | .socket _ => true
  | .http failure => failure != .invalidUrl
  | _ => false

end ExchangeError

/-! ### Faults -/

/-- Arithmetic without a result. -/
inductive Overflow where
  | product
  | sum
  | difference
  | integerSum
  | integerDifference
deriving DecidableEq

def Overflow.message : Overflow → String
  | .product => "Multiplication overflowed"
  | .sum => "Addition overflowed"
  | .difference => "Subtraction overflowed"
  | .integerSum => "attempt to add with overflow"
  | .integerDifference => "attempt to subtract with overflow"

/-- What keeps a conversion from having a result. -/
inductive Fault where
  | error (error : ExchangeError)
  | overflow (overflow : Overflow)

end MarketGateway
