import MarketGateway.Exchange
import MarketGateway.Json.Parser
import MarketGateway.Signing.Credentials
import MarketGateway.Stream.Frame
import MarketGateway.Wire.Event

/-!
# Stream messages

Messages from the frames of the exchange, and the frames that ask for streams. A frame is either
ignored, refused as unreadable, or one message; what is well formed but not known is a message too.
-/

namespace MarketGateway

inductive StreamMessage where
  | depth (stream : String) (event : Wire.DepthEvent)
  | trade (stream : String) (event : Wire.TradeEvent)
  | order (stream : String) (event : Wire.OrderEvent)
  | markPrice (stream : String) (event : Wire.MarkPriceEvent)
  /-- The exchange reports an error, as a rule about a subscription. -/
  | error (value : Json)
  | unknown (stream : Option String) (value : Json)

namespace StreamMessage

def channel : StreamMessage → Option String
  | .depth stream _ => some stream
  | .trade stream _ => some stream
  | .order stream _ => some stream
  | .markPrice stream _ => some stream
  | .error _ => none
  | .unknown stream _ => stream

def kind : StreamMessage → String
  | .depth _ _ => "Depth"
  | .trade _ _ => "Trade"
  | .order _ _ => "OrderUpdate"
  | .markPrice _ _ => "MarkPrice"
  | .error _ => "Error"
  | .unknown _ _ => "Unknown"

/-- What a message holds, in its written form. -/
def content : StreamMessage → Json
  | .depth _ event => event.toJson
  | .trade _ event => event.toJson
  | .order _ event => event.toJson
  | .markPrice _ event => event.toJson
  | .error value => value
  | .unknown _ value => value

/-- Order events have many types, which begin with the same words. -/
def isOrderType (eventType : String) : Bool :=
  Text.startsWith eventType "order" || Text.startsWith eventType "trigger"

/-- The event of a stream, read as `make` has it. -/
def readEvent (envelope : Wire.Envelope) (read : Json.Reader α) (make : String → α → StreamMessage) :
    Except ExchangeError StreamMessage :=
  match read envelope.data with
  | .ok event => .ok (make envelope.stream event)
  | .error e => .error (.unreadable (.event envelope.stream e))

/-- The type of its data says how an envelope is read. -/
def ofEnvelope (envelope : Wire.Envelope) : Except ExchangeError StreamMessage :=
  match (envelope.data.get? "e").bind Json.asString? with
  | some type =>
    if type = "depth" then readEvent envelope Wire.DepthEvent.read .depth
    else if type = "trade" then readEvent envelope Wire.TradeEvent.read .trade
    else if type = "markPrice" then readEvent envelope Wire.MarkPriceEvent.read .markPrice
    else if isOrderType type then readEvent envelope Wire.OrderEvent.read .order
    else .ok (.unknown (some envelope.stream) envelope.data)
  | none => .ok (.unknown (some envelope.stream) envelope.data)

def ofJson (value : Json) : Except ExchangeError StreamMessage :=
  match value.get? "error" with
  | some e => .ok (.error e)
  | none =>
    match Wire.Envelope.read value with
    | .ok envelope => ofEnvelope envelope
    | .error _ => .ok (.unknown none value)

/-- The message of a frame; only text frames have one. -/
def ofFrame : Frame → Except ExchangeError (Option StreamMessage)
  | .text content =>
    match Json.parse? content with
    | some value => (ofJson value).map some
    | none => .error (.unreadable .json)
  | _ => .ok none

end StreamMessage

/-! ### Asking for streams -/

inductive StreamAction where
  | subscribe
  | unsubscribe
deriving DecidableEq

def StreamAction.name : StreamAction → String
  | .subscribe => "SUBSCRIBE"
  | .unsubscribe => "UNSUBSCRIBE"

def isPrivateStream (stream : String) : Bool := Text.startsWith stream Exchange.privateChannel

/-- The content of a frame about streams, signed if one of them is private. -/
def streamRequest (credentials : Option Credentials) (action : StreamAction) (streams : List String)
    (nowMs : Int64) : Except ExchangeError Json :=
  if streams.any isPrivateStream then
    match credentials with
    | some c => do return c.streamFrame action.name streams (← Signing.timestamp nowMs)
    | none => .error .authenticationRequired
  else .ok (.ofMembers [("method", .string action.name), ("params", .array (streams.map .string))])

def streamRequestFrame (credentials : Option Credentials) (action : StreamAction)
    (streams : List String) (nowMs : Int64) : Except ExchangeError Frame :=
  (streamRequest credentials action streams nowMs).map fun content => .text content.render

end MarketGateway
