import MarketGateway.Exchange
import MarketGateway.Http.Call
import MarketGateway.Json.Parser
import MarketGateway.Signing.Credentials

/-!
# The HTTP client

A request waits for a slot of its path, is signed if it has to be, and is sent. Only reads are repeated
after a passing failure. What is signed is what is sent.
-/

namespace MarketGateway

structure ClientOptions where
  server : String
  exchange : String
  timeoutSeconds : Nat
  maxRetries : Nat
  userAgent : String

namespace ClientOptions

def defaultUserAgent : String := "backpack-connector/0.1.0"

def ofServer (server exchange : String) : ClientOptions := ⟨server, exchange, 30, 3, defaultUserAgent⟩

def describe (o : ClientOptions) : String :=
  "RestClientConfig \x7b base_url: " ++ Text.quoted o.server ++ ", exchange_name: " ++
    Text.quoted o.exchange ++ ", timeout_seconds: " ++ toString o.timeoutSeconds ++
    ", max_retries: " ++ toString o.maxRetries ++ ", user_agent: " ++ Text.quoted o.userAgent ++
    " \x7d"

end ClientOptions

/-- Whether a header may hold a text: the tab is the only control character that it may have. -/
def isHeaderText (text : String) : Bool :=
  text.toList.all fun c => c = '\t' || (0x20 ≤ c.toNat && c.toNat != 0x7f)

structure Client where
  options : ClientOptions
  credentials : Option Credentials
  throttled : Bool

structure Ask where
  method : String
  path : String
  query : List (String × String)
  body : Option Json
  signed : Bool

abbrev ApiCall (α : Type) := ExceptT ExchangeError Call α

namespace ApiCall

def ofExcept (result : Except ExchangeError α) : ApiCall α := ExceptT.mk (.done result)

def clock : ApiCall Int64 := ExceptT.mk (.clock fun t => .done (.ok t))

def slot (limit : String) : ApiCall Unit := ExceptT.mk (.slot limit (.done (.ok ())))

def orderNumber (timestampMs : Int64) : ApiCall UInt32 :=
  ExceptT.mk (.orderNumber timestampMs fun n => .done (.ok n))

def send (request : Request) : ApiCall Response :=
  ExceptT.mk (.send request fun a => .done (a.mapError .network))

end ApiCall

namespace Client

def build (options : ClientOptions) (credentials : Option Credentials) (throttled : Bool) :
    Except ExchangeError Client :=
  if isHeaderText options.userAgent then .ok ⟨options, credentials, throttled⟩
  else .error (.setup .userAgent)

def describe (c : Client) : String :=
  "ReqwestRest \x7b config: " ++ c.options.describe ++ ", has_signer: " ++
    toString c.credentials.isSome ++ ", has_throttler: " ++ toString c.throttled ++ ", .. \x7d"

/-- The address without slashes at its end. -/
def server (c : Client) : String :=
  String.ofList (c.options.server.toList.reverse.dropWhile (· = '/')).reverse

/-! ### Answers -/

/-- The content of a response; a blank one is `null`. -/
def content (r : Response) : Except ExchangeError Json :=
  if r.status < 200 || 300 ≤ r.status then .error (.api r.status r.body)
  else if Text.allBlank r.body then .ok .null
  else match Json.parse? r.body with
    | some j => .ok j
    | none => .error (.unreadable .response)

def decode (read : Json.Reader α) (j : Json) : Except ExchangeError α :=
  (read j).mapError fun e => .unreadable (.value e)

/-! ### Requests -/

/-- The bytes of a body; `null` has none. -/
def bodyBytes : Option Json → ByteArray
  | none | some .null => ByteArray.empty
  | some j => j.render.toUTF8

def contentHeaders (body : ByteArray) : List (String × String) :=
  if body.isEmpty then [] else [("Content-Type", "application/json")]

/-- The headers that sign a request, none for one that is not to be signed. -/
def signingHeaders (c : Client) (ask : Ask) (body : ByteArray) :
    ApiCall (List (String × String)) := do
  if ask.signed then
    match c.credentials with
    | none => throw .authenticationRequired
    | some credentials =>
      let timestamp ← .ofExcept (Signing.timestamp (← .clock))
      .ofExcept (credentials.signRequest ask.method ask.path ask.query body timestamp)
  else return []

/-- One attempt. A request with a header that cannot be sent is not sent. -/
def attempt (c : Client) (ask : Ask) : ApiCall Json := do
  if c.throttled then .slot ask.path
  let body := bodyBytes ask.body
  let headers ← c.signingHeaders ask body
  unless headers.all fun h => isHeaderText h.2 do throw (.network .request)
  let response ← .send {
    method := ask.method
    server := c.server
    path := ask.path
    query := ask.query
    headers := ("User-Agent", c.options.userAgent) :: headers ++ contentHeaders body
    body := body }
  .ofExcept (content response)

def retries (c : Client) (ask : Ask) : Nat := if ask.method = "GET" then c.options.maxRetries else 0

def perform (c : Client) (ask : Ask) : ApiCall Json :=
  ExceptT.mk (Call.retrying (c.attempt ask).run (c.retries ask))

def call (c : Client) (ask : Ask) (read : Json.Reader α) : ApiCall α := do
  let j ← c.perform ask
  .ofExcept (decode read j)

def get (c : Client) (path : String) (query : List (String × String)) (signed : Bool)
    (read : Json.Reader α) : ApiCall α :=
  c.call ⟨"GET", path, query, none, signed⟩ read

def post (c : Client) (path : String) (body : Json) (signed : Bool) (read : Json.Reader α) :
    ApiCall α :=
  c.call ⟨"POST", path, [], some body, signed⟩ read

def delete (c : Client) (path : String) (body : Json) (signed : Bool) (read : Json.Reader α) :
    ApiCall α :=
  c.call ⟨"DELETE", path, [], some body, signed⟩ read

end Client

end MarketGateway
