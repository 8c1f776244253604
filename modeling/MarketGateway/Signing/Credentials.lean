import MarketGateway.Crypto.Ed25519
import MarketGateway.Signing.Message
import MarketGateway.Text.Quoted

/-!
# Credentials

An API key, the secret key that signs for it and the window in which a signature is valid. They sign
requests and subscriptions to private streams.
-/

namespace MarketGateway

open Crypto

/-! ### Keys -/

namespace SigningKey

/-- Reads the Base64 form of 32 bytes; blanks around it do not count. -/
def ofText (text : String) : Except SetupError Ed25519.SecretKey :=
  match Base64.decode (Text.trim text) with
  | .error e => .error (.secretEncoding e)
  | .ok seed =>
    if h : seed.length = 32 then .ok ⟨seed, h⟩ else .error (.secretLength seed.length)

def publicText (key : Ed25519.SecretKey) : String := Base64.encode key.publicKey

def sign (key : Ed25519.SecretKey) (message : String) : String :=
  Base64.encode (Ed25519.sign key message.toUTF8.toList)

/-- The signature is that of the message under the public key. -/
def verifies (publicKey : List UInt8) (message signature : String) : Bool :=
  match Base64.decode signature with
  | .ok bytes => Ed25519.verify publicKey message.toUTF8.toList bytes
  | .error _ => false

/-- A key for logs: the public half only. -/
def describe (key : Ed25519.SecretKey) : String :=
  "Ed25519Signer \x7b verifying_key: " ++ Text.quoted (publicText key) ++ ", .. \x7d"

end SigningKey

/-! ### Credentials -/

def defaultWindowMs : Nat := 5000

/-- A window has to be there and at most the longest that the exchange accepts. -/
def isWindow (ms : Nat) : Bool := 0 < ms && ms ≤ maxWindowMs

structure Credentials where
  apiKey : String
  key : Ed25519.SecretKey
  windowMs : Nat

namespace Credentials

/-- Blanks around the keys do not count. -/
def make (apiKey secretKey : String) : Except SetupError Credentials := do
  let key ← SigningKey.ofText secretKey
  let apiKey := Text.trim apiKey
  if apiKey.isEmpty then throw .emptyApiKey
  return ⟨apiKey, key, defaultWindowMs⟩

def withWindow (c : Credentials) (ms : Nat) : Except SetupError Credentials :=
  if isWindow ms then .ok { c with windowMs := ms } else .error (.window ms)

def publicText (c : Credentials) : String := SigningKey.publicText c.key

def describe (c : Credentials) : String :=
  "BackpackAuth \x7b api_key: " ++ Text.quoted c.apiKey ++ ", signer: " ++
    SigningKey.describe c.key ++ ", window_ms: " ++ toString c.windowMs ++ " \x7d"

/-! ### Requests -/

def apiKeyHeader : String := "X-API-KEY"

def signatureHeader : String := "X-SIGNATURE"

def timestampHeader : String := "X-TIMESTAMP"

def windowHeader : String := "X-WINDOW"

def headers (c : Credentials) (method path : String) (params : List (String × String))
    (timestamp : Nat) : List (String × String) :=
  let message :=
    Signing.message (Instruction.ofRequest method path).name params timestamp c.windowMs
  [(apiKeyHeader, c.apiKey), (signatureHeader, SigningKey.sign c.key message),
    (timestampHeader, toString timestamp), (windowHeader, toString c.windowMs)]

/-- The headers of a request; its query and the members of its body are signed. -/
def signRequest (c : Credentials) (method path : String) (query : List (String × String))
    (body : ByteArray) (timestamp : Nat) : Except ExchangeError (List (String × String)) := do
  return c.headers method path (query ++ (← Signing.bodyParams body)) timestamp

/-! ### Streams -/

/-- The signature of a subscription, with all that is needed to check it. -/
def streamSignature (c : Credentials) (timestamp : Nat) : List String :=
  let message := Signing.message Instruction.subscribe.name [] timestamp c.windowMs
  [c.apiKey, SigningKey.sign c.key message, toString timestamp, toString c.windowMs]

/-- A signed frame about streams; `method` says what is to be done with them. -/
def streamFrame (c : Credentials) (method : String) (streams : List String) (timestamp : Nat) :
    Json :=
  .ofMembers [("method", .string method), ("params", .array (streams.map .string)),
    ("signature", .array ((c.streamSignature timestamp).map .string))]

end Credentials

end MarketGateway
