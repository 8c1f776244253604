import MarketGateway.Json.Basic
import MarketGateway.Text.Integer

/-!
# Reading JSON text

The text is cut into tokens one character at a time, and the tokens are put together on a stack of
open arrays and objects. A document with more than 127 of them open at once is refused.
-/

namespace MarketGateway.Json

inductive Token where
  | openArray
  | closeArray
  | openObject
  | closeObject
  | comma
  | colon
  | text (value : String)
  | scalar (value : Json)

/-! ### Characters to tokens -/

/-- What the characters read last belong to; collected characters are in reverse order. -/
inductive Scan where
  | between
  | word (sofar : List Char)
  | text (sofar : List Char)
  | escape (sofar : List Char)
  /-- After `\u` with `missing + 1` digits to come, and the first half of a pair if there is one. -/
  | code (sofar : List Char) (high : Option Nat) (value : Nat) (missing : Nat)
  /-- After the first half of a pair, before the backslash. -/
  | pair (sofar : List Char) (high : Nat)
  /-- After the first half of a pair and the backslash. -/
  | pairEscape (sofar : List Char) (high : Nat)

def isSpace (c : Char) : Bool := c = ' ' || c = '\n' || c = '\r' || c = '\t'

def punctuation? : Char → Option Token
  | '[' => some .openArray
  | ']' => some .closeArray
  | '{' => some .openObject
  | '}' => some .closeObject
  | ',' => some .comma
  | ':' => some .colon
  | _ => none

def word? (cs : List Char) : Option Json :=
  if cs = "true".toList then some (.bool true)
  else if cs = "false".toList then some (.bool false)
  else if cs = "null".toList then some .null
  else (Number.ofChars? cs).map .number

def hexDigit? (c : Char) : Option Nat :=
  if c.isDigit then some (c.toNat - 48)
  else if 'a' ≤ c ∧ c ≤ 'f' then some (c.toNat - 87)
  else if 'A' ≤ c ∧ c ≤ 'F' then some (c.toNat - 55)
  else none

def escaped? : Char → Option Char
  | '"' => some '"'
  | '\\' => some '\\'
  | '/' => some '/'
  | 'b' => some '\x08'
  | 'f' => some '\x0c'
  | 'n' => some '\n'
  | 'r' => some '\r'
  | 't' => some '\t'
  | _ => none

/-- A complete four-digit code: a character, the first half of a pair, or its second half. -/
def endCode (sofar : List Char) (high : Option Nat) (value : Nat) : Option Scan :=
  match high with
  | none =>
    if 0xD800 ≤ value ∧ value < 0xDC00 then some (.pair sofar value)
    else if 0xDC00 ≤ value ∧ value < 0xE000 then none
    else some (.text (Char.ofNat value :: sofar))
  | some first =>
    if 0xDC00 ≤ value ∧ value < 0xE000 then
      some (.text (Char.ofNat (0x10000 + (first - 0xD800) * 0x400 + (value - 0xDC00)) :: sofar))
    else none

def scanFresh (c : Char) : Scan × List Token :=
  if isSpace c then (.between, [])
  else if c = '"' then (.text [], [])
  else match punctuation? c with
    | some token => (.between, [token])
    | none => (.word [c], [])

/-- Reads one character; a token is complete when its last character, or the first one that does not
belong to it, was read. -/
def scan : Scan → Char → Option (Scan × List Token)
  | .between, c => some (scanFresh c)
  | .word sofar, c =>
    if isSpace c || c = '"' || (punctuation? c).isSome then
      (word? sofar.reverse).map fun v =>
        let (next, tokens) := scanFresh c
        (next, .scalar v :: tokens)
    else some (.word (c :: sofar), [])
  | .text sofar, c =>
    if c = '"' then some (.between, [.text (String.ofList sofar.reverse)])
    else if c = '\\' then some (.escape sofar, [])
    else if c.toNat < 0x20 then none
    else some (.text (c :: sofar), [])
  | .escape sofar, c =>
    if c = 'u' then some (.code sofar none 0 3, [])
    else (escaped? c).map fun e => (.text (e :: sofar), [])
  | .code sofar high value missing, c =>
    (hexDigit? c).bind fun d =>
      match missing with
      | 0 => (endCode sofar high (value * 16 + d)).map (·, [])
      | missing + 1 => some (.code sofar high (value * 16 + d) missing, [])
  | .pair sofar high, c => if c = '\\' then some (.pairEscape sofar high, []) else none
  | .pairEscape sofar high, c => if c = 'u' then some (.code sofar (some high) 0 3, []) else none

/-- The end of the text completes a word but nothing else. -/
def scanEnd : Scan → Option (List Token)
  | .between => some []
  | .word sofar => (word? sofar.reverse).map fun v => [.scalar v]
  | _ => none

/-! ### Tokens to values -/

/-- An array or object that is still open; the items of an array are in reverse order. -/
inductive Frame where
  | items (sofar : List Json)
  | members (sofar : List (String × Json))
  | member (sofar : List (String × Json)) (key : String)

inductive Expected where
  | value
  | valueOrClose
  | keyOrClose
  | key
  | colon
  | commaOrClose
  | nothing

structure Assembly where
  stack : List Frame
  expected : Expected
  result : Option Json

namespace Assembly

def start : Assembly := ⟨[], .value, none⟩

/-- A value is complete: it goes into the innermost open frame. -/
def complete (v : Json) : List Frame → Option Assembly
  | [] => some ⟨[], .nothing, some v⟩
  | .items sofar :: stack => some ⟨.items (v :: sofar) :: stack, .commaOrClose, none⟩
  | .member sofar key :: stack =>
    some ⟨.members (setMember key v sofar) :: stack, .commaOrClose, none⟩
  | .members _ :: _ => none

def maxDepth : Nat := 127

def push (frame : Frame) (expected : Expected) (stack : List Frame) : Option Assembly :=
  if stack.length < maxDepth then some ⟨frame :: stack, expected, none⟩ else none

def beginValue (stack : List Frame) : Token → Option Assembly
  | .scalar v => complete v stack
  | .text s => complete (.string s) stack
  | .openArray => push (.items []) .valueOrClose stack
  | .openObject => push (.members []) .keyOrClose stack
  | _ => none

def beginMember : List Frame → Token → Option Assembly
  | .members sofar :: stack, .text key => some ⟨.member sofar key :: stack, .colon, none⟩
  | _, _ => none

def close : List Frame → Token → Option Assembly
  | .items sofar :: stack, .closeArray => complete (.array sofar.reverse) stack
  | .members sofar :: stack, .closeObject => complete (.object sofar) stack
  | _, _ => none

def separate : List Frame → Option Assembly
  | .items sofar :: stack => some ⟨.items sofar :: stack, .value, none⟩
  | .members sofar :: stack => some ⟨.members sofar :: stack, .key, none⟩
  | _ => none

def step (a : Assembly) (token : Token) : Option Assembly :=
  match a.expected, token with
  | .value, token => beginValue a.stack token
  | .valueOrClose, .closeArray => close a.stack .closeArray
  | .valueOrClose, token => beginValue a.stack token
  | .keyOrClose, .closeObject => close a.stack .closeObject
  | .keyOrClose, token => beginMember a.stack token
  | .key, token => beginMember a.stack token
  | .colon, .colon => some { a with expected := .value }
  | .commaOrClose, .comma => separate a.stack
  | .commaOrClose, token => close a.stack token
  | _, _ => none

def steps (a : Assembly) : List Token → Option Assembly
  | [] => some a
  | token :: tokens => (a.step token).bind fun a => a.steps tokens

end Assembly

/-! ### Documents -/

def parseFrom (s : Scan) (a : Assembly) : List Char → Option Json
  | [] => (scanEnd s).bind fun tokens => (a.steps tokens).bind Assembly.result
  | c :: cs =>
    (scan s c).bind fun next => (a.steps next.2).bind fun a => parseFrom next.1 a cs

/-- The value of a JSON document, if the text is one. -/
def parse? (s : String) : Option Json := parseFrom .between .start s.toList

end MarketGateway.Json
