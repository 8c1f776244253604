/-!
# Base64

The encoding of RFC 4648 with padding. `decode?` accepts exactly the texts that `encode` writes: the
padding has to be there and the bits that it leaves over have to be zero. `diagnose` says what is
wrong with any other text.
-/

namespace MarketGateway.Crypto.Base64

def alphabet : List Char :=
  "ABCDEFGHIJKLMNOPQRSTUVWXYZabcdefghijklmnopqrstuvwxyz0123456789+/".toList

def symbol (n : Nat) : Char := alphabet.getD n '='

def sextet? (c : Char) : Option Nat :=
  if 'A' ≤ c ∧ c ≤ 'Z' then some (c.toNat - 65)
  else if 'a' ≤ c ∧ c ≤ 'z' then some (c.toNat - 71)
  else if '0' ≤ c ∧ c ≤ '9' then some (c.toNat + 4)
  else if c = '+' then some 62
  else if c = '/' then some 63
  else none

def encodeChars : List UInt8 → List Char
  | [] => []
  | [a] => [symbol (a.toNat / 4), symbol (a.toNat % 4 * 16), '=', '=']
  | [a, b] =>
    [symbol (a.toNat / 4), symbol (a.toNat % 4 * 16 + b.toNat / 16), symbol (b.toNat % 16 * 4), '=']
  | a :: b :: c :: rest =>
    symbol (a.toNat / 4) :: symbol (a.toNat % 4 * 16 + b.toNat / 16) ::
      symbol (b.toNat % 16 * 4 + c.toNat / 64) :: symbol (c.toNat % 64) :: encodeChars rest

def encode (bytes : List UInt8) : String := String.ofList (encodeChars bytes)

/-- The last four characters hold one or two bytes if they end in padding. -/
def decodeChars? : List Char → Option (List UInt8)
  | [] => some []
  | [a, b, '=', '='] => do
    let a ← sextet? a
    let b ← sextet? b
    if b % 16 = 0 then return [UInt8.ofNat (a * 4 + b / 16)] else none
  | [a, b, c, '='] => do
    let a ← sextet? a
    let b ← sextet? b
    let c ← sextet? c
    if c % 4 = 0 then return [UInt8.ofNat (a * 4 + b / 16), UInt8.ofNat (b % 16 * 16 + c / 4)]
    else none
  | a :: b :: c :: d :: rest => do
    let a ← sextet? a
    let b ← sextet? b
    let c ← sextet? c
    let d ← sextet? d
    return UInt8.ofNat (a * 4 + b / 16) :: UInt8.ofNat (b % 16 * 16 + c / 4) ::
      UInt8.ofNat (c % 4 * 64 + d) :: (← decodeChars? rest)
  | _ => none

inductive DecodeError where
  | invalidByte (byte : Nat) (offset : Nat)
  | invalidLength
  | invalidLastSymbol (byte : Nat) (offset : Nat)
  | invalidPadding
deriving DecidableEq

def DecodeError.message : DecodeError → String
  | .invalidByte byte offset =>
    "Invalid byte " ++ toString byte ++ ", offset " ++ toString offset ++ "."
  | .invalidLength => "Encoded text cannot have a 6-bit remainder."
  | .invalidLastSymbol byte offset =>
    "Invalid last symbol " ++ toString byte ++ ", offset " ++ toString offset ++ "."
  | .invalidPadding => "Invalid padding"

def isSymbol (byte : Nat) : Bool := byte < 128 && (sextet? (Char.ofNat byte)).isSome

/-- What is wrong with the bytes of a text that is not an encoding. -/
def diagnose (bytes : List Nat) : DecodeError :=
  let symbols := bytes.takeWhile isSymbol
  let offset := symbols.length
  let rest := bytes.drop offset
  let last := bytes.getLastD 61
  if bytes.length % 4 = 1 then
    if last = 61 || isSymbol last then .invalidLength else .invalidByte last (bytes.length - 1)
  else match rest.head? with
    | some byte =>
      if byte ≠ 61 then .invalidByte byte offset
      else if offset % 4 < 2 || rest.any (· ≠ 61) || 4 < offset % 4 + rest.length then
        .invalidByte 61 offset
      else if bytes.length % 4 ≠ 0 then .invalidPadding
      else .invalidLastSymbol (symbols.getLastD 61) (offset - 1)
    | none => .invalidPadding

def decode (s : String) : Except DecodeError (List UInt8) :=
  match decodeChars? s.toList with
  | some bytes => .ok bytes
  | none => .error (diagnose (s.toUTF8.toList.map UInt8.toNat))

end MarketGateway.Crypto.Base64
