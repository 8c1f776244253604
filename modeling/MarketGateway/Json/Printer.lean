import MarketGateway.Json.Basic

/-!
# Writing JSON text

The written form has no blanks. In strings only the quotation mark, the backslash and the control
characters are escaped.
-/

namespace MarketGateway.Json

/-- A hexadecimal digit, in small letters. -/
def hexChar (n : Nat) : Char := Nat.digitChar n

def escapeChar (c : Char) : List Char :=
  if c = '"' then ['\\', '"']
  else if c = '\\' then ['\\', '\\']
  else if c = '\x08' then ['\\', 'b']
  else if c = '\x0c' then ['\\', 'f']
  else if c = '\n' then ['\\', 'n']
  else if c = '\r' then ['\\', 'r']
  else if c = '\t' then ['\\', 't']
  else if c.toNat < 0x20 then
    ['\\', 'u', '0', '0', hexChar (c.toNat / 16), hexChar (c.toNat % 16)]
  else [c]

def quote (s : String) : List Char := '"' :: s.toList.flatMap escapeChar ++ ['"']

mutual

def chars : Json → List Char
  | .null => "null".toList
  | .bool true => "true".toList
  | .bool false => "false".toList
  | .number n => n.toText.toList
  | .string s => quote s
  | .array [] => ['[', ']']
  | .array (v :: vs) => '[' :: chars v ++ itemChars vs ++ [']']
  | .object [] => ['{', '}']
  | .object (m :: ms) => '{' :: quote m.1 ++ ':' :: chars m.2 ++ memberChars ms ++ ['}']

def itemChars : List Json → List Char
  | [] => []
  | v :: vs => ',' :: chars v ++ itemChars vs

def memberChars : List (String × Json) → List Char
  | [] => []
  | m :: ms => ',' :: quote m.1 ++ ':' :: chars m.2 ++ memberChars ms

end

def render (j : Json) : String := String.ofList (chars j)

end MarketGateway.Json
