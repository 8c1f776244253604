import MarketGateway.Json.Schema
import MarketGateway.Text.Ascii

/-!
# Trading pairs

A trading pair is written `BASE-QUOTE`, or `BASE-QUOTE-PERP` for a perpetual market. The exchange
writes the same names with underscores.
-/

namespace MarketGateway

structure TradingPair where
  base : String
  quote : String
deriving DecidableEq

namespace TradingPair

def toText (p : TradingPair) : String := p.base ++ "-" ++ p.quote

/-- Both parts have to be there. -/
def make? (base quote : String) : Option TradingPair :=
  if base.isEmpty || quote.isEmpty then none else some ⟨base, quote⟩

/-- `SOL-USDC` as the exchange writes it: `SOL_USDC`. -/
def symbolOf (pair : String) : String := Text.replaceChar '-' '_' pair

/-- `SOL_USDC` as a trading pair: `SOL-USDC`. -/
def ofSymbol (symbol : String) : String := Text.replaceChar '_' '-' symbol

def isSeparator (c : Char) : Bool := c = '-' || c = '_'

inductive SplitError where
  /-- A part is empty. -/
  | emptyPart (base quote : String)
  | unrecognized (text : String)
deriving DecidableEq

def SplitError.message : SplitError → String
  | .emptyPart base quote => "Invalid trading pair: " ++ base ++ "-" ++ quote
  | .unrecognized text => "Unrecognized trading pair: " ++ text

/-- The name of a perpetual market ends in a part of its own. -/
def isPerpetualMark (part : List Char) : Bool :=
  Text.eqIgnoreCase (String.ofList part) "PERP"

open Json in
def schema : Schema TradingPair :=
  mk <$> .required "base" .text <*> .required "quote" .text

def read : Json.Reader TradingPair := schema.read "TradingPair"

def toJson (p : TradingPair) : Json :=
  .ofMembers [("base", .string p.base), ("quote", .string p.quote)]

end TradingPair

end MarketGateway
