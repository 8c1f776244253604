import MarketGateway.Json.Schema

/-!
# Private REST payloads

Balances, orders and fills as the exchange sends them, and the bodies of order requests.
-/

namespace MarketGateway.Wire

open Json (Reader Schema)

structure CapitalEntry where
  available : String
  locked : String
  staked : Option String
deriving DecidableEq

namespace CapitalEntry

def schema : Schema CapitalEntry :=
  mk <$> .required "available" .text <*> .required "locked" .text <*> .omittable "staked" .text

def read : Reader CapitalEntry := schema.read "BackpackCapitalEntry"

def toJson (e : CapitalEntry) : Json :=
  .ofMembers [("available", .string e.available), ("locked", .string e.locked),
    ("staked", .ofText? e.staked)]

end CapitalEntry

/-- Spot balances by asset, in ascending order of the assets. -/
abbrev Capital := List (String × CapitalEntry)

namespace Capital

def read : Reader Capital := .table CapitalEntry.read

def toJson (c : Capital) : Json := .object (c.map fun e => (e.1, e.2.toJson))

end Capital

structure CollateralEntry where
  symbol : String
  totalQuantity : String
  availableQuantity : Option String
  lendQuantity : Option String
deriving DecidableEq

namespace CollateralEntry

def schema : Schema CollateralEntry :=
  mk <$> .required "symbol" .text <*> .required "totalQuantity" .text
    <*> .omittable "availableQuantity" .text <*> .omittable "lendQuantity" .text

def read : Reader CollateralEntry := schema.read "BackpackCollateralEntry"

def toJson (e : CollateralEntry) : Json :=
  .ofMembers [("symbol", .string e.symbol), ("totalQuantity", .string e.totalQuantity),
    ("availableQuantity", .ofText? e.availableQuantity), ("lendQuantity", .ofText? e.lendQuantity)]

end CollateralEntry

structure Collateral where
  collateral : List CollateralEntry
deriving DecidableEq

namespace Collateral

def schema : Schema Collateral := mk <$> .withDefault "collateral" (.list CollateralEntry.read) []

def read : Reader Collateral := schema.read "BackpackCollateral"

end Collateral

structure Order where
  id : String
  clientId : Option UInt32
  symbol : String
  side : Option String
  orderType : Option String
  quantity : Option String
  price : Option String
  status : String
  executedQuantity : Option String
  executedQuoteQuantity : Option String
  createdAt : Option Int64
deriving DecidableEq

namespace Order

def schema : Schema Order :=
  mk <$> .required "id" .identifier <*> .omittable "clientId" .uint32 <*> .required "symbol" .text
    <*> .omittable "side" .text <*> .omittable "orderType" .text <*> .omittable "quantity" .text
    <*> .omittable "price" .text <*> .required "status" .text
    <*> .omittable "executedQuantity" .text <*> .omittable "executedQuoteQuantity" .text
    <*> .aliased "createdAt" ["timestamp"] .int64

def read : Reader Order := schema.read "BackpackOrder"

def toJson (o : Order) : Json :=
  .ofMembers [("id", .string o.id), ("clientId", .ofOption .uint32 o.clientId),
    ("symbol", .string o.symbol), ("side", .ofText? o.side), ("orderType", .ofText? o.orderType),
    ("quantity", .ofText? o.quantity), ("price", .ofText? o.price), ("status", .string o.status),
    ("executedQuantity", .ofText? o.executedQuantity),
    ("executedQuoteQuantity", .ofText? o.executedQuoteQuantity),
    ("createdAt", .ofOption .int64 o.createdAt)]

end Order

structure Fill where
  tradeId : Option String
  orderId : String
  clientId : Option UInt32
  symbol : String
  side : String
  price : String
  quantity : String
  fee : String
  feeSymbol : String
  timestamp : String
deriving DecidableEq

namespace Fill

def schema : Schema Fill :=
  mk <$> .omittable "tradeId" .identifier <*> .required "orderId" .identifier
    <*> .omittable "clientId" .uint32 <*> .required "symbol" .text <*> .required "side" .text
    <*> .required "price" .text <*> .required "quantity" .text <*> .required "fee" .text
    <*> .required "feeSymbol" .text <*> .required "timestamp" .text

def read : Reader Fill := schema.read "BackpackFill"

def toJson (f : Fill) : Json :=
  .ofMembers [("tradeId", .ofText? f.tradeId), ("orderId", .string f.orderId),
    ("clientId", .ofOption .uint32 f.clientId), ("symbol", .string f.symbol),
    ("side", .string f.side), ("price", .string f.price), ("quantity", .string f.quantity),
    ("fee", .string f.fee), ("feeSymbol", .string f.feeSymbol), ("timestamp", .string f.timestamp)]

end Fill

/-! ### Requests -/

/-- The members of a request body that are there; the others are left out. -/
def present (members : List (String × Option Json)) : Json :=
  .ofMembers (members.filterMap fun m => m.2.map fun v => (m.1, v))

structure NewOrder where
  symbol : String
  side : String
  orderType : String
  quantity : String
  price : Option String
  timeInForce : Option String
  postOnly : Option Bool
  clientId : Option UInt32
deriving DecidableEq

def NewOrder.toJson (o : NewOrder) : Json :=
  present [("symbol", some (.string o.symbol)), ("side", some (.string o.side)),
    ("orderType", some (.string o.orderType)), ("quantity", some (.string o.quantity)),
    ("price", o.price.map .string), ("timeInForce", o.timeInForce.map .string),
    ("postOnly", o.postOnly.map .bool), ("clientId", o.clientId.map .uint32)]

/-- Names one order by its exchange id or by its client id. -/
structure CancelOrder where
  symbol : String
  orderId : Option String
  clientId : Option UInt32
deriving DecidableEq

def CancelOrder.toJson (o : CancelOrder) : Json :=
  present [("symbol", some (.string o.symbol)), ("orderId", o.orderId.map .string),
    ("clientId", o.clientId.map .uint32)]

end MarketGateway.Wire
