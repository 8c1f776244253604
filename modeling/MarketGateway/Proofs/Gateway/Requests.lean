import MarketGateway.Proofs.Http.SignedRequests
import MarketGateway.Proofs.Signing.OrderFields

/-!
# Requests of a gateway

A call of a gateway makes requests of one kind only, which shows the symbol of the pair and how the order is
known. If the gateway has its keys, a request is made. `Asks` says so of the tree of a call, and `Makes` of
its runs.
-/

namespace MarketGateway

/-! ### Fields -/

theorem Client.lookup_given {params : List (String × Option String)} {name : String}
    (distinct : (params.map Prod.fst).Nodup) :
    (given params).lookup name = (params.lookup name).join := by
  induction params with
  | nil => rfl
  | cons p params ih =>
    obtain ⟨other, value⟩ := p
    obtain ⟨fresh, others⟩ := List.nodup_cons.mp distinct
    have rest := ih others
    have cons : given ((other, value) :: params) =
        (value.map fun v => (other, v)).toList ++ given params := by
      cases value <;> rfl
    rw [cons, List.lookup_cons]
    by_cases same : name = other
    · subst same
      have absent : params.lookup name = none := by
        refine List.lookup_eq_none_iff.mpr fun p member => bne_iff_ne.mpr ?_
        exact fun same => fresh (List.mem_map.mpr ⟨p, member, same.symm⟩)
      cases value with
      | none => simpa [absent] using rest
      | some v => simp
    · have differ : (name == other) = false := beq_eq_false_iff_ne.mpr same
      cases value with
      | none => simpa [differ] using rest
      | some v => simpa [differ, List.lookup_cons] using rest

namespace Request

/-- The value of a field of the body. -/
def field? (r : Request) (name : String) : Option String := r.fields.lookup name

/-- The value of a parameter. -/
def parameter? (r : Request) (name : String) : Option String := r.query.lookup name

/-- The values are those of an order that is known in this way, and there are no others that name one. -/
structure Names (known : Wire.CancelOrder) (value? : String → Option String) : Prop where
  symbol : value? "symbol" = some known.symbol
  orderId : value? "orderId" = known.orderId
  clientId : value? "clientId" = known.clientId.map fun n => toString n.toNat

theorem field?_of_conveys {c : Client} {ask : Ask} {r : Request} {body : Json}
    {params : List (String × Option String)} (conveys : c.Conveys ask r) (content : ask.body = some body)
    (signs : Signing.Signs body (Client.given params)) (distinct : (params.map Prod.fst).Nodup)
    (name : String) : r.field? name = (params.lookup name).join := by
  have fields : r.fields = Client.given params := by
    apply fields_of_bodyParams
    rw [conveys.body, content]
    exact signs.signed
  rw [field?, fields, Client.lookup_given distinct]

theorem parameter?_of_conveys {c : Client} {ask : Ask} {r : Request}
    {params : List (String × Option String)} (conveys : c.Conveys ask r)
    (query : ask.query = Client.given params) (distinct : (params.map Prod.fst).Nodup) (name : String) :
    r.parameter? name = (params.lookup name).join := by
  rw [parameter?, conveys.query, query, Client.lookup_given distinct]

end Request

namespace Gateway

open Call (Outside Record)

variable {α β : Type} {g : Gateway} {kind : Request → Prop}

/-! ### Calls that make requests of one kind -/

/-- The gateway has keys that can stand in a header. -/
def HasUsableKeys (g : Gateway) : Prop :=
  ∃ credentials, g.client.credentials = some credentials ∧ isHeaderText credentials.apiKey = true

/-- Whatever the outside does, only requests of a kind are sent; and one is, if the gateway has its keys
and the clock shows times after 1970. -/
def Makes (g : Gateway) (kind : Request → Prop) (call : Call α) : Prop :=
  ∀ (o : Outside) (r : Record), ∃ sent, (call.run o r).2.requests = r.requests ++ sent ∧
    (∀ request ∈ sent, kind request) ∧
    (g.HasUsableKeys → (∀ n, 0 ≤ (o.clock n).toInt) → sent ≠ [])

structure Asks (g : Gateway) (kind : Request → Prop) (call : Call α) : Prop where
  sends : call.Sends (fun _ => True) kind fun _ => True
  reaches : g.HasUsableKeys → call.Reaches fun t => 0 ≤ t.toInt

theorem Asks.imp {wider : Request → Prop} {call : Call α} (asks : g.Asks kind call)
    (widens : ∀ request, kind request → wider request) : g.Asks wider call :=
  ⟨asks.sends.imp widens fun _ _ => trivial, asks.reaches⟩

theorem Asks.makes {call : Call α} (asks : g.Asks kind call) : g.Makes kind call := by
  intro o r
  obtain ⟨sent, requests, allowed⟩ := asks.sends.run o r fun _ => trivial
  refine ⟨sent, requests, allowed, fun keys late => ?_⟩
  rintro rfl
  have more := (asks.reaches keys).run o r late
  rw [requests, List.append_nil] at more
  exact Nat.lt_irrefl _ more

/-- A call of the client makes its own request, and can make it if the content can be signed. -/
theorem asks_call {ask : Ask} {fields : List (String × String)} (read : Json.Reader α)
    (signed : Signing.bodyParams (Client.bodyBytes ask.body) = .ok fields)
    (conveyed : ∀ request, g.client.Conveys ask request → kind request) :
    g.Asks kind (g.client.call ask read).run := by
  constructor
  · have sends : (g.client.call ask read).run.Sends (fun _ => True) (g.client.Conveys ask) _ :=
      g.client.call_sends ask read
    exact sends.imp conveyed fun _ _ => trivial
  · rintro ⟨credentials, given, key⟩
    exact Client.call_reaches (fun _ => ⟨credentials, fields, given, key, signed⟩) read

/-- What follows on the requests sends nothing. -/
theorem Asks.bind {call : Call α} {f : α → Call β} (asks : g.Asks kind call)
    (rest : ∀ a, (f a).Sends (fun _ => True) kind fun _ => True) : g.Asks kind (call.bind f) :=
  ⟨Call.Sends.bind asks.sends fun a _ => rest a, fun keys => (asks.reaches keys).bind⟩

theorem Asks.bindT {ε : Type} {call : ExceptT ε Call α} {f : α → ExceptT ε Call β}
    (asks : g.Asks kind call.run) (rest : ∀ a, (f a).run.Sends (fun _ => True) kind fun _ => True) :
    g.Asks kind (call >>= f).run := by
  refine Asks.bind asks fun result => ?_
  cases result with
  | ok a => exact rest a
  | error e => trivial

theorem Asks.clock {next : Int64 → Call α} (rest : ∀ t, g.Asks kind (next t)) :
    g.Asks kind (Call.clock next) :=
  ⟨fun t _ => (rest t).sends, fun keys t _ => (rest t).reaches keys⟩

theorem Asks.orderNumber {time : Int64} {next : UInt32 → Call α} (rest : ∀ n, g.Asks kind (next n)) :
    g.Asks kind (Call.orderNumber time next) :=
  ⟨fun n => (rest n).sends, fun keys n => (rest n).reaches keys⟩

theorem Asks.ofApi {call : ApiCall α} (asks : g.Asks kind call.run) :
    g.Asks kind (Query.ofApi call).run :=
  asks.bind fun _ => trivial

/-! ### Books -/

/-- A request for the book of a market. -/
structure IsDepthOf (symbol : String) (r : Request) : Prop where
  method : r.method = "GET"
  path : r.path = Exchange.depthPath
  symbol : r.parameter? "symbol" = some symbol

theorem orderBook_asks (g : Gateway) (pair : String) :
    g.Asks (IsDepthOf (TradingPair.symbolOf pair)) (g.orderBook pair).run := by
  have asked : g.Asks (IsDepthOf (TradingPair.symbolOf pair))
      (g.client.depth (TradingPair.symbolOf pair)).run := by
    refine asks_call _ rfl fun request conveys => ⟨conveys.method, conveys.path, ?_⟩
    rw [Request.parameter?, conveys.query]
    rfl
  have converted : ∀ result : Except Fault BookSnapshot,
      (Query.ofExcept result >>= fun snapshot => pure (BookMessage.snapshot snapshot)).run.Sends
        (fun _ => True) (IsDepthOf (TradingPair.symbolOf pair)) fun _ => True := by
    intro result
    cases result <;> trivial
  exact asked.ofApi.bindT fun depth now _ => converted (BookSnapshot.ofDepth depth pair now)

/-! ### Orders -/

variable {order : OrderRequest} {body : Wire.NewOrder} {known : Wire.CancelOrder} {n : UInt32}
  {pair clientOrderId : String} {exchangeOrderId : Option String}

/-- A request of this method about the order that is known in this way, with the values in their place. -/
structure IsAbout (method : String) (value? : Request → String → Option String) (known : Wire.CancelOrder)
    (r : Request) : Prop where
  method : r.method = method
  path : r.path = Exchange.orderPath
  names : Request.Names known (value? r)

/-- A request to place an order that is known in this way. -/
abbrev IsPlacingOf : Wire.CancelOrder → Request → Prop := IsAbout "POST" Request.field?

/-- A request to cancel the order that is known in this way. -/
abbrev IsCancelOf : Wire.CancelOrder → Request → Prop := IsAbout "DELETE" Request.field?

/-- A request for the state of the order that is known in this way. -/
abbrev IsLookupOf : Wire.CancelOrder → Request → Prop := IsAbout "GET" Request.parameter?

/-- A request to cancel all orders of a market. -/
structure IsCancelAllOf (symbol : String) (r : Request) : Prop where
  method : r.method = "DELETE"
  path : r.path = Exchange.ordersPath
  symbol : r.field? "symbol" = some symbol

/-- A request for the fills of an order. -/
structure IsFillsOf (symbol orderId : String) (r : Request) : Prop where
  method : r.method = "GET"
  path : r.path = Exchange.fillsPath
  symbol : r.parameter? "symbol" = some symbol
  orderId : r.parameter? "orderId" = some orderId

theorem execute_asks (g : Gateway) (made : Wire.NewOrder.ofRequest order n = .ok body) :
    g.Asks (IsPlacingOf ⟨TradingPair.symbolOf order.tradingPair, none, some n⟩)
      (g.client.execute body).run := by
  have fields : body.symbol = TradingPair.symbolOf order.tradingPair ∧ body.clientId = some n := by
    cases sent : order.sentPrice with
    | error e =>
      rw [Wire.NewOrder.ofRequest, sent] at made
      cases made
    | ok price =>
      rw [Wire.NewOrder.ofRequest, sent] at made
      obtain rfl := Except.ok.inj made
      exact ⟨rfl, rfl⟩
  refine asks_call _ body.signs.signed fun request conveys => ⟨conveys.method, conveys.path, ?_⟩
  have value := Request.field?_of_conveys conveys rfl body.signs (by simp)
  constructor
  · rw [value, ← fields.1]
    rfl
  · rw [value]
    rfl
  · rw [value, ← fields.2]
    rfl

/-- An order is placed under a number. -/
def placing (g : Gateway) (order : OrderRequest) (now : Int64) (number : UInt32) : Query PlacedOrder := do
  let body ← .ofCheck (Wire.NewOrder.ofRequest order number)
  let placed ← .ofApi (g.client.execute body)
  return {
    clientOrderId := order.clientOrderId
    exchangeOrderId := placed.id
    state := OrderState.ofStatus placed.status
    timestampMs := (placed.createdAt.map Conversion.toEpochMs).getD now }

/-- No new number is taken for an order id that has one. -/
theorem placeOrder_eq (g : Gateway) (order : OrderRequest) :
    (g.placeOrder order).run = Call.clock fun now =>
      match ClientId.ofOrderId? order.clientOrderId with
      | some n => (g.placing order now n).run
      | none => Call.orderNumber now fun n => (g.placing order now n).run := by
  unfold placeOrder
  cases ClientId.ofOrderId? order.clientOrderId <;> rfl

theorem placing_asks (g : Gateway) (priced : ¬ order.LacksPrice) (now : Int64) (n : UInt32) :
    g.Asks (IsPlacingOf ⟨TradingPair.symbolOf order.tradingPair, none, some n⟩)
      (g.placing order now n).run := by
  obtain ⟨body, made⟩ : ∃ body, Wire.NewOrder.ofRequest order n = .ok body := by
    rw [Wire.NewOrder.ofRequest, OrderRequest.sentPrice_of_not_lacksPrice priced]
    exact ⟨_, rfl⟩
  rw [placing, made]
  exact (g.execute_asks made).ofApi.bindT fun _ => trivial

theorem placeOrder_asks_numbered (g : Gateway) (priced : ¬ order.LacksPrice)
    (numbered : ClientId.ofOrderId? order.clientOrderId = some n) :
    g.Asks (IsPlacingOf ⟨TradingPair.symbolOf order.tradingPair, none, some n⟩)
      (g.placeOrder order).run := by
  rw [placeOrder_eq, numbered]
  exact .clock fun now => g.placing_asks priced now n

/-- Whatever the order id, the order is placed in the market of its pair. -/
theorem placeOrder_asks (g : Gateway) (priced : ¬ order.LacksPrice) :
    g.Asks (fun r => ∃ n, IsPlacingOf ⟨TradingPair.symbolOf order.tradingPair, none, some n⟩ r)
      (g.placeOrder order).run := by
  have placed : ∀ now n, g.Asks
      (fun r => ∃ n, IsPlacingOf ⟨TradingPair.symbolOf order.tradingPair, none, some n⟩ r)
      (g.placing order now n).run := fun now n =>
    (g.placing_asks priced now n).imp fun _ placing => ⟨n, placing⟩
  rw [placeOrder_eq]
  refine .clock fun now => ?_
  cases ClientId.ofOrderId? order.clientOrderId with
  | some n => exact placed now n
  | none => exact .orderNumber (placed now)

theorem cancelAll_asks (g : Gateway) (pair : String) :
    g.Asks (IsCancelAllOf (TradingPair.symbolOf pair)) (g.cancelAll pair).run := by
  have asked : g.Asks (IsCancelAllOf (TradingPair.symbolOf pair))
      (g.client.cancelAll (TradingPair.symbolOf pair)).run := by
    -- The body is that of a request to cancel an order that is not named.
    have signs := (Wire.CancelOrder.mk (TradingPair.symbolOf pair) none none).signs
    refine asks_call _ signs.signed fun request conveys => ⟨conveys.method, conveys.path, ?_⟩
    exact Request.field?_of_conveys conveys rfl signs (by simp) "symbol"
  exact asked.ofApi.bindT fun _ => trivial

theorem tradeUpdates_asks (g : Gateway) (pair clientOrderId orderId : String) :
    g.Asks (IsFillsOf (TradingPair.symbolOf pair) orderId)
      (g.tradeUpdates pair clientOrderId orderId).run := by
  have asked : g.Asks (IsFillsOf (TradingPair.symbolOf pair) orderId)
      (g.client.fills (some (TradingPair.symbolOf pair)) (some orderId) none).run := by
    refine asks_call _ rfl fun request conveys => ?_
    have value := Request.parameter?_of_conveys conveys rfl (by simp)
    exact ⟨conveys.method, conveys.path, value "symbol", value "orderId"⟩
  exact asked.ofApi.bindT fun _ => trivial

theorem cancelOrder_asks (g : Gateway) (found : lookUp pair clientOrderId exchangeOrderId = .ok known) :
    g.Asks (IsCancelOf known) (g.cancelOrder pair clientOrderId exchangeOrderId).run := by
  have asked : g.Asks (IsCancelOf known) (g.client.cancel known).run := by
    refine asks_call _ known.signs.signed fun request conveys => ⟨conveys.method, conveys.path, ?_⟩
    have value := Request.field?_of_conveys conveys rfl known.signs (by simp)
    exact ⟨value "symbol", value "orderId", value "clientId"⟩
  unfold cancelOrder
  rw [found]
  refine Asks.ofApi (Asks.bind (asked.bindT fun _ => trivial) fun result => ?_)
  cases result with
  | ok canceled => trivial
  | error e => cases missing : e.isOrderNotFound <;> simp [missing] <;> trivial

theorem orderStatus_asks (g : Gateway) (found : lookUp pair clientOrderId exchangeOrderId = .ok known) :
    g.Asks (IsLookupOf known) (g.orderStatus pair clientOrderId exchangeOrderId).run := by
  have asked : g.Asks (IsLookupOf known) (g.client.order known).run := by
    refine asks_call _ rfl fun request conveys => ⟨conveys.method, conveys.path, ?_⟩
    have value := Request.parameter?_of_conveys conveys rfl (by simp)
    exact ⟨value "symbol", value "orderId", value "clientId"⟩
  unfold orderStatus
  rw [found]
  exact asked.ofApi.bindT fun _ _ _ => trivial

end Gateway

end MarketGateway
