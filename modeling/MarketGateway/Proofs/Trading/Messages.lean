import MarketGateway.Market.Rule
import MarketGateway.Market.TradingPair
import MarketGateway.Proofs.Decimal.Notation
import MarketGateway.Proofs.Json.ComesBack
import MarketGateway.Trading.Account

/-!
# Messages in JSON

Every message of the market and of an account comes back from its JSON text with all its decimals, in
whatever order the members of objects are written: `messages_survive_json`.
-/

namespace MarketGateway

open Json (ComesBack Fits Reader Schema)

variable {depth : Nat}

/-! ### Parts -/

theorem Json.ComesBack.decimalText {d : Decimal} (plain : d.HasPlainZero) :
    ComesBack depth .decimalText (.decimal d) d where
  readable := .string _
  reads := by
    show (Decimal.ofText d.toText).mapError _ = .ok d
    rw [Decimal.ofText_toText plain]
    rfl

theorem Json.ComesBack.decimal {d : Decimal} (plain : d.HasPlainZero) :
    ComesBack depth .decimal (.decimal d) d := by
  obtain ⟨readable, reads⟩ : ComesBack depth .decimalText (.decimal d) d := .decimalText plain
  exact ⟨readable, reads⟩

theorem TradingPair.comesBack (p : TradingPair) :
    ComesBack (depth + 1) read p.toJson p := by
  obtain ⟨base, quote⟩ := p
  refine Fits.comesBack ?_ (by decide) rfl
  exact .seq (.map mk
    (.required rfl (.text base)))
    (.required rfl (.text quote))

/-! ### Order books -/

def BookRow.decimals (r : BookRow) : List Decimal := [r.price, r.quantity]

theorem BookRow.comesBack (r : BookRow) (plain : ∀ d ∈ r.decimals, d.HasPlainZero) :
    ComesBack (depth + 1) read r.toJson r := by
  obtain ⟨price, quantity, updateId⟩ := r
  simp only [decimals, List.forall_mem_cons] at plain
  obtain ⟨plainPrice, plainQuantity, -⟩ := plain
  refine Fits.comesBack ?_ (by decide) rfl
  exact .seq (.seq (.map mk
    (.required rfl (.decimalText plainPrice)))
    (.required rfl (.decimalText plainQuantity)))
    (.required rfl (.int64 updateId))

theorem BookRow.list_comesBack {rows : List BookRow}
    (plain : ∀ d ∈ rows.flatMap decimals, d.HasPlainZero) :
    ComesBack (depth + 2) (.list read) (.array (rows.map toJson)) rows :=
  .list fun r listed => r.comesBack fun d has => plain d (List.mem_flatMap.mpr ⟨r, listed, has⟩)

def BookSnapshot.decimals (s : BookSnapshot) : List Decimal := (s.bids ++ s.asks).flatMap BookRow.decimals

theorem BookSnapshot.comesBack (s : BookSnapshot) (plain : ∀ d ∈ s.decimals, d.HasPlainZero) :
    ComesBack (depth + 3) read s.toJson s := by
  obtain ⟨tradingPair, bids, asks, updateId, timestampMs⟩ := s
  simp only [decimals, List.flatMap_append, List.forall_mem_append] at plain
  obtain ⟨plainBids, plainAsks⟩ := plain
  refine Fits.comesBack ?_ (by decide) rfl
  exact .seq (.seq (.seq (.seq (.map mk
    (.required rfl (.text tradingPair)))
    (.required rfl (BookRow.list_comesBack plainBids)))
    (.required rfl (BookRow.list_comesBack plainAsks)))
    (.required rfl (.int64 updateId)))
    (.required rfl (.int64 timestampMs))

def BookDiff.decimals (d : BookDiff) : List Decimal := (d.bids ++ d.asks).flatMap BookRow.decimals

theorem BookDiff.comesBack (b : BookDiff) (plain : ∀ d ∈ b.decimals, d.HasPlainZero) :
    ComesBack (depth + 3) read b.toJson b := by
  obtain ⟨tradingPair, bids, asks, updateId, firstUpdateId, timestampMs⟩ := b
  simp only [decimals, List.flatMap_append, List.forall_mem_append] at plain
  obtain ⟨plainBids, plainAsks⟩ := plain
  refine Fits.comesBack ?_ (by decide) rfl
  exact .seq (.seq (.seq (.seq (.seq (.map mk
    (.required rfl (.text tradingPair)))
    (.required rfl (BookRow.list_comesBack plainBids)))
    (.required rfl (BookRow.list_comesBack plainAsks)))
    (.required rfl (.int64 updateId)))
    (.required rfl (.int64 firstUpdateId)))
    (.required rfl (.int64 timestampMs))

theorem Side.comesBack (s : Side) : ComesBack depth read s.toJson s := by
  cases s <;> exact .unit rfl

def PublicTrade.decimals (t : PublicTrade) : List Decimal := [t.price, t.amount]

theorem PublicTrade.comesBack (t : PublicTrade) (plain : ∀ d ∈ t.decimals, d.HasPlainZero) :
    ComesBack (depth + 1) read t.toJson t := by
  obtain ⟨tradingPair, side, tradeId, price, amount, timestampMs⟩ := t
  simp only [decimals, List.forall_mem_cons] at plain
  obtain ⟨plainPrice, plainAmount, -⟩ := plain
  refine Fits.comesBack ?_ (by decide) rfl
  exact .seq (.seq (.seq (.seq (.seq (.map mk
    (.required rfl (.text tradingPair)))
    (.required rfl side.comesBack))
    (.required rfl (.int64 tradeId)))
    (.required rfl (.decimalText plainPrice)))
    (.required rfl (.decimalText plainAmount)))
    (.required rfl (.int64 timestampMs))

def BookMessage.decimals : BookMessage → List Decimal
  | .snapshot s => s.decimals
  | .diff d => d.decimals
  | .trade t => t.decimals

theorem BookMessage.comesBack (m : BookMessage) (plain : ∀ d ∈ m.decimals, d.HasPlainZero) :
    ComesBack (depth + 4) read m.toJson m := by
  cases m with
  | snapshot s => exact .holding rfl (s.comesBack plain)
  | diff b => exact .holding rfl (b.comesBack plain)
  | trade t => exact .holding rfl (t.comesBack plain)

/-! ### Orders -/

theorem OrderType.comesBack (t : OrderType) : ComesBack depth read t.toJson t := by
  cases t <;> exact .unit rfl

theorem TimeInForce.comesBack (t : TimeInForce) : ComesBack depth read t.toJson t := by
  cases t <;> exact .unit rfl

theorem OrderState.comesBack (s : OrderState) : ComesBack depth read s.toJson s := by
  cases s <;> exact .unit rfl

def OrderRequest.decimals (r : OrderRequest) : List Decimal := r.amount :: r.price.toList

theorem OrderRequest.comesBack (r : OrderRequest) (plain : ∀ d ∈ r.decimals, d.HasPlainZero) :
    ComesBack (depth + 1) read r.toJson r := by
  obtain ⟨clientOrderId, tradingPair, side, orderType, amount, price, timeInForce⟩ := r
  obtain ⟨plainAmount, plainPrice⟩ := List.forall_mem_cons.mp plain
  refine Fits.comesBack ?_ (by decide) rfl
  exact .seq (.seq (.seq (.seq (.seq (.seq (.map mk
    (.required rfl (.text clientOrderId)))
    (.required rfl (.text tradingPair)))
    (.required rfl side.comesBack))
    (.required rfl orderType.comesBack))
    (.required rfl (.decimalText plainAmount)))
    (.optional rfl (fun d same => .decimalText (plainPrice d (Option.mem_toList.mpr same))) nofun))
    (.optional rfl (fun t _ => t.comesBack) nofun)

theorem PlacedOrder.comesBack (o : PlacedOrder) :
    ComesBack (depth + 1) read o.toJson o := by
  obtain ⟨clientOrderId, exchangeOrderId, state, timestampMs⟩ := o
  refine Fits.comesBack ?_ (by decide) rfl
  exact .seq (.seq (.seq (.map mk
    (.required rfl (.text clientOrderId)))
    (.required rfl (.text exchangeOrderId)))
    (.required rfl state.comesBack))
    (.required rfl (.int64 timestampMs))

theorem OrderUpdate.comesBack (u : OrderUpdate) :
    ComesBack (depth + 1) read u.toJson u := by
  obtain ⟨tradingPair, updateTimestampMs, newState, clientOrderId, exchangeOrderId⟩ := u
  refine Fits.comesBack ?_ (by decide) rfl
  exact .seq (.seq (.seq (.seq (.map mk
    (.required rfl (.text tradingPair)))
    (.required rfl (.int64 updateTimestampMs)))
    (.required rfl newState.comesBack))
    (.optional rfl (fun s _ => .text s) nofun))
    (.optional rfl (fun s _ => .text s) nofun)

/-! ### Accounts -/

def TradeFee.decimals (f : TradeFee) : List Decimal := [f.amount]

theorem TradeFee.comesBack (f : TradeFee) (plain : ∀ d ∈ f.decimals, d.HasPlainZero) :
    ComesBack (depth + 1) read f.toJson f := by
  obtain ⟨asset, amount⟩ := f
  simp only [decimals, List.forall_mem_cons] at plain
  obtain ⟨plainAmount, -⟩ := plain
  refine Fits.comesBack ?_ (by decide) rfl
  exact .seq (.map mk
    (.optional rfl (fun s _ => .text s) nofun))
    (.required rfl (.decimal plainAmount))

def TradeUpdate.decimals (t : TradeUpdate) : List Decimal :=
  t.fillPrice :: t.fillBaseAmount :: t.fillQuoteAmount :: t.fee.decimals

theorem TradeUpdate.comesBack (t : TradeUpdate) (plain : ∀ d ∈ t.decimals, d.HasPlainZero) :
    ComesBack (depth + 2) read t.toJson t := by
  obtain ⟨tradeId, clientOrderId, exchangeOrderId, tradingPair, fillTimestampMs, fillPrice,
    fillBaseAmount, fillQuoteAmount, fee⟩ := t
  simp only [decimals, List.forall_mem_cons] at plain
  obtain ⟨plainPrice, plainBase, plainQuote, plainFee⟩ := plain
  refine Fits.comesBack ?_ (by decide) rfl
  exact .seq (.seq (.seq (.seq (.seq (.seq (.seq (.seq (.map mk
    (.required rfl (.text tradeId)))
    (.optional rfl (fun s _ => .text s) nofun))
    (.required rfl (.text exchangeOrderId)))
    (.required rfl (.text tradingPair)))
    (.required rfl (.int64 fillTimestampMs)))
    (.required rfl (.decimalText plainPrice)))
    (.required rfl (.decimalText plainBase)))
    (.required rfl (.decimal plainQuote)))
    (.required rfl (fee.comesBack plainFee))

def UserEvent.decimals : UserEvent → List Decimal
  | .order _ => []
  | .trade t => t.decimals

theorem UserEvent.comesBack (e : UserEvent) (plain : ∀ d ∈ e.decimals, d.HasPlainZero) :
    ComesBack (depth + 3) read e.toJson e := by
  cases e with
  | order u => exact .holding rfl u.comesBack
  | trade t => exact .holding rfl (t.comesBack plain)

def Balance.decimals (b : Balance) : List Decimal := [b.available, b.locked, b.total]

theorem Balance.comesBack (b : Balance) (plain : ∀ d ∈ b.decimals, d.HasPlainZero) :
    ComesBack (depth + 1) read b.toJson b := by
  obtain ⟨asset, available, locked, total⟩ := b
  simp only [decimals, List.forall_mem_cons] at plain
  obtain ⟨plainAvailable, plainLocked, plainTotal, -⟩ := plain
  refine Fits.comesBack ?_ (by decide) rfl
  exact .seq (.seq (.seq (.map mk
    (.required rfl (.text asset)))
    (.required rfl (.decimal plainAvailable)))
    (.required rfl (.decimal plainLocked)))
    (.required rfl (.decimal plainTotal))

/-! ### Markets -/

def TradingRule.decimals (r : TradingRule) : List Decimal :=
  [r.minOrderSize, r.maxOrderSize, r.minPriceIncrement, r.minBaseAmountIncrement,
    r.minQuoteAmountIncrement, r.minNotionalSize]

theorem TradingRule.comesBack (r : TradingRule) (plain : ∀ d ∈ r.decimals, d.HasPlainZero) :
    ComesBack (depth + 1) read r.toJson r := by
  obtain ⟨tradingPair, minSize, maxSize, minPrice, minBase, minQuote, minNotional, limit, market⟩ := r
  simp only [decimals, List.forall_mem_cons] at plain
  obtain ⟨plainMin, plainMax, plainPrice, plainBase, plainQuote, plainNotional, -⟩ := plain
  refine Fits.comesBack ?_ (by decide) rfl
  exact .seq (.seq (.seq (.seq (.seq (.seq (.seq (.seq (.map mk
    (.required rfl (.text tradingPair)))
    (.required rfl (.decimal plainMin)))
    (.required rfl (.decimal plainMax)))
    (.required rfl (.decimal plainPrice)))
    (.required rfl (.decimal plainBase)))
    (.required rfl (.decimal plainQuote)))
    (.required rfl (.decimal plainNotional)))
    (.required rfl (.bool limit)))
    (.required rfl (.bool market))

def FundingInfo.decimals (f : FundingInfo) : List Decimal := [f.indexPrice, f.markPrice, f.rate]

theorem FundingInfo.comesBack (f : FundingInfo) (plain : ∀ d ∈ f.decimals, d.HasPlainZero) :
    ComesBack (depth + 1) read f.toJson f := by
  obtain ⟨tradingPair, indexPrice, markPrice, nextFundingTimestampMs, rate⟩ := f
  simp only [decimals, List.forall_mem_cons] at plain
  obtain ⟨plainIndex, plainMark, plainRate, -⟩ := plain
  refine Fits.comesBack ?_ (by decide) rfl
  exact .seq (.seq (.seq (.seq (.map mk
    (.required rfl (.text tradingPair)))
    (.required rfl (.decimalText plainIndex)))
    (.required rfl (.decimalText plainMark)))
    (.required rfl (.int64 nextFundingTimestampMs)))
    (.required rfl (.decimal plainRate))

/-! ### Texts -/

/-- Values without signed zeros are read back from their texts, in whatever order members are written. -/
def Survives {α : Type} (write : α → Json) (read : Reader α) (decimals : α → List Decimal) : Prop :=
  ∀ a, (∀ d ∈ decimals a, d.HasPlainZero) → ∀ written, Json.Reordered written (write a) →
    ∃ value, Json.parse? written.render = some value ∧ read value = .ok a

theorem survives_of_comesBack {α : Type} {write : α → Json} {read : Reader α}
    {decimals : α → List Decimal} (back : ∀ a, (∀ d ∈ decimals a, d.HasPlainZero) →
      ComesBack Json.Assembly.maxDepth read (write a) a) : Survives write read decimals :=
  fun a plain _ reordered => (back a plain).parse? reordered

theorem messages_survive_json :
    Survives TradingPair.toJson TradingPair.read (fun _ => []) ∧
    Survives Json.decimal .decimalText (fun price => [price]) ∧
    Survives Json.decimal .decimal (fun amount => [amount]) ∧
    Survives BookRow.toJson BookRow.read BookRow.decimals ∧
    Survives BookSnapshot.toJson BookSnapshot.read BookSnapshot.decimals ∧
    Survives BookDiff.toJson BookDiff.read BookDiff.decimals ∧
    Survives Side.toJson Side.read (fun _ => []) ∧
    Survives PublicTrade.toJson PublicTrade.read PublicTrade.decimals ∧
    Survives BookMessage.toJson BookMessage.read BookMessage.decimals ∧
    Survives OrderType.toJson OrderType.read (fun _ => []) ∧
    Survives TimeInForce.toJson TimeInForce.read (fun _ => []) ∧
    Survives OrderState.toJson OrderState.read (fun _ => []) ∧
    Survives OrderRequest.toJson OrderRequest.read OrderRequest.decimals ∧
    Survives PlacedOrder.toJson PlacedOrder.read (fun _ => []) ∧
    Survives OrderUpdate.toJson OrderUpdate.read (fun _ => []) ∧
    Survives TradeFee.toJson TradeFee.read TradeFee.decimals ∧
    Survives TradeUpdate.toJson TradeUpdate.read TradeUpdate.decimals ∧
    Survives UserEvent.toJson UserEvent.read UserEvent.decimals ∧
    Survives TradingRule.toJson TradingRule.read TradingRule.decimals ∧
    Survives Balance.toJson Balance.read Balance.decimals ∧
    Survives FundingInfo.toJson FundingInfo.read FundingInfo.decimals := by
  refine ⟨?_, ?_, ?_, ?_, ?_, ?_, ?_, ?_, ?_, ?_, ?_, ?_, ?_, ?_, ?_, ?_, ?_, ?_, ?_, ?_, ?_⟩
  · exact survives_of_comesBack fun p _ => p.comesBack
  · exact survives_of_comesBack fun d plain => .decimalText (plain d (List.mem_singleton_self d))
  · exact survives_of_comesBack fun d plain => .decimal (plain d (List.mem_singleton_self d))
  · exact survives_of_comesBack BookRow.comesBack
  · exact survives_of_comesBack BookSnapshot.comesBack
  · exact survives_of_comesBack BookDiff.comesBack
  · exact survives_of_comesBack fun s _ => s.comesBack
  · exact survives_of_comesBack PublicTrade.comesBack
  · exact survives_of_comesBack BookMessage.comesBack
  · exact survives_of_comesBack fun t _ => t.comesBack
  · exact survives_of_comesBack fun t _ => t.comesBack
  · exact survives_of_comesBack fun s _ => s.comesBack
  · exact survives_of_comesBack OrderRequest.comesBack
  · exact survives_of_comesBack fun o _ => o.comesBack
  · exact survives_of_comesBack fun u _ => u.comesBack
  · exact survives_of_comesBack TradeFee.comesBack
  · exact survives_of_comesBack TradeUpdate.comesBack
  · exact survives_of_comesBack UserEvent.comesBack
  · exact survives_of_comesBack TradingRule.comesBack
  · exact survives_of_comesBack Balance.comesBack
  · exact survives_of_comesBack FundingInfo.comesBack

private def extremeTrade : PublicTrade where
  tradingPair := "\"A\\B\"\n\x01-é"
  side := .sell
  tradeId := -9223372036854775808
  price := ⟨⟨79228162514264337593543950335, 28, by decide, by decide⟩, true⟩
  amount := ⟨⟨0, 28, Magnitude.zero_lt, by decide⟩, false⟩
  timestampMs := 9223372036854775807

/-- The members in the order of the fields. -/
private def extremeMembers : List (String × Json) :=
  [("trading_pair", .string extremeTrade.tradingPair), ("trade_type", .string "Sell"),
    ("trade_id", .int64 extremeTrade.tradeId), ("price", .decimal extremeTrade.price),
    ("amount", .decimal extremeTrade.amount), ("timestamp_ms", .int64 extremeTrade.timestampMs)]

set_option maxRecDepth 20000 in
theorem extreme_messages_survive_json :
    (∀ d ∈ extremeTrade.decimals, d.HasPlainZero) ∧
      (Json.object extremeMembers).render =
        "\x7b\"trading_pair\":\"\\\"A\\\\B\\\"\\n\\u0001-é\",\"trade_type\":\"Sell\"," ++
          "\"trade_id\":-9223372036854775808,\"price\":\"-7.9228162514264337593543950335\"," ++
          "\"amount\":\"0.0000000000000000000000000000\",\"timestamp_ms\":9223372036854775807\x7d" ∧
      ∃ value, Json.parse? (Json.object extremeMembers).render = some value ∧
        PublicTrade.read value = .ok extremeTrade := by
  have plain : ∀ d ∈ extremeTrade.decimals, d.HasPlainZero := by
    simp [PublicTrade.decimals, extremeTrade, Decimal.HasPlainZero]
  have distinct : Json.Distinct extremeMembers := by
    simp [Json.Distinct, extremeMembers]
  obtain ⟨-, -, -, -, -, -, -, survives, -⟩ := messages_survive_json
  exact ⟨plain, rfl, survives extremeTrade plain _ (.ofMembers distinct)⟩

end MarketGateway
