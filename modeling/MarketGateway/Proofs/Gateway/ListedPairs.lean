import MarketGateway.Proofs.Gateway.Requests
import MarketGateway.Proofs.Gateway.TradingRules
import MarketGateway.Proofs.Json.ComesBack
import MarketGateway.Proofs.Market.TradingPair

/-!
# Listed pairs lead back to their markets

The pair of a market is made from its symbol, or from the names of its two assets. Where the names make the
symbol, everything that is asked about a listed pair is asked about the market that it was listed for; where
they do not, the pair leads to another market. Main statement: `listed_pairs_lead_back`.
-/

namespace MarketGateway

/-! ### Pairs of markets -/

namespace Wire.Market

/-- The pair is made from the names of the assets, and these do not make the symbol. -/
def IsMisnamed (market : Wire.Market) : Prop :=
  market.hasPerpetualSymbol = false ∧ ∃ base quote, market.baseSymbol = some base ∧
    market.quoteSymbol = some quote ∧
    market.symbol ≠ TradingPair.symbolOf base ++ "_" ++ TradingPair.symbolOf quote

theorem symbolOf_tradingPair_iff {market : Wire.Market} (plain : '-' ∉ market.symbol.toList) :
    TradingPair.symbolOf market.tradingPair = market.symbol ↔ ¬ market.IsMisnamed := by
  have back := TradingPair.symbolOf_ofSymbol plain
  unfold tradingPair IsMisnamed
  split
  · rename_i base quote given quoted
    cases perpetual : market.hasPerpetualSymbol with
    | true => simp [back]
    | false =>
      have joined : TradingPair.symbolOf (base ++ "-" ++ quote) =
          TradingPair.symbolOf base ++ "_" ++ TradingPair.symbolOf quote := by
        rw [TradingPair.symbolOf_append, TradingPair.symbolOf_append]
        rfl
      rw [if_neg Bool.false_ne_true, joined]
      constructor
      · rintro same ⟨-, _, _, base', quote', differ⟩
        obtain rfl := Option.some.inj (given.symm.trans base')
        obtain rfl := Option.some.inj (quoted.symm.trans quote')
        exact differ same.symm
      · intro named
        by_contra differ
        exact named ⟨rfl, base, quote, given, quoted, Ne.symm differ⟩
  · rename_i notBoth
    simp only [back, true_iff]
    rintro ⟨-, base, quote, given, quoted, -⟩
    exact notBoth base quote given quoted

end Wire.Market

namespace Gateway

open Call (Outside Record)

variable {pair symbol : String}

/-! ### What is asked about a pair -/

/-- Everything that is asked about the pair is asked about the market with the symbol. -/
structure Addresses (pair symbol : String) : Prop where
  book : ∀ g : Gateway, g.Makes (IsDepthOf symbol) (g.orderBook pair).run
  streams : ∀ g : Gateway, pair ∈ g.tradingPairs → ∀ channel ∈ channels g.kind, channel ++ symbol ∈ g.streams
  placed : ∀ (g : Gateway) (order : OrderRequest), order.tradingPair = pair → ¬ order.LacksPrice →
    g.Makes (fun r => ∃ n, IsPlacingOf ⟨symbol, none, some n⟩ r) (g.placeOrder order).run
  canceled : ∀ (g : Gateway) clientOrderId exchangeOrderId known,
    lookUp pair clientOrderId exchangeOrderId = .ok known → known.symbol = symbol ∧
      g.Makes (IsCancelOf known) (g.cancelOrder pair clientOrderId exchangeOrderId).run
  lookedUp : ∀ (g : Gateway) clientOrderId exchangeOrderId known,
    lookUp pair clientOrderId exchangeOrderId = .ok known → known.symbol = symbol ∧
      g.Makes (IsLookupOf known) (g.orderStatus pair clientOrderId exchangeOrderId).run
  allCanceled : ∀ g : Gateway, g.Makes (IsCancelAllOf symbol) (g.cancelAll pair).run
  fills : ∀ (g : Gateway) clientOrderId orderId,
    g.Makes (IsFillsOf symbol orderId) (g.tradeUpdates pair clientOrderId orderId).run

theorem symbol_of_lookUp {clientOrderId : String} {exchangeOrderId : Option String}
    {known : Wire.CancelOrder} (found : lookUp pair clientOrderId exchangeOrderId = .ok known) :
    known.symbol = TradingPair.symbolOf pair := by
  unfold lookUp at found
  dsimp only at found
  split at found
  · obtain rfl := Except.ok.inj found
    rfl
  · obtain rfl := Except.ok.inj found
    rfl
  · cases found

theorem addresses_symbolOf (pair : String) : Addresses pair (TradingPair.symbolOf pair) where
  book g := (g.orderBook_asks pair).makes
  streams g listed channel named := by
    refine List.mem_flatMap.mpr ⟨pair, listed, List.mem_map.mpr ⟨channel, named, rfl⟩⟩
  placed g order same priced := by
    subst same
    exact (g.placeOrder_asks priced).makes
  canceled g _ _ _ found := ⟨symbol_of_lookUp found, (g.cancelOrder_asks found).makes⟩
  lookedUp g _ _ _ found := ⟨symbol_of_lookUp found, (g.orderStatus_asks found).makes⟩
  allCanceled g := (g.cancelAll_asks pair).makes
  fills g clientOrderId orderId := (g.tradeUpdates_asks pair clientOrderId orderId).makes

/-! ### Listings -/

variable {o : Outside} {r : Record} {failures : Nat} {response : Response} {markets : List Wire.Market}

/-- The rules are those of traded markets, under the pairs of these markets. -/
theorem pair_of_mem_ofMarkets {kind : MarketKind} {rule : TradingRule}
    (member : rule ∈ TradingRule.ofMarkets markets kind) :
    ∃ market ∈ markets, market.isTradable kind = true ∧ rule.tradingPair = market.tradingPair := by
  obtain ⟨market, listed, made⟩ := List.mem_filterMap.mp member
  obtain ⟨listed, tradable⟩ := List.mem_filter.mp listed
  have converted : TradingRule.ofMarket market = .ok rule := by
    cases result : TradingRule.ofMarket market with
    | ok other =>
      rw [result] at made
      exact congrArg Except.ok (Option.some.inj made)
    | error fault =>
      rw [result] at made
      cases made
  exact ⟨market, listed, tradable, ((TradingRule.ofMarket_converts market).of_ok converted).pair⟩

/-- The pairs and the rules that a gateway lists are those of the markets that it trades. -/
theorem listed_of_answer (g : Gateway) (enough : failures ≤ g.client.options.maxRetries)
    (answered : g.client.AnsweredAfter marketsAsk o r failures response)
    (read : (Client.content response).bind (Client.decode (.list Wire.Market.read)) = .ok markets) :
    (g.listedPairs.run.run o r).1 =
        .ok ((markets.filter fun m => m.isTradable g.kind).map Wire.Market.tradingPair) ∧
      ∃ rules, (g.tradingRules.run.run o r).1 = .ok rules ∧ ∀ rule ∈ rules,
        ∃ market ∈ markets, market.isTradable g.kind = true ∧ rule.tradingPair = market.tradingPair := by
  have listed := g.markets_run
    (fun markets => (markets.filter fun m => m.isTradable g.kind).map Wire.Market.tradingPair) enough answered
  have rules := g.tradingRules_run enough answered
  rw [read] at listed rules
  exact ⟨listed, _, rules, fun rule => pair_of_mem_ofMarkets⟩

theorem addresses_of_named {market : Wire.Market} (plain : '-' ∉ market.symbol.toList)
    (named : ¬ market.IsMisnamed) : Addresses market.tradingPair market.symbol := by
  have addresses := addresses_symbolOf market.tradingPair
  rwa [(Wire.Market.symbolOf_tradingPair_iff plain).mpr named] at addresses

/-- A gateway lists the pairs of the markets that it trades. The pair of a market with no hyphen in its symbol
leads back to it, in every call, exactly if the market is not misnamed. -/
theorem listed_pairs_lead_back (g : Gateway) :
    (∀ o r failures response markets, failures ≤ g.client.options.maxRetries →
      g.client.AnsweredAfter marketsAsk o r failures response →
      (Client.content response).bind (Client.decode (.list Wire.Market.read)) = .ok markets →
      (g.listedPairs.run.run o r).1 =
          .ok ((markets.filter fun m => m.isTradable g.kind).map Wire.Market.tradingPair) ∧
        ∃ rules, (g.tradingRules.run.run o r).1 = .ok rules ∧ ∀ rule ∈ rules,
          ∃ market ∈ markets, market.isTradable g.kind = true ∧ rule.tradingPair = market.tradingPair) ∧
    ∀ market : Wire.Market, '-' ∉ market.symbol.toList →
      (TradingPair.symbolOf market.tradingPair = market.symbol ↔ ¬ market.IsMisnamed) ∧
        (¬ market.IsMisnamed → Addresses market.tradingPair market.symbol) := by
  constructor
  · intro o r failures response markets enough answered read
    exact g.listed_of_answer enough answered read
  · intro market plain
    exact ⟨Wire.Market.symbolOf_tradingPair_iff plain, addresses_of_named plain⟩

namespace ListedPairs

def perpetuals : Gateway := { Listing.gateway with kind := .perpetual }

def market (symbol : String) : Wire.Market := ⟨symbol, some "SOL", some "USDC", some "Open", none, some "PERP"⟩

/-- The last market has its mark in small letters. -/
def listing : List Wire.Market := [market "SOL_USDC_PERP", market "SOL_USDC", market "SOL_USDC_perp"]

def entries : List Json := listing.map Wire.Market.toJson

theorem toJson_readable (symbol : String) : Json.Readable 126 (market symbol).toJson := by
  apply Json.Readable.ofMembers
  · simp [Json.Distinct]
  · simp only [List.forall_mem_cons]
    exact ⟨.string _, .string _, .string _, .string _, .null, .string _, nofun⟩

theorem entries_readable : Json.Readable Json.Assembly.maxDepth (.array entries) := by
  refine .array fun entry member => ?_
  obtain ⟨market, listed, rfl⟩ := List.mem_map.mp member
  simp only [listing, List.mem_cons, List.not_mem_nil, or_false] at listed
  rcases listed with rfl | rfl | rfl <;> exact toJson_readable _

end ListedPairs

open ListedPairs Listing in
theorem listed_pairs_lead_back_perpetual :
    (perpetuals.listedPairs.run.run (server entries) .initial).1 =
        .ok ["SOL-USDC-PERP", "SOL-USDC", "SOL-USDC"] ∧
      Addresses "SOL-USDC-PERP" "SOL_USDC_PERP" ∧ Addresses "SOL-USDC" "SOL_USDC" := by
  have content : Client.content ⟨200, Json.render (.array entries)⟩ = .ok (.array entries) :=
    Client.content_of_list entries_readable (by decide)
  have read : (Client.content ⟨200, Json.render (.array entries)⟩).bind
      (Client.decode (.list Wire.Market.read)) = .ok listing := by
    rw [content]
    rfl
  obtain ⟨lists, back⟩ := listed_pairs_lead_back perpetuals
  obtain ⟨pairs, -⟩ := lists _ _ _ _ _ (by decide) (server_answers entries) read
  have first := back (market "SOL_USDC_PERP") (by decide)
  have second := back (market "SOL_USDC") (by decide)
  refine ⟨pairs, first.2 ?_, second.2 ?_⟩
  · exact first.1.mp (by decide)
  · exact second.1.mp (by decide)

open ListedPairs in
/-- A perpetual market whose mark is in small letters is traded under the pair of another market. -/
theorem perpetual_leads_to_other_market :
    (market "SOL_USDC_perp").isTradable .perpetual = true ∧ '-' ∉ (market "SOL_USDC_perp").symbol.toList ∧
      TradingPair.symbolOf (market "SOL_USDC_perp").tradingPair ≠ (market "SOL_USDC_perp").symbol ∧
      TradingPair.symbolOf (market "SOL_USDC_perp").tradingPair = (market "SOL_USDC").symbol := by
  decide

end Gateway

end MarketGateway
