import MarketGateway.Gateway.Calls
import MarketGateway.Proofs.Conversion.Rules
import MarketGateway.Proofs.Http.Answers
import MarketGateway.Proofs.Json.Readers

/-!
# The rules of a list of markets

A market that is not traded here, or whose filters cannot be read, has no rule, and the other markets of
the list have theirs. This holds for lists of markets: an entry that is no market at all refuses the
whole list. Main statement: `unfit_markets_are_skipped`.
-/

namespace MarketGateway.Gateway

open Call (Outside Record)

variable {o : Outside} {r : Record} {failures : Nat} {response : Response} {entries : List Json}

def marketsAsk : Ask := ⟨"GET", Exchange.marketsPath, [], none, false⟩

/-- What comes of a list of markets. -/
structure RulesOf (kind : MarketKind) (entries : List Json) (result : Except Fault (List TradingRule)) :
    Prop where
  /-- Every entry has the rule that it would have by itself. -/
  rules : (∀ entry ∈ entries, ∃ market, Wire.Market.read entry = .ok market) →
    result = .ok (entries.filterMap (TradingRule.ofJson? kind))
  refused : ∀ before entry after e, entries = before ++ entry :: after →
    (∀ earlier ∈ before, ∃ market, Wire.Market.read earlier = .ok market) →
    Wire.Market.read entry = .error e → result = .error (.error (.unreadable (.value e)))

/-- What is made of the markets comes from the one response that the exchange gives. -/
theorem markets_run {α : Type} (g : Gateway) (f : List Wire.Market → α)
    (enough : failures ≤ g.client.options.maxRetries)
    (answered : g.client.AnsweredAfter marketsAsk o r failures response) :
    (((do return f (← .ofApi g.client.markets)) : Query α).run.run o r).1 =
      (((Client.content response).bind (Client.decode (.list Wire.Market.read))).mapError .error).map f := by
  have performed : (g.client.perform marketsAsk).run.run o r =
      (Client.content response, ((g.client.perform marketsAsk).run.run o r).2) :=
    Prod.ext (Client.perform_answered rfl enough answered) rfl
  have called : (g.client.markets.run.run o r).1 =
      (Client.content response).bind (Client.decode (.list Wire.Market.read)) :=
    congrArg Prod.fst (Client.call_run _ performed)
  have query : ((do return f (← .ofApi g.client.markets)) : Query α).run =
      (g.client.markets.run.bind fun result => .done (result.mapError .error)).bind
        (ExceptT.bindCont fun markets => pure (f markets)) := rfl
  rw [query, Call.run_bind, Call.run_bind, Call.run, called]
  cases (Client.content response).bind (Client.decode (.list Wire.Market.read)) <;> rfl

theorem tradingRules_run (g : Gateway) (enough : failures ≤ g.client.options.maxRetries)
    (answered : g.client.AnsweredAfter marketsAsk o r failures response) :
    (g.tradingRules.run.run o r).1 =
      (((Client.content response).bind (Client.decode (.list Wire.Market.read))).mapError .error).map
        fun markets => TradingRule.ofMarkets markets g.kind :=
  g.markets_run (fun markets => TradingRule.ofMarkets markets g.kind) enough answered

theorem rulesOf_decode (kind : MarketKind) (entries : List Json) :
    RulesOf kind entries
      (((Client.decode (.list Wire.Market.read) (.array entries)).mapError .error).map
        fun markets => TradingRule.ofMarkets markets kind) := by
  constructor
  · intro readable
    have items := Json.Reader.items_of_readable readable
    rw [Client.decode, Json.Reader.list, items, ← TradingRule.ofMarkets_eq_filterMap]
    rfl
  · rintro before entry after e rfl readable unreadable
    have items : Json.Reader.items Wire.Market.read (before ++ entry :: after) = .error e :=
      Json.Reader.items_of_unreadable readable unreadable
    rw [Client.decode, Json.Reader.list, items]
    rfl

theorem unfit_markets_are_skipped (g : Gateway) (enough : failures ≤ g.client.options.maxRetries)
    (answered : g.client.AnsweredAfter marketsAsk o r failures response)
    (listed : Client.content response = .ok (.array entries)) :
    RulesOf g.kind entries (g.tradingRules.run.run o r).1 ∧
      ∀ entry,
        ((∃ rule, TradingRule.ofJson? g.kind entry = some rule) ↔
          ∃ market, Wire.Market.read entry = .ok market ∧ market.isTradable g.kind = true ∧
            market.HasReadableFilters) ∧
        ∀ rule, TradingRule.ofJson? g.kind entry = some rule →
          ∃ market, Wire.Market.read entry = .ok market ∧ TradingRule.OfMarket market rule := by
  rw [tradingRules_run g enough answered, listed]
  refine ⟨rulesOf_decode g.kind entries, fun entry => ⟨?_, fun rule made => ?_⟩⟩
  · exact TradingRule.ofJson?_exists_iff g.kind entry
  · exact TradingRule.ofJson?_ofMarket made

/-! ### Lists of markets -/

namespace Listing

def gateway : Gateway where
  client := ⟨.ofServer Exchange.restUrl Exchange.name, none, true⟩
  streamUrl := Exchange.streamUrl
  tradingPairs := ["SOL-USDC"]
  kind := .spot
  options := .default
  credentials := none

def entry (symbol status tick : String) : Json :=
  .object [("filters", .object [("price", .object [("tickSize", .string tick)])]),
    ("status", .string status), ("symbol", .string symbol)]

theorem entry_readable (symbol status tick : String) (depth : Nat) :
    Json.Readable (depth + 3) (entry symbol status tick) := by
  have price : Json.Readable (depth + 1) (.object [("tickSize", .string tick)]) :=
    .object (List.pairwise_singleton ..) (List.forall_mem_singleton.mpr (.string tick))
  have filters : Json.Readable (depth + 2) (.object [("price", .object [("tickSize", .string tick)])]) :=
    .object (List.pairwise_singleton ..) (List.forall_mem_singleton.mpr price)
  have first : "filters" < "status" := by decide
  have second : "filters" < "symbol" := by decide
  have third : "status" < "symbol" := by decide
  apply Json.Readable.object
  · refine List.pairwise_cons.mpr ⟨?_, List.pairwise_cons.mpr ⟨?_, List.pairwise_singleton ..⟩⟩
    · exact List.forall_mem_cons.mpr ⟨first, List.forall_mem_singleton.mpr second⟩
    · exact List.forall_mem_singleton.mpr third
  · intro member listed
    rcases List.mem_cons.mp listed with rfl | listed
    · exact filters
    · rcases List.mem_pair.mp listed with rfl | rfl
      · exact .string status
      · exact .string symbol

/-- A server that answers the second request. -/
def server (items : List Json) : Outside where
  clock _ := 0
  answer requests :=
    if requests.length = 2 then .ok ⟨200, Json.render (.array items)⟩ else .error .request

/-- A market of the other kind, one that is closed and one whose filters cannot be read, between two
that are traded. -/
def listing : List Json :=
  [entry "SOL_USDC" "Open" "0.010", entry "SOL_USDC_PERP" "Open" "0.01", entry "A_USDC" "closed" "0.01",
    entry "B_USDC" "online" "cheap", entry "BTC_USDC" "Online" "0.1"]

theorem listing_readable : ∀ entry ∈ listing, Json.Readable 126 entry := by
  simp only [listing, List.forall_mem_cons, entry_readable, List.not_mem_nil, false_implies, implies_true,
    and_self]

/-- Pairs and price steps of some rules. -/
def steps (rules : List TradingRule) : List (String × String) :=
  rules.map fun rule => (rule.tradingPair, rule.minPriceIncrement.toText)

theorem server_answers (items : List Json) :
    gateway.client.AnsweredAfter marketsAsk (server items) .initial 1 ⟨200, Json.render (.array items)⟩ := by
  constructor
  · intro n few
    obtain rfl : n = 0 := by omega
    exact ⟨.request, rfl⟩
  · rfl

end Listing

open Listing in
theorem unfit_markets_are_skipped_mixed :
    ∃ rules, (gateway.tradingRules.run.run (server listing) .initial).1 = .ok rules ∧
      steps rules = [("SOL-USDC", "0.010"), ("BTC-USDC", "0.1")] ∧
      RulesOf .spot listing (gateway.tradingRules.run.run (server listing) .initial).1 := by
  have listed : Client.content ⟨200, Json.render (.array listing)⟩ = .ok (.array listing) :=
    Client.content_of_list (.array listing_readable) (by decide)
  obtain ⟨rulesOf, -⟩ := unfit_markets_are_skipped gateway (by decide) (server_answers listing) listed
  have readable : ∀ entry ∈ listing, ∃ market, Wire.Market.read entry = .ok market := by
    simp only [listing, List.forall_mem_cons, List.not_mem_nil, false_implies, implies_true, and_true]
    exact ⟨⟨_, rfl⟩, ⟨_, rfl⟩, ⟨_, rfl⟩, ⟨_, rfl⟩, ⟨_, rfl⟩⟩
  refine ⟨_, rulesOf.rules readable, ?_, rulesOf⟩
  decide +kernel

open Listing in
/-- One entry that is no market costs a good one its rule. -/
theorem bad_entry_costs_all :
    (∃ rule, TradingRule.ofJson? .spot (entry "SOL_USDC" "Open" "0.010") = some rule) ∧
      ∀ rules, (gateway.tradingRules.run.run (server
        [entry "SOL_USDC" "Open" "0.010", .object []]) .initial).1 ≠ .ok rules := by
  have good : (TradingRule.ofJson? .spot (entry "SOL_USDC" "Open" "0.010")).isSome = true := by
    decide +kernel
  have refused : ((gateway.tradingRules.run.run (server
      [entry "SOL_USDC" "Open" "0.010", .object []]) .initial).1).isOk = false := by
    decide +kernel
  refine ⟨Option.isSome_iff_exists.mp good, fun rules made => ?_⟩
  rw [made] at refused
  cases refused

end MarketGateway.Gateway
