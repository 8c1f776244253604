import MarketGateway.Proofs.Conversion.Funding
import MarketGateway.Proofs.Conversion.Rows
import MarketGateway.Proofs.Feed.Delivery
import MarketGateway.Proofs.Market.TradingPair

/-!
# Market data

What the readers of the public feed get, over any number of connections: the book differences, trades
and funding updates of the frames that were read, in their order, none lost and none twice. Main
statement: `market_data_is_delivered`.
-/

namespace MarketGateway.PublicFeed

open Feed

variable {g : Gateway} {f next : PublicFeed} {e : Event} {messages : List StreamMessage}

/-! ### Conversions -/

/-- The message that a depth event becomes, if its levels can be read. -/
def diffOf? (event : Wire.DepthEvent) : Option BookMessage :=
  (BookDiff.ofEvent event (TradingPair.ofSymbol event.symbol)).toOption.map .diff

def tradeOf? (event : Wire.TradeEvent) : Option BookMessage :=
  (PublicTrade.ofEvent event (TradingPair.ofSymbol event.symbol)).toOption.map .trade

def fundingOf? (event : Wire.MarkPriceEvent) : Option FundingInfo :=
  (FundingInfo.ofEvent event).toOption

theorem diffsOf_depth (stream : String) (event : Wire.DepthEvent) :
    BookMessage.diffsOf (.depth stream event) = .ok (diffOf? event).toList := by
  unfold BookMessage.diffsOf diffOf?
  dsimp only
  cases made : BookDiff.ofEvent event (TradingPair.ofSymbol event.symbol) with
  | ok diff => rfl
  | error fault =>
    obtain ⟨error, rfl⟩ := (made ▸ BookDiff.ofEvent_converts event _).of_error
    rfl

theorem tradesOf_trade (stream : String) (event : Wire.TradeEvent) :
    BookMessage.tradesOf (.trade stream event) = .ok (tradeOf? event).toList := by
  unfold BookMessage.tradesOf tradeOf?
  dsimp only
  cases made : PublicTrade.ofEvent event (TradingPair.ofSymbol event.symbol) with
  | ok trade => rfl
  | error fault =>
    obtain ⟨error, rfl⟩ := (made ▸ PublicTrade.ofEvent_converts event _).of_error
    rfl

theorem updatesOf_markPrice (stream : String) (event : Wire.MarkPriceEvent) :
    FundingInfo.updatesOf (.markPrice stream event) = .ok (fundingOf? event).toList := by
  unfold FundingInfo.updatesOf fundingOf?
  dsimp only
  cases made : FundingInfo.ofEvent event with
  | ok info => rfl
  | error fault =>
    obtain ⟨error, rfl⟩ := (made ▸ FundingInfo.ofEvent_converts event).of_error
    rfl

theorem diffsOf_isTotal : IsTotal BookMessage.diffsOf := by
  intro message
  cases message with
  | depth stream event => simp only [resultsOf, diffsOf_depth]
  | _ => rfl

theorem tradesOf_isTotal : IsTotal BookMessage.tradesOf := by
  intro message
  cases message with
  | trade stream event => simp only [resultsOf, tradesOf_trade]
  | _ => rfl

theorem updatesOf_isTotal : IsTotal FundingInfo.updatesOf := by
  intro message
  cases message with
  | markPrice stream event => simp only [resultsOf, updatesOf_markPrice]
  | _ => rfl

/-! ### Steps -/

theorem channels_separate (kind : MarketKind) : Router.Separate (Gateway.channels kind) := by
  have apart : ∀ a b : String, a.toList.head? ≠ b.toList.head? → a.toList ≠ [] → b.toList ≠ [] →
      ∀ channel, Text.startsWith channel a = true → Text.startsWith channel b = false := by
    intro a b different someA someB channel begins
    by_contra also
    obtain ⟨restA, splitA⟩ := List.isPrefixOf_iff_prefix.mp begins
    obtain ⟨restB, splitB⟩ := List.isPrefixOf_iff_prefix.mp (Bool.of_not_eq_false also)
    have same := congrArg List.head? (splitA.trans splitB.symm)
    rw [List.head?_append_of_ne_nil _ someA, List.head?_append_of_ne_nil _ someB] at same
    exact different same
  cases kind <;> simp only [Gateway.channels, Router.Separate, List.pairwise_cons, List.mem_cons,
    List.not_mem_nil, or_false, forall_eq_or_imp, forall_eq, and_true, List.Pairwise.nil,
    IsEmpty.forall_iff, implies_true]
  · exact apart _ _ (by decide) (by decide) (by decide)
  · exact ⟨⟨apart _ _ (by decide) (by decide) (by decide), apart _ _ (by decide) (by decide) (by decide)⟩,
      apart _ _ (by decide) (by decide) (by decide)⟩

/-- Routes are ready, and the channel of every drain with an open output is balanced. -/
structure Sound (g : Gateway) (messages : List StreamMessage) (f : PublicFeed) : Prop where
  routes : Router.Ready (Gateway.channels g.kind) f.router
  diffs : f.diffs.output.isOpen = true →
    Balanced BookMessage.diffsOf Exchange.depthChannel messages f.consumer f.router f.diffs
  trades : f.trades.output.isOpen = true →
    Balanced BookMessage.tradesOf Exchange.tradeChannel messages f.consumer f.router f.trades
  funding : g.kind = .perpetual → f.funding.output.isOpen = true →
    Balanced FundingInfo.updatesOf Exchange.markPriceChannel messages f.consumer f.router f.funding

theorem initial_sound (g : Gateway) (time capacity : Nat) : Sound g [] (initial g time capacity) := by
  have empty : ∀ (names : List String) (queueCapacity : Nat) (name : String),
      Router.queued name (names.map fun c =>
        (⟨c, .ofCapacity queueCapacity⟩ : Route StreamMessage)) = [] := by
    intro names queueCapacity name
    induction names with
    | nil => rfl
    | cons first rest ih =>
      simp only [List.map_cons, Router.queued, ih]
      split <;> rfl
  have balanced : ∀ {α : Type} (convert : StreamMessage → Except Overflow (List α)) (name : String),
      Balanced convert name [] (initial g time capacity).consumer (initial g time capacity).router
        (.ofCapacity capacity) :=
    fun _ name => ⟨rfl, by
      rw [initial, empty]
      simp [Consumer.initial, Consumer.held, Drain.ofCapacity, Queue.ofCapacity]⟩
  refine ⟨⟨?_, channels_separate g.kind, ?_⟩, fun _ => balanced _ _, fun _ => balanced _ _,
    fun _ _ => balanced _ _⟩
  · rw [initial, List.map_map]
    exact List.map_id _
  · intro r member
    obtain ⟨name, -, rfl⟩ := List.mem_map.mp member
    rfl

theorem depthChannel_mem (kind : MarketKind) : Exchange.depthChannel ∈ Gateway.channels kind := by
  cases kind <;> simp [Gateway.channels]

theorem tradeChannel_mem (kind : MarketKind) : Exchange.tradeChannel ∈ Gateway.channels kind := by
  cases kind <;> simp [Gateway.channels]

theorem markPriceChannel_mem {kind : MarketKind} (perpetual : kind = .perpetual) :
    Exchange.markPriceChannel ∈ Gateway.channels kind := by
  simp [perpetual, Gateway.channels]

def Event.message? : Event → Option StreamMessage
  | .frame content _ => content.message?
  | _ => none

/-- Every step keeps the balance; the message of a frame is one more. -/
theorem Sound.step (sound : Sound g messages f) (h : step? g f e = some next)
    (uncancelled : e ≠ .consumer .cancelled) :
    Sound g (messages ++ e.message?.toList) next := by
  have quiet : e.message? = none → Sound g messages next →
      Sound g (messages ++ e.message?.toList) next := by
    intro none kept
    simpa [none] using kept
  cases e with
  | consumer event =>
    obtain ⟨c, stepped, rfl⟩ := Option.map_eq_some_iff.mp h
    have held : ∀ name, c.held name = f.consumer.held name := fun name =>
      consume?_held stepped fun same => uncancelled (same ▸ rfl)
    refine quiet rfl ⟨sound.routes, fun isOpen => (sound.diffs isOpen).frame (by rw [held]),
      fun isOpen => (sound.trades isOpen).frame (by rw [held]),
      fun perpetual isOpen => (sound.funding perpetual isOpen).frame (by rw [held])⟩
  | frame frame time =>
    obtain ⟨c, read, rfl⟩ := Option.map_eq_some_iff.mp h
    exact ⟨sound.routes,
      fun isOpen => (sound.diffs isOpen).read (readFrame?_held read).1 (readFrame?_held read).2,
      fun isOpen => (sound.trades isOpen).read (readFrame?_held read).1 (readFrame?_held read).2,
      fun perpetual isOpen =>
        (sound.funding perpetual isOpen).read (readFrame?_held read).1 (readFrame?_held read).2⟩
  | deliver =>
    obtain ⟨⟨c, router⟩, delivered, rfl⟩ := Option.map_eq_some_iff.mp h
    obtain ⟨kept, idle, queues⟩ := deliver?_moves sound.routes delivered
    have moved : ∀ name ∈ Gateway.channels g.kind,
        router.queued name ++ c.held name = f.router.queued name ++ f.consumer.held name :=
      fun name member => by rw [idle, queues name member, List.append_nil]
    refine quiet rfl ⟨kept, fun isOpen => (sound.diffs isOpen).frame (moved _ (depthChannel_mem _)),
      fun isOpen => (sound.trades isOpen).frame (moved _ (tradeChannel_mem _)),
      fun perpetual isOpen =>
        (sound.funding perpetual isOpen).frame (moved _ (markPriceChannel_mem perpetual))⟩
  | diffs event =>
    obtain ⟨⟨router, d⟩, drained, rfl⟩ := Option.map_eq_some_iff.mp h
    obtain ⟨kept, others⟩ := drain?_keeps sound.routes drained
    refine quiet rfl ⟨kept, fun isOpen => .drain diffsOf_isTotal sound.routes sound.diffs drained isOpen,
      fun isOpen => (sound.trades isOpen).frame (by rw [others _ (by decide)]),
      fun perpetual isOpen =>
        (sound.funding perpetual isOpen).frame (by rw [others _ (by decide)])⟩
  | trades event =>
    obtain ⟨⟨router, d⟩, drained, rfl⟩ := Option.map_eq_some_iff.mp h
    obtain ⟨kept, others⟩ := drain?_keeps sound.routes drained
    refine quiet rfl ⟨kept, fun isOpen => (sound.diffs isOpen).frame (by rw [others _ (by decide)]),
      fun isOpen => .drain tradesOf_isTotal sound.routes sound.trades drained isOpen,
      fun perpetual isOpen =>
        (sound.funding perpetual isOpen).frame (by rw [others _ (by decide)])⟩
  | funding event =>
    obtain ⟨⟨router, d⟩, drained, rfl⟩ := Option.map_eq_some_iff.mp h
    obtain ⟨kept, others⟩ := drain?_keeps sound.routes drained
    refine quiet rfl ⟨kept, fun isOpen => (sound.diffs isOpen).frame (by rw [others _ (by decide)]),
      fun isOpen => (sound.trades isOpen).frame (by rw [others _ (by decide)]),
      fun perpetual isOpen => .drain updatesOf_isTotal sound.routes (sound.funding perpetual) drained
        isOpen⟩

theorem Sound.run {events : List Event} (sound : Sound g messages f)
    (h : run? g f events = some next) (uncancelled : Event.consumer .cancelled ∉ events) :
    Sound g (messages ++ events.filterMap Event.message?) next := by
  induction events generalizing f messages with
  | nil =>
    obtain rfl := Option.some.inj h
    simpa using sound
  | cons e events ih =>
    obtain ⟨middle, stepped, rest⟩ := Option.bind_eq_some_iff.mp h
    obtain ⟨here, later⟩ := not_or.mp (mt List.mem_cons.mpr uncancelled)
    have kept := ih (sound.step stepped fun same => here same.symm) rest later
    cases message : e.message? <;> simpa [message] using kept

/-! ### What is delivered -/

def Event.frame? : Event → Option Frame
  | .frame content _ => some content
  | _ => none

/-- The frames that have been read, over all connections. -/
def framesOf (events : List Event) : List Frame := events.filterMap Event.frame?

/-- The depth events on depth streams, in the order of their frames. -/
def depthEvents (frames : List Frame) : List Wire.DepthEvent :=
  frames.filterMap fun frame =>
    match frame.message? with
    | some (.depth stream event) =>
      if Text.startsWith stream Exchange.depthChannel then some event else none
    | _ => none

def tradeEvents (frames : List Frame) : List Wire.TradeEvent :=
  frames.filterMap fun frame =>
    match frame.message? with
    | some (.trade stream event) =>
      if Text.startsWith stream Exchange.tradeChannel then some event else none
    | _ => none

def markPriceEvents (frames : List Frame) : List Wire.MarkPriceEvent :=
  frames.filterMap fun frame =>
    match frame.message? with
    | some (.markPrice stream event) =>
      if Text.startsWith stream Exchange.markPriceChannel then some event else none
    | _ => none

theorem messages_eq (events : List Event) :
    events.filterMap Event.message? = (framesOf events).filterMap Frame.message? := by
  rw [framesOf, List.filterMap_filterMap]
  exact List.filterMap_congr fun e _ => by cases e <;> rfl

theorem results_eq {α β : Type} {convert : StreamMessage → Except Overflow (List α)} {name : String}
    {select : Frame → Option β} {make : β → Option α} (frames : List Frame)
    (same : ∀ frame, (frame.message?.toList.filter (·.isOn name)).flatMap (resultsOf convert) =
      (select frame).toList.flatMap fun event => (make event).toList) :
    ((frames.filterMap Frame.message?).filter (·.isOn name)).flatMap (resultsOf convert) =
      (frames.filterMap select).filterMap make := by
  rw [flatMap_resultsOf fun frame _ => same frame, List.filterMap_eq_flatMap_toList make]

theorem depth_results (frames : List Frame) :
    ((frames.filterMap Frame.message?).filter (·.isOn Exchange.depthChannel)).flatMap
      (resultsOf BookMessage.diffsOf) = (depthEvents frames).filterMap diffOf? := by
  refine results_eq frames fun frame => ?_
  cases frame.message? with
  | none => rfl
  | some message =>
    cases here : message.isOn Exchange.depthChannel <;> cases message <;>
      simp_all [StreamMessage.isOn, StreamMessage.channel, resultsOf, diffsOf_depth] <;> rfl

theorem trade_results (frames : List Frame) :
    ((frames.filterMap Frame.message?).filter (·.isOn Exchange.tradeChannel)).flatMap
      (resultsOf BookMessage.tradesOf) = (tradeEvents frames).filterMap tradeOf? := by
  refine results_eq frames fun frame => ?_
  cases frame.message? with
  | none => rfl
  | some message =>
    cases here : message.isOn Exchange.tradeChannel <;> cases message <;>
      simp_all [StreamMessage.isOn, StreamMessage.channel, resultsOf, tradesOf_trade] <;> rfl

theorem markPrice_results (frames : List Frame) :
    ((frames.filterMap Frame.message?).filter (·.isOn Exchange.markPriceChannel)).flatMap
      (resultsOf FundingInfo.updatesOf) = (markPriceEvents frames).filterMap fundingOf? := by
  refine results_eq frames fun frame => ?_
  cases frame.message? with
  | none => rfl
  | some message =>
    cases here : message.isOn Exchange.markPriceChannel <;> cases message <;>
      simp_all [StreamMessage.isOn, StreamMessage.channel, resultsOf, updatesOf_markPrice] <;> rfl

/-- The readers get what there is for them in the frames: each reader whose output is open, the funding
reader on perpetual markets only. -/
structure Delivered (g : Gateway) (frames : List Frame) (f : PublicFeed) : Prop where
  diffs : f.diffs.output.isOpen = true →
    Delivers ((depthEvents frames).filterMap diffOf?) Exchange.depthChannel f.consumer f.router f.diffs
  trades : f.trades.output.isOpen = true →
    Delivers ((tradeEvents frames).filterMap tradeOf?) Exchange.tradeChannel f.consumer f.router
      f.trades
  funding : g.kind = .perpetual → f.funding.output.isOpen = true →
    Delivers ((markPriceEvents frames).filterMap fundingOf?) Exchange.markPriceChannel f.consumer
      f.router f.funding

theorem run_delivered {events : List Event} {time capacity : Nat}
    (h : run? g (initial g time capacity) events = some f)
    (uncancelled : Event.consumer .cancelled ∉ events) : Delivered g (framesOf events) f := by
  have sound := (initial_sound g time capacity).run h uncancelled
  rw [List.nil_append, messages_eq] at sound
  constructor
  · intro isOpen
    rw [← depth_results]
    exact (sound.diffs isOpen).delivers
  · intro isOpen
    rw [← trade_results]
    exact (sound.trades isOpen).delivers
  · intro perpetual isOpen
    rw [← markPrice_results]
    exact (sound.funding perpetual isOpen).delivers

/-! ### What a message says -/

/-- The name under which a symbol is reported: that of the trading pair which has the symbol, where the
gateway was given one. -/
structure Names (g : Gateway) (symbol pair : String) : Prop where
  reading : pair = TradingPair.ofSymbol symbol
  configured : ∀ given ∈ g.tradingPairs, '_' ∉ given.toList → TradingPair.symbolOf given = symbol →
    pair = given

theorem names_ofSymbol (g : Gateway) (symbol : String) :
    Names g symbol (TradingPair.ofSymbol symbol) where
  reading := rfl
  configured given _ plain same := by rw [← same, TradingPair.ofSymbol_symbolOf plain]

/-- Exactly the events that can be read become messages, which say what the events say. -/
structure Faithful (g : Gateway) : Prop where
  diff_exists : ∀ event, (∃ message, diffOf? event = some message) ↔ event.IsReadable
  diff : ∀ event message, diffOf? event = some message →
    ∃ diff pair, message = .diff diff ∧ Names g event.symbol pair ∧ BookDiff.OfEvent event pair diff
  trade_exists : ∀ event, (∃ message, tradeOf? event = some message) ↔ event.IsReadable
  trade : ∀ event message, tradeOf? event = some message →
    ∃ trade pair, message = .trade trade ∧ Names g event.symbol pair ∧
      PublicTrade.OfEvent event pair trade
  funding_exists : ∀ event, (∃ info, fundingOf? event = some info) ↔ event.IsReadable
  funding : ∀ event info, fundingOf? event = some info →
    Names g event.symbol info.tradingPair ∧ FundingInfo.OfEvent event info

theorem faithful (g : Gateway) : Faithful g where
  diff_exists event := by
    rw [← (BookDiff.ofEvent_converts event (TradingPair.ofSymbol event.symbol)).toOption_exists_iff]
    simp [diffOf?]
  diff event message made := by
    obtain ⟨diff, read, rfl⟩ := Option.map_eq_some_iff.mp made
    exact ⟨diff, _, rfl, names_ofSymbol g _, (BookDiff.ofEvent_converts event _).of_toOption read⟩
  trade_exists event := by
    rw [← (PublicTrade.ofEvent_converts event (TradingPair.ofSymbol event.symbol)).toOption_exists_iff]
    simp [tradeOf?]
  trade event message made := by
    obtain ⟨trade, read, rfl⟩ := Option.map_eq_some_iff.mp made
    exact ⟨trade, _, rfl, names_ofSymbol g _, (PublicTrade.ofEvent_converts event _).of_toOption read⟩
  funding_exists event := (FundingInfo.ofEvent_converts event).toOption_exists_iff
  funding event info made := by
    have kept := (FundingInfo.ofEvent_converts event).of_toOption made
    exact ⟨kept.pair ▸ names_ofSymbol g _, kept⟩

/-- As long as a run is not cancelled, every reader of an open output has got the first of the messages
that the frames hold for it, and all of them once the queues on the way are empty. The messages are
those of the events that can be read, with the decimals of their texts and under the names of the
trading pairs. -/
theorem market_data_is_delivered {events : List Event} {time capacity : Nat}
    (h : run? g (initial g time capacity) events = some f)
    (uncancelled : Event.consumer .cancelled ∉ events) :
    Delivered g (framesOf events) f ∧ Faithful g :=
  ⟨run_delivered h uncancelled, faithful g⟩

/-! ### A run over two connections -/

namespace Reconnecting

def gateway : Gateway where
  client := ⟨.ofServer Exchange.restUrl Exchange.name, none, false⟩
  streamUrl := Exchange.streamUrl
  tradingPairs := ["SOL-USDC"]
  kind := .spot
  options := .default
  credentials := none

def depthFrame (price : String) : Frame :=
  .text ("\x7b\"stream\":\"depth.SOL_USDC\",\"data\":\x7b\"e\":\"depth\",\"E\":1700000000123456," ++
    "\"s\":\"SOL_USDC\",\"U\":1,\"u\":2,\"b\":[[\"" ++ price ++ "\",\"0\"]]\x7d\x7d")

def connecting : List Event :=
  [.consumer (.connected 1), .consumer .slotTaken, .consumer .subscribed, .consumer .slotTaken,
    .consumer .subscribed]

/-- Two frames that bring nothing come between two that do, and so does the end of a connection. -/
def events : List Event :=
  .consumer .started :: connecting ++
    [.frame (depthFrame "100.50") 2, .deliver, .frame (.text "oops") 3, .frame (depthFrame "x") 4,
      .diffs .take, .deliver, .consumer .readFinished, .consumer .closed, .consumer .waited] ++
    connecting ++
    [.diffs .pass, .frame (depthFrame "99") 9, .deliver, .diffs .take, .diffs .take, .diffs .pass,
      .diffs .readOut, .diffs .readOut]

def diff (coefficient scale : Nat) (coefficient_lt : coefficient < 2 ^ 96) (scale_le : scale ≤ 28) :
    BookMessage :=
  .diff ⟨"SOL-USDC", [⟨⟨⟨coefficient, scale, coefficient_lt, scale_le⟩, false⟩, .zero, 2⟩], [], 2, 1,
    1700000000123⟩

end Reconnecting

open Reconnecting in
theorem market_data_is_delivered_reconnecting :
    ∃ f, run? gateway (initial gateway 0 8) events = some f ∧
      Event.consumer .cancelled ∉ events ∧
      f.diffs.read = [diff 10050 2 (by decide) (by decide), diff 99 0 (by decide) (by decide)] ∧
      Delivered gateway (framesOf events) f ∧ Faithful gateway := by
  have received : (run? gateway (initial gateway 0 8) events).map (·.diffs.read) =
      some [diff 10050 2 (by decide) (by decide), diff 99 0 (by decide) (by decide)] := by
    decide +kernel
  obtain ⟨f, run, read⟩ := Option.map_eq_some_iff.mp received
  have uncancelled : Event.consumer .cancelled ∉ events := by simp [events, connecting]
  obtain ⟨delivered, faithful⟩ := market_data_is_delivered run uncancelled
  exact ⟨f, run, uncancelled, read, delivered, faithful⟩

end MarketGateway.PublicFeed
