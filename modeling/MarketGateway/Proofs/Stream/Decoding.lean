import MarketGateway.Proofs.Json.RoundTrip
import MarketGateway.Proofs.Wire.Events
import MarketGateway.Stream.Message

/-!
# Decoding stream events

An event is decoded from every text that carries its fields, and a text is only refused where data of a
known event type cannot be read as that event. Main statement: `decoding_recovers_events`.
-/

namespace MarketGateway.StreamMessage

open Json (Reader)
open Wire (DepthEvent TradeEvent MarkPriceEvent OrderEvent)

def IsOrderType (type : String) : Prop := ∃ rest, type = "order" ++ rest ∨ type = "trigger" ++ rest

theorem startsWith_iff {s start : String} :
    Text.startsWith s start = true ↔ ∃ rest, s = start ++ rest := by
  rw [Text.startsWith, List.isPrefixOf_iff_prefix]
  constructor
  · rintro ⟨rest, whole⟩
    refine ⟨String.ofList rest, String.toList_injective ?_⟩
    rw [String.toList_append, String.toList_ofList, whole]
  · rintro ⟨rest, rfl⟩
    rw [String.toList_append]
    exact List.prefix_append ..

theorem isOrderType_iff {type : String} : isOrderType type = true ↔ IsOrderType type := by
  rw [isOrderType, Bool.or_eq_true, startsWith_iff, startsWith_iff, IsOrderType, exists_or]

/-- The message is the event that the data of the stream carries. -/
inductive Carries (stream : String) (data : List (String × Json)) : StreamMessage → Prop where
  | depth (e : DepthEvent) (type : e.eventType = "depth") (carried : e.IsCarriedBy data) :
      Carries stream data (.depth stream e)
  | trade (e : TradeEvent) (type : e.eventType = "trade") (carried : e.IsCarriedBy data) :
      Carries stream data (.trade stream e)
  | markPrice (e : MarkPriceEvent) (type : e.eventType = "markPrice") (carried : e.IsCarriedBy data) :
      Carries stream data (.markPrice stream e)
  | order (e : OrderEvent) (type : IsOrderType e.eventType) (carried : e.IsCarriedBy data) :
      Carries stream data (.order stream e)

/-- Data of a known event type that cannot be read as that event. -/
inductive Refused (data : Json) (error : Json.ReadError) : Prop where
  | depth (type : data.get? "e" = some (.string "depth")) (read : DepthEvent.read data = .error error)
  | trade (type : data.get? "e" = some (.string "trade")) (read : TradeEvent.read data = .error error)
  | markPrice (type : data.get? "e" = some (.string "markPrice"))
      (read : MarkPriceEvent.read data = .error error)
  | order {name : String} (type : data.get? "e" = some (.string name)) (isOrder : IsOrderType name)
      (read : OrderEvent.read data = .error error)

variable {text stream : String} {data : List (String × Json)} {content value : Json}
  {message : StreamMessage}

theorem other_of_isOrderType {type : String} (isOrder : IsOrderType type) :
    type ≠ "depth" ∧ type ≠ "trade" ∧ type ≠ "markPrice" := by
  have differs : ∀ {start other : String}, (start.toList.isPrefixOf other.toList) = false →
      ∀ rest, start ++ rest ≠ other := by
    rintro start other none rest rfl
    rw [String.toList_append, List.isPrefixOf_iff_prefix.mpr (List.prefix_append ..)] at none
    cases none
  obtain ⟨rest, rfl | rfl⟩ := isOrder
  · exact ⟨differs (by decide) rest, differs (by decide) rest, differs (by decide) rest⟩
  · exact ⟨differs (by decide) rest, differs (by decide) rest, differs (by decide) rest⟩

section Dispatch
variable {envelope : Wire.Envelope} {type : String}

theorem ofEnvelope_of_type (is : envelope.data.get? "e" = some (.string type)) :
    ofEnvelope envelope =
      if type = "depth" then readEvent envelope DepthEvent.read .depth
      else if type = "trade" then readEvent envelope TradeEvent.read .trade
      else if type = "markPrice" then readEvent envelope MarkPriceEvent.read .markPrice
      else if isOrderType type then readEvent envelope OrderEvent.read .order
      else .ok (.unknown (some envelope.stream) envelope.data) := by
  rw [ofEnvelope, is]
  rfl

theorem ofEnvelope_depth (is : envelope.data.get? "e" = some (.string "depth")) :
    ofEnvelope envelope = readEvent envelope DepthEvent.read .depth := by
  rw [ofEnvelope_of_type is, if_pos rfl]

theorem ofEnvelope_trade (is : envelope.data.get? "e" = some (.string "trade")) :
    ofEnvelope envelope = readEvent envelope TradeEvent.read .trade := by
  rw [ofEnvelope_of_type is, if_neg (by decide), if_pos rfl]

theorem ofEnvelope_markPrice (is : envelope.data.get? "e" = some (.string "markPrice")) :
    ofEnvelope envelope = readEvent envelope MarkPriceEvent.read .markPrice := by
  rw [ofEnvelope_of_type is, if_neg (by decide), if_neg (by decide), if_pos rfl]

theorem ofEnvelope_order (is : envelope.data.get? "e" = some (.string type))
    (isOrder : IsOrderType type) :
    ofEnvelope envelope = readEvent envelope OrderEvent.read .order := by
  obtain ⟨depth, trade, markPrice⟩ := other_of_isOrderType isOrder
  rw [ofEnvelope_of_type is, if_neg depth, if_neg trade, if_neg markPrice,
    if_pos (isOrderType_iff.mpr isOrder)]

end Dispatch

theorem readEvent_of_read {α : Type} {envelope : Wire.Envelope} {read : Reader α} {event : α}
    {make : String → α → StreamMessage} (reads : read envelope.data = .ok event) :
    readEvent envelope read make = .ok (make envelope.stream event) := by
  rw [readEvent, reads]

theorem Carries.ofEnvelope (carries : Carries stream data message) (distinct : Json.Distinct data) :
    ofEnvelope ⟨stream, .object data⟩ = .ok message := by
  have typed : ∀ {type : String}, Json.Holds data "e" (Json.Written .string) type →
      (Json.object data).get? "e" = some (.string type) := by
    rintro type ⟨j, found, rfl⟩
    exact found
  cases carries with
  | depth e type carried =>
    rw [ofEnvelope_depth (type ▸ typed carried.eventType)]
    exact readEvent_of_read (carried.read distinct)
  | trade e type carried =>
    rw [ofEnvelope_trade (type ▸ typed carried.eventType)]
    exact readEvent_of_read (carried.read distinct)
  | markPrice e type carried =>
    rw [ofEnvelope_markPrice (type ▸ typed carried.eventType)]
    exact readEvent_of_read (carried.read distinct)
  | order e type carried =>
    rw [ofEnvelope_order (typed carried.eventType) type]
    exact readEvent_of_read (carried.read distinct)

theorem readEvent_eq_error {α : Type} {envelope : Wire.Envelope} {read : Reader α}
    {make : String → α → StreamMessage} {error : ExchangeError} :
    readEvent envelope read make = .error error ↔
      ∃ refusal, read envelope.data = .error refusal ∧
        error = .unreadable (.event envelope.stream refusal) := by
  unfold readEvent
  split
  · rename_i event reads
    simp [reads]
  · rename_i refusal reads
    simp [reads, eq_comm]

theorem ofEnvelope_eq_error {envelope : Wire.Envelope} {error : ExchangeError} :
    ofEnvelope envelope = .error error ↔
      ∃ refusal, Refused envelope.data refusal ∧
        error = .unreadable (.event envelope.stream refusal) := by
  constructor
  · intro refused
    cases found : envelope.data.get? "e" with
    | none =>
      rw [ofEnvelope, found] at refused
      cases refused
    | some j =>
      cases j with
      | string type =>
        rw [ofEnvelope_of_type found] at refused
        split at refused
        · subst_vars
          obtain ⟨refusal, read, same⟩ := readEvent_eq_error.mp refused
          exact ⟨refusal, .depth found read, same⟩
        split at refused
        · subst_vars
          obtain ⟨refusal, read, same⟩ := readEvent_eq_error.mp refused
          exact ⟨refusal, .trade found read, same⟩
        split at refused
        · subst_vars
          obtain ⟨refusal, read, same⟩ := readEvent_eq_error.mp refused
          exact ⟨refusal, .markPrice found read, same⟩
        split at refused
        · rename_i isOrder
          obtain ⟨refusal, read, same⟩ := readEvent_eq_error.mp refused
          exact ⟨refusal, .order found (isOrderType_iff.mp isOrder) read, same⟩
        · cases refused
      | _ =>
        rw [ofEnvelope, found] at refused
        cases refused
  · rintro ⟨refusal, refused, same⟩
    cases refused with
    | depth type read =>
      rw [ofEnvelope_depth type]
      exact readEvent_eq_error.mpr ⟨refusal, read, same⟩
    | trade type read =>
      rw [ofEnvelope_trade type]
      exact readEvent_eq_error.mpr ⟨refusal, read, same⟩
    | markPrice type read =>
      rw [ofEnvelope_markPrice type]
      exact readEvent_eq_error.mpr ⟨refusal, read, same⟩
    | order type isOrder read =>
      rw [ofEnvelope_order type isOrder]
      exact readEvent_eq_error.mpr ⟨refusal, read, same⟩

theorem ofJson_of_isEnvelope (ordered : value.Ordered) (noError : value.get? "error" = none)
    (shape : Wire.IsEnvelope stream content value) : ofJson value = ofEnvelope ⟨stream, content⟩ := by
  have read : Wire.Envelope.read value = .ok ⟨stream, content⟩ :=
    (Wire.Envelope.read_eq_ok ordered).mpr shape
  rw [ofJson, noError]
  simp only [read]

theorem ofJson_eq_error (ordered : value.Ordered) {error : ExchangeError} :
    ofJson value = .error error ↔ value.get? "error" = none ∧
      ∃ stream content refusal, Wire.IsEnvelope stream content value ∧ Refused content refusal ∧
        error = .unreadable (.event stream refusal) := by
  constructor
  · intro refused
    unfold ofJson at refused
    split at refused
    · cases refused
    · rename_i noError
      split at refused
      · rename_i envelope read
        obtain ⟨refusal, refused, same⟩ := ofEnvelope_eq_error.mp refused
        have shape := (Wire.Envelope.read_eq_ok ordered).mp read
        exact ⟨noError, envelope.stream, envelope.data, refusal, shape, refused, same⟩
      · cases refused
  · rintro ⟨noError, stream, content, refusal, shape, refused, same⟩
    rw [ofJson_of_isEnvelope ordered noError shape]
    exact ofEnvelope_eq_error.mpr ⟨refusal, refused, same⟩

theorem ofFrame_of_parse? (parsed : Json.parse? text = some value) :
    ofFrame (.text text) = (ofJson value).map some := by
  rw [ofFrame, parsed]

theorem Carries.ofFrame (carries : Carries stream data message) (parsed : Json.parse? text = some value)
    (noError : value.get? "error" = none) (shape : Wire.IsEnvelope stream (.object data) value) :
    ofFrame (.text text) = .ok (some message) := by
  have ordered := Json.parse?_ordered parsed
  have content : (Json.object data).Ordered := by
    cases shape with
    | object _ held => exact ordered.of_memberOf? held
    | array =>
      cases ordered with
      | array each => exact each _ (by simp)
  rw [ofFrame_of_parse? parsed, ofJson_of_isEnvelope ordered noError shape,
    carries.ofEnvelope content.ascending.distinct]
  rfl

theorem Carries.channel (carries : Carries stream data message) : message.channel = some stream := by
  cases carries <;> rfl

/-- The message of an event is decoded from every text of its envelope, in whatever order members are
written; and a text that is a JSON document is refused just where it is an envelope without an error
whose data is of an event type and cannot be read as that event. -/
theorem decoding_recovers_events :
    (∀ text value stream data message, Json.parse? text = some value → value.get? "error" = none →
      Wire.IsEnvelope stream (.object data) value → Carries stream data message →
        ofFrame (.text text) = .ok (some message) ∧ message.channel = some stream) ∧
    (∀ written value stream data message, Json.Reordered written value →
      Json.Readable Json.Assembly.maxDepth value → value.get? "error" = none →
      Wire.IsEnvelope stream (.object data) value → Carries stream data message →
        ofFrame (.text written.render) = .ok (some message) ∧ message.channel = some stream) ∧
    ∀ text value error, Json.parse? text = some value →
      (ofFrame (.text text) = .error error ↔ value.get? "error" = none ∧
        ∃ stream content refusal, Wire.IsEnvelope stream content value ∧ Refused content refusal ∧
          error = .unreadable (.event stream refusal)) := by
  refine ⟨?_, ?_, ?_⟩
  · intro text value stream data message parsed noError shape carries
    exact ⟨carries.ofFrame parsed noError shape, carries.channel⟩
  · intro written value stream data message reordered readable noError shape carries
    have parsed := Json.parse?_render_of_reordered reordered readable
    exact ⟨carries.ofFrame parsed noError shape, carries.channel⟩
  · intro text value error parsed
    rw [ofFrame_of_parse? parsed, ← ofJson_eq_error (Json.parse?_ordered parsed)]
    cases ofJson value with
    | ok message => exact ⟨nofun, nofun⟩
    | error e => exact ⟨fun same => by cases same; rfl, fun same => by cases same; rfl⟩

private def markPriceText : String :=
  "\x7b\"stream\":\"mp\",\"data\":\x7b\"s\":\"S\",\"p\":\"1.50\",\"n\":\"17\",\"f\":null," ++
    "\"e\":\"markPrice\",\"E\":9,\"x\":[]\x7d\x7d"

private def markPriceData : List (String × Json) :=
  [("E", .int 9), ("e", .string "markPrice"), ("f", .null), ("n", .string "17"), ("p", .string "1.50"),
    ("s", .string "S"), ("x", .array [])]

private def markPriceEvent : MarkPriceEvent := ⟨"markPrice", 9, "S", "1.50", none, none, some 17⟩

private def orderData : List (String × Json) :=
  [("E", .int 9), ("O", .array [.string "USER"]), ("X", .string "New"), ("e", .string "orderAccepted"),
    ("i", .int 7), ("s", .string "S"), ("t", .null)]

private def orderEvent : OrderEvent where
  eventType := "orderAccepted"
  eventTime := 9
  symbol := "S"
  clientId := none
  side := none
  orderType := none
  timeInForce := none
  quantity := none
  price := none
  stopPrice := none
  executionType := none
  orderStatus := "New"
  orderId := "7"
  lastFilledQuantity := none
  cumulativeFilledQuantity := none
  lastFilledPrice := none
  fee := none
  feeSymbol := none
  transactionTime := none
  tradeId := none
  origin := some (.array [.string "USER"])
  cumulativeQuoteQuantity := none
  lastQuoteQuantity := none
  quoteQuantity := none

private theorem markPriceEvent_isCarriedBy : markPriceEvent.IsCarriedBy markPriceData where
  eventType := ⟨_, rfl, rfl⟩
  eventTime := ⟨_, rfl, rfl⟩
  symbol := ⟨_, rfl, rfl⟩
  markPrice := ⟨_, rfl, rfl⟩
  fundingRate := .inr rfl
  indexPrice := .inl rfl
  nextFundingTime := ⟨_, rfl, .text rfl⟩

private theorem orderEvent_isCarriedBy : orderEvent.IsCarriedBy orderData where
  eventType := ⟨_, rfl, rfl⟩
  eventTime := ⟨_, rfl, rfl⟩
  symbol := ⟨_, rfl, rfl⟩
  clientId := .inl rfl
  side := .inl rfl
  orderType := .inl rfl
  timeInForce := .inl rfl
  quantity := .inl rfl
  price := .inl rfl
  stopPrice := .inl rfl
  executionType := .inl rfl
  orderStatus := ⟨_, rfl, rfl⟩
  orderId := ⟨_, rfl, .number rfl⟩
  lastFilledQuantity := .inl rfl
  cumulativeFilledQuantity := .inl rfl
  lastFilledPrice := .inl rfl
  fee := .inl rfl
  feeSymbol := .inl rfl
  transactionTime := .inl rfl
  tradeId := .inr rfl
  origin := ⟨_, rfl, rfl, nofun⟩
  cumulativeQuoteQuantity := .inl rfl
  lastQuoteQuantity := .inl rfl
  quoteQuantity := .inl rfl

private theorem orderData_readable (depth : Nat) : Json.Readable (depth + 2) (.object orderData) := by
  refine .object (by unfold Json.Ascending; decide) ?_
  simp only [orderData, List.forall_mem_cons]
  refine ⟨.int (by decide) (by decide), ?_, .string _, .string _, .int (by decide) (by decide),
    .string _, .null, nofun⟩
  exact .array (List.forall_mem_singleton.mpr (.string _))

set_option maxRecDepth 20000 in
theorem sample_decoding_recovers_events :
    (ofFrame (.text markPriceText) = .ok (some (.markPrice "mp" markPriceEvent)) ∧
      (markPrice "mp" markPriceEvent).channel = some "mp") ∧
    (ofFrame (.text (Json.render (.object [("stream", .string "o"), ("data", .object orderData)]))) =
        .ok (some (.order "o" orderEvent)) ∧ (order "o" orderEvent).channel = some "o") ∧
    ofFrame (.text "\x7b\"stream\":\"d\",\"data\":\x7b\"e\":\"depth\"\x7d\x7d") =
      .error (.unreadable (.event "d" (.missingField "E"))) := by
  obtain ⟨decodes, anyOrder, refuses⟩ := decoding_recovers_events
  have parsed : Json.parse? markPriceText =
      some (.object [("data", .object markPriceData), ("stream", .string "mp")]) := rfl
  have reordered : Json.Reordered (.object [("stream", .string "o"), ("data", .object orderData)])
      (.object [("data", .object orderData), ("stream", .string "o")]) :=
    .object rfl (.cons (.same _) (.cons (.same _) .nil)) (.swap _ _ _)
  have readable : Json.Readable Json.Assembly.maxDepth
      (.object [("data", .object orderData), ("stream", .string "o")]) := by
    refine .object (by unfold Json.Ascending; decide) (List.forall_mem_cons.mpr ⟨?_, ?_⟩)
    · exact orderData_readable 124
    · exact List.forall_mem_singleton.mpr (.string _)
  refine ⟨?_, ?_, ?_⟩
  · exact decodes _ _ _ _ _ parsed rfl (.object rfl rfl)
      (.markPrice _ rfl markPriceEvent_isCarriedBy)
  · exact anyOrder _ _ _ _ _ reordered readable rfl (.object rfl rfl)
      (.order _ ⟨"Accepted", .inl rfl⟩ orderEvent_isCarriedBy)
  · exact (refuses _ _ _ rfl).mpr ⟨rfl, _, _, _, .object rfl rfl, .depth rfl rfl, rfl⟩

end MarketGateway.StreamMessage
