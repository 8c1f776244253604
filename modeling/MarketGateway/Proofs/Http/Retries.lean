import MarketGateway.Gateway.Calls
import MarketGateway.Proofs.Http.SignedRequests

/-!
# Repeated requests

What changes something at the exchange is attempted once. A read is attempted again after a failure
that may pass, as often as the settings allow. Main statement: `reads_alone_are_retried`.
-/

namespace MarketGateway

/-- Answers of the exchange, and failures on this side of the network. -/
inductive ExchangeError.IsFinal : ExchangeError → Prop where
  | api (code : Int) (text : String) : IsFinal (.api code text)
  | auth (text : String) : IsFinal (.auth text)
  | authenticationRequired : IsFinal .authenticationRequired
  | setup (cause : SetupError) : IsFinal (.setup cause)
  | config (cause : ConfigError) : IsFinal (.config cause)
  | json : IsFinal .json
  | unreadable (cause : Unreadable) : IsFinal (.unreadable cause)

theorem ExchangeError.IsFinal.not_isTransient {e : ExchangeError} (final : e.IsFinal) :
    e.isTransient = false := by
  cases final <;> rfl

/-- Failures on the way to the exchange. A request that has no address to go to is none of them. -/
inductive ExchangeError.IsPassing : ExchangeError → Prop where
  | network (cause : NetworkFailure) : IsPassing (.network cause)
  | timeout (cause : Timeout) : IsPassing (.timeout cause)
  | socket (cause : SocketFailure) : IsPassing (.socket cause)
  | refused : IsPassing (.http .refused)
  | timedOut : IsPassing (.http .timedOut)

theorem ExchangeError.isTransient_iff {e : ExchangeError} : e.isTransient = true ↔ e.IsPassing := by
  constructor
  · intro transient
    cases e with
    | network cause => exact .network cause
    | timeout cause => exact .timeout cause
    | socket cause => exact .socket cause
    | http failure =>
      cases failure with
      | invalidUrl => cases transient
      | refused => exact .refused
      | timedOut => exact .timedOut
    | _ => cases transient
  · intro passing
    cases passing <;> rfl

namespace Call

variable {α β ε : Type} {o : Outside} {n m : Nat}

/-! ### How much a call asks for -/

/-- The call sends no more than so many requests, whatever it is told. -/
inductive SendsAtMost : Nat → Call α → Prop where
  | done (n : Nat) (a : α) : SendsAtMost n (.done a)
  | clock {n : Nat} {next : Int64 → Call α} (each : ∀ t, SendsAtMost n (next t)) :
      SendsAtMost n (.clock next)
  | slot {n : Nat} {next : Call α} (limit : String) (rest : SendsAtMost n next) :
      SendsAtMost n (.slot limit next)
  | orderNumber {n : Nat} {next : UInt32 → Call α} (time : Int64)
      (each : ∀ number, SendsAtMost n (next number)) : SendsAtMost n (.orderNumber time next)
  | send {n : Nat} {next : Answer → Call α} (request : Request)
      (each : ∀ answer, SendsAtMost n (next answer)) : SendsAtMost (n + 1) (.send request next)

/-- The call waits for no limit. -/
inductive TakesNoSlot : Call α → Prop where
  | done (a : α) : TakesNoSlot (.done a)
  | clock {next : Int64 → Call α} (each : ∀ t, TakesNoSlot (next t)) : TakesNoSlot (.clock next)
  | orderNumber {next : UInt32 → Call α} (time : Int64) (each : ∀ number, TakesNoSlot (next number)) :
      TakesNoSlot (.orderNumber time next)
  | send {next : Answer → Call α} (request : Request) (each : ∀ answer, TakesNoSlot (next answer)) :
      TakesNoSlot (.send request next)

theorem SendsAtMost.mono {call : Call α} (sends : call.SendsAtMost n) (le : n ≤ m) :
    call.SendsAtMost m := by
  induction sends generalizing m with
  | done n a => exact .done m a
  | clock _ ih => exact .clock fun t => ih t le
  | slot limit _ ih => exact .slot limit (ih le)
  | orderNumber time _ ih => exact .orderNumber time fun number => ih number le
  | send request _ ih =>
    obtain ⟨k, rfl⟩ : ∃ k, m = k + 1 := ⟨m - 1, by omega⟩
    exact .send request fun answer => ih answer (by omega)

theorem SendsAtMost.bind {call : Call α} {f : α → Call β} (first : call.SendsAtMost n)
    (rest : ∀ a, (f a).SendsAtMost m) : (call.bind f).SendsAtMost (n + m) := by
  induction first with
  | done n a => exact (rest a).mono (Nat.le_add_left m n)
  | clock _ ih => exact .clock ih
  | slot limit _ ih => exact .slot limit ih
  | orderNumber time _ ih => exact .orderNumber time ih
  | send request _ ih =>
    rw [Nat.add_right_comm]
    exact .send request ih

theorem TakesNoSlot.bind {call : Call α} {f : α → Call β} (first : call.TakesNoSlot)
    (rest : ∀ a, (f a).TakesNoSlot) : (call.bind f).TakesNoSlot := by
  induction first with
  | done a => exact rest a
  | clock _ ih => exact .clock ih
  | orderNumber time _ ih => exact .orderNumber time ih
  | send request _ ih => exact .send request ih

theorem SendsAtMost.run {call : Call α} (sends : call.SendsAtMost n) (r : Record) :
    ∃ sent, (call.run o r).2.requests = r.requests ++ sent ∧ sent.length ≤ n := by
  induction sends generalizing r with
  | done n a => exact ⟨[], by simp [Call.run], Nat.zero_le n⟩
  | clock _ ih => exact ih _ { r with readings := r.readings + 1 }
  | slot limit _ ih => exact ih { r with slots := r.slots ++ [limit] }
  | orderNumber time _ ih => exact ih _ { r with lastNumber := ClientId.next r.lastNumber time }
  | send request _ ih =>
    obtain ⟨sent, requests, few⟩ := ih (o.answer (r.requests ++ [request]))
      { r with requests := r.requests ++ [request] }
    refine ⟨request :: sent, by simp [Call.run, requests], ?_⟩
    rw [List.length_cons]
    omega

theorem TakesNoSlot.run {call : Call α} (free : call.TakesNoSlot) (r : Record) :
    (call.run o r).2.slots = r.slots := by
  induction free generalizing r with
  | done a => rfl
  | clock _ ih => exact ih _ { r with readings := r.readings + 1 }
  | orderNumber time _ ih => exact ih _ { r with lastNumber := ClientId.next r.lastNumber time }
  | send request _ ih => exact ih _ { r with requests := r.requests ++ [request] }

/-! ### Calls that may fail -/

theorem SendsAtMost.bindT {x : ExceptT ε Call α} {f : α → ExceptT ε Call β}
    (first : x.run.SendsAtMost n) (rest : ∀ a, (f a).run.SendsAtMost m) :
    (x >>= f).run.SendsAtMost (n + m) := by
  refine SendsAtMost.bind first fun result => ?_
  cases result with
  | ok a => exact rest a
  | error e => exact .done m (Except.error e)

theorem TakesNoSlot.bindT {x : ExceptT ε Call α} {f : α → ExceptT ε Call β}
    (first : x.run.TakesNoSlot) (rest : ∀ a, (f a).run.TakesNoSlot) : (x >>= f).run.TakesNoSlot := by
  refine TakesNoSlot.bind first fun result => ?_
  cases result with
  | ok a => exact rest a
  | error e => exact .done (Except.error e)

/-! ### Attempts -/

/-- The outcomes of attempts that are made one after the other, and the record after the last. -/
inductive Attempts (o : Outside) (attempt : Call α) : Record → List α → Record → Prop where
  | none (r : Record) : Attempts o attempt r [] r
  | more {r after : Record} {outcomes : List α}
      (others : Attempts o attempt (attempt.run o r).2 outcomes after) :
      Attempts o attempt r ((attempt.run o r).1 :: outcomes) after

/-- A failure that may go away by itself. -/
def MayPass (outcome : Except ExchangeError α) : Prop := ∃ e : ExchangeError, outcome = .error e ∧ e.IsPassing

/-- Some attempts that came to nothing, and a last one that the call comes to. -/
structure Repeated (o : Outside) (attempt : Call (Except ExchangeError α)) (retries : Nat) (r : Record)
    (before : List (Except ExchangeError α)) (last : Except ExchangeError α) (after : Record) : Prop where
  attempts : Attempts o attempt r (before ++ [last]) after
  few : before.length ≤ retries
  passing : ∀ outcome ∈ before, MayPass outcome
  exhausted : MayPass last → before.length = retries

variable {attempt : Call (Except ExchangeError α)} {r after : Record}

theorem retrying_succ (attempt : Call (Except ExchangeError α)) (retries : Nat) :
    retrying attempt (retries + 1) = attempt.bind fun outcome =>
      match outcome with
      | .ok a => .done (.ok a)
      | .error e => if e.isTransient then retrying attempt retries else .done (.error e) := rfl

theorem repeated_once {outcome : Except ExchangeError α} {retries : Nat}
    (made : attempt.run o r = (outcome, after)) (ended : MayPass outcome → retries = 0) :
    Repeated o attempt retries r [] outcome after := by
  refine ⟨?_, Nat.zero_le _, nofun, fun passes => (ended passes).symm⟩
  have single := Attempts.more (.none (attempt.run o r).2)
  rw [made] at single
  exact single

/-- A call that repeats an attempt is these attempts, one after the other. -/
theorem retrying_run (attempt : Call (Except ExchangeError α)) (retries : Nat) (r : Record) :
    ∃ before last after, (retrying attempt retries).run o r = (last, after) ∧
      Repeated o attempt retries r before last after := by
  -- The first attempt moves the record on; the others are those of one retry less from there.
  induction retries generalizing r with
  | zero => exact ⟨[], _, _, rfl, repeated_once rfl fun _ => rfl⟩
  | succ retries ih =>
    rw [retrying_succ, run_bind]
    rcases made : attempt.run o r with ⟨outcome, middle⟩
    cases outcome with
    | ok a => exact ⟨[], .ok a, middle, rfl, repeated_once made (by rintro ⟨e, failed, -⟩; cases failed)⟩
    | error e =>
      cases transient : e.isTransient with
      | false =>
        refine ⟨[], .error e, middle, by simp [transient, run], repeated_once made ?_⟩
        rintro ⟨_, failed, passes⟩
        cases failed
        cases transient.symm.trans (ExchangeError.isTransient_iff.mpr passes)
      | true =>
        obtain ⟨before, last, after, ran, others, few, passing, exhausted⟩ := ih middle
        refine ⟨.error e :: before, last, after, by simpa [transient] using ran, ?_, ?_, ?_, ?_⟩
        · have first : Attempts o attempt (attempt.run o r).2 (before ++ [last]) after →
              Attempts o attempt r ((attempt.run o r).1 :: (before ++ [last])) after := .more
          rw [made] at first
          exact first others
        · exact Nat.succ_le_succ few
        · intro other member
          rcases List.mem_cons.mp member with rfl | later
          · exact ⟨e, rfl, ExchangeError.isTransient_iff.mp transient⟩
          · exact passing other later
        · intro passes
          exact congrArg (· + 1) (exhausted passes)

theorem Attempts.requests {outcomes : List (Except ExchangeError α)}
    (attempts : Attempts o attempt r outcomes after) (sends : attempt.SendsAtMost 1) :
    ∃ sent, after.requests = r.requests ++ sent ∧ sent.length ≤ outcomes.length := by
  induction attempts with
  | none r => exact ⟨[], (List.append_nil _).symm, Nat.le_refl 0⟩
  | @more r after outcomes _ ih =>
    obtain ⟨first, one, few⟩ := sends.run (o := o) r
    obtain ⟨sent, others, fewer⟩ := ih
    refine ⟨first ++ sent, by rw [others, one, List.append_assoc], ?_⟩
    rw [List.length_append, List.length_cons]
    omega

theorem Attempts.slots {outcomes : List (Except ExchangeError α)} {limits : List String}
    (attempts : Attempts o attempt r outcomes after)
    (takes : ∀ r, (attempt.run o r).2.slots = r.slots ++ limits) :
    after.slots = r.slots ++ (List.replicate outcomes.length limits).flatten := by
  induction attempts with
  | none r => simp
  | more _ ih => rw [ih, takes, List.append_assoc, List.length_cons, List.replicate_succ, List.flatten_cons]

end Call

/-! ### Calls of a client -/

namespace Client

open Call (Outside Record SendsAtMost TakesNoSlot)

variable {c : Client} {ask : Ask}

theorem signingHeaders_sendsAtMost (c : Client) (ask : Ask) (body : ByteArray) :
    (c.signingHeaders ask body).run.SendsAtMost 0 := by
  unfold signingHeaders
  split
  · split
    · exact .done 0 _
    · exact .clock fun t => SendsAtMost.bindT (.done 0 _) fun _ => .done 0 _
  · exact .done 0 _

theorem signingHeaders_takesNoSlot (c : Client) (ask : Ask) (body : ByteArray) :
    (c.signingHeaders ask body).run.TakesNoSlot := by
  unfold signingHeaders
  split
  · split
    · exact .done _
    · exact .clock fun t => TakesNoSlot.bindT (.done _) fun _ => .done _
  · exact .done _

theorem afterSlot_sendsAtMost (c : Client) (ask : Ask) : (c.afterSlot ask).run.SendsAtMost 1 := by
  refine SendsAtMost.bindT (m := 1) (signingHeaders_sendsAtMost c ask _) fun headers => ?_
  have sent : (ApiCall.send (c.requestOf ask headers)).run.SendsAtMost 1 :=
    .send _ fun answer => .done 0 _
  have sending : (ApiCall.send (c.requestOf ask headers) >>= fun response =>
      ApiCall.ofExcept (content response)).run.SendsAtMost 1 :=
    SendsAtMost.bindT (m := 0) sent fun response => .done 0 _
  dsimp only
  split
  · exact sending
  · exact .done 1 _

theorem afterSlot_takesNoSlot (c : Client) (ask : Ask) : (c.afterSlot ask).run.TakesNoSlot := by
  refine TakesNoSlot.bindT (signingHeaders_takesNoSlot c ask _) fun headers => ?_
  have sent : (ApiCall.send (c.requestOf ask headers)).run.TakesNoSlot := .send _ fun answer => .done _
  have sending : (ApiCall.send (c.requestOf ask headers) >>= fun response =>
      ApiCall.ofExcept (content response)).run.TakesNoSlot :=
    TakesNoSlot.bindT sent fun response => .done _
  dsimp only
  split
  · exact sending
  · exact .done _

theorem attempt_sendsAtMost (c : Client) (ask : Ask) : (c.attempt ask).run.SendsAtMost 1 := by
  rw [attempt_eq]
  split
  · exact .slot ask.path (afterSlot_sendsAtMost c ask)
  · exact afterSlot_sendsAtMost c ask

/-- The limits whose slots an attempt takes. -/
def limits (c : Client) (ask : Ask) : List String := if c.throttled then [ask.path] else []

theorem attempt_slots (c : Client) (ask : Ask) (o : Outside) (r : Record) :
    ((c.attempt ask).run.run o r).2.slots = r.slots ++ c.limits ask := by
  have rest := afterSlot_takesNoSlot c ask
  rw [attempt_eq, limits]
  split
  · exact rest.run { r with slots := r.slots ++ [ask.path] }
  · rw [List.append_nil]
    exact rest.run r

theorem perform_run (c : Client) (ask : Ask) (o : Outside) (r : Record) :
    ∃ before last after, (c.perform ask).run.run o r = (last, after) ∧
      Call.Repeated o (c.attempt ask).run (c.retries ask) r before last after :=
  Call.retrying_run (c.attempt ask).run (c.retries ask) r

theorem call_run {α : Type} {last : Except ExchangeError Json} {r after : Record} {o : Outside}
    (read : Json.Reader α) (performed : (c.perform ask).run.run o r = (last, after)) :
    (c.call ask read).run.run o r = (last.bind (decode read), after) := by
  have split : (c.call ask read).run =
      (c.perform ask).run.bind (ExceptT.bindCont fun j => ApiCall.ofExcept (decode read j)) := rfl
  rw [split, Call.run_bind, performed]
  cases last <;> rfl

theorem call_sendsAtMost {α : Type} (read : Json.Reader α) (change : ask.method ≠ "GET") :
    (c.call ask read).run.SendsAtMost 1 := by
  have performed : (c.perform ask).run.SendsAtMost 1 := by
    have once : c.perform ask = c.attempt ask := by
      rw [perform, retries, if_neg change]
      rfl
    rw [once]
    exact attempt_sendsAtMost c ask
  exact SendsAtMost.bindT performed fun j => .done 0 _

theorem post_sendsAtMost {α : Type} (c : Client) (path : String) (body : Json) (signed : Bool)
    (read : Json.Reader α) : (c.post path body signed read).run.SendsAtMost 1 := by
  have change : "POST" ≠ "GET" := by decide
  exact call_sendsAtMost read change

theorem delete_sendsAtMost {α : Type} (c : Client) (path : String) (body : Json) (signed : Bool)
    (read : Json.Reader α) : (c.delete path body signed read).run.SendsAtMost 1 := by
  have change : "DELETE" ≠ "GET" := by decide
  exact call_sendsAtMost read change

/-- How a call of a client comes about, from the attempts before the last to the record after it. -/
structure Attempted (c : Client) (ask : Ask) (o : Outside) (r : Record)
    (before : List (Except ExchangeError Json)) (last : Except ExchangeError Json) (after : Record) :
    Prop where
  attempts : Call.Attempts o (c.attempt ask).run r (before ++ [last]) after
  /-- What is no read is attempted once, whatever comes of it. -/
  once : ask.method ≠ "GET" → before = []
  few : before.length ≤ c.options.maxRetries
  /-- An attempt follows only on a failure on the way to the exchange, so on no success and on no answer. -/
  passing : ∀ outcome ∈ before, Call.MayPass outcome
  unrepeated : ∀ e : ExchangeError, e.IsFinal → .error e ∉ before
  /-- A read gives up on a failure that may pass only when its retries are used up. -/
  exhausted : ask.method = "GET" → Call.MayPass last → before.length = c.options.maxRetries
  slots : after.slots = r.slots ++ (List.replicate (before.length + 1) (c.limits ask)).flatten
  requests : ∃ sent, after.requests = r.requests ++ sent ∧ sent.length ≤ before.length + 1

theorem attempted_of_repeated {r after : Record} {o : Outside} {before : List (Except ExchangeError Json)}
    {last : Except ExchangeError Json}
    (repeated : Call.Repeated o (c.attempt ask).run (c.retries ask) r before last after) :
    c.Attempted ask o r before last after := by
  have count : (before ++ [last]).length = before.length + 1 := List.length_append
  constructor
  · exact repeated.attempts
  · intro change
    have none := repeated.few
    rw [retries, if_neg change] at none
    exact List.eq_nil_of_length_eq_zero (Nat.le_zero.mp none)
  · refine repeated.few.trans ?_
    rw [retries]
    split
    · exact Nat.le_refl _
    · exact Nat.zero_le _
  · exact repeated.passing
  · intro e final member
    obtain ⟨_, same, passes⟩ := repeated.passing _ member
    cases same
    cases final.not_isTransient.symm.trans (ExchangeError.isTransient_iff.mpr passes)
  · intro reads passes
    have all := repeated.exhausted passes
    rwa [retries, if_pos reads] at all
  · rw [← count]
    exact repeated.attempts.slots (attempt_slots c ask o)
  · rw [← count]
    exact repeated.attempts.requests (attempt_sendsAtMost c ask)

end Client

/-! ### Orders -/

namespace Gateway

open Call (Outside Record SendsAtMost)

variable {α : Type}

theorem Query.ofApi_sendsAtMost {n : Nat} {call : ApiCall α} (sends : call.run.SendsAtMost n) :
    (Query.ofApi call).run.SendsAtMost n :=
  SendsAtMost.bind (m := 0) sends fun _ => .done 0 _

theorem Query.ofCheck_sendsAtMost (result : Except ExchangeError α) :
    (Query.ofCheck result).run.SendsAtMost 0 := .done 0 _

theorem placeOrder_sendsAtMost (g : Gateway) (order : OrderRequest) :
    (g.placeOrder order).run.SendsAtMost 1 := by
  have placed : ∀ now clientId, (do
      let body ← Query.ofCheck (Wire.NewOrder.ofRequest order clientId)
      let placed ← Query.ofApi (g.client.execute body)
      return ({
        clientOrderId := order.clientOrderId
        exchangeOrderId := placed.id
        state := OrderState.ofStatus placed.status
        timestampMs := (placed.createdAt.map Conversion.toEpochMs).getD now } : PlacedOrder) :
      Query PlacedOrder).run.SendsAtMost 1 := by
    intro now clientId
    refine SendsAtMost.bindT (m := 1) (Query.ofCheck_sendsAtMost _) fun body => ?_
    have sent : (g.client.execute body).run.SendsAtMost 1 := Client.post_sendsAtMost ..
    exact SendsAtMost.bindT (m := 0) (Query.ofApi_sendsAtMost sent) fun placed => .done 0 _
  have clock : ApiCall.clock.run.SendsAtMost 0 := .clock fun t => .done 0 _
  refine SendsAtMost.bindT (m := 1) (Query.ofApi_sendsAtMost clock) fun now => ?_
  cases ClientId.ofOrderId? order.clientOrderId with
  | some n => exact placed now n
  | none =>
    have number : (ApiCall.orderNumber now).run.SendsAtMost 0 := .orderNumber now fun n => .done 0 _
    exact SendsAtMost.bindT (m := 1) (Query.ofApi_sendsAtMost number) (placed now)

theorem cancelOrder_sendsAtMost (g : Gateway) (pair clientOrderId : String)
    (exchangeOrderId : Option String) :
    (g.cancelOrder pair clientOrderId exchangeOrderId).run.SendsAtMost 1 := by
  refine SendsAtMost.bindT (m := 1) (Query.ofCheck_sendsAtMost _) fun order => ?_
  have sent : (g.client.cancel order).run.SendsAtMost 1 := Client.delete_sendsAtMost ..
  have canceled : (do
      let canceled ← g.client.cancel order
      return decide (OrderState.ofStatus canceled.status = .canceled) : ApiCall Bool).run.SendsAtMost 1 :=
    SendsAtMost.bindT (m := 0) sent fun _ => .done 0 _
  refine Query.ofApi_sendsAtMost (SendsAtMost.bind (m := 0) canceled fun result => ?_)
  cases result with
  | ok canceled => exact .done 0 _
  | error e =>
    dsimp only
    split
    · exact .done 0 _
    · exact .done 0 _

theorem cancelAll_sendsAtMost (g : Gateway) (pair : String) : (g.cancelAll pair).run.SendsAtMost 1 := by
  have sent : (g.client.cancelAll (TradingPair.symbolOf pair)).run.SendsAtMost 1 :=
    Client.delete_sendsAtMost ..
  exact SendsAtMost.bindT (m := 0) (Query.ofApi_sendsAtMost sent) fun _ => .done 0 _

/-- The query adds no more than one request to the record. -/
def SendsOnce (query : Query α) (o : Outside) (r : Record) : Prop :=
  ∃ sent, (query.run.run o r).2.requests = r.requests ++ sent ∧ sent.length ≤ 1

/-- Orders are placed and canceled at most once. -/
structure SendsOrdersOnce (g : Gateway) (o : Outside) (r : Record) : Prop where
  placed : ∀ order, SendsOnce (g.placeOrder order) o r
  canceled : ∀ pair clientOrderId exchangeOrderId,
    SendsOnce (g.cancelOrder pair clientOrderId exchangeOrderId) o r
  allCanceled : ∀ pair, SendsOnce (g.cancelAll pair) o r

end Gateway

/-- A call is one attempt, or for a read as many as it takes to come to an outcome that stays as it is,
within the retries; what it returns is read from the last outcome. -/
theorem reads_alone_are_retried {α : Type} (c : Client) (ask : Ask) (read : Json.Reader α) (g : Gateway)
    (o : Call.Outside) (r : Call.Record) :
    (∃ before last after, (c.call ask read).run.run o r = (last.bind (Client.decode read), after) ∧
        c.Attempted ask o r before last after) ∧
      g.SendsOrdersOnce o r := by
  constructor
  · obtain ⟨before, last, after, performed, repeated⟩ := c.perform_run ask o r
    exact ⟨before, last, after, Client.call_run read performed, Client.attempted_of_repeated repeated⟩
  · exact ⟨fun order => (g.placeOrder_sendsAtMost order).run r,
      fun pair clientOrderId exchangeOrderId =>
        (g.cancelOrder_sendsAtMost pair clientOrderId exchangeOrderId).run r,
      fun pair => (g.cancelAll_sendsAtMost pair).run r⟩

/-- A read of a server that is never reached, with two retries. -/
example :
    let client : Client := ⟨⟨"", "", 30, 2, "agent"⟩, none, true⟩
    ((client.get "/time" [] false .raw).run.run (Call.unreachable 0) .initial).2.slots =
      ["/time", "/time", "/time"] := by
  cbv

end MarketGateway
