import MarketGateway.Http.Client

/-!
# What calls send

Two properties of the tree of a call, each with what it says of a run on an outside whose clock shows
possible times: `Sends` says which requests a call may send and what it may come to, and `Reaches` that
it sends a request in any case.
-/

namespace MarketGateway

namespace Call

variable {α β : Type} {possible : Int64 → Prop} {allowed : Request → Prop} {post middle : α → Prop}
  {after : β → Prop}

/-- Every request of the call is allowed, and what the call comes to has the property. -/
def Sends (possible : Int64 → Prop) (allowed : Request → Prop) (post : α → Prop) : Call α → Prop
  | .done a => post a
  | .clock next => ∀ t, possible t → (next t).Sends possible allowed post
  | .slot _ next => next.Sends possible allowed post
  | .orderNumber _ next => ∀ n, (next n).Sends possible allowed post
  | .send request next => allowed request ∧ ∀ answer, (next answer).Sends possible allowed post

/-- The call sends a request, whatever it is told. -/
def Reaches (possible : Int64 → Prop) : Call α → Prop
  | .done _ => False
  | .clock next => ∀ t, possible t → (next t).Reaches possible
  | .slot _ next => next.Reaches possible
  | .orderNumber _ next => ∀ n, (next n).Reaches possible
  | .send _ _ => True

theorem Sends.imp {call : Call α} {allowed' : Request → Prop} {post' : α → Prop}
    (sends : call.Sends possible allowed post) (wider : ∀ request, allowed request → allowed' request)
    (weaker : ∀ a, post a → post' a) : call.Sends possible allowed' post' := by
  induction call with
  | done a => exact weaker a sends
  | clock next ih => exact fun t shown => ih t (sends t shown)
  | slot limit next ih => exact ih sends
  | orderNumber time next ih => exact fun n => ih n (sends n)
  | send request next ih => exact ⟨wider request sends.1, fun answer => ih answer (sends.2 answer)⟩

/-! ### Sequences -/

theorem Sends.bind {call : Call α} {f : α → Call β} (first : call.Sends possible allowed middle)
    (rest : ∀ a, middle a → (f a).Sends possible allowed after) :
    (call.bind f).Sends possible allowed after := by
  induction call with
  | done a => exact rest a first
  | clock next ih => exact fun t shown => ih t (first t shown)
  | slot limit next ih => exact ih first
  | orderNumber time next ih => exact fun n => ih n (first n)
  | send request next ih => exact ⟨first.1, fun answer => ih answer (first.2 answer)⟩

theorem Reaches.bind {call : Call α} {f : α → Call β} (reaches : call.Reaches possible) :
    (call.bind f).Reaches possible := by
  induction call with
  | done a => exact reaches.elim
  | clock next ih => exact fun t shown => ih t (reaches t shown)
  | slot limit next ih => exact ih reaches
  | orderNumber time next ih => exact fun n => ih n (reaches n)
  | send request next ih => trivial

theorem Sends.bind_reaches {call : Call α} {f : α → Call β} (first : call.Sends possible allowed middle)
    (rest : ∀ a, middle a → (f a).Reaches possible) : (call.bind f).Reaches possible := by
  induction call with
  | done a => exact rest a first
  | clock next ih => exact fun t shown => ih t (first t shown)
  | slot limit next ih => exact ih first
  | orderNumber time next ih => exact fun n => ih n (first n)
  | send request next ih => trivial

/-- Repeated attempts send what one attempt may send, and come to what one may come to. -/
theorem Sends.retrying {attempt : Call (Except ExchangeError α)} {post : Except ExchangeError α → Prop}
    (sends : attempt.Sends possible allowed post) (retries : Nat) :
    (Call.retrying attempt retries).Sends possible allowed post := by
  induction retries with
  | zero => exact sends
  | succ retries ih =>
    refine Sends.bind sends fun result holds => ?_
    cases result with
    | ok a => exact holds
    | error e =>
      cases transient : e.isTransient with
      | true => simpa [transient] using ih
      | false =>
        simp only [transient, Bool.false_eq_true, ↓reduceIte]
        exact holds

theorem Reaches.retrying {attempt : Call (Except ExchangeError α)} (reaches : attempt.Reaches possible)
    (retries : Nat) : (Call.retrying attempt retries).Reaches possible := by
  cases retries with
  | zero => exact reaches
  | succ retries => exact Reaches.bind reaches

/-! ### Runs -/

section Runs
variable (o : Outside) (r : Record)

theorem Sends.run {call : Call α} (sends : call.Sends possible allowed post)
    (shown : ∀ n, possible (o.clock n)) :
    ∃ sent, (call.run o r).2.requests = r.requests ++ sent ∧ ∀ request ∈ sent, allowed request := by
  induction call generalizing r with
  | done a => exact ⟨[], by simp [Call.run], nofun⟩
  | clock next ih => exact ih _ { r with readings := r.readings + 1 } (sends _ (shown _))
  | slot limit next ih => exact ih { r with slots := r.slots ++ [limit] } sends
  | orderNumber time next ih =>
    exact ih _ { r with lastNumber := ClientId.next r.lastNumber time } (sends _)
  | send request next ih =>
    obtain ⟨sent, requests, fine⟩ :=
      ih _ { r with requests := r.requests ++ [request] } (sends.2 (o.answer (r.requests ++ [request])))
    refine ⟨request :: sent, by simp [Call.run, requests], fun other member => ?_⟩
    rcases List.mem_cons.mp member with rfl | later
    · exact sends.1
    · exact fine other later

theorem Sends.result {call : Call α} (sends : call.Sends possible allowed post)
    (shown : ∀ n, possible (o.clock n)) : post (call.run o r).1 := by
  induction call generalizing r with
  | done a => exact sends
  | clock next ih => exact ih _ { r with readings := r.readings + 1 } (sends _ (shown _))
  | slot limit next ih => exact ih { r with slots := r.slots ++ [limit] } sends
  | orderNumber time next ih =>
    exact ih _ { r with lastNumber := ClientId.next r.lastNumber time } (sends _)
  | send request next ih =>
    exact ih _ { r with requests := r.requests ++ [request] } (sends.2 (o.answer (r.requests ++ [request])))

theorem requests_extend (call : Call α) : r.requests <+: (call.run o r).2.requests := by
  induction call generalizing r with
  | done a => exact List.prefix_refl _
  | clock next ih => exact ih (o.clock r.readings) { r with readings := r.readings + 1 }
  | slot limit next ih => exact ih { r with slots := r.slots ++ [limit] }
  | orderNumber time next ih => exact ih _ { r with lastNumber := ClientId.next r.lastNumber time }
  | send request next ih =>
    exact (List.prefix_append r.requests [request]).trans
      (ih _ { r with requests := r.requests ++ [request] })

theorem Reaches.run {call : Call α} (reaches : call.Reaches possible)
    (shown : ∀ n, possible (o.clock n)) : r.requests.length < (call.run o r).2.requests.length := by
  induction call generalizing r with
  | done a => exact reaches.elim
  | clock next ih =>
    exact ih (o.clock r.readings) { r with readings := r.readings + 1 } (reaches _ (shown _))
  | slot limit next ih => exact ih { r with slots := r.slots ++ [limit] } reaches
  | orderNumber time next ih =>
    exact ih _ { r with lastNumber := ClientId.next r.lastNumber time } (reaches _)
  | send request next ih =>
    have later := (requests_extend o { r with requests := r.requests ++ [request] }
      (next (o.answer (r.requests ++ [request])))).length_le
    simp only [List.length_append, List.length_singleton] at later
    exact later

end Runs

end Call

/-! ### Calls that may fail -/

namespace ApiCall

variable {α β : Type} {possible : Int64 → Prop} {allowed : Request → Prop} {post middle : α → Prop}
  {after : β → Prop} {x : ApiCall α} {f : α → ApiCall β}

/-- As for calls, where the property is one of the results that are no errors. -/
def Sends (possible : Int64 → Prop) (allowed : Request → Prop) (post : α → Prop) (x : ApiCall α) : Prop :=
  x.run.Sends possible allowed fun result => ∀ a, result = .ok a → post a

/-- The call does not fail before it comes to a result with the property. -/
def Yields (possible : Int64 → Prop) (post : α → Prop) (x : ApiCall α) : Prop :=
  x.run.Sends possible (fun _ => True) fun result => ∃ a, result = .ok a ∧ post a

def Reaches (possible : Int64 → Prop) (x : ApiCall α) : Prop := x.run.Reaches possible

theorem Sends.bind (first : x.Sends possible allowed middle)
    (rest : ∀ a, middle a → (f a).Sends possible allowed after) :
    (x >>= f).Sends possible allowed after := by
  refine Call.Sends.bind first fun result holds => ?_
  cases result with
  | ok a => exact rest a (holds a rfl)
  | error e => exact nofun

theorem Yields.bind (first : x.Yields possible middle) (rest : ∀ a, middle a → (f a).Yields possible after) :
    (x >>= f).Yields possible after := by
  refine Call.Sends.bind first fun result holds => ?_
  obtain ⟨a, rfl, has⟩ := holds
  exact rest a has

theorem Reaches.bind (reaches : x.Reaches possible) : (x >>= f).Reaches possible :=
  Call.Reaches.bind reaches

theorem Yields.bind_reaches (first : x.Yields possible middle)
    (rest : ∀ a, middle a → (f a).Reaches possible) : (x >>= f).Reaches possible := by
  refine Call.Sends.bind_reaches first fun result holds => ?_
  obtain ⟨a, rfl, has⟩ := holds
  exact rest a has

theorem sends_pure {a : α} (has : post a) : (pure a : ApiCall α).Sends possible allowed post := by
  rintro _ same
  rw [← Except.ok.inj same]
  exact has

theorem sends_throw (e : ExchangeError) : (throw e : ApiCall α).Sends possible allowed post := nofun

theorem sends_ofExcept {result : Except ExchangeError α} (has : ∀ a, result = .ok a → post a) :
    (ofExcept result).Sends possible allowed post := has

theorem sends_clock : clock.Sends possible allowed possible := by
  rintro t shown _ same
  rw [← Except.ok.inj same]
  exact shown

theorem sends_slot (limit : String) : (slot limit).Sends possible allowed fun _ => True := by
  intro _ _
  trivial

theorem sends_send {request : Request} (fine : allowed request) :
    (send request).Sends possible allowed fun _ => True := ⟨fine, fun _ _ _ => trivial⟩

theorem yields_pure {a : α} (has : post a) : (pure a : ApiCall α).Yields possible post := ⟨a, rfl, has⟩

theorem yields_ofExcept {result : Except ExchangeError α} {a : α} (made : result = .ok a) (has : post a) :
    (ofExcept result).Yields possible post := ⟨a, made, has⟩

theorem yields_clock : clock.Yields possible possible := fun t shown => ⟨t, rfl, shown⟩

theorem yields_slot (limit : String) : (slot limit).Yields possible fun _ => True := ⟨(), rfl, trivial⟩

theorem reaches_send (request : Request) : (send request).Reaches possible := trivial

end ApiCall

end MarketGateway
