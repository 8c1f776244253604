import MarketGateway.Http.Client
import MarketGateway.Proofs.Crypto.Base64
import MarketGateway.Proofs.Crypto.Signature
import MarketGateway.Proofs.Http.Calls
import MarketGateway.Proofs.Signing.MessageIdentity

/-!
# Signed requests

What is signed is what is sent: every request of a signed call carries a signature of the text that can
be put together from the request alone, and no other request carries one. Main statement:
`signed_is_sent`.
-/

namespace MarketGateway

theorem SigningKey.verifies_sign (key : Crypto.Ed25519.SecretKey) (message : String) :
    verifies key.publicKey message (sign key message) = true := by
  rw [verifies, sign, Crypto.Base64.decode_encode]
  exact Crypto.Ed25519.verify_sign key message.toUTF8.toList

/-! ### What a request shows -/

namespace Request

/-- The header is there, once, with this value. -/
def Carries (r : Request) (name value : String) : Prop :=
  r.headers.filter (fun h => h.1 == name) = [(name, value)]

/-- A text, number or truth value as it is signed. -/
def plainText? : Json → Option String
  | .string text => some text
  | .number n => some n.toText
  | .bool true => some "true"
  | .bool false => some "false"
  | .null | .array _ | .object _ => none

/-- The texts, numbers and truth values at the top level of the body. -/
def fields (r : Request) : List (String × String) :=
  if r.body.isEmpty then []
  else match (String.fromUTF8? r.body).bind Json.parse? with
    | some (.object members) => members.filterMap fun m => (plainText? m.2).map fun text => (m.1, text)
    | _ => []

/-- Puts a pair in front of the first one whose key is not smaller. -/
def insertByKey (p : String × String) : List (String × String) → List (String × String)
  | [] => [p]
  | q :: pairs => if p.1 ≤ q.1 then p :: q :: pairs else q :: insertByKey p pairs

/-- The pairs by their keys, and those of one key as they were. -/
def byKey (pairs : List (String × String)) : List (String × String) := pairs.foldr insertByKey []

/-- The text that the sender has to have signed, from the request and two of its headers. -/
def signedText (r : Request) (timestamp window : String) : String :=
  "&".intercalate
    (["instruction=" ++ (Instruction.ofRequest r.method r.path).name] ++
      (byKey (r.query ++ r.fields)).map (fun p => p.1 ++ "=" ++ p.2) ++
      ["timestamp=" ++ timestamp, "window=" ++ window])

structure IsSignedBy (c : Credentials) (r : Request) : Prop where
  apiKey : r.Carries "X-API-KEY" c.apiKey
  window : r.Carries "X-WINDOW" (toString c.windowMs)
  verified : ∃ (timestamp : Nat) (signature : String),
    r.Carries "X-TIMESTAMP" (toString timestamp) ∧ r.Carries "X-SIGNATURE" signature ∧
      SigningKey.verifies c.key.publicKey (r.signedText (toString timestamp) (toString c.windowMs))
        signature = true

def IsUnsigned (r : Request) : Prop :=
  ∀ h ∈ r.headers, h.1 ∉ ["X-API-KEY", "X-SIGNATURE", "X-TIMESTAMP", "X-WINDOW"]

theorem plainText?_eq (value : Json) : plainText? value = Signing.signedText? value := by
  cases value with
  | bool b => cases b <;> rfl
  | _ => rfl

theorem fields_of_bodyParams {r : Request} {params : List (String × String)}
    (read : Signing.bodyParams r.body = .ok params) : r.fields = params := by
  unfold Signing.bodyParams at read
  unfold fields
  split at read
  · rename_i empty
    rw [if_pos empty]
    exact Except.ok.inj read
  · rename_i nonempty
    rw [if_neg nonempty]
    cases parsed : (String.fromUTF8? r.body).bind Json.parse? with
    | none => simp [parsed] at read
    | some value =>
      rw [parsed] at read
      simp only [plainText?_eq]
      cases value <;> exact Except.ok.inj read

/-! ### Sorting by keys -/

theorem insertByKey_perm (p : String × String) (pairs : List (String × String)) :
    (insertByKey p pairs).Perm (p :: pairs) := by
  induction pairs with
  | nil => exact .refl _
  | cons q pairs ih =>
    rw [insertByKey]
    split
    · exact .refl _
    · exact (ih.cons q).trans (.swap p q pairs)

theorem insertByKey_sorted (p : String × String) {pairs : List (String × String)}
    (sorted : pairs.Pairwise fun a b => a.1 ≤ b.1) : (insertByKey p pairs).Pairwise fun a b => a.1 ≤ b.1 := by
  induction pairs with
  | nil => exact List.pairwise_singleton _ p
  | cons q pairs ih =>
    obtain ⟨least, rest⟩ := List.pairwise_cons.mp sorted
    rw [insertByKey]
    split
    · rename_i first
      refine List.pairwise_cons.mpr ⟨fun other member => ?_, sorted⟩
      rcases List.mem_cons.mp member with rfl | later
      · exact first
      · exact String.le_trans first (least other later)
    · rename_i behind
      refine List.pairwise_cons.mpr ⟨fun other member => ?_, ih rest⟩
      rcases List.mem_cons.mp ((insertByKey_perm p pairs).mem_iff.mp member) with rfl | later
      · exact (String.le_total other.1 q.1).resolve_left behind
      · exact least other later

theorem byKey_sorted (pairs : List (String × String)) : (byKey pairs).Pairwise fun a b => a.1 ≤ b.1 := by
  induction pairs with
  | nil => exact .nil
  | cons p pairs ih => exact insertByKey_sorted p ih

theorem valuesOf_insertByKey (key : String) (p : String × String) (pairs : List (String × String)) :
    Signing.valuesOf key (insertByKey p pairs) = Signing.valuesOf key (p :: pairs) := by
  induction pairs with
  | nil => rfl
  | cons q pairs ih =>
    rw [insertByKey]
    split
    · rfl
    · -- The two change places, which only pairs of different keys do.
      rename_i behind
      have different : p.1 ≠ q.1 := fun same => behind (same ▸ String.le_refl _)
      simp only [Signing.valuesOf, List.filter_cons, beq_iff_eq] at ih ⊢
      by_cases first : p.1 = key
      · have other : ¬ q.1 = key := fun second => different (first.trans second.symm)
        simpa only [first, other, if_true, if_false] using ih
      · simp only [first, if_false] at ih ⊢
        split
        · exact congrArg (q.2 :: ·) ih
        · exact ih

theorem valuesOf_byKey (key : String) (pairs : List (String × String)) :
    Signing.valuesOf key (byKey pairs) = Signing.valuesOf key pairs := by
  induction pairs with
  | nil => rfl
  | cons p pairs ih =>
    rw [byKey, List.foldr_cons, valuesOf_insertByKey, Signing.valuesOf, List.filter_cons, Signing.valuesOf,
      List.filter_cons]
    split
    · exact congrArg (p.2 :: ·) ih
    · exact ih

/-- The pairs are signed in this order. -/
theorem byKey_eq_sortParams (pairs : List (String × String)) : byKey pairs = Signing.sortParams pairs :=
  Signing.sorted_ext (byKey_sorted pairs) (Signing.sortParams_sorted pairs) fun key =>
    (valuesOf_byKey key pairs).trans (Signing.valuesOf_sortParams key pairs).symm

theorem signedText_eq_message (r : Request) (timestamp window : Nat) :
    r.signedText (toString timestamp) (toString window) =
      Signing.message (Instruction.ofRequest r.method r.path).name (r.query ++ r.fields) timestamp window := by
  rw [signedText, byKey_eq_sortParams]
  rfl

end Request

/-! ### What a client sends -/

namespace Client

open Call (Outside Record)

variable {c : Client} {ask : Ask} {possible : Int64 → Prop} {allowed : Request → Prop}
  {headers : List (String × String)}

/-- The request is that of the caller, and signed exactly if it has to be. -/
structure Conveys (c : Client) (ask : Ask) (request : Request) : Prop where
  method : request.method = ask.method
  path : request.path = ask.path
  query : request.query = ask.query
  body : request.body = bodyBytes ask.body
  signed : ask.signed = true → ∃ credentials, c.credentials = some credentials ∧
    request.IsSignedBy credentials
  unsigned : ask.signed = false → request.IsUnsigned

/-- What stands in front of the content headers of a request, depending on whether it is signed. -/
def SigningHeaders (c : Client) (ask : Ask) (headers : List (String × String)) : Prop :=
  (ask.signed = false ∧ headers = []) ∨
    ask.signed = true ∧ ∃ credentials params timestamp, c.credentials = some credentials ∧
      Signing.bodyParams (bodyBytes ask.body) = .ok params ∧
      headers = credentials.headers ask.method ask.path (ask.query ++ params) timestamp

theorem signRequest_eq_ok {credentials : Credentials} {method path : String}
    {query : List (String × String)} {body : ByteArray} {timestamp : Nat}
    (made : credentials.signRequest method path query body timestamp = .ok headers) :
    ∃ params, Signing.bodyParams body = .ok params ∧
      headers = credentials.headers method path (query ++ params) timestamp := by
  unfold Credentials.signRequest at made
  cases read : Signing.bodyParams body with
  | error e => simp [read, bind, Except.bind] at made
  | ok params =>
    rw [read] at made
    exact ⟨params, rfl, (Except.ok.inj made).symm⟩

theorem signingHeaders_sends :
    (c.signingHeaders ask (bodyBytes ask.body)).Sends possible allowed (c.SigningHeaders ask) := by
  unfold signingHeaders
  cases signed : ask.signed with
  | false => exact ApiCall.sends_pure (.inl ⟨signed, rfl⟩)
  | true =>
    cases given : c.credentials with
    | none => exact ApiCall.sends_throw _
    | some credentials =>
      refine ApiCall.sends_clock.bind fun t _ => ?_
      refine (ApiCall.sends_ofExcept fun _ _ => trivial).bind fun timestamp _ => ?_
      refine ApiCall.sends_ofExcept fun headers made => ?_
      obtain ⟨params, read, rfl⟩ := signRequest_eq_ok made
      exact .inr ⟨signed, credentials, params, timestamp, given, read, rfl⟩

def requestOf (c : Client) (ask : Ask) (headers : List (String × String)) : Request where
  method := ask.method
  server := c.server
  path := ask.path
  query := ask.query
  headers := ("User-Agent", c.options.userAgent) :: headers ++ contentHeaders (bodyBytes ask.body)
  body := bodyBytes ask.body

theorem contentHeaders_cases (body : ByteArray) :
    contentHeaders body = [] ∨ contentHeaders body = [("Content-Type", "application/json")] := by
  unfold contentHeaders
  split
  · exact .inl rfl
  · exact .inr rfl

/-- The headers of a signature stand in a request once each. -/
theorem requestOf_carries (c : Client) (ask : Ask) (credentials : Credentials)
    (params : List (String × String)) (timestamp : Nat) {name value : String}
    (member : (name, value) ∈ credentials.headers ask.method ask.path params timestamp) :
    (c.requestOf ask (credentials.headers ask.method ask.path params timestamp)).Carries name value := by
  simp only [Credentials.headers, List.mem_cons, Prod.mk.injEq, List.not_mem_nil, or_false] at member
  rcases contentHeaders_cases (bodyBytes ask.body) with content | content <;>
    rcases member with ⟨rfl, rfl⟩ | ⟨rfl, rfl⟩ | ⟨rfl, rfl⟩ | ⟨rfl, rfl⟩ <;>
    simp [Request.Carries, requestOf, content, Credentials.headers, Credentials.apiKeyHeader,
      Credentials.signatureHeader, Credentials.timestampHeader, Credentials.windowHeader]

theorem requestOf_isSignedBy {credentials : Credentials} {params : List (String × String)}
    (timestamp : Nat) (read : Signing.bodyParams (bodyBytes ask.body) = .ok params) :
    (c.requestOf ask (credentials.headers ask.method ask.path (ask.query ++ params) timestamp)).IsSignedBy
      credentials := by
  have message : (c.requestOf ask (credentials.headers ask.method ask.path (ask.query ++ params)
      timestamp)).signedText (toString timestamp) (toString credentials.windowMs) =
      Signing.message (Instruction.ofRequest ask.method ask.path).name (ask.query ++ params) timestamp
        credentials.windowMs := by
    rw [Request.signedText_eq_message, Request.fields_of_bodyParams read]
    rfl
  constructor
  · exact requestOf_carries c ask credentials _ timestamp (.head _)
  · exact requestOf_carries c ask credentials _ timestamp (.tail _ (.tail _ (.tail _ (.head _))))
  · refine ⟨timestamp, _, ?_, requestOf_carries c ask credentials _ timestamp (.tail _ (.head _)), ?_⟩
    · exact requestOf_carries c ask credentials _ timestamp (.tail _ (.tail _ (.head _)))
    · rw [message]
      exact SigningKey.verifies_sign _ _

theorem requestOf_isUnsigned (c : Client) (ask : Ask) : (c.requestOf ask []).IsUnsigned := by
  intro h member
  rcases contentHeaders_cases (bodyBytes ask.body) with content | content <;>
    simp only [requestOf, content, List.append_nil, List.cons_append, List.nil_append, List.mem_cons,
      List.not_mem_nil, or_false] at member
  · subst member
    simp
  · rcases member with rfl | rfl <;> simp

theorem requestOf_conveys (signing : c.SigningHeaders ask headers) :
    c.Conveys ask (c.requestOf ask headers) := by
  rcases signing with ⟨unsigned, rfl⟩ | ⟨signed, credentials, params, timestamp, given, read, rfl⟩
  · exact ⟨rfl, rfl, rfl, rfl, fun signed => by simp [unsigned] at signed,
      fun _ => requestOf_isUnsigned c ask⟩
  · exact ⟨rfl, rfl, rfl, rfl, fun _ => ⟨credentials, given, requestOf_isSignedBy timestamp read⟩,
      fun unsigned => by simp [signed] at unsigned⟩

/-! ### Attempts -/

def afterSlot (c : Client) (ask : Ask) : ApiCall Json := do
  let headers ← c.signingHeaders ask (bodyBytes ask.body)
  unless headers.all fun h => isHeaderText h.2 do throw (.network .request)
  let response ← .send (c.requestOf ask headers)
  .ofExcept (content response)

theorem attempt_eq (c : Client) (ask : Ask) :
    c.attempt ask =
      if c.throttled then ApiCall.slot ask.path >>= fun _ => c.afterSlot ask else c.afterSlot ask := rfl

theorem attempt_sends (c : Client) (ask : Ask) :
    (c.attempt ask).Sends possible (c.Conveys ask) fun _ => True := by
  have rest : (c.afterSlot ask).Sends possible (c.Conveys ask) fun _ => True := by
    -- The headers hold a signature for the bytes of the body, and the request is made with the same bytes.
    refine signingHeaders_sends.bind fun headers signing => ?_
    have sending : (ApiCall.send (c.requestOf ask headers) >>= fun response =>
        ApiCall.ofExcept (content response)).Sends possible (c.Conveys ask) fun _ => True :=
      (ApiCall.sends_send (requestOf_conveys signing)).bind fun _ _ =>
        ApiCall.sends_ofExcept fun _ _ => trivial
    dsimp only
    split
    · exact sending
    · have refused : (throw (.network .request) : ApiCall Unit).Sends possible (c.Conveys ask)
          fun _ => True := ApiCall.sends_throw _
      exact refused.bind fun _ _ => sending
  rw [attempt_eq]
  split
  · exact (ApiCall.sends_slot _).bind fun _ _ => rest
  · exact rest

theorem call_sends {α : Type} (c : Client) (ask : Ask) (read : Json.Reader α) :
    (c.call ask read).Sends possible (c.Conveys ask) fun _ => True := by
  have performed : (c.perform ask).Sends possible (c.Conveys ask) fun _ => True :=
    Call.Sends.retrying (attempt_sends c ask) (c.retries ask)
  exact performed.bind fun _ _ => ApiCall.sends_ofExcept fun _ _ => trivial

/-! ### What makes sure that something is sent -/

/-- The client can sign the request, if it has to be signed. -/
def CanSign (c : Client) (ask : Ask) : Prop :=
  ask.signed = true → ∃ credentials params, c.credentials = some credentials ∧
    isHeaderText credentials.apiKey = true ∧ Signing.bodyParams (bodyBytes ask.body) = .ok params

theorem isHeaderText_encode (bytes : List UInt8) : isHeaderText (Crypto.Base64.encode bytes) = true := by
  have symbols : isHeaderText (String.ofList ('=' :: Crypto.Base64.alphabet)) = true := by decide
  rw [isHeaderText, String.toList_ofList, List.all_eq_true] at symbols
  rw [isHeaderText, Crypto.Base64.encode, String.toList_ofList, List.all_eq_true]
  exact fun ch member => symbols ch (Crypto.Base64.mem_encodeChars member)

theorem isHeaderText_toString (n : Nat) : isHeaderText (toString n) = true := by
  rw [isHeaderText, List.all_eq_true]
  intro ch member
  have digit : ch.isDigit :=
    Nat.isDigit_of_mem_toDigits (b := 10) (n := n) (by decide) (by decide) (by simpa using member)
  simp only [Char.isDigit, ge_iff_le, Bool.and_eq_true, decide_eq_true_eq, UInt32.le_iff_toNat_le] at digit
  have low : 48 ≤ ch.toNat := digit.1
  have high : ch.toNat ≤ 57 := digit.2
  have visible : 0x20 ≤ ch.toNat ∧ ch.toNat ≠ 0x7f := by omega
  simp [visible]

theorem headers_isHeaderText {credentials : Credentials} (key : isHeaderText credentials.apiKey = true)
    (method path : String) (params : List (String × String)) (timestamp : Nat) :
    ((credentials.headers method path params timestamp).all fun h => isHeaderText h.2) = true := by
  simp only [Credentials.headers, List.all_cons, List.all_nil, Bool.and_true, key, SigningKey.sign,
    isHeaderText_encode, isHeaderText_toString]

theorem timestamp_eq_ok {t : Int64} (late : 0 ≤ t.toInt) : Signing.timestamp t = .ok t.toInt.toNat :=
  if_pos late

theorem signingHeaders_yields (able : c.CanSign ask) :
    (c.signingHeaders ask (bodyBytes ask.body)).Yields (fun t => 0 ≤ t.toInt)
      fun headers => (headers.all fun h => isHeaderText h.2) = true := by
  unfold signingHeaders
  cases signed : ask.signed with
  | false => exact ApiCall.yields_pure rfl
  | true =>
    obtain ⟨credentials, params, given, key, read⟩ := able signed
    rw [given]
    refine ApiCall.yields_clock.bind fun t late => ?_
    have timed : (ApiCall.ofExcept (Signing.timestamp t)).Yields (fun t => 0 ≤ t.toInt) fun _ => True :=
      ApiCall.yields_ofExcept (timestamp_eq_ok late) trivial
    refine timed.bind fun timestamp _ => ?_
    have made : credentials.signRequest ask.method ask.path ask.query (bodyBytes ask.body) timestamp =
        .ok (credentials.headers ask.method ask.path (ask.query ++ params) timestamp) := by
      rw [Credentials.signRequest, read]
      rfl
    exact ApiCall.yields_ofExcept made (headers_isHeaderText key _ _ _ _)

theorem attempt_reaches (able : c.CanSign ask) : (c.attempt ask).Reaches fun t => 0 ≤ t.toInt := by
  have rest : (c.afterSlot ask).Reaches fun t => 0 ≤ t.toInt := by
    refine (signingHeaders_yields able).bind_reaches fun headers fine => ?_
    rw [if_pos fine]
    exact (ApiCall.reaches_send _).bind
  rw [attempt_eq]
  split
  · exact (ApiCall.yields_slot _).bind_reaches fun _ _ => rest
  · exact rest

theorem call_reaches {α : Type} (able : c.CanSign ask) (read : Json.Reader α) :
    (c.call ask read).Reaches fun t => 0 ≤ t.toInt := by
  have performed : (c.perform ask).Reaches fun t => 0 ≤ t.toInt :=
    Call.Reaches.retrying (attempt_reaches able) (c.retries ask)
  exact performed.bind

/-- Whatever the outside does, the requests of a call are those of the caller, each with a signature that
can be checked from the request alone if the call is to be signed, and with no header of a signature if
not. Nothing is sent that would have to be signed by a client that cannot sign. -/
theorem signed_is_sent {α : Type} (c : Client) (ask : Ask) (read : Json.Reader α) (o : Outside)
    (r : Record) :
    ∃ sent, ((c.call ask read).run.run o r).2.requests = r.requests ++ sent ∧
      (∀ request ∈ sent, c.Conveys ask request) ∧
      (ask.signed = true → c.credentials = none → sent = []) ∧
      ((∀ n, 0 ≤ (o.clock n).toInt) → c.CanSign ask → sent ≠ []) := by
  have sends : (c.call ask read).Sends (fun _ => True) (c.Conveys ask) fun _ => True :=
    call_sends c ask read
  obtain ⟨sent, requests, fine⟩ := Call.Sends.run o r sends fun _ => trivial
  refine ⟨sent, requests, fine, fun signed missing => ?_, fun late able => ?_⟩
  · refine List.eq_nil_iff_forall_not_mem.mpr fun request member => ?_
    obtain ⟨credentials, given, -⟩ := (fine request member).signed signed
    rw [missing] at given
    cases given
  · rintro rfl
    have more := Call.Reaches.run o r (call_reaches able read) late
    rw [requests, List.append_nil] at more
    exact lt_irrefl _ more

namespace Unanswered

def signer : Credentials := ⟨"public", ⟨List.replicate 32 7, rfl⟩, defaultWindowMs⟩

def client : Client := ⟨.ofServer "https://api" "exchange", some signer, true⟩

def body : Json := .ofMembers [("symbol", .string "SOL_USDC"), ("note", .null), ("postOnly", .bool true)]

def order : Ask := ⟨"POST", Exchange.orderPath, [], some body, true⟩

end Unanswered

open Unanswered in
/-- An order that no server answers; of its body, only texts and truth values are signed. -/
theorem signed_is_sent_unanswered :
    ∃ request ∈ ((client.call order .raw).run.run (Call.unreachable 1700000000000) .initial).2.requests,
      request.IsSignedBy signer ∧
        request.fields = [("postOnly", "true"), ("symbol", "SOL_USDC")] := by
  have read : Signing.bodyParams (bodyBytes order.body) =
      .ok [("postOnly", "true"), ("symbol", "SOL_USDC")] := rfl
  have late : 0 ≤ (1700000000000 : Int64).toInt := by decide
  have able : client.CanSign order := fun _ => ⟨signer, _, rfl, by decide, read⟩
  obtain ⟨sent, requests, fine, -, reached⟩ :=
    signed_is_sent client order .raw (Call.unreachable 1700000000000) .initial
  obtain ⟨request, member⟩ := List.exists_mem_of_ne_nil sent (reached (fun _ => late) able)
  obtain ⟨_, given, isSigned⟩ := (fine request member).signed rfl
  cases given
  refine ⟨request, ?_, isSigned, Request.fields_of_bodyParams ?_⟩
  · rw [requests]
    exact List.mem_append_right _ member
  · rw [(fine request member).body]
    exact read

end Client

end MarketGateway
