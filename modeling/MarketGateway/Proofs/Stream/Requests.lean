import MarketGateway.Proofs.Http.SignedRequests
import MarketGateway.Proofs.Json.ComesBack
import MarketGateway.Proofs.Stream.Decoding

/-!
# Frames that ask for streams

A frame that asks for streams says so when it is read back, and carries a signature if one of them is
private; without credentials there is no such frame. Main statement: `stream_requests_are_exact`.
-/

namespace MarketGateway

open Json (memberOf? Readable)

variable {credentials : Option Credentials} {c : Credentials} {action : StreamAction}
  {streams : List String} {nowMs : Int64}

/-! ### What a frame says -/

/-- The name of one of the streams begins with that of the account. -/
def AsksPrivate (streams : List String) : Prop :=
  ∃ stream ∈ streams, ∃ channel, stream = "account." ++ channel

/-- The key, the signature, the time and the window; the signature is that of the last two. -/
def Credentials.IsStreamSignature (c : Credentials) (nowMs : Int64) (value : Json) : Prop :=
  ∃ signature timestamp window,
    value = .array [.string c.apiKey, .string signature, .string timestamp, .string window] ∧
    timestamp = toString nowMs.toInt ∧ window = toString c.windowMs ∧
    SigningKey.verifies c.key.publicKey
      ("instruction=subscribe&timestamp=" ++ timestamp ++ "&window=" ++ window) signature = true

/-- The members of a frame that asks for all of the streams, in their order. -/
structure AsksFor (credentials : Option Credentials) (name : String) (streams : List String)
    (nowMs : Int64) (members : List (String × Json)) : Prop where
  method : memberOf? "method" members = some (.string name)
  params : memberOf? "params" members = some (.array (streams.map .string))
  signed : (∃ value, memberOf? "signature" members = some value) ↔ AsksPrivate streams
  signature : ∀ value, memberOf? "signature" members = some value →
    ∃ c, credentials = some c ∧ c.IsStreamSignature nowMs value

theorem any_isPrivateStream : streams.any isPrivateStream = true ↔ AsksPrivate streams := by
  simp only [List.any_eq_true, isPrivateStream, StreamMessage.startsWith_iff, AsksPrivate,
    Exchange.privateChannel]

/-! ### Private streams -/

theorem Signing.message_subscribe (timestamp window : Nat) :
    Signing.message Instruction.subscribe.name [] timestamp window =
      "instruction=subscribe&timestamp=" ++ toString timestamp ++ "&window=" ++ toString window := by
  have start : "instruction=subscribe&timestamp=" =
      "instruction" ++ "=" ++ "subscribe" ++ "&" ++ "timestamp" ++ "=" := rfl
  have middle : "&window=" = "&" ++ "window" ++ "=" := rfl
  rw [start, middle]
  simp [Signing.message, Signing.sortParams, Signing.field, Instruction.name, String.append_assoc,
    -String.reduceAppend]

theorem isStreamSignature (epoch : 0 ≤ nowMs.toInt) :
    c.IsStreamSignature nowMs (.array ((c.streamSignature nowMs.toInt.toNat).map .string)) := by
  refine ⟨_, _, _, rfl, ?_, rfl, ?_⟩
  · rw [← Int.toNat_of_nonneg epoch]
    rfl
  · rw [← Signing.message_subscribe]
    exact SigningKey.verifies_sign ..

/-! ### The frames -/

theorem streamRequestFrame_unable (secret : AsksPrivate streams) :
    streamRequestFrame none action streams nowMs = .error .authenticationRequired := by
  unfold streamRequestFrame streamRequest
  rw [if_pos (any_isPrivateStream.mpr secret)]
  rfl

theorem streamRequestFrame_private (secret : AsksPrivate streams) (epoch : 0 ≤ nowMs.toInt) :
    streamRequestFrame (some c) action streams nowMs =
      .ok (.text (c.streamFrame action.name streams nowMs.toInt.toNat).render) := by
  unfold streamRequestFrame streamRequest
  rw [if_pos (any_isPrivateStream.mpr secret), Client.timestamp_eq_ok epoch]
  rfl

theorem streamRequestFrame_public (known : ¬ AsksPrivate streams) :
    streamRequestFrame credentials action streams nowMs = .ok (.text (Json.ofMembers
      [("method", .string action.name), ("params", .array (streams.map .string))]).render) := by
  unfold streamRequestFrame streamRequest
  rw [if_neg fun found => known (any_isPrivateStream.mp found)]
  rfl

/-- The text of a frame is read as the members of one that asks for the streams. -/
def ReadsAsRequest (text : String) (credentials : Option Credentials) (name : String)
    (streams : List String) (nowMs : Int64) : Prop :=
  ∃ members, Json.parse? text = some (.object members) ∧
    AsksFor credentials name streams nowMs members

theorem streamFrame_reads (secret : AsksPrivate streams) (epoch : 0 ≤ nowMs.toInt) (name : String) :
    ReadsAsRequest (c.streamFrame name streams nowMs.toInt.toNat).render (some c) name streams nowMs := by
  obtain ⟨members, read, same⟩ := Json.parse?_render_ofMembers [("method", .string name),
      ("params", .array (streams.map .string)),
      ("signature", .array ((c.streamSignature nowMs.toInt.toNat).map .string))]
    (by simp [Json.Distinct]) (by
      simp only [List.forall_mem_cons]
      exact ⟨.string name, .strings streams, .strings _, nofun⟩)
  have signature : memberOf? "signature" members =
      some (.array ((c.streamSignature nowMs.toInt.toNat).map .string)) := same "signature"
  refine ⟨members, read, same "method", same "params", iff_of_true ⟨_, signature⟩ secret, ?_⟩
  rintro value found
  obtain rfl := Option.some.inj (signature.symm.trans found)
  exact ⟨c, rfl, isStreamSignature epoch⟩

theorem publicFrame_reads (known : ¬ AsksPrivate streams) (name : String) :
    ReadsAsRequest (Json.ofMembers [("method", .string name),
      ("params", .array (streams.map .string))]).render credentials name streams nowMs := by
  obtain ⟨members, read, same⟩ := Json.parse?_render_ofMembers
    [("method", .string name), ("params", .array (streams.map .string))]
    (by simp [Json.Distinct]) (by
      simp only [List.forall_mem_cons]
      exact ⟨.string name, .strings streams, nofun⟩)
  have unsigned : memberOf? "signature" members = none := same "signature"
  refine ⟨members, read, same "method", same "params", iff_of_false ?_ known, ?_⟩
  · rintro ⟨value, found⟩
    cases unsigned.symm.trans found
  · intro value found
    cases unsigned.symm.trans found

/-! ### Main result -/

/-- A frame about streams asks for all of them, and is signed exactly if one of them is private; there
is none exactly if one of them is private and nobody can sign. What is signed is a subscription, also
where one is to end. -/
theorem stream_requests_are_exact (credentials : Option Credentials) (streams : List String)
    (epoch : 0 ≤ nowMs.toInt) :
    ∀ request ∈ [(StreamAction.subscribe, "SUBSCRIBE"), (StreamAction.unsubscribe, "UNSUBSCRIBE")],
      (AsksPrivate streams ∧ credentials = none →
        streamRequestFrame credentials request.1 streams nowMs = .error .authenticationRequired) ∧
      (¬ (AsksPrivate streams ∧ credentials = none) →
        ∃ text, streamRequestFrame credentials request.1 streams nowMs = .ok (.text text) ∧
          ReadsAsRequest text credentials request.2 streams nowMs) := by
  intro request listed
  have name : request.1.name = request.2 := by
    rcases List.mem_pair.mp listed with rfl | rfl <;> rfl
  rw [← name]
  refine ⟨fun ⟨secret, unable⟩ => ?_, fun able => ?_⟩
  · rw [unable]
    exact streamRequestFrame_unable secret
  · by_cases secret : AsksPrivate streams
    · obtain ⟨c, rfl⟩ := Option.ne_none_iff_exists'.mp fun unable => able ⟨secret, unable⟩
      exact ⟨_, streamRequestFrame_private secret epoch, streamFrame_reads secret epoch _⟩
    · exact ⟨_, streamRequestFrame_public secret, publicFrame_reads secret _⟩

/-- A list of public names, some of them nearly private, and one with a private name among names that
have to be escaped. -/
theorem stream_requests_are_exact_mixed :
    let c : Credentials := ⟨"key", ⟨List.replicate 32 7, rfl⟩, 5000⟩
    let publicNames := ["", "account", "Account.x", "depth.account."]
    let names := ["depth.\"\\\n", "account.orderUpdate", "depth.\"\\\n"]
    0 ≤ (1700000000000 : Int64).toInt ∧
    streamRequestFrame none .unsubscribe names 1700000000000 = .error .authenticationRequired ∧
    (∃ text, streamRequestFrame (some c) .unsubscribe names 1700000000000 = .ok (.text text) ∧
      ReadsAsRequest text (some c) "UNSUBSCRIBE" names 1700000000000) ∧
    (∃ text, streamRequestFrame none .subscribe publicNames 1700000000000 = .ok (.text text) ∧
      ReadsAsRequest text none "SUBSCRIBE" publicNames 1700000000000) := by
  intro c publicNames names
  have epoch : 0 ≤ (1700000000000 : Int64).toInt := by decide
  have secret : AsksPrivate names := any_isPrivateStream.mp (by decide)
  have known : ¬ AsksPrivate publicNames := fun secret =>
    absurd (any_isPrivateStream.mpr secret) (by decide)
  have unable := stream_requests_are_exact none names epoch _ (.tail _ (.head _))
  have able := stream_requests_are_exact (some c) names epoch _ (.tail _ (.head _))
  have others := stream_requests_are_exact none publicNames epoch _ (.head _)
  exact ⟨epoch, unable.1 ⟨secret, rfl⟩, able.2 (by rintro ⟨-, ⟨⟩⟩), others.2 fun both => known both.1⟩

end MarketGateway
