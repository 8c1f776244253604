import MarketGateway.Gateway.Basic
import MarketGateway.Proofs.Crypto.Canonical
import MarketGateway.Proofs.Text.Trimming

/-!
# Texts of secret keys

A text is read as a secret key exactly if it is the Base64 text of 32 bytes, with any blanks around it, and the
key is then that of these bytes. Main statement: `secret_keys_are_seed_texts`.
-/

namespace MarketGateway

open Crypto

namespace SigningKey

variable {text : String} {bytes : List UInt8}

theorem encode_solid (bytes : List UInt8) :
    ∀ c ∈ (Base64.encode bytes).toList, Text.isBlank c = false := by
  have solid : ('=' :: Base64.alphabet).all (fun c => !Text.isBlank c) = true := by decide
  intro c member
  rw [Base64.encode, String.toList_ofList] at member
  exact (Bool.not_eq_true' _).mp (List.all_eq_true.mp solid c (Base64.mem_encodeChars member))

theorem trim_eq_encode_iff : Text.trim text = Base64.encode bytes ↔
    ∃ before after, Text.allBlank before = true ∧ Text.allBlank after = true ∧
      text = before ++ Base64.encode bytes ++ after := by
  constructor
  · intro trimmed
    rw [← trimmed]
    exact Text.surrounded_trim text
  · rintro ⟨before, after, blank, blank', rfl⟩
    exact Text.trim_surrounded blank blank' (encode_solid bytes)

theorem ofText_of_seed (same : Text.trim text = Base64.encode bytes) (sized : bytes.length = 32) :
    ofText text = .ok ⟨bytes, sized⟩ := by
  rw [ofText, Base64.decode_eq_ok_iff.mpr same]
  exact dif_pos sized

theorem ofText_of_length (same : Text.trim text = Base64.encode bytes) (other : bytes.length ≠ 32) :
    ofText text = .error (.secretLength bytes.length) := by
  rw [ofText, Base64.decode_eq_ok_iff.mpr same]
  exact dif_neg other

theorem ofText_of_foreign (foreign : ∀ bytes, Text.trim text ≠ Base64.encode bytes) :
    ∃ e, ofText text = .error (.secretEncoding e) := by
  cases read : Base64.decode (Text.trim text) with
  | ok bytes => exact absurd (Base64.decode_eq_ok_iff.mp read) (foreign bytes)
  | error e =>
    rw [ofText, read]
    exact ⟨e, rfl⟩

/-- Why a text is no key. -/
inductive IsRefusedFor (text : String) : SetupError → Prop where
  | encoding (e : Base64.DecodeError) (foreign : ∀ bytes, Text.trim text ≠ Base64.encode bytes) :
      IsRefusedFor text (.secretEncoding e)
  | length (bytes : List UInt8) (same : Text.trim text = Base64.encode bytes) (other : bytes.length ≠ 32) :
      IsRefusedFor text (.secretLength bytes.length)

theorem ofText_cases (text : String) :
    (∃ key, ofText text = .ok key ∧ Text.trim text = Base64.encode key.seed) ∨
      ∃ cause, ofText text = .error cause ∧ IsRefusedFor text cause := by
  by_cases foreign : ∀ bytes, Text.trim text ≠ Base64.encode bytes
  · obtain ⟨e, refused⟩ := ofText_of_foreign foreign
    exact .inr ⟨_, refused, .encoding e foreign⟩
  · simp only [ne_eq, not_forall, not_not] at foreign
    obtain ⟨bytes, same⟩ := foreign
    by_cases sized : bytes.length = 32
    · exact .inl ⟨⟨bytes, sized⟩, ofText_of_seed same sized, same⟩
    · exact .inr ⟨_, ofText_of_length same sized, .length bytes same sized⟩

theorem ofText_eq_ok_iff {key : Ed25519.SecretKey} :
    ofText text = .ok key ↔ Text.trim text = Base64.encode key.seed := by
  constructor
  · intro read
    rcases ofText_cases text with ⟨other, read', same⟩ | ⟨cause, refused, -⟩
    · obtain rfl := Except.ok.inj (read.symm.trans read')
      exact same
    · cases read.symm.trans refused
  · intro same
    exact ofText_of_seed same key.length_eq

/-- With both keys given, a gateway is not built. -/
theorem build_of_refused {cause : SetupError} {s : Settings} (refused : ofText s.secretKey = .error cause)
    (given : s.hasKeys = true) (tradingPairs : List String) :
    Gateway.build s tradingPairs = .error (.setup cause) := by
  have none : s.credentials = .error cause := by
    rw [Settings.credentials, Credentials.make, refused]
    rfl
  rw [Gateway.build, if_pos given, none]
  rfl

/-- A text is a key exactly if it is the Base64 text of 32 bytes: 42 characters of the alphabet, one that leaves
two zero bits, and one of padding. The key is that of these bytes, and every other text is an error of the
configuration. -/
theorem secret_keys_are_seed_texts (text : String) :
    (∀ key : Ed25519.SecretKey,
      (ofText text = .ok key ↔ Text.trim text = Base64.encode key.seed) ∧
      (ofText text = .ok key ↔ ∃ before after, Text.allBlank before = true ∧ Text.allBlank after = true ∧
        text = before ++ Base64.encode key.seed ++ after)) ∧
    ((∃ key, ofText text = .ok key) ↔
      ∃! seed : List UInt8, seed.length = 32 ∧ Text.trim text = Base64.encode seed) ∧
    ((∃ key, ofText text = .ok key) ↔ Base64.IsPaddedOnce 10 (Text.trim text).toList) ∧
    ∀ cause, ofText text = .error cause → IsRefusedFor text cause ∧
      ∀ (s : Settings) (tradingPairs : List String), s.secretKey = text → s.hasKeys = true →
        Gateway.build s tradingPairs = .error (.setup cause) := by
  refine ⟨fun key => ⟨ofText_eq_ok_iff, ofText_eq_ok_iff.trans trim_eq_encode_iff⟩, ?_, ?_, ?_⟩
  · constructor
    · rintro ⟨key, read⟩
      have same := ofText_eq_ok_iff.mp read
      refine ⟨key.seed, ⟨key.length_eq, same⟩, ?_⟩
      rintro other ⟨-, same'⟩
      exact Base64.encode_injective (same'.symm.trans same)
    · rintro ⟨seed, ⟨sized, same⟩, -⟩
      exact ⟨_, ofText_of_seed same sized⟩
  · rw [Base64.isPaddedOnce_iff]
    constructor
    · rintro ⟨key, read⟩
      exact ⟨key.seed, key.length_eq, ofText_eq_ok_iff.mp read⟩
    · rintro ⟨seed, sized, same⟩
      exact ⟨_, ofText_of_seed same sized⟩
  · intro cause refused
    constructor
    · rcases ofText_cases text with ⟨key, read, -⟩ | ⟨other, refused', why⟩
      · cases read.symm.trans refused
      · obtain rfl := Except.error.inj (refused.symm.trans refused')
        exact why
    · rintro s tradingPairs rfl given
      exact build_of_refused refused given tradingPairs

/-- Blanks stand around the first text, a bit is set behind the last byte of the second one, and the third one is
too short. -/
theorem secret_keys_are_seed_texts_spaced :
    ofText "\t BwcHBwcHBwcHBwcHBwcHBwcHBwcHBwcHBwcHBwcHBwc=\u00A0\n" = .ok ⟨List.replicate 32 7, rfl⟩ ∧
      (¬ ∃ key, ofText "BwcHBwcHBwcHBwcHBwcHBwcHBwcHBwcHBwcHBwcHBwd=" = .ok key) ∧
      ofText "BwcHBwcHBwcHBwcHBwcHBw==" = .error (.secretLength 16) ∧
      Gateway.build (.ofKeys "key" "BwcHBwcHBwcHBwcHBwcHBw==") [] = .error (.setup (.secretLength 16)) := by
  have short : ofText "BwcHBwcHBwcHBwcHBwcHBw==" = .error (.secretLength 16) := by
    have same : Text.trim "BwcHBwcHBwcHBwcHBwcHBw==" = Base64.encode (List.replicate 16 7) := by decide +kernel
    exact ofText_of_length same (by decide)
  refine ⟨?_, ?_, short, ?_⟩
  · exact ((secret_keys_are_seed_texts _).1 _).1.mpr (by decide +kernel)
  · rw [(secret_keys_are_seed_texts _).2.2.1]
    rintro ⟨body, n, same, -, -, small⟩
    have last : ∀ n < 16, Base64.symbol (4 * n) ≠ 'd' := by decide +kernel
    have split : (Text.trim "BwcHBwcHBwcHBwcHBwcHBwcHBwcHBwcHBwcHBwcHBwd=").toList =
        "BwcHBwcHBwcHBwcHBwcHBwcHBwcHBwcHBwcHBwcHBw".toList ++ ['d', '='] := by decide +kernel
    have tails := (List.append_inj' (split.symm.trans same) rfl).2
    exact last n small (List.cons.inj tails).1.symm
  · exact ((secret_keys_are_seed_texts _).2.2.2 _ short).2 _ [] rfl (by decide)

end SigningKey

end MarketGateway
