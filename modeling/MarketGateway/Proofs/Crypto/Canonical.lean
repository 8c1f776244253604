import MarketGateway.Proofs.Crypto.Base64
import Mathlib.Data.List.Basic
import Mathlib.Logic.Function.Basic

/-!
# Base64 has one text for every list of bytes

No text but an encoding is read, and it is read as what it encodes: `decode_eq_ok_iff`. The texts of lists
that leave two bytes after the groups of three are described by their characters: `isPaddedOnce_iff`.
-/

namespace MarketGateway.Crypto.Base64

theorem sextet?_ascii {c : Char} {n : Nat} (valued : sextet? c = some n) : c.toNat < 128 := by
  by_contra large
  have beyond : ∀ d : Char, d.toNat < 128 → ¬ c ≤ d := by
    intro d small le
    rw [Char.le_def, UInt32.le_iff_toNat_le] at le
    exact large (Nat.lt_of_le_of_lt le small)
  have other : ∀ d : Char, d.toNat < 128 → c ≠ d := fun d small same => large (same ▸ small)
  simp [sextet?, beyond 'Z' (by decide), beyond 'z' (by decide), beyond '9' (by decide),
    other '+' (by decide), other '/' (by decide)] at valued

/-- A character has a value only if it is the symbol of that value. -/
theorem symbol_of_sextet? {c : Char} {n : Nat} (valued : sextet? c = some n) :
    n < 64 ∧ symbol n = c := by
  have table : ∀ k < 128,
      (sextet? (Char.ofNat k)).all (fun n => n < 64 && symbol n == Char.ofNat k) = true := by
    decide +kernel
  have here := table c.toNat (sextet?_ascii valued)
  rw [Char.ofNat_toNat, valued, Option.all_some, Bool.and_eq_true, decide_eq_true_eq, beq_iff_eq] at here
  exact here

section

variable {i j k l : Nat} (first : i < 64) (second : j < 64) (third : k < 64) (fourth : l < 64)

include first second

theorem encodeChars_single (left : j % 16 = 0) :
    encodeChars [UInt8.ofNat (i * 4 + j / 16)] = [symbol i, symbol j, '=', '='] := by
  have high : (i * 4 + j / 16) % 2 ^ 8 / 4 = i := by omega
  have low : (i * 4 + j / 16) % 2 ^ 8 % 4 * 16 = j := by omega
  rw [encodeChars, UInt8.toNat_ofNat', high, low]

include third

theorem encodeChars_pair (left : k % 4 = 0) :
    encodeChars [UInt8.ofNat (i * 4 + j / 16), UInt8.ofNat (j % 16 * 16 + k / 4)] =
      [symbol i, symbol j, symbol k, '='] := by
  have high : (i * 4 + j / 16) % 2 ^ 8 / 4 = i := by omega
  have middle : (i * 4 + j / 16) % 2 ^ 8 % 4 * 16 + (j % 16 * 16 + k / 4) % 2 ^ 8 / 16 = j := by omega
  have low : (j % 16 * 16 + k / 4) % 2 ^ 8 % 16 * 4 = k := by omega
  rw [encodeChars, UInt8.toNat_ofNat', UInt8.toNat_ofNat', high, middle, low]

include fourth

theorem encodeChars_group (rest : List UInt8) :
    encodeChars (UInt8.ofNat (i * 4 + j / 16) :: UInt8.ofNat (j % 16 * 16 + k / 4) ::
        UInt8.ofNat (k % 4 * 64 + l) :: rest) =
      symbol i :: symbol j :: symbol k :: symbol l :: encodeChars rest := by
  have high : (i * 4 + j / 16) % 2 ^ 8 / 4 = i := by omega
  have middle : (i * 4 + j / 16) % 2 ^ 8 % 4 * 16 + (j % 16 * 16 + k / 4) % 2 ^ 8 / 16 = j := by omega
  have middle' : (j % 16 * 16 + k / 4) % 2 ^ 8 % 16 * 4 + (k % 4 * 64 + l) % 2 ^ 8 / 64 = k := by omega
  have low : (k % 4 * 64 + l) % 2 ^ 8 % 64 = l := by omega
  rw [encodeChars, UInt8.toNat_ofNat', UInt8.toNat_ofNat', UInt8.toNat_ofNat', high, middle, middle', low]

end

theorem encodeChars_of_decodeChars? {cs : List Char} {bytes : List UInt8}
    (decoded : decodeChars? cs = some bytes) : encodeChars bytes = cs := by
  induction cs using decodeChars?.induct generalizing bytes with
  | case1 =>
    obtain rfl := Option.some.inj decoded
    rfl
  | case2 a b =>
    simp only [decodeChars?.eq_2, Option.bind_eq_bind, Option.bind_eq_some_iff] at decoded
    obtain ⟨i, first, j, second, decoded⟩ := decoded
    obtain ⟨below, rfl⟩ := symbol_of_sextet? first
    obtain ⟨under, rfl⟩ := symbol_of_sextet? second
    split at decoded
    · rename_i left
      obtain rfl := Option.some.inj decoded
      exact encodeChars_single below under left
    · cases decoded
  | case3 a b c notPadding =>
    simp only [decodeChars?.eq_3 _ _ _ notPadding, Option.bind_eq_bind, Option.bind_eq_some_iff] at decoded
    obtain ⟨i, first, j, second, k, third, decoded⟩ := decoded
    obtain ⟨below, rfl⟩ := symbol_of_sextet? first
    obtain ⟨under, rfl⟩ := symbol_of_sextet? second
    obtain ⟨bound, rfl⟩ := symbol_of_sextet? third
    split at decoded
    · rename_i left
      obtain rfl := Option.some.inj decoded
      exact encodeChars_pair below under bound left
    · cases decoded
  | case4 a b c d rest notTwo notOne ih =>
    simp only [decodeChars?.eq_4 _ _ _ _ _ notTwo notOne, Option.bind_eq_bind,
      Option.bind_eq_some_iff] at decoded
    obtain ⟨i, first, j, second, k, third, l, fourth, later, read, decoded⟩ := decoded
    obtain ⟨below, rfl⟩ := symbol_of_sextet? first
    obtain ⟨under, rfl⟩ := symbol_of_sextet? second
    obtain ⟨bound, rfl⟩ := symbol_of_sextet? third
    obtain ⟨limit, rfl⟩ := symbol_of_sextet? fourth
    obtain rfl := Option.some.inj decoded
    rw [encodeChars_group below under bound limit, ih read]
  | case5 cs notEmpty notTwo notOne notGroup =>
    rw [decodeChars?.eq_5 cs notEmpty notTwo notOne notGroup] at decoded
    cases decoded

theorem decode_eq_ok_iff {s : String} {bytes : List UInt8} : decode s = .ok bytes ↔ s = encode bytes := by
  constructor
  · intro decoded
    unfold decode at decoded
    split at decoded
    · rename_i read
      obtain rfl := Except.ok.inj decoded
      rw [encode, encodeChars_of_decodeChars? read, String.ofList_toList]
    · cases decoded
  · rintro rfl
    exact decode_encode bytes

theorem encode_injective : Function.Injective encode := by
  intro bytes bytes' same
  exact Except.ok.inj ((decode_encode bytes).symm.trans (decode_eq_ok_iff.mpr same))

/-! ### Texts with one character of padding -/

theorem mem_alphabet_iff {c : Char} : c ∈ alphabet ↔ ∃ n < 64, symbol n = c := by
  constructor
  · intro member
    obtain ⟨n, below, same⟩ := List.mem_iff_getElem.mp member
    refine ⟨n, below, ?_⟩
    rw [symbol, List.getD_eq_getElem?_getD, List.getElem?_eq_getElem below, Option.getD_some, same]
  · rintro ⟨n, below, rfl⟩
    exact (List.mem_cons.mp (symbol_mem n)).resolve_left (symbols n below).2

/-- Characters of the alphabet, one more whose last two bits are zero, and one of padding. -/
def IsPaddedOnce (groups : Nat) (cs : List Char) : Prop :=
  ∃ body n, cs = body ++ [symbol (4 * n), '='] ∧ body.length = 4 * groups + 2 ∧
    (∀ c ∈ body, c ∈ alphabet) ∧ n < 16

theorem isPaddedOnce_encodeChars {groups : Nat} {bytes : List UInt8}
    (size : bytes.length = 3 * groups + 2) : IsPaddedOnce groups (encodeChars bytes) := by
  induction groups generalizing bytes with
  | zero =>
    obtain ⟨a, b, rfl⟩ := List.length_eq_two.mp size
    obtain ⟨first, second, -, -⟩ := sextets_lt a b 0
    refine ⟨[symbol (a.toNat / 4), symbol (a.toNat % 4 * 16 + b.toNat / 16)], b.toNat % 16,
      ?_, rfl, ?_, Nat.mod_lt _ (by decide)⟩
    · rw [encodeChars, Nat.mul_comm 4]
      rfl
    · simp only [List.forall_mem_cons, mem_alphabet_iff]
      exact ⟨⟨_, first, rfl⟩, ⟨_, second, rfl⟩, List.forall_mem_nil _⟩
  | succ groups ih =>
    rcases bytes with _ | ⟨a, _ | ⟨b, _ | ⟨c, rest⟩⟩⟩ <;> simp only [List.length_nil, List.length_cons] at size
    · omega
    · omega
    · omega
    · obtain ⟨first, second, third, fourth⟩ := sextets_lt a b c
      have fewer : rest.length = 3 * groups + 2 := by omega
      obtain ⟨body, n, same, length, drawn, small⟩ := ih fewer
      refine ⟨_ :: _ :: _ :: _ :: body, n, by rw [encodeChars, same]; rfl, ?_, ?_, small⟩
      · simp only [List.length_cons]
        omega
      · simp only [List.forall_mem_cons, mem_alphabet_iff] at drawn ⊢
        exact ⟨⟨_, first, rfl⟩, ⟨_, second, rfl⟩, ⟨_, third, rfl⟩, ⟨_, fourth, rfl⟩, drawn⟩

theorem encodeChars_of_isPaddedOnce {groups : Nat} {cs : List Char} (padded : IsPaddedOnce groups cs) :
    ∃ bytes, bytes.length = 3 * groups + 2 ∧ encodeChars bytes = cs := by
  obtain ⟨body, n, rfl, size, drawn, small⟩ := padded
  induction groups generalizing body with
  | zero =>
    obtain ⟨c, d, rfl⟩ := List.length_eq_two.mp size
    simp only [List.forall_mem_cons, mem_alphabet_iff] at drawn
    obtain ⟨⟨i, below, rfl⟩, ⟨j, under, rfl⟩, -⟩ := drawn
    exact ⟨_, rfl, encodeChars_pair below under (by omega) (Nat.mul_mod_right 4 n)⟩
  | succ groups ih =>
    match body, size with
    | c :: d :: e :: f :: body, size =>
      simp only [List.length_cons] at size
      simp only [List.forall_mem_cons, mem_alphabet_iff] at drawn
      obtain ⟨⟨i, below, rfl⟩, ⟨j, under, rfl⟩, ⟨k, bound, rfl⟩, ⟨l, limit, rfl⟩, drawn⟩ := drawn
      simp only [← mem_alphabet_iff] at drawn
      obtain ⟨bytes, length, same⟩ := ih body (by omega) drawn
      refine ⟨_, ?_, (encodeChars_group below under bound limit bytes).trans (by rw [same]; rfl)⟩
      simp only [List.length_cons]
      omega

theorem isPaddedOnce_iff {groups : Nat} {s : String} :
    IsPaddedOnce groups s.toList ↔ ∃ bytes : List UInt8, bytes.length = 3 * groups + 2 ∧ s = encode bytes := by
  constructor
  · intro padded
    obtain ⟨bytes, size, same⟩ := encodeChars_of_isPaddedOnce padded
    exact ⟨bytes, size, by rw [encode, same, String.ofList_toList]⟩
  · rintro ⟨bytes, size, rfl⟩
    rw [encode, String.toList_ofList]
    exact isPaddedOnce_encodeChars size

end MarketGateway.Crypto.Base64
