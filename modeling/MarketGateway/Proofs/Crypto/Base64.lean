import MarketGateway.Crypto.Base64

/-!
# Base64 round trip

Every list of bytes can be read back from its encoding: `decode_encode`. An encoding has no characters
but those of the alphabet and the padding: `mem_encodeChars`.
-/

namespace MarketGateway.Crypto.Base64

theorem symbols : ∀ n < 64, sextet? (symbol n) = some n ∧ symbol n ≠ '=' := by decide +kernel

/-- Three bytes are four values of six bits. -/
theorem sextets_lt (a b c : UInt8) :
    a.toNat / 4 < 64 ∧ a.toNat % 4 * 16 + b.toNat / 16 < 64 ∧ b.toNat % 16 * 4 + c.toNat / 64 < 64 ∧
      c.toNat % 64 < 64 := by
  have := a.toNat_lt
  have := b.toNat_lt
  have := c.toNat_lt
  omega

theorem ofNat_eq {n : Nat} {a : UInt8} (same : n = a.toNat) : UInt8.ofNat n = a := by
  rw [same, UInt8.ofNat_toNat]

theorem decodeChars?_encodeChars (bytes : List UInt8) :
    decodeChars? (encodeChars bytes) = some bytes := by
  induction bytes using encodeChars.induct with
  | case1 => rfl
  | case2 a =>
    obtain ⟨first, second, -, -⟩ := sextets_lt a 0 0
    have low : a.toNat % 4 * 16 < 64 := by omega
    rw [encodeChars, decodeChars?.eq_2, (symbols _ first).1, (symbols _ low).1]
    have value : UInt8.ofNat (a.toNat / 4 * 4 + a.toNat % 4 * 16 / 16) = a := ofNat_eq (by omega)
    simp only [Option.bind_eq_bind, Option.bind_some, Nat.mul_mod_left, ↓reduceIte, value, Option.pure_def]
  | case3 a b =>
    obtain ⟨first, second, third, -⟩ := sextets_lt a b 0
    have low : b.toNat % 16 * 4 < 64 := by omega
    rw [encodeChars, decodeChars?.eq_3 _ _ _ (symbols _ low).2, (symbols _ first).1,
      (symbols _ second).1, (symbols _ low).1]
    have bound := b.toNat_lt
    have value : UInt8.ofNat (a.toNat / 4 * 4 + (a.toNat % 4 * 16 + b.toNat / 16) / 16) = a :=
      ofNat_eq (by omega)
    have value' : UInt8.ofNat ((a.toNat % 4 * 16 + b.toNat / 16) % 16 * 16 + b.toNat % 16 * 4 / 4) = b :=
      ofNat_eq (by omega)
    simp only [Option.bind_eq_bind, Option.bind_some, Nat.mul_mod_left, ↓reduceIte, value, value',
      Option.pure_def]
  | case4 a b c rest ih =>
    obtain ⟨first, second, third, fourth⟩ := sextets_lt a b c
    rw [encodeChars, decodeChars?.eq_4 _ _ _ _ _ (fun same => absurd same (symbols _ third).2)
      (fun same => absurd same (symbols _ fourth).2), (symbols _ first).1, (symbols _ second).1,
      (symbols _ third).1, (symbols _ fourth).1, ih]
    have bound := b.toNat_lt
    have bound' := c.toNat_lt
    have value : UInt8.ofNat (a.toNat / 4 * 4 + (a.toNat % 4 * 16 + b.toNat / 16) / 16) = a :=
      ofNat_eq (by omega)
    have value' : UInt8.ofNat ((a.toNat % 4 * 16 + b.toNat / 16) % 16 * 16 +
        (b.toNat % 16 * 4 + c.toNat / 64) / 4) = b := ofNat_eq (by omega)
    have value'' : UInt8.ofNat ((b.toNat % 16 * 4 + c.toNat / 64) % 4 * 64 + c.toNat % 64) = c :=
      ofNat_eq (by omega)
    simp only [Option.bind_eq_bind, Option.bind_some, value, value', value'', Option.pure_def]

theorem decode_encode (bytes : List UInt8) : decode (encode bytes) = .ok bytes := by
  rw [decode, encode, String.toList_ofList, decodeChars?_encodeChars]

theorem symbol_mem (n : Nat) : symbol n ∈ '=' :: alphabet := by
  rw [symbol, List.getD_eq_getElem?_getD]
  cases found : alphabet[n]? with
  | none => exact .head _
  | some c => exact .tail _ (List.mem_of_getElem? found)

theorem mem_encodeChars {bytes : List UInt8} {c : Char} (member : c ∈ encodeChars bytes) :
    c ∈ '=' :: alphabet := by
  induction bytes using encodeChars.induct with
  | case1 => exact absurd member List.not_mem_nil
  | case2 a =>
    simp only [encodeChars, List.mem_cons, List.not_mem_nil, or_false] at member
    rcases member with rfl | rfl | rfl | rfl
    · exact symbol_mem _
    · exact symbol_mem _
    · exact .head _
    · exact .head _
  | case3 a b =>
    simp only [encodeChars, List.mem_cons, List.not_mem_nil, or_false] at member
    rcases member with rfl | rfl | rfl | rfl
    · exact symbol_mem _
    · exact symbol_mem _
    · exact symbol_mem _
    · exact .head _
  | case4 a b c rest ih =>
    simp only [encodeChars, List.mem_cons] at member
    rcases member with rfl | rfl | rfl | rfl | later
    · exact symbol_mem _
    · exact symbol_mem _
    · exact symbol_mem _
    · exact symbol_mem _
    · exact ih later

end MarketGateway.Crypto.Base64
