import MarketGateway.Json.Reading
import MarketGateway.Proofs.Text.Integer

/-!
# Reading written values

What is written of a value of a simple type is read as the value.
-/

namespace MarketGateway.Json.Reader

variable {α : Type} {read : Reader α} {j : Json} {a : α}

theorem text_eq_ok {s : String} : text j = .ok s ↔ j = .string s := by
  cases j with
  | string t => exact ⟨fun same => congrArg string (Except.ok.inj same), fun same => by cases same; rfl⟩
  | _ => exact ⟨nofun, nofun⟩

theorem int64_written (n : Int64) : int64 (.int64 n) = .ok n := by
  have low := n.le_toInt
  have high := n.toInt_lt
  have within : integer (-2 ^ 63) (2 ^ 63 - 1) "i64" (.int64 n) = .ok n.toInt := if_pos (by omega)
  rw [int64, within, Except.map, Int64.ofInt_toInt]

theorem uint32_written (n : UInt32) : uint32 (.uint32 n) = .ok n := by
  have high := n.toNat_lt
  have within : integer 0 (2 ^ 32 - 1) "u32" (.uint32 n) = .ok (n.toNat : Int) := if_pos (by omega)
  rw [uint32, within, Except.map, Int.toNat_natCast, UInt32.ofNat_toNat]

theorem uint64_written {n : Nat} (small : n < 2 ^ 64) : uint64 (.nat n) = .ok n := by
  have within : integer 0 (2 ^ 64 - 1) "u64" (.nat n) = .ok (n : Int) := if_pos (by omega)
  rw [uint64, within, Except.map, Int.toNat_natCast]

theorem integerIdentifier_written (n : Int64) : integerIdentifier (.int64 n) = .ok n := by
  show (Text.readInt64 (toString n.toInt)).mapError _ = .ok n
  rw [Text.readInt64_toString]
  rfl

theorem integerIdentifier_text {n : Int64} {s : String} (reads : Text.readInt64 s = .ok n) :
    integerIdentifier (.string s) = .ok n := by
  show (Text.readInt64 s).mapError _ = .ok n
  rw [reads]
  rfl

theorem nullable_eq_some (value : j ≠ .null) (reads : read j = .ok a) : nullable read j = .ok (some a) := by
  unfold nullable
  split
  · exact absurd rfl value
  · rw [reads]
    rfl

theorem items_written {write : α → Json} {as : List α} (reads : ∀ a ∈ as, read (write a) = .ok a) :
    items read (as.map write) = .ok as := by
  induction as with
  | nil => rfl
  | cons a as ih =>
    obtain ⟨here, later⟩ := List.forall_mem_cons.mp reads
    rw [List.map_cons, items, here, ih later]
    rfl

theorem list_written {write : α → Json} {as : List α} (reads : ∀ a ∈ as, read (write a) = .ok a) :
    list read (.array (as.map write)) = .ok as :=
  items_written reads

/-- A list of items that can all be read is the list of what they are read as. -/
theorem items_of_readable {js : List Json} (readable : ∀ j ∈ js, ∃ a, read j = .ok a) :
    items read js = .ok (js.filterMap fun j => (read j).toOption) := by
  induction js with
  | nil => rfl
  | cons j js ih =>
    obtain ⟨⟨a, here⟩, later⟩ := List.forall_mem_cons.mp readable
    rw [items, here, ih later, List.filterMap_cons, here]
    rfl

/-- A list is refused for the first item that cannot be read. -/
theorem items_of_unreadable {before after : List Json} {e : ReadError}
    (readable : ∀ j ∈ before, ∃ a, read j = .ok a) (unreadable : read j = .error e) :
    items read (before ++ j :: after) = .error e := by
  induction before with
  | nil =>
    rw [List.nil_append, items, unreadable]
    rfl
  | cons first before ih =>
    obtain ⟨⟨a, here⟩, later⟩ := List.forall_mem_cons.mp readable
    rw [List.cons_append, items, here, ih later]
    rfl

end MarketGateway.Json.Reader
