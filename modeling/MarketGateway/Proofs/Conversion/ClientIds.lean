import Mathlib.Data.UInt
import Mathlib.Data.List.Perm.Subperm
import Mathlib.Tactic.NormNum
import MarketGateway.Conversion.ClientIdSource

/-!
# Client order ids rise until they wrap

However requests interleave, the numbers of a source are those of `ClientId.sequence` for the order in
which the exchanges succeed. They rise, and so never repeat, exactly while no time and no count leads
past the last 32-bit number. After that a number may come again, in the same millisecond even.
-/

namespace MarketGateway.ClientId

/-! ### Sequences -/

theorem next_toNat (last : UInt32) (t : Int64) :
    (next last t).toNat = max (clock t).toNat ((last.toNat + 1) % 2 ^ 32) := by
  rw [next, UInt32.toNat_max, UInt32.toNat_add]
  rfl

theorem lt_next_iff (last : UInt32) (t : Int64) : last < next last t ↔ last.toNat + 1 < 2 ^ 32 := by
  have small := last.toNat_lt
  have clockSmall := (clock t).toNat_lt
  rw [UInt32.lt_iff_toNat_lt, next_toNat]
  constructor
  · intro rises
    by_contra wraps
    have wrapped : (last.toNat + 1) % 2 ^ 32 = 0 := by omega
    rw [wrapped] at rises
    omega
  · intro room
    rw [Nat.mod_eq_of_lt room]
    omega

/-- No time is so late that the requests after it would have to go past the last number, and neither
are the requests so many. -/
def Fits (last : UInt32) (times : List Int64) : Prop :=
  last.toNat + times.length < 2 ^ 32 ∧
    ∀ t later, t :: later <:+ times → (clock t).toNat + later.length < 2 ^ 32

theorem fits_cons_iff {last : UInt32} {t : Int64} {times : List Int64} :
    Fits last (t :: times) ↔ last.toNat + 1 < 2 ^ 32 ∧ Fits (next last t) times := by
  have value := next_toNat last t
  constructor
  · rintro ⟨count, late⟩
    have here := late t times List.suffix_rfl
    rw [List.length_cons] at count
    have room : last.toNat + 1 < 2 ^ 32 := by omega
    rw [Nat.mod_eq_of_lt room] at value
    refine ⟨room, by omega, ?_⟩
    intro u later suffix
    exact late u later (suffix.trans (List.suffix_cons t times))
  · rintro ⟨room, count, late⟩
    rw [Nat.mod_eq_of_lt room] at value
    refine ⟨by rw [List.length_cons]; omega, ?_⟩
    intro u later suffix
    rcases List.suffix_cons_iff.mp suffix with same | suffix
    · obtain ⟨rfl, rfl⟩ := List.cons.inj same
      omega
    · exact late u later suffix

theorem chain_cons_sequence (last : UInt32) (t : Int64) (times : List Int64) :
    (last :: sequence last (t :: times)).Pairwise (· < ·) ↔
      last < next last t ∧ (next last t :: sequence (next last t) times).Pairwise (· < ·) := by
  rw [sequence, ← List.isChain_iff_pairwise, ← List.isChain_iff_pairwise, List.isChain_cons_cons]

/-- The numbers rise exactly if the requests fit. -/
theorem sequence_rises_iff (last : UInt32) (times : List Int64) :
    (last :: sequence last times).Pairwise (· < ·) ↔ Fits last times := by
  induction times generalizing last with
  | nil =>
    have small := last.toNat_lt
    simpa [sequence, Fits] using small
  | cons t times ih => rw [chain_cons_sequence, lt_next_iff, ih, fits_cons_iff]

theorem fresh_rises_iff (times : List Int64) :
    (sequence 0 times).Pairwise (· < ·) ↔ Fits 0 times := by
  rw [← sequence_rises_iff]
  cases times with
  | nil => simp [sequence]
  | cons t times =>
    have first : (0 : UInt32) < next 0 t := (lt_next_iff 0 t).mpr (by decide)
    rw [chain_cons_sequence, sequence]
    exact ⟨fun rises => ⟨first, rises⟩, And.right⟩

theorem sequence_concat (last : UInt32) (times : List Int64) (t : Int64) :
    sequence last (times ++ [t]) =
      sequence last times ++ [next ((sequence last times).getLast?.getD last) t] := by
  induction times generalizing last with
  | nil => rfl
  | cons u times ih =>
    simp only [List.cons_append, sequence, ih, List.getLast?_cons, Option.getD_some]

/-! ### Interleaved requests -/

namespace Source

variable {s s' : Source}

/-- What has been given out, as a sequence: in the order of the exchanges that succeeded. -/
def Ordered (s : Source) (order : List (Int64 × UInt32)) : Prop :=
  order.Perm s.grants ∧ order.map Prod.snd = sequence 0 (order.map Prod.fst) ∧
    s.last = (order.map Prod.snd).getLast?.getD 0

theorem filterMap_set {xs : List Request} {place : Nat} {before : Request} (after : Request)
    (found : xs[place]? = some before) (unserved : before.grant? = none) :
    ((xs.set place after).filterMap Request.grant?).Perm
      (xs.filterMap Request.grant? ++ after.grant?.toList) := by
  obtain ⟨inside, here⟩ := List.getElem?_eq_some_iff.mp found
  have split : xs = xs.take place ++ before :: xs.drop (place + 1) := by
    rw [← here, List.getElem_cons_drop, List.take_append_drop]
  rw [List.set_eq_take_append_cons_drop, if_pos inside]
  conv => rhs; rw [split]
  simp only [List.filterMap_append, List.filterMap_cons, unserved, List.append_assoc]
  cases given : after.grant? with
  | none => simp
  | some grant => simpa using List.perm_middle.trans (List.perm_append_singleton ..).symm

theorem step_ordered {turn : Turn} {order : List (Int64 × UInt32)} (ordered : Ordered s order)
    (stepped : s.step? turn = some s') :
    ∃ granted, Ordered s' (order ++ granted) := by
  obtain ⟨perm, numbers, last⟩ := ordered
  -- A turn that gives out nothing changes what one request has read.
  have quiet : ∀ {place : Nat} {before after : Request}, s.requests[place]? = some before →
      before.grant? = none → after.grant? = none →
      Ordered ⟨s.last, s.requests.set place after⟩ (order ++ []) := by
    intro place before after found unserved still
    rw [List.append_nil]
    refine ⟨perm.trans ?_, numbers, last⟩
    simpa [grants, still] using (filterMap_set after found unserved).symm
  cases turn with
  | read place =>
    simp only [step?] at stepped
    split at stepped
    · rename_i t found
      obtain rfl := Option.some.inj stepped
      exact ⟨[], quiet found rfl rfl⟩
    · cases stepped
  | exchange place fails =>
    simp only [step?] at stepped
    split at stepped
    · rename_i t seen found
      split at stepped
      · rename_i current
        obtain rfl : s.last = seen := by simp_all
        obtain rfl := Option.some.inj stepped
        refine ⟨[(t, next s.last t)], ?_, ?_, ?_⟩
        · have given := filterMap_set ⟨t, .done (next s.last t)⟩ found rfl
          exact (perm.append_right _).trans given.symm
        · simp only [List.map_append, List.map_cons, List.map_nil]
          rw [sequence_concat, ← numbers, ← last]
        · simp
      · obtain rfl := Option.some.inj stepped
        exact ⟨[], quiet found rfl rfl⟩
    · cases stepped

theorem run_ordered {turns : List Turn} {order : List (Int64 × UInt32)} (ordered : Ordered s order)
    (ran : s.run? turns = some s') : ∃ order, Ordered s' order := by
  induction turns generalizing s order with
  | nil =>
    obtain rfl := Option.some.inj ran
    exact ⟨order, ordered⟩
  | cons turn turns ih =>
    obtain ⟨middle, stepped, rest⟩ := Option.bind_eq_some_iff.mp ran
    obtain ⟨granted, kept⟩ := step_ordered ordered stepped
    exact ih kept rest

theorem fresh_ordered (timestamps : List Int64) : Ordered (fresh timestamps) [] := by
  refine ⟨?_, rfl, rfl⟩
  have empty : (fresh timestamps).grants = [] := by
    simp [grants, fresh, Request.grant?]
  rw [empty]

theorem step_timestamps {turn : Turn} (stepped : s.step? turn = some s') :
    s'.requests.map Request.timestampMs = s.requests.map Request.timestampMs := by
  have kept : ∀ {place : Nat} {before after : Request}, s.requests[place]? = some before →
      after.timestampMs = before.timestampMs →
      (s.requests.set place after).map Request.timestampMs = s.requests.map Request.timestampMs := by
    intro place before after found same
    rw [List.map_set, same]
    refine List.ext_getElem? fun i => ?_
    rw [List.getElem?_set]
    split
    · rename_i here
      subst here
      split <;> simp_all
    · rfl
  cases turn with
  | read place =>
    simp only [step?] at stepped
    split at stepped
    · rename_i t found
      obtain rfl := Option.some.inj stepped
      exact kept found rfl
    · cases stepped
  | exchange place fails =>
    simp only [step?] at stepped
    split at stepped
    · rename_i t seen found
      split at stepped <;> obtain rfl := Option.some.inj stepped <;> exact kept found rfl
    · cases stepped

theorem run_timestamps {turns : List Turn} (ran : s.run? turns = some s') :
    s'.requests.map Request.timestampMs = s.requests.map Request.timestampMs := by
  induction turns generalizing s with
  | nil =>
    obtain rfl := Option.some.inj ran
    rfl
  | cons turn turns ih =>
    obtain ⟨middle, stepped, rest⟩ := Option.bind_eq_some_iff.mp ran
    exact (ih rest).trans (step_timestamps stepped)

theorem grants_timestamps (s : Source) :
    (s.grants.map Prod.fst).Sublist (s.requests.map Request.timestampMs) := by
  have general : ∀ requests : List Request,
      ((requests.filterMap Request.grant?).map Prod.fst).Sublist
        (requests.map Request.timestampMs) := by
    intro requests
    induction requests with
    | nil => exact List.Sublist.refl _
    | cons r requests ih =>
      obtain ⟨t, progress⟩ := r
      cases progress with
      | done number => exact ih.cons_cons t
      | waiting => exact ih.cons t
      | reading last => exact ih.cons t
  exact general s.requests

theorem Ordered.nodup {order : List (Int64 × UInt32)} (ordered : Ordered s order)
    (fits : Fits 0 (order.map Prod.fst)) : s.numbers.Nodup := by
  obtain ⟨perm, numbers, -⟩ := ordered
  have rises := (fresh_rises_iff _).mpr fits
  rw [← numbers] at rises
  have apart : (order.map Prod.snd).Nodup := rises.imp fun less same => by
    rw [same] at less
    exact UInt32.lt_irrefl _ less
  exact (perm.map Prod.snd).nodup_iff.mp apart

/-- Requests that are far enough from the end fit in any order. -/
theorem fits_of_room {timestamps times : List Int64} (among : times.Subperm timestamps)
    (count : timestamps.length < 2 ^ 32)
    (room : ∀ t ∈ timestamps, (clock t).toNat + timestamps.length ≤ 2 ^ 32) : Fits 0 times := by
  have fewer := among.length_le
  refine ⟨by simpa using Nat.lt_of_le_of_lt fewer count, ?_⟩
  intro t later suffix
  have shorter := suffix.length_le
  have bound := room t (among.subset (suffix.subset List.mem_cons_self))
  rw [List.length_cons] at shorter
  omega

/-- However the requests take turns, their numbers are those of the sequence for the order in which
they got them. The numbers rise in that order exactly if the requests fit, and then none is given out
twice. If every clock is as far from the end as there are requests, they fit in any order. -/
theorem numbers_rise_until_wrap {timestamps : List Int64} {turns : List Turn}
    (ran : (fresh timestamps).run? turns = some s) :
    (∃ order : List (Int64 × UInt32), order.Perm s.grants ∧
      order.map Prod.snd = sequence 0 (order.map Prod.fst) ∧
      ((order.map Prod.snd).Pairwise (· < ·) ↔ Fits 0 (order.map Prod.fst)) ∧
      (Fits 0 (order.map Prod.fst) → s.numbers.Nodup)) ∧
    (timestamps.length < 2 ^ 32 →
      (∀ t ∈ timestamps, (clock t).toNat + timestamps.length ≤ 2 ^ 32) → s.numbers.Nodup) := by
  obtain ⟨order, ordered⟩ := run_ordered (fresh_ordered timestamps) ran
  constructor
  · refine ⟨order, ordered.1, ordered.2.1, ?_, ordered.nodup⟩
    rw [ordered.2.1]
    exact fresh_rises_iff _
  · intro count room
    have given : (order.map Prod.fst).Subperm timestamps := by
      have among := grants_timestamps s
      rw [run_timestamps ran] at among
      have all : (fresh timestamps).requests.map Request.timestampMs = timestamps := by
        simp [fresh, Function.comp_def]
      rw [all] at among
      exact (ordered.1.map Prod.fst).subperm.trans among.subperm
    exact ordered.nodup (fits_of_room given count room)

/-- Two requests in one millisecond. The first to read finds the last number changed, and its next
exchange fails as well. -/
theorem numbers_rise_until_wrap_contended :
    let turns : List Turn := [.read 0, .read 1, .exchange 1 false, .exchange 0 false,
      .exchange 0 true, .exchange 0 false]
    let s : Source := ⟨1001, [⟨1000, .done 1001⟩, ⟨1000, .done 1000⟩]⟩
    (fresh [1000, 1000]).run? turns = some s ∧ s.numbers = [1001, 1000] ∧ s.numbers.Nodup := by
  intro turns s
  have ran : (fresh [1000, 1000]).run? turns = some s := by decide
  have settled := numbers_rise_until_wrap ran
  have room : ∀ t ∈ ([1000, 1000] : List Int64), (clock t).toNat + 2 ≤ 2 ^ 32 := by
    intro t member
    have same : t = 1000 := by simpa using member
    have value : (clock 1000).toNat = 1000 := by decide
    rw [same, value]
    norm_num
  exact ⟨ran, rfl, settled.2 (by norm_num) room⟩

/-- The millisecond in which the clock stands at the last number has that number for every request. -/
theorem numbers_repeat_at_wrap :
    ¬ ∀ (timestamps : List Int64) (turns : List Turn) (s : Source), timestamps.length ≤ 2 ^ 32 →
      (fresh timestamps).run? turns = some s → s.numbers.Nodup := by
  intro differ
  have twice := differ [4294967295, 4294967295]
    [.read 0, .exchange 0 false, .read 1, .exchange 1 false] _ (by decide) rfl
  exact absurd twice (by decide)

end Source

end MarketGateway.ClientId
