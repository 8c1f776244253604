import Mathlib.Data.List.Basic
import MarketGateway.Limits.Throttle

/-!
# Buckets of a throttle

The limits of a throttle, told without looking one up: which of them count, what they are linked to,
and which slots a request takes because of them.
-/

namespace MarketGateway.Throttle

variable {t : Throttle} {l other : RateLimit} {id bucket : String} {taken drawn : List String}

/-- No later limit has the same id and replaces this one. -/
def InForce (t : Throttle) (l : RateLimit) : Prop :=
  ∃ before after, t.limits = before ++ l :: after ∧ ∀ later ∈ after, later.id ≠ l.id

def Registered (t : Throttle) (id : String) : Prop := ∃ l ∈ t.limits, l.id = id

def Linked (t : Throttle) (id pool : String) : Prop :=
  ∃ l, t.InForce l ∧ l.id = id ∧ l.pool = some pool

/-! ### The limit with an id -/

theorem limit?_eq_some_iff : t.limit? id = some l ↔ t.InForce l ∧ l.id = id := by
  rw [limit?, List.find?_eq_some_iff_append, beq_iff_eq]
  constructor
  · rintro ⟨rfl, later, earlier, split, others⟩
    refine ⟨⟨earlier.reverse, later.reverse, ?_, fun other member => ?_⟩, rfl⟩
    · rw [← t.limits.reverse_reverse, split]
      simp
    · simpa using others other (List.mem_reverse.mp member)
  · rintro ⟨⟨earlier, later, split, others⟩, rfl⟩
    refine ⟨rfl, later.reverse, earlier.reverse, ?_, fun other member => ?_⟩
    · rw [split]
      simp
    · simpa using others other (List.mem_reverse.mp member)

theorem isRegistered_iff : t.isRegistered id = true ↔ t.Registered id := by
  simp [isRegistered, limit?, Registered]

theorem limit?_eq_none_iff : t.limit? id = none ↔ ¬ t.Registered id := by
  rw [← isRegistered_iff, isRegistered, Option.not_isSome_iff_eq_none]

theorem linked_iff {pool : String} : t.Linked id pool ↔ (t.limit? id).bind (·.pool) = some pool := by
  simp only [Option.bind_eq_some_iff, limit?_eq_some_iff, Linked, and_assoc]

instance : Decidable (t.Registered id) := decidable_of_iff _ isRegistered_iff

instance {pool : String} : Decidable (t.Linked id pool) := decidable_of_iff _ linked_iff.symm

theorem InForce.registered (inForce : t.InForce l) : t.Registered l.id := by
  obtain ⟨before, after, split, -⟩ := inForce
  exact ⟨l, by simp [split], rfl⟩

theorem InForce.unique (inForce : t.InForce l) (also : t.InForce other) (same : other.id = l.id) :
    other = l :=
  Option.some.inj ((limit?_eq_some_iff.mpr ⟨also, same⟩).symm.trans (limit?_eq_some_iff.mpr ⟨inForce, rfl⟩))

theorem Registered.exists_inForce (there : t.Registered id) : ∃ l, t.InForce l ∧ l.id = id := by
  obtain ⟨l, found⟩ := Option.isSome_iff_exists.mp (isRegistered_iff.mpr there)
  exact ⟨l, limit?_eq_some_iff.mp found⟩

theorem registered?_of (there : t.Registered id) : t.registered? id = some id :=
  if_pos (isRegistered_iff.mpr there)

theorem registered?_of_not (absent : ¬ t.Registered id) : t.registered? id = none :=
  if_neg fun found => absent (isRegistered_iff.mp found)

/-! ### What a request takes -/

/-- The slots of one request: of its own bucket and the pool that is linked to it, or of the fallback
pool. A pool that is not there takes no slot. -/
inductive Pays (t : Throttle) : String → List String → Prop where
  | linked {l : RateLimit} {pool : String} (inForce : t.InForce l) (link : l.pool = some pool)
      (there : t.Registered pool) : Pays t l.id [l.id, pool]
  | alone {l : RateLimit} (inForce : t.InForce l)
      (absent : ∀ pool, l.pool = some pool → ¬ t.Registered pool) : Pays t l.id [l.id]
  | fallback {id : String} (unknown : ¬ t.Registered id) (there : t.Registered t.fallback) :
      Pays t id [t.fallback]
  | free {id : String} (unknown : ¬ t.Registered id) (absent : ¬ t.Registered t.fallback) : Pays t id []

theorem pays_buckets (t : Throttle) (id : String) : t.Pays id (t.buckets id) := by
  unfold buckets
  split
  case h_1 l found =>
    obtain ⟨inForce, rfl⟩ := limit?_eq_some_iff.mp found
    cases link : l.pool with
    | none => exact .alone inForce fun pool linked => by simp [link] at linked
    | some pool =>
      by_cases there : t.Registered pool
      · simpa [registered?_of there] using Pays.linked inForce link there
      · have absent : ∀ other, l.pool = some other → ¬ t.Registered other := fun other linked => by
          rwa [← Option.some.inj (link.symm.trans linked)]
        simpa [registered?_of_not there] using Pays.alone inForce absent
  case h_2 unknown =>
    have unknown := limit?_eq_none_iff.mp unknown
    by_cases there : t.Registered t.fallback
    · simpa [registered?_of there] using Pays.fallback unknown there
    · simpa [registered?_of_not there] using Pays.free unknown there

/-- How often a request pays at a bucket: once if it is its own, once more if it is linked to it, and
once if it is the fallback of a request that has no bucket. -/
theorem Pays.count (pays : t.Pays id drawn) (there : t.Registered bucket) :
    drawn.count bucket = (if id = bucket then 1 else 0) + (if t.Linked id bucket then 1 else 0) +
      if bucket = t.fallback ∧ ¬ t.Registered id then 1 else 0 := by
  cases pays with
  | @linked l pool inForce link poolThere =>
    -- The pool may be the own bucket, which then counts twice.
    have linked : t.Linked l.id bucket ↔ pool = bucket := by
      simp [linked_iff, limit?_eq_some_iff.mpr ⟨inForce, rfl⟩, link]
    simp [List.count_cons, linked, inForce.registered, Nat.add_comm]
  | @alone l inForce absent =>
    have unlinked : ¬ t.Linked l.id bucket := by
      rw [linked_iff, limit?_eq_some_iff.mpr ⟨inForce, rfl⟩]
      exact fun link => absent bucket link there
    simp [List.count_cons, unlinked, inForce.registered]
  | fallback unknown fallbackThere =>
    have other : id ≠ bucket := fun same => unknown (same ▸ there)
    have unlinked : ¬ t.Linked id bucket := by simp [linked_iff, limit?_eq_none_iff.mpr unknown]
    by_cases here : bucket = t.fallback
    · simp [other, unlinked, unknown, ← here]
    · simp [other, unlinked, here, Ne.symm here]
  | free unknown absent =>
    have other : id ≠ bucket := fun same => unknown (same ▸ there)
    have unlinked : ¬ t.Linked id bucket := by simp [linked_iff, limit?_eq_none_iff.mpr unknown]
    have elsewhere : bucket ≠ t.fallback := fun same => absent (same ▸ there)
    simp [other, unlinked, elsewhere]

/-! ### Room -/

/-- A bucket that is there and not used up has a slot left. -/
def HasSlot (t : Throttle) (taken : List String) (bucket : String) : Prop :=
  ∃ l, t.InForce l ∧ l.id = bucket ∧ taken.count bucket < l.perSecond

theorem hasRoom_iff : t.hasRoom taken bucket = true ↔ ¬ t.Registered bucket ∨ t.HasSlot taken bucket := by
  unfold hasRoom
  split
  case h_1 l found =>
    obtain ⟨inForce, rfl⟩ := limit?_eq_some_iff.mp found
    rw [decide_eq_true_iff]
    constructor
    · exact fun room => .inr ⟨l, inForce, rfl, room⟩
    · rintro (absent | ⟨other, also, same, room⟩)
      · exact (absent inForce.registered).elim
      · rwa [inForce.unique also same] at room
  case h_2 absent => simp [limit?_eq_none_iff.mp absent]

theorem draw?_eq_some {left : List String} (drew : t.draw? taken bucket = some left) :
    t.hasRoom taken bucket = true ∧ left = bucket :: taken := by
  unfold draw? at drew
  split at drew
  case isTrue room => exact ⟨room, (Option.some.inj drew).symm⟩
  case isFalse => cases drew

/-- The bucket of a request, which is the fallback if there is none with its id. -/
def bucketOf (t : Throttle) (id : String) : String := if t.Registered id then id else t.fallback

theorem ownBucket_eq : t.ownBucket id = t.bucketOf id := by
  simp only [ownBucket, bucketOf, isRegistered_iff]

/-- The slot that a granted try takes. -/
def trySlots (t : Throttle) (id : String) : List String := (t.registered? (t.ownBucket id)).toList

theorem tryAcquire_eq :
    t.tryAcquire taken id =
      if t.hasRoom taken (t.ownBucket id) then (true, t.trySlots id ++ taken) else (false, taken) := by
  by_cases there : t.Registered (t.ownBucket id)
  · have found := isRegistered_iff.mpr there
    by_cases room : t.hasRoom taken (t.ownBucket id) = true
    · simp [tryAcquire, draw?, trySlots, registered?, found, room]
    · simp [tryAcquire, draw?, found, room]
  · have lost : t.isRegistered (t.ownBucket id) = false := by
      rw [Bool.eq_false_iff]
      exact fun found => there (isRegistered_iff.mp found)
    simp [tryAcquire, trySlots, registered?, hasRoom_iff, lost, there]

/-- A granted try takes a slot of its own bucket, or of the fallback when it has no bucket; the pool
that its bucket is linked to is left alone. -/
theorem count_trySlots (there : t.Registered bucket) :
    (t.trySlots id).count bucket = (if id = bucket then 1 else 0) +
      if bucket = t.fallback ∧ ¬ t.Registered id then 1 else 0 := by
  rw [trySlots, ownBucket_eq, bucketOf]
  by_cases known : t.Registered id
  · simp [known, registered?_of known, List.count_cons]
  · have other : id ≠ bucket := fun same => known (same ▸ there)
    by_cases here : bucket = t.fallback
    · simp [known, other, ← here, registered?_of there]
    · by_cases fallbackThere : t.Registered t.fallback
      · simp [known, other, here, registered?_of fallbackThere, Ne.symm here]
      · simp [known, other, here, registered?_of_not fallbackThere]

end MarketGateway.Throttle
