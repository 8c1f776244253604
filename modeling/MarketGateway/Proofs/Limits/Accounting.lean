import MarketGateway.Limits.Callers
import MarketGateway.Proofs.Limits.Buckets
import MarketGateway.Proofs.Runs

/-!
# The slots that callers take

Callers come in between each other and may each wait for the rest of their slots, yet every slot that
was taken is one of a call. Main statement: `slots_are_accounted`; that a caller alone acquires as it
should is `run?_acquire`.
-/

namespace MarketGateway.Throttle

/-! ### What was called -/

/-- How many acquires of such ids have ended. -/
def acquires (ended : List Ended) (p : String → Bool) : Nat :=
  ended.countP fun
    | .acquired id _ => p id
    | .tried .. => false

/-- How many tries of such ids were granted. -/
def grants (ended : List Ended) (p : String → Bool) : Nat :=
  ended.countP fun
    | .tried id true => p id
    | _ => false

/-- The slots of a bucket that calls have taken. Only acquires take one of a pool for a bucket that is
linked to it; an acquire of a bucket that is linked to itself takes two. -/
def slotsOf (t : Throttle) (ended : List Ended) (bucket : String) : Nat :=
  acquires ended (· = bucket) + acquires ended (t.Linked · bucket) + grants ended (· = bucket) +
    if bucket = t.fallback then
      acquires ended (fun id => ¬ t.Registered id) + grants ended fun id => ¬ t.Registered id
    else 0

/-- The slots that a call took. -/
def Ended.slots (t : Throttle) : Ended → List String
  | .acquired _ drawn => drawn
  | .tried id true => t.trySlots id
  | .tried _ false => []

variable {t : Throttle} {l : RateLimit} {id bucket : String} {drawn : List String} {ended : List Ended}

@[simp] theorem acquires_acquired (p : String → Bool) :
    acquires (.acquired id drawn :: ended) p = acquires ended p + if p id then 1 else 0 :=
  List.countP_cons ..

@[simp] theorem acquires_tried (granted : Bool) (p : String → Bool) :
    acquires (.tried id granted :: ended) p = acquires ended p :=
  List.countP_cons_of_neg Bool.false_ne_true

@[simp] theorem grants_acquired (p : String → Bool) :
    grants (.acquired id drawn :: ended) p = grants ended p :=
  List.countP_cons_of_neg Bool.false_ne_true

@[simp] theorem grants_tried_true (p : String → Bool) :
    grants (.tried id true :: ended) p = grants ended p + if p id then 1 else 0 :=
  List.countP_cons ..

@[simp] theorem grants_tried_false (p : String → Bool) :
    grants (.tried id false :: ended) p = grants ended p :=
  List.countP_cons_of_neg Bool.false_ne_true

theorem slotsOf_acquired :
    t.slotsOf (.acquired id drawn :: ended) bucket =
      (if id = bucket then 1 else 0) + (if t.Linked id bucket then 1 else 0) +
        (if bucket = t.fallback ∧ ¬ t.Registered id then 1 else 0) + t.slotsOf ended bucket := by
  by_cases here : bucket = t.fallback <;>
    simp only [slotsOf, acquires_acquired, grants_acquired, decide_eq_true_eq, here, true_and, false_and,
      ↓reduceIte] <;> omega

theorem slotsOf_granted :
    t.slotsOf (.tried id true :: ended) bucket =
      (if id = bucket then 1 else 0) +
        (if bucket = t.fallback ∧ ¬ t.Registered id then 1 else 0) + t.slotsOf ended bucket := by
  by_cases here : bucket = t.fallback <;>
    simp only [slotsOf, acquires_tried, grants_tried_true, decide_eq_true_eq, here, true_and, false_and,
      ↓reduceIte] <;> omega

theorem slotsOf_denied : t.slotsOf (.tried id false :: ended) bucket = t.slotsOf ended bucket := by
  simp only [slotsOf, acquires_tried, grants_tried_false]

theorem count_slots (paid : ∀ id drawn, .acquired id drawn ∈ ended → t.Pays id drawn)
    (there : t.Registered bucket) :
    (ended.flatMap (Ended.slots t)).count bucket = t.slotsOf ended bucket := by
  induction ended with
  | nil => simp [slotsOf, acquires, grants]
  | cons call ended ih =>
    have rest := ih fun id drawn member => paid id drawn (List.mem_cons_of_mem _ member)
    rw [List.flatMap_cons, List.count_append, rest]
    cases call with
    | acquired id drawn =>
      rw [slotsOf_acquired, ← (paid id drawn List.mem_cons_self).count there]
      rfl
    | tried id granted =>
      cases granted with
      | false =>
        rw [slotsOf_denied]
        exact Nat.zero_add _
      | true =>
        rw [slotsOf_granted, ← count_trySlots there]
        rfl

namespace Usage

variable {s next : Usage} {place : Nat}

/-! ### What a turn does -/

theorem split_at {α : Type} {items : List α} {item : α} (found : items[place]? = some item) :
    ∃ before after, items = before ++ item :: after ∧ items.eraseIdx place = before ++ after ∧
      ∀ changed, items.set place changed = before ++ changed :: after := by
  obtain ⟨inside, rfl⟩ := List.getElem?_eq_some_iff.mp found
  refine ⟨items.take place, items.drop (place + 1), ?_, ?_, fun changed => ?_⟩
  · simp
  · exact List.eraseIdx_eq_take_drop_succ ..
  · rw [List.set_eq_take_append_cons_drop, if_pos inside]

theorem draw_eq_some (stepped : step? t s (.draw place) = some next) :
    ∃ before after id drawn bucket ahead, s.callers = before ++ ⟨id, drawn, bucket :: ahead⟩ :: after ∧
      t.hasRoom s.taken bucket = true ∧
      next = { s with
        taken := bucket :: s.taken, callers := before ++ ⟨id, drawn ++ [bucket], ahead⟩ :: after } := by
  unfold step? at stepped
  dsimp only at stepped
  split at stepped
  case h_1 id drawn bucket ahead found =>
    obtain ⟨before, after, split, -, changed⟩ := split_at found
    obtain ⟨taken, drew, rfl⟩ := Option.map_eq_some_iff.mp stepped
    obtain ⟨room, rfl⟩ := draw?_eq_some drew
    exact ⟨before, after, id, drawn, bucket, ahead, split, room, by rw [changed]⟩
  case h_2 => cases stepped

theorem leave_eq_some (stepped : step? t s (.leave place) = some next) :
    ∃ before after id drawn, s.callers = before ++ ⟨id, drawn, []⟩ :: after ∧
      next = { s with callers := before ++ after, ended := s.ended ++ [.acquired id drawn] } := by
  unfold step? at stepped
  dsimp only at stepped
  split at stepped
  case h_1 id drawn found =>
    obtain ⟨before, after, split, erased, -⟩ := split_at found
    exact ⟨before, after, id, drawn, split, by rw [← erased]; exact (Option.some.inj stepped).symm⟩
  case h_2 => cases stepped

theorem step?_attempt :
    step? t s (.attempt id) = some { s with
      taken := (Ended.tried id (t.hasRoom s.taken (t.ownBucket id))).slots t ++ s.taken
      ended := s.ended ++ [.tried id (t.hasRoom s.taken (t.ownBucket id))] } := by
  cases room : t.hasRoom s.taken (t.ownBucket id) <;> simp [step?, tryAcquire_eq, room, Ended.slots]

/-! ### What turns keep -/

/-- Every slot that was taken is one of a caller or of a call that has ended; a caller has drawn from
the first of its buckets, and from all of them when its call has ended; and no bucket gave more slots
than it has. -/
structure Accounted (t : Throttle) (s : Usage) : Prop where
  taken : ∀ bucket, s.taken.count bucket =
    (s.callers.flatMap (·.drawn)).count bucket + (s.ended.flatMap (Ended.slots t)).count bucket
  callers : ∀ c ∈ s.callers, t.Pays c.id (c.drawn ++ c.ahead)
  paid : ∀ id drawn, .acquired id drawn ∈ s.ended → t.Pays id drawn
  within : ∀ l, t.InForce l → s.taken.count l.id ≤ l.perSecond

theorem accounted_fresh : Accounted t fresh where
  taken _ := rfl
  callers _ member := by cases member
  paid _ _ member := by cases member
  within _ _ := Nat.zero_le _

theorem within_draw (within : ∀ l, t.InForce l → s.taken.count l.id ≤ l.perSecond)
    (room : t.hasRoom s.taken bucket = true) (inForce : t.InForce l) :
    (bucket :: s.taken).count l.id ≤ l.perSecond := by
  by_cases here : bucket = l.id
  · subst here
    rcases hasRoom_iff.mp room with absent | ⟨other, also, same, left⟩
    · exact (absent inForce.registered).elim
    · obtain rfl := inForce.unique also same
      rw [List.count_cons_self]
      exact left
  · rw [List.count_cons_of_ne here]
    exact within l inForce

theorem Accounted.ask (accounted : Accounted t s) :
    Accounted t { s with callers := s.callers ++ [⟨id, [], t.buckets id⟩] } where
  taken bucket := by simpa using accounted.taken bucket
  callers c member := by
    rcases List.mem_append.mp member with old | new
    · exact accounted.callers c old
    · obtain rfl := List.mem_singleton.mp new
      exact pays_buckets t id
  paid := accounted.paid
  within := accounted.within

theorem Accounted.draw (accounted : Accounted t s) (stepped : step? t s (.draw place) = some next) :
    Accounted t next := by
  obtain ⟨before, after, id, drawn, bucket, ahead, split, room, rfl⟩ := draw_eq_some stepped
  refine ⟨fun other => ?_, fun c member => ?_, accounted.paid, fun l => within_draw accounted.within room⟩
  · -- The new slot is one more taken and one more drawn by this caller.
    have old := accounted.taken other
    simp only [split, List.flatMap_append, List.flatMap_cons, List.count_append] at old ⊢
    rw [List.count_cons, List.count_singleton]
    omega
  · rcases List.mem_append.mp member with first | later
    · exact accounted.callers c (split ▸ List.mem_append_left _ first)
    · rcases List.mem_cons.mp later with rfl | later
      · simpa using accounted.callers ⟨id, drawn, bucket :: ahead⟩ (by simp [split])
      · exact accounted.callers c (by simp [split, later])

theorem Accounted.leave (accounted : Accounted t s) (stepped : step? t s (.leave place) = some next) :
    Accounted t next := by
  obtain ⟨before, after, id, drawn, split, rfl⟩ := leave_eq_some stepped
  refine ⟨fun other => ?_, fun c member => ?_, fun other slots member => ?_, accounted.within⟩
  · -- The slots of the caller pass to the call that has ended.
    have old := accounted.taken other
    simp only [split, List.flatMap_append, List.flatMap_cons, List.flatMap_nil, List.count_append,
      Ended.slots, List.count_nil] at old ⊢
    omega
  · refine accounted.callers c (split ▸ ?_)
    rcases List.mem_append.mp member with first | later
    · exact List.mem_append_left _ first
    · exact List.mem_append_right _ (List.mem_cons_of_mem _ later)
  · rcases List.mem_append.mp member with old | new
    · exact accounted.paid other slots old
    · obtain ⟨rfl, rfl⟩ := Ended.acquired.inj (List.mem_singleton.mp new)
      simpa using accounted.callers ⟨other, slots, []⟩ (by simp [split])

theorem Accounted.attempt (accounted : Accounted t s) (stepped : step? t s (.attempt id) = some next) :
    Accounted t next := by
  obtain rfl := Option.some.inj (step?_attempt.symm.trans stepped)
  refine ⟨fun bucket => ?_, accounted.callers, fun other drawn member => ?_, fun l inForce => ?_⟩
  · have old := accounted.taken bucket
    simp only [List.flatMap_append, List.flatMap_singleton, List.count_append]
    omega
  · rcases List.mem_append.mp member with old | new
    · exact accounted.paid other drawn old
    · cases List.mem_singleton.mp new
  · cases room : t.hasRoom s.taken (t.ownBucket id) with
    | false => exact accounted.within l inForce
    | true =>
      by_cases there : t.Registered (t.ownBucket id)
      · simpa [Ended.slots, trySlots, registered?_of there] using
          within_draw accounted.within room inForce
      · simpa [Ended.slots, trySlots, registered?_of_not there] using accounted.within l inForce

theorem Accounted.step (accounted : Accounted t s) {turn : Turn} (stepped : step? t s turn = some next) :
    Accounted t next := by
  cases turn with
  | ask id =>
    obtain rfl := Option.some.inj stepped
    exact accounted.ask
  | draw place => exact accounted.draw stepped
  | leave place => exact accounted.leave stepped
  | attempt id => exact accounted.attempt stepped

theorem accounted_of_run {turns : List Turn} (ran : run? t fresh turns = some s) : Accounted t s :=
  Runs.induction (motive := fun _ s => Accounted t s) ran accounted_fresh fun _ _ _ _ accounted stepped =>
    accounted.step stepped

/-! ### A caller alone -/

theorem run?_draws (s : Usage) (id : String) (drawn ahead : List String) :
    run? t { s with callers := s.callers ++ [⟨id, drawn, ahead⟩] }
        (List.replicate ahead.length (.draw s.callers.length)) =
      (ahead.foldlM t.draw? s.taken).map fun taken =>
        { s with taken, callers := s.callers ++ [⟨id, drawn ++ ahead, []⟩] } := by
  induction ahead generalizing s drawn with
  | nil => simp [run?]
  | cons bucket ahead ih =>
    rw [List.length_cons, List.replicate_succ, run?, List.foldlM_cons, List.foldlM_cons]
    cases drew : t.draw? s.taken bucket with
    | none => simp [step?, drew]
    | some taken =>
      have stepped : step? t { s with callers := s.callers ++ [⟨id, drawn, bucket :: ahead⟩] }
          (.draw s.callers.length) =
          some { s with taken, callers := s.callers ++ [⟨id, drawn ++ [bucket], ahead⟩] } := by
        simp [step?, drew]
      rw [stepped]
      simpa [run?] using ih { s with taken } (drawn ++ [bucket])

/-- A caller that nobody comes in between takes all of its slots, or waits for one that is not there. -/
theorem run?_acquire (t : Throttle) (s : Usage) (id : String) :
    run? t s (.ask id :: (List.replicate (t.buckets id).length (.draw s.callers.length) ++
        [.leave s.callers.length])) =
      (t.acquire? s.taken id).map fun taken =>
        { s with taken, ended := s.ended ++ [.acquired id (t.buckets id)] } := by
  have draws := run?_draws (t := t) s id [] (t.buckets id)
  rw [run?] at draws
  rw [run?, List.foldlM_cons, step?, Option.bind_eq_bind, Option.bind_some, List.foldlM_append, draws,
    ← acquire?]
  cases t.acquire? s.taken id with
  | none => rfl
  | some taken => simp [step?, List.eraseIdx_append_of_length_le]

/-! ### Main result -/

/-- Whatever callers did in whatever order: no bucket gave more slots than it has, and besides those of
the callers that are left, its slots are those of the calls that have ended. An acquire ended with a
slot of its bucket and one of the linked pool, as far as these are there, and a try is granted if and
only if its bucket is not there or has a slot left. -/
theorem slots_are_accounted {turns : List Turn} (ran : run? t fresh turns = some s) :
    (∀ bucket, t.Registered bucket →
      s.taken.count bucket = (s.callers.flatMap (·.drawn)).count bucket + t.slotsOf s.ended bucket ∧
        (s.callers = [] → s.taken.count bucket = t.slotsOf s.ended bucket) ∧
        ∃ l, t.InForce l ∧ l.id = bucket ∧ s.taken.count bucket ≤ l.perSecond) ∧
      (∀ id drawn, .acquired id drawn ∈ s.ended → t.Pays id drawn) ∧
      ∀ id, ∃ next granted, step? t s (.attempt id) = some next ∧
        next.ended = s.ended ++ [.tried id granted] ∧
        (granted = true ↔ ¬ t.Registered (t.bucketOf id) ∨ t.HasSlot s.taken (t.bucketOf id)) := by
  have accounted := accounted_of_run ran
  refine ⟨fun bucket there => ?_, accounted.paid, fun id => ?_⟩
  · have taken := accounted.taken bucket
    rw [count_slots accounted.paid there] at taken
    refine ⟨taken, fun alone => by simpa [alone] using taken, ?_⟩
    obtain ⟨l, inForce, rfl⟩ := there.exists_inForce
    exact ⟨l, inForce, rfl, accounted.within l inForce⟩
  · refine ⟨_, _, step?_attempt, rfl, ?_⟩
    rw [hasRoom_iff, ownBucket_eq]

/-- Callers and tries come in between each other. "REST" is given twice and linked to itself, "/ticker"
is linked to a pool that is not there, and "/depth" is used up by an acquire and a try. -/
theorem slots_are_accounted_interleaved :
    let t : Throttle := ⟨[⟨"REST", 1, none⟩, ⟨"/depth", 2, some "REST"⟩, ⟨"/ticker", 3, some "GONE"⟩,
      ⟨"REST", 7, some "REST"⟩], "REST"⟩
    ∃ s, run? t fresh [.ask "/depth", .ask "/unlisted", .draw 0, .draw 1, .attempt "/depth",
        .attempt "/depth", .leave 1, .ask "REST", .draw 1, .draw 0, .draw 1, .leave 1, .ask "/ticker",
        .draw 1, .leave 0, .leave 0, .attempt "/none"] = some s ∧
      s.taken.count "REST" = 5 ∧ t.slotsOf s.ended "REST" = 5 ∧
      s.taken.count "/depth" = 2 ∧ t.slotsOf s.ended "/depth" = 2 ∧
      (∃ l, t.InForce l ∧ l.id = "REST" ∧ 5 ≤ l.perSecond) ∧
      t.Pays "/depth" ["/depth", "REST"] ∧ t.Pays "REST" ["REST", "REST"] ∧ t.Pays "/ticker" ["/ticker"] ∧
      ¬ t.HasSlot s.taken "/depth" := by
  intro t
  have ran : run? t fresh [.ask "/depth", .ask "/unlisted", .draw 0, .draw 1, .attempt "/depth",
      .attempt "/depth", .leave 1, .ask "REST", .draw 1, .draw 0, .draw 1, .leave 1, .ask "/ticker",
      .draw 1, .leave 0, .leave 0, .attempt "/none"] =
      some ⟨["REST", "/ticker", "REST", "REST", "REST", "/depth", "REST", "/depth"], [],
        [.tried "/depth" true, .tried "/depth" false, .acquired "/unlisted" ["REST"],
          .acquired "REST" ["REST", "REST"], .acquired "/depth" ["/depth", "REST"],
          .acquired "/ticker" ["/ticker"], .tried "/none" true]⟩ := by decide
  obtain ⟨accounts, paid, tries⟩ := slots_are_accounted ran
  have pool := accounts "REST" (by decide)
  have depth := accounts "/depth" (by decide)
  refine ⟨_, ran, by decide, (pool.2.1 rfl).symm, by decide, (depth.2.1 rfl).symm, pool.2.2,
    paid _ _ (by decide), paid _ _ (by decide), paid _ _ (by decide), ?_⟩
  obtain ⟨next, granted, stepped, log, decided⟩ := tries "/depth"
  have denied : granted = false := by
    obtain rfl := Option.some.inj stepped
    exact ((Ended.tried.inj (List.singleton_inj.mp (List.append_cancel_left log))).2).symm
  have own : t.bucketOf "/depth" = "/depth" := by decide
  rw [denied, own] at decided
  exact fun slot => Bool.false_ne_true (decided.mpr (.inr slot))

end Usage

end MarketGateway.Throttle
