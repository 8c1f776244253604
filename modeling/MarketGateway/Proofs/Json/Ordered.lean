import MarketGateway.Json.Parser
import MarketGateway.Proofs.Json.Members

/-!
# Objects in documents

Every object that is read from a text lists its members in ascending order of their keys:
`parse?_ordered`.
-/

namespace MarketGateway.Json

variable {v : Json} {a next : Assembly} {stack : List Frame} {token : Token} {tokens : List Token}

/-- Every object in the value lists its members in ascending order. -/
inductive Ordered : Json → Prop where
  | null : Ordered .null
  | bool (value : Bool) : Ordered (.bool value)
  | number (value : Number) : Ordered (.number value)
  | string (value : String) : Ordered (.string value)
  | array {items : List Json} (each : ∀ v ∈ items, Ordered v) : Ordered (.array items)
  | object {members : List (String × Json)} (ascending : Ascending members)
      (each : ∀ m ∈ members, Ordered m.2) : Ordered (.object members)

theorem Ordered.ascending {members : List (String × Json)} (ordered : Ordered (.object members)) :
    Ascending members := by
  cases ordered
  assumption

theorem Ordered.of_memberOf? {members : List (String × Json)} {key : String}
    (ordered : Ordered (.object members)) (found : memberOf? key members = some v) : Ordered v := by
  cases ordered with
  | object ascending each => exact each _ ((memberOf?_eq_some ascending.distinct).mp found)

theorem Ordered.setMember {members : List (String × Json)} {key : String}
    (ordered : Ordered (.object members)) (value : v.Ordered) :
    Ordered (.object (setMember key v members)) := by
  cases ordered with
  | object ascending each =>
    refine .object ascending.setMember fun m member => ?_
    rcases mem_setMember member with rfl | before
    · exact value
    · exact each m before

/-! ### Tokens -/

def Token.IsOrdered : Token → Prop
  | .scalar v => v.Ordered
  | _ => True

theorem word?_ordered {cs : List Char} (read : word? cs = some v) : v.Ordered := by
  unfold word? at read
  split at read
  · exact Option.some.inj read ▸ .bool true
  split at read
  · exact Option.some.inj read ▸ .bool false
  split at read
  · exact Option.some.inj read ▸ .null
  · obtain ⟨n, -, rfl⟩ := Option.map_eq_some_iff.mp read
    exact .number n

theorem punctuation?_ordered {c : Char} (mark : punctuation? c = some token) : token.IsOrdered := by
  unfold punctuation? at mark
  split at mark <;> cases mark <;> trivial

theorem scanFresh_ordered (c : Char) : ∀ token ∈ (scanFresh c).2, token.IsOrdered := by
  unfold scanFresh
  split
  · exact nofun
  split
  · exact nofun
  split
  · rename_i mark
    exact List.forall_mem_singleton.mpr (punctuation?_ordered mark)
  · exact nofun

/-- Only a word makes a token with a value, and it is none of the values with members. -/
theorem scan_ordered {s after : Scan} {c : Char} (scanned : scan s c = some (after, tokens)) :
    ∀ token ∈ tokens, token.IsOrdered := by
  cases s with
  | between =>
    have same : scanFresh c = (after, tokens) := Option.some.inj scanned
    have fresh := scanFresh_ordered c
    rwa [same] at fresh
  | word sofar =>
    rw [scan] at scanned
    split at scanned
    · obtain ⟨v, read, same⟩ := Option.map_eq_some_iff.mp scanned
      cases same
      exact List.forall_mem_cons.mpr ⟨word?_ordered read, scanFresh_ordered c⟩
    · cases scanned
      exact nofun
  | text sofar =>
    rw [scan] at scanned
    split at scanned
    · cases scanned
      exact List.forall_mem_singleton.mpr trivial
    · have none : tokens = [] := by grind
      subst none
      exact nofun
  | escape _ | code _ _ _ _ | pair _ _ | pairEscape _ _ =>
    -- Inside an escape there is no end of a token.
    have none : tokens = [] := by
      simp only [scan] at scanned
      grind [Option.map_eq_some_iff, Option.bind_eq_some_iff]
    subst none
    exact nofun

theorem scanEnd_ordered {s : Scan} (scanned : scanEnd s = some tokens) :
    ∀ token ∈ tokens, token.IsOrdered := by
  unfold scanEnd at scanned
  split at scanned
  · cases scanned
    exact nofun
  · obtain ⟨v, read, rfl⟩ := Option.map_eq_some_iff.mp scanned
    exact List.forall_mem_singleton.mpr (word?_ordered read)
  · cases scanned

/-! ### Values -/

def Frame.IsOrdered : Frame → Prop
  | .items sofar => ∀ v ∈ sofar, v.Ordered
  | .members sofar | .member sofar _ => Ordered (.object sofar)

/-- What is open holds ordered values only, and so does the result. -/
structure Assembly.IsOrdered (a : Assembly) : Prop where
  stack : ∀ frame ∈ a.stack, frame.IsOrdered
  result : ∀ v, a.result = some v → v.Ordered

namespace Assembly

theorem IsOrdered.ofStack {frames : List Frame} {expected : Expected}
    (open_ : ∀ frame ∈ frames, frame.IsOrdered) : IsOrdered ⟨frames, expected, none⟩ := ⟨open_, nofun⟩

theorem complete_ordered (value : v.Ordered) (open_ : ∀ frame ∈ stack, frame.IsOrdered)
    (completed : complete v stack = some next) : next.IsOrdered := by
  unfold complete at completed
  split at completed
  · cases completed
    exact ⟨nofun, fun w same => Option.some.inj same ▸ value⟩
  · cases completed
    obtain ⟨first, others⟩ := List.forall_mem_cons.mp open_
    have items : Frame.IsOrdered (.items (v :: _)) := List.forall_mem_cons.mpr ⟨value, first⟩
    exact .ofStack (List.forall_mem_cons.mpr ⟨items, others⟩)
  · rename_i sofar key stack
    cases completed
    obtain ⟨first, others⟩ := List.forall_mem_cons.mp open_
    have members : Frame.IsOrdered (.members (setMember key v sofar)) := Ordered.setMember first value
    exact .ofStack (List.forall_mem_cons.mpr ⟨members, others⟩)
  · cases completed

theorem push_ordered {frame : Frame} {expected : Expected} (new : frame.IsOrdered)
    (open_ : ∀ frame ∈ stack, frame.IsOrdered) (pushed : push frame expected stack = some next) :
    next.IsOrdered := by
  unfold push at pushed
  split at pushed
  · cases pushed
    exact .ofStack (List.forall_mem_cons.mpr ⟨new, open_⟩)
  · cases pushed

theorem beginValue_ordered (open_ : ∀ frame ∈ stack, frame.IsOrdered) (scanned : token.IsOrdered)
    (begun : beginValue stack token = some next) : next.IsOrdered := by
  unfold beginValue at begun
  split at begun
  · exact complete_ordered scanned open_ begun
  · exact complete_ordered (.string _) open_ begun
  · have empty : Frame.IsOrdered (.items []) := fun v member => nomatch member
    exact push_ordered empty open_ begun
  · have empty : Frame.IsOrdered (.members []) := Ordered.object .nil nofun
    exact push_ordered empty open_ begun
  · cases begun

theorem beginMember_ordered (open_ : ∀ frame ∈ stack, frame.IsOrdered)
    (begun : beginMember stack token = some next) : next.IsOrdered := by
  unfold beginMember at begun
  split at begun
  · cases begun
    obtain ⟨members, others⟩ := List.forall_mem_cons.mp open_
    exact .ofStack (List.forall_mem_cons.mpr ⟨members, others⟩)
  · cases begun

theorem close_ordered (open_ : ∀ frame ∈ stack, frame.IsOrdered)
    (closed : close stack token = some next) : next.IsOrdered := by
  unfold close at closed
  split at closed
  · obtain ⟨items, others⟩ := List.forall_mem_cons.mp open_
    refine complete_ordered (.array fun v member => ?_) others closed
    exact items v (List.mem_reverse.mp member)
  · obtain ⟨members, others⟩ := List.forall_mem_cons.mp open_
    exact complete_ordered members others closed
  · cases closed

theorem separate_ordered (open_ : ∀ frame ∈ stack, frame.IsOrdered)
    (separated : separate stack = some next) : next.IsOrdered := by
  unfold separate at separated
  split at separated
  · cases separated
    exact .ofStack open_
  · cases separated
    exact .ofStack open_
  · cases separated

theorem step_ordered (ordered : a.IsOrdered) (scanned : token.IsOrdered)
    (stepped : a.step token = some next) : next.IsOrdered := by
  unfold step at stepped
  split at stepped
  · exact beginValue_ordered ordered.stack scanned stepped
  · exact close_ordered ordered.stack stepped
  · exact beginValue_ordered ordered.stack scanned stepped
  · exact close_ordered ordered.stack stepped
  · exact beginMember_ordered ordered.stack stepped
  · exact beginMember_ordered ordered.stack stepped
  · cases stepped
    exact ⟨ordered.stack, ordered.result⟩
  · exact separate_ordered ordered.stack stepped
  · exact close_ordered ordered.stack stepped
  · cases stepped

theorem steps_ordered (ordered : a.IsOrdered) (scanned : ∀ token ∈ tokens, token.IsOrdered)
    (stepped : a.steps tokens = some next) : next.IsOrdered := by
  induction tokens generalizing a with
  | nil =>
    cases stepped
    exact ordered
  | cons token tokens ih =>
    obtain ⟨here, later⟩ := List.forall_mem_cons.mp scanned
    obtain ⟨middle, first, rest⟩ := Option.bind_eq_some_iff.mp stepped
    exact ih (step_ordered ordered here first) later rest

end Assembly

theorem parseFrom_ordered {s : Scan} {cs : List Char} (ordered : a.IsOrdered)
    (parsed : parseFrom s a cs = some v) : v.Ordered := by
  induction cs generalizing s a with
  | nil =>
    obtain ⟨tokens, scanned, parsed⟩ := Option.bind_eq_some_iff.mp parsed
    obtain ⟨next, stepped, result⟩ := Option.bind_eq_some_iff.mp parsed
    exact (Assembly.steps_ordered ordered (scanEnd_ordered scanned) stepped).result v result
  | cons c cs ih =>
    obtain ⟨⟨after, tokens⟩, scanned, parsed⟩ := Option.bind_eq_some_iff.mp parsed
    obtain ⟨next, stepped, rest⟩ := Option.bind_eq_some_iff.mp parsed
    exact ih (Assembly.steps_ordered ordered (scan_ordered scanned) stepped) rest

theorem parse?_ordered {text : String} (parsed : parse? text = some v) : v.Ordered :=
  have start : Assembly.start.IsOrdered := .ofStack nofun
  parseFrom_ordered start parsed

end MarketGateway.Json
