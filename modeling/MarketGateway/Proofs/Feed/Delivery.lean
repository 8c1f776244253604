import MarketGateway.Proofs.Consumer.Step
import MarketGateway.Proofs.Feed.Routes

/-!
# Delivery

`Balanced` says where the messages of a channel are: what has been made of the ones read so far is
what the reader has got, then what is on its way to the reader, and then what is still to be made of
the messages that wait. No step of a feed changes that but the reading of a frame, which adds the
message of the frame at the end.
-/

namespace MarketGateway

/-- The message of a frame, if the frame can be read and has one. -/
def Frame.message? (frame : Frame) : Option StreamMessage :=
  match StreamMessage.ofFrame frame with
  | .ok message => message
  | .error _ => none

def StreamMessage.isOn (name : String) (message : StreamMessage) : Bool :=
  message.channel.any fun channel => Text.startsWith channel name

/-! ### What the consumer holds -/

namespace Consumer

variable {p : Plan} {c next : Consumer} {e : Event}

def Stage.isDelivering : Stage → Bool
  | .delivering _ _ => true
  | _ => false

/-- The message that waits for room in the queue of this route. -/
def held (name : String) (c : Consumer) : List StreamMessage :=
  match c.stage with
  | .delivering channel message => if Text.startsWith channel name then [message] else []
  | _ => []

theorem held_eq_nil {name : String} (idle : c.stage.isDelivering = false) : c.held name = [] := by
  unfold held
  split
  · rename_i stage
    rw [stage] at idle
    cases idle
  · rfl

theorem askFor_isDelivering (p : Plan) (c : Consumer) (streams : List String) :
    (c.askFor p streams).stage.isDelivering = false := by
  cases streams with
  | nil => rfl
  | cons stream later =>
    simp only [askFor, await_stage]
    split <;> rfl

theorem onCheck_isDelivering (p : Plan) (time : Nat) (lastFrameAt : Option Nat)
    (stage : c.stage = .streaming) :
    (c.onCheck p time lastFrameAt).stage.isDelivering = false := by
  simp only [onCheck]
  split
  · rfl
  · rw [observe_stage, stage]
    rfl

/-- Other steps than those of a message neither begin nor end a delivery. -/
theorem Step.isDelivering (step : Step p c e next) (uncancelled : e ≠ .cancelled)
    (unreceived : ∀ message time, e ≠ .received message time) (undelivered : e ≠ .delivered) :
    c.stage.isDelivering = false ∧ next.stage.isDelivering = false := by
  cases step with
  | cancelled => exact (uncancelled rfl).elim
  | cancelledClosing => exact (uncancelled rfl).elim
  | received message time => exact (unreceived message time rfl).elim
  | delivered => exact (undelivered rfl).elim
  | connected time stage => exact ⟨by rw [stage]; rfl, askFor_isDelivering ..⟩
  | subscribed stream later stage => exact ⟨by rw [stage]; rfl, askFor_isDelivering ..⟩
  | slotTaken stream later stage => exact ⟨by rw [stage]; rfl, by rw [await_stage]; rfl⟩
  | checked time lastFrameAt stage => exact ⟨by rw [stage]; rfl, onCheck_isDelivering p _ _ stage⟩
  | closed cancelled stage =>
    refine ⟨by rw [stage]; rfl, ?_⟩
    rw [onFailureClosed, await_stage]
    split <;> rfl
  | lastClosed stage => exact ⟨by rw [stage]; rfl, by rw [onLastClosed, await_stage]; rfl⟩
  | started stage => exact ⟨by rw [stage]; rfl, by rw [openSession, await_stage]; rfl⟩
  | waited delay stage => exact ⟨by rw [stage]; rfl, by rw [openSession, await_stage]; rfl⟩
  | connectFailed error stage => exact ⟨by rw [stage]; rfl, by rw [fail_stage]; rfl⟩
  | connectTimedOut stage => exact ⟨by rw [stage]; rfl, by rw [fail_stage]; rfl⟩
  | subscribeFailed stream later error stage =>
    exact ⟨by rw [stage]; rfl, by rw [fail_stage]; rfl⟩
  | readFailed error stage => exact ⟨by rw [stage]; rfl, by rw [fail_stage]; rfl⟩
  | readFinished stage => exact ⟨by rw [stage]; rfl, by rw [fail_stage]; rfl⟩

end Consumer

namespace Feed

variable {p : Consumer.Plan} {c next : Consumer} {names : List String} {name : String}
  {router after : Router StreamMessage}

theorem consume?_step {e : Consumer.Event} (h : consume? p c e = some next) : Consumer.Step p c e next := by
  unfold consume? at h
  split at h
  · cases h
  · cases h
  · exact Consumer.step_of_step? h

theorem consume?_held {e : Consumer.Event} (h : consume? p c e = some next)
    (uncancelled : e ≠ .cancelled) : next.held name = c.held name := by
  unfold consume? at h
  split at h
  · cases h
  · cases h
  · rename_i unreceived undelivered
    have idle := (Consumer.step_of_step? h).isDelivering uncancelled unreceived undelivered
    rw [Consumer.held_eq_nil idle.1, Consumer.held_eq_nil idle.2]

/-- A consumer that reads a frame holds the message of the frame after that, and none before. -/
theorem readFrame?_held {frame : Frame} {time : Nat} (h : readFrame? p c frame time = some next) :
    c.held name = [] ∧ next.held name = frame.message?.toList.filter (·.isOn name) := by
  unfold readFrame? at h
  split at h
  · rename_i stage
    have idle : c.held name = [] := Consumer.held_eq_nil (by rw [stage]; rfl)
    refine ⟨idle, ?_⟩
    unfold Frame.message?
    split at h
    · rename_i message read
      rw [read]
      simp only [Consumer.step?, stage, Option.some.injEq] at h
      subst h
      cases stream : message.channel with
      | none => simp [Consumer.onReceived, Consumer.held, StreamMessage.isOn, stream, stage]
      | some channel =>
        cases here : Text.startsWith channel name <;>
          simp [Consumer.onReceived, Consumer.held, StreamMessage.isOn, stream, here]
    · rename_i unread
      obtain rfl := Option.some.inj h
      rw [idle]
      cases read : StreamMessage.ofFrame frame with
      | error e => rfl
      | ok message =>
        cases message with
        | none => rfl
        | some message => exact (unread message read).elim
  · cases h

theorem deliver?_stages (h : deliver? p c router = some (next, after)) :
    ∃ channel message, c.stage = .delivering channel message ∧ next.stage = .streaming := by
  unfold deliver? at h
  split at h
  · rename_i channel message stage
    simp only [Consumer.step?, stage, Option.bind_eq_bind, Option.bind_some, Option.pure_def,
      Option.bind_eq_some_iff, Option.some.injEq, Prod.mk.injEq] at h
    obtain ⟨-, -, rfl, -⟩ := h
    exact ⟨channel, message, stage, rfl⟩
  · cases h

/-- A delivery moves the message that the consumer holds to the end of the queue of its route. -/
theorem deliver?_moves (ready : Router.Ready names router)
    (h : deliver? p c router = some (next, after)) :
    Router.Ready names after ∧ (∀ name, next.held name = []) ∧
      ∀ name ∈ names, after.queued name = router.queued name ++ c.held name := by
  unfold deliver? at h
  split at h
  · rename_i channel message stage
    simp only [Consumer.step?, stage, Option.bind_eq_bind, Option.bind_some, Option.pure_def,
      Option.bind_eq_some_iff, Option.some.injEq, Prod.mk.injEq] at h
    obtain ⟨routed, delivered, rfl, rfl⟩ := h
    obtain ⟨kept, queues⟩ := Router.deliver?_keeps ready delivered
    refine ⟨kept, fun name => Consumer.held_eq_nil rfl, fun name member => ?_⟩
    rw [queues name member, Consumer.held, stage]
  · cases h

end Feed

/-! ### The balance of a channel -/

namespace Feed

variable {α : Type} {convert : StreamMessage → Except Overflow (List α)} {names : List String}
  {name : String} {messages : List StreamMessage} {c : Consumer} {router next : Router StreamMessage}
  {d after : Drain α} {e : DrainEvent}

def resultsOf (convert : StreamMessage → Except Overflow (List α)) (message : StreamMessage) :
    List α :=
  match convert message with
  | .ok results => results
  | .error _ => []

def IsTotal (convert : StreamMessage → Except Overflow (List α)) : Prop :=
  ∀ message, convert message = .ok (resultsOf convert message)

structure Balanced (convert : StreamMessage → Except Overflow (List α)) (name : String)
    (messages : List StreamMessage) (c : Consumer) (router : Router StreamMessage) (d : Drain α) :
    Prop where
  running : d.state = .running
  whole : (messages.filter (·.isOn name)).flatMap (resultsOf convert) =
    d.read ++ d.output.items ++ d.pending ++
      (router.queued name ++ c.held name).flatMap (resultsOf convert)

/-- Steps of a drain keep the routes, and the queues of the other routes. -/
theorem drain?_keeps (ready : Router.Ready names router)
    (h : drain? convert name router d e = some (next, after)) :
    Router.Ready names next ∧ ∀ other, other ≠ name → next.queued other = router.queued other := by
  cases drainStep_of_drain? h with
  | take taken =>
    obtain ⟨kept, others, -⟩ := take?_keeps ready taken
    exact ⟨kept, others⟩
  | _ => exact ⟨ready, fun _ _ => rfl⟩

/-- What waits for a drain only gets less by its steps. -/
theorem drain?_queued (ready : Router.Ready names router)
    (h : drain? convert name router d e = some (next, after)) :
    next.queued name <:+ router.queued name := by
  cases drainStep_of_drain? h with
  | take taken =>
    obtain ⟨-, -, message, items, -⟩ := take?_keeps ready taken
    exact items ▸ List.suffix_cons ..
  | _ => exact List.suffix_rfl

theorem take?_output (h : take? convert name router d = some (next, after)) :
    after.output = d.output := by
  simp only [take?, Option.bind_eq_bind, Option.bind_eq_some_iff, Option.pure_def, Option.some.injEq,
    Prod.mk.injEq] at h
  obtain ⟨place, -, route, -, ⟨queue, _⟩, taken, -, rfl⟩ := h
  unfold Drain.take? at taken
  split at taken
  · cases taken
  · obtain ⟨⟨message, rest⟩, -, taken⟩ := Option.bind_eq_some_iff.mp taken
    dsimp only at taken
    split at taken
    · obtain ⟨-, rfl⟩ := Prod.mk.inj (Option.some.inj taken)
      rfl
    · obtain ⟨-, rfl⟩ := Prod.mk.inj (Option.some.inj taken)
      rfl

/-- A closed output is not opened again. -/
theorem drain?_isOpen (h : drain? convert name router d e = some (next, after))
    (isOpen : after.output.isOpen = true) : d.output.isOpen = true := by
  cases drainStep_of_drain? h with
  | take taken => exact take?_output taken ▸ isOpen
  | pass passed =>
    obtain ⟨-, result, rest, -, ⟨wasOpen, -⟩ | ⟨-, rfl⟩⟩ := pass?_eq_some passed
    · exact wasOpen
    · exact isOpen
  | stop closed stopped =>
    obtain ⟨-, rfl⟩ := stop?_eq_some stopped
    exact isOpen
  | readOut read =>
    obtain ⟨result, output, popped, rfl⟩ := readOut?_eq_some read
    unfold Queue.pop? at popped
    split at popped
    · obtain ⟨-, rfl⟩ := Prod.mk.inj (Option.some.inj popped)
      exact isOpen
    · cases popped
  | closeOutput => cases isOpen

theorem Balanced.take
    (converts : ∀ message ∈ router.queued name, convert message = .ok (resultsOf convert message))
    (ready : Router.Ready names router)
    (balanced : d.output.isOpen = true → Balanced convert name messages c router d)
    (h : take? convert name router d = some (next, after)) (isOpen : after.output.isOpen = true) :
    Balanced convert name messages c next after := by
  obtain ⟨-, -, message, items, nothing, results, -⟩ := take?_keeps ready h
  obtain rfl := results _ (converts message (items ▸ List.mem_cons_self))
  obtain ⟨running, whole⟩ := balanced isOpen
  refine ⟨running, whole.trans ?_⟩
  simp [items, nothing]

theorem Balanced.pass
    (balanced : d.output.isOpen = true → Balanced convert name messages c router d)
    (h : d.pass? = some after) (isOpen : after.output.isOpen = true) :
    Balanced convert name messages c router after := by
  obtain ⟨-, result, rest, pending, ⟨wasOpen, output, pushed, rfl⟩ | ⟨closed, rfl⟩⟩ := pass?_eq_some h
  · obtain ⟨items, -⟩ := Router.push?_eq_some pushed
    obtain ⟨running, whole⟩ := balanced wasOpen
    refine ⟨running, whole.trans ?_⟩
    simp [items, pending]
  · cases closed.symm.trans isOpen

theorem Balanced.readOut
    (balanced : d.output.isOpen = true → Balanced convert name messages c router d)
    (h : d.readOut? = some after) (isOpen : after.output.isOpen = true) :
    Balanced convert name messages c router after := by
  obtain ⟨result, output, popped, rfl⟩ := readOut?_eq_some h
  unfold Queue.pop? at popped
  split at popped
  · rename_i item rest items
    obtain ⟨rfl, rfl⟩ := Prod.mk.inj (Option.some.inj popped)
    obtain ⟨running, whole⟩ := balanced isOpen
    refine ⟨running, whole.trans ?_⟩
    simp [items]
  · cases popped

/-- A drain whose messages can be converted keeps the balance of its channel as long as its output is
open. -/
theorem Balanced.drain_of_queued
    (converts : ∀ message ∈ router.queued name, convert message = .ok (resultsOf convert message))
    (ready : Router.Ready names router)
    (balanced : d.output.isOpen = true → Balanced convert name messages c router d)
    (h : drain? convert name router d e = some (next, after)) (isOpen : after.output.isOpen = true) :
    Balanced convert name messages c next after := by
  cases drainStep_of_drain? h with
  | take taken => exact .take converts ready balanced taken isOpen
  | pass passed => exact .pass balanced passed isOpen
  | stop closed stopped =>
    obtain ⟨-, rfl⟩ := stop?_eq_some stopped
    cases closed.symm.trans isOpen
  | readOut read => exact .readOut balanced read isOpen
  | closeOutput => cases isOpen

theorem Balanced.drain (total : IsTotal convert) (ready : Router.Ready names router)
    (balanced : d.output.isOpen = true → Balanced convert name messages c router d)
    (h : drain? convert name router d e = some (next, after)) (isOpen : after.output.isOpen = true) :
    Balanced convert name messages c next after :=
  .drain_of_queued (fun message _ => total message) ready balanced h isOpen

theorem Balanced.frame {later : Consumer} (balanced : Balanced convert name messages c router d)
    (queued : next.queued name ++ later.held name = router.queued name ++ c.held name) :
    Balanced convert name messages later next d :=
  ⟨balanced.running, by rw [balanced.whole, queued]⟩

/-- A message that has been read waits behind all others. -/
theorem Balanced.read {later : Consumer} {message : Option StreamMessage}
    (balanced : Balanced convert name messages c router d) (idle : c.held name = [])
    (held : later.held name = message.toList.filter (·.isOn name)) :
    Balanced convert name (messages ++ message.toList) later router d := by
  refine ⟨balanced.running, ?_⟩
  rw [List.filter_append, List.flatMap_append, balanced.whole, idle, held]
  simp

/-- The results of a channel are those of the events on its streams. -/
theorem flatMap_resultsOf {β : Type} {select : Frame → Option β} {make : β → List α}
    {frames : List Frame}
    (same : ∀ frame ∈ frames, (frame.message?.toList.filter (·.isOn name)).flatMap (resultsOf convert) =
      (select frame).toList.flatMap make) :
    ((frames.filterMap Frame.message?).filter (·.isOn name)).flatMap (resultsOf convert) =
      (frames.filterMap select).flatMap make := by
  induction frames with
  | nil => rfl
  | cons frame frames ih =>
    have split : ∀ {γ : Type} (h : Frame → Option γ),
        (frame :: frames).filterMap h = (h frame).toList ++ frames.filterMap h := by
      intro γ h
      cases made : h frame <;> simp [made]
    obtain ⟨here, later⟩ := List.forall_mem_cons.mp same
    rw [split, split, List.filter_append, List.flatMap_append, List.flatMap_append, ih later, here]

/-- What the reader of an output has got is the beginning of what there is for it, and all of it once
no queue on the way holds a message. -/
structure Delivers (expected : List α) (name : String) (c : Consumer) (router : Router StreamMessage)
    (d : Drain α) : Prop where
  received : d.read <+: expected
  complete : c.held name = [] → router.queued name = [] → d.pending = [] → d.output.items = [] →
    d.read = expected

theorem Balanced.delivers (balanced : Balanced convert name messages c router d) :
    Delivers ((messages.filter (·.isOn name)).flatMap (resultsOf convert)) name c router d := by
  constructor
  · rw [balanced.whole, List.append_assoc, List.append_assoc]
    exact List.prefix_append ..
  · intro held queued pending items
    rw [balanced.whole, held, queued, pending, items]
    simp

end Feed

end MarketGateway
