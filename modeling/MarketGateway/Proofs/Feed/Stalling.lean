import MarketGateway.Proofs.Feed.MarketData
import MarketGateway.Proofs.Feed.Room
import MarketGateway.Proofs.Runs

/-!
# Stalling

The loop of the public feed waits when the queue of a channel is full, and reads no frame meanwhile, so
a channel whose queue nobody empties can hold up the others. Nothing else can: a reader whose drain runs
gets all that has been read, and frames stay unread for a full queue only. Main statement:
`full_queues_alone_stall`.
-/

namespace MarketGateway

/-! ### Live connections -/

/-- A feed on a live connection, with the frames that have been read from the connection and those that
have been sent but not read. -/
structure LiveFeed where
  feed : PublicFeed
  seen : List Frame
  unread : List Frame

namespace LiveFeed

open Feed
open PublicFeed (framesOf depthEvents tradeEvents markPriceEvents diffOf? tradeOf? fundingOf?)

inductive Event where
  | sent (frame : Frame)
  | read (time : Nat)
  | deliver
  | checked (time : Nat) (lastFrameAt : Option Nat)
  | diffs (event : DrainEvent)
  | trades (event : DrainEvent)
  | funding (event : DrainEvent)

def ofFeed (f : PublicFeed) : LiveFeed := ⟨f, [], []⟩

def onward? (g : Gateway) (s : LiveFeed) (e : PublicFeed.Event) : Option LiveFeed :=
  (PublicFeed.step? g s.feed e).map fun f => { s with feed := f }

/-- The steps of a connection that stays alive: the server does not close it, and no check finds it
silent for too long. -/
def step? (g : Gateway) (s : LiveFeed) : Event → Option LiveFeed
  | .sent (.close _) => none
  | .sent frame => some { s with unread := s.unread ++ [frame] }
  | .read time =>
    match s.unread with
    | frame :: rest =>
      (PublicFeed.step? g s.feed (.frame frame time)).map fun f => ⟨f, s.seen ++ [frame], rest⟩
    | [] => none
  | .deliver => s.onward? g .deliver
  | .checked time lastFrameAt =>
    if (s.feed.consumer.observe lastFrameAt).isStale (PublicFeed.plan g) time then none
    else s.onward? g (.consumer (.checked time lastFrameAt))
  | .diffs e => s.onward? g (.diffs e)
  | .trades e => s.onward? g (.trades e)
  | .funding e => s.onward? g (.funding e)

def run? (g : Gateway) (s : LiveFeed) (events : List Event) : Option LiveFeed :=
  events.foldlM (step? g) s

def Event.sent? : Event → Option Frame
  | .sent frame => some frame
  | _ => none

def sentOf (events : List Event) : List Frame := events.filterMap Event.sent?

/-! ### Parties -/

/-- Whether the drain of a channel has been started, and whether somebody reads its output. -/
structure Party where
  drains : Bool
  reads : Bool

def Party.serves (p : Party) : Bool := p.drains && p.reads

def Party.allows (p : Party) : DrainEvent → Bool
  | .take | .pass | .stop => p.drains
  | .readOut => p.reads
  | .closeOutput => false

structure Parties where
  diffs : Party
  trades : Party
  funding : Party

/-- The events that the loop, the drains and the readers make, and not the server or the clock. -/
def Parties.allow (p : Parties) : Event → Bool
  | .read _ | .deliver => true
  | .diffs e => p.diffs.allows e
  | .trades e => p.trades.allows e
  | .funding e => p.funding.allows e
  | .sent _ | .checked _ _ => false

def AtRest (g : Gateway) (p : Parties) (s : LiveFeed) : Prop :=
  ∀ e, p.allow e = true → step? g s e = none

/-- The drain of the channel has been started and goes on, and its output is read. -/
inductive Served (p : Parties) (f : PublicFeed) : String → Prop where
  | diffs (serves : p.diffs.serves = true) (running : f.diffs.isRunning = true) :
      Served p f Exchange.depthChannel
  | trades (serves : p.trades.serves = true) (running : f.trades.isRunning = true) :
      Served p f Exchange.tradeChannel
  | funding (serves : p.funding.serves = true) (running : f.funding.isRunning = true) :
      Served p f Exchange.markPriceChannel

/-- The loop waits for room in the queue of a channel that nobody empties. -/
structure StalledBy (p : Parties) (f : PublicFeed) (name : String) : Prop where
  waits : ∃ channel message, f.consumer.stage = .delivering channel message ∧
    Text.startsWith channel name = true
  full : f.router.IsFull name
  unserved : ¬ Served p f name

/-! ### What is kept -/

structure Roomy (f : PublicFeed) : Prop where
  routes : f.router.Bounded
  diffs : f.diffs.output.Bounded
  trades : f.trades.output.Bounded
  funding : f.funding.output.Bounded

variable {g : Gateway} {p : Parties} {f : PublicFeed} {s next : LiveFeed} {e : Event} {events : List Event}
  {before : List Frame}

theorem initial_roomy (g : Gateway) (time capacity : Nat) : Roomy (PublicFeed.initial g time capacity) := by
  have output : ∀ {α : Type}, (Drain.ofCapacity capacity : Drain α).output.Bounded :=
    Queue.ofCapacity_bounded capacity
  refine ⟨fun r member => ?_, output, output, output⟩
  obtain ⟨name, -, rfl⟩ := List.mem_map.mp member
  exact Queue.ofCapacity_bounded _

theorem Roomy.step {after : PublicFeed} {e : PublicFeed.Event} (roomy : Roomy f)
    (h : PublicFeed.step? g f e = some after) : Roomy after := by
  cases e with
  | consumer event =>
    obtain ⟨c, -, rfl⟩ := Option.map_eq_some_iff.mp h
    exact ⟨roomy.routes, roomy.diffs, roomy.trades, roomy.funding⟩
  | frame frame time =>
    obtain ⟨c, -, rfl⟩ := Option.map_eq_some_iff.mp h
    exact ⟨roomy.routes, roomy.diffs, roomy.trades, roomy.funding⟩
  | deliver =>
    obtain ⟨⟨c, router⟩, delivered, rfl⟩ := Option.map_eq_some_iff.mp h
    exact ⟨deliver?_bounded roomy.routes delivered, roomy.diffs, roomy.trades, roomy.funding⟩
  | diffs event =>
    obtain ⟨⟨router, d⟩, drained, rfl⟩ := Option.map_eq_some_iff.mp h
    exact ⟨drain?_bounded roomy.routes drained, drain?_output_bounded roomy.diffs drained, roomy.trades,
      roomy.funding⟩
  | trades event =>
    obtain ⟨⟨router, d⟩, drained, rfl⟩ := Option.map_eq_some_iff.mp h
    exact ⟨drain?_bounded roomy.routes drained, roomy.diffs, drain?_output_bounded roomy.trades drained,
      roomy.funding⟩
  | funding event =>
    obtain ⟨⟨router, d⟩, drained, rfl⟩ := Option.map_eq_some_iff.mp h
    exact ⟨drain?_bounded roomy.routes drained, roomy.diffs, roomy.trades,
      drain?_output_bounded roomy.funding drained⟩

theorem roomy_of_run {time capacity : Nat} {history : List PublicFeed.Event}
    (h : PublicFeed.run? g (PublicFeed.initial g time capacity) history = some f) : Roomy f :=
  Runs.induction (motive := fun _ f => Roomy f) h (initial_roomy g time capacity)
    fun _ _ _ _ roomy stepped => roomy.step stepped

/-- The loop reads frames, or has a message to deliver. -/
def IsUp (f : PublicFeed) : Prop :=
  f.consumer.stage = .streaming ∨ ∃ channel message, f.consumer.stage = .delivering channel message

/-- What holds of a live connection on which some frames have been read after those before. -/
structure Sound (g : Gateway) (before : List Frame) (s : LiveFeed) : Prop where
  feed : PublicFeed.Sound g ((before ++ s.seen).filterMap Frame.message?) s.feed
  roomy : Roomy s.feed
  up : IsUp s.feed

theorem Sound.onward {event : PublicFeed.Event} (sound : Sound g before s)
    (h : s.onward? g event = some next) (noFrame : event.message? = none)
    (uncancelled : event ≠ .consumer .cancelled)
    (up : ∀ f, PublicFeed.step? g s.feed event = some f → IsUp f) :
    Sound g before next ∧ next.seen ++ next.unread = s.seen ++ s.unread := by
  obtain ⟨f, stepped, rfl⟩ := Option.map_eq_some_iff.mp h
  have kept := sound.feed.step stepped uncancelled
  rw [noFrame, Option.toList_none, List.append_nil] at kept
  exact ⟨⟨kept, sound.roomy.step stepped, up f stepped⟩, rfl⟩

theorem isUp_readFrame? {plan : Consumer.Plan} {c after : Consumer} {frame : Frame} {time : Nat}
    (h : readFrame? plan c frame time = some after) :
    after.stage = .streaming ∨ ∃ channel message, after.stage = .delivering channel message := by
  unfold readFrame? at h
  split at h
  · rename_i streaming
    split at h
    · rename_i message read
      simp only [Consumer.step?, streaming, Option.some.injEq] at h
      subst h
      unfold Consumer.onReceived
      dsimp only
      split
      · exact .inr ⟨_, _, rfl⟩
      · exact .inl streaming
    · obtain rfl := Option.some.inj h
      exact .inl streaming
  · cases h

theorem isUp_checked {plan : Consumer.Plan} {c after : Consumer} {time : Nat} {lastFrameAt : Option Nat}
    (fresh : (c.observe lastFrameAt).isStale plan time = false)
    (h : consume? plan c (.checked time lastFrameAt) = some after) : after.stage = .streaming := by
  have step : Consumer.Step plan c (.checked time lastFrameAt) after := Consumer.step_of_step? h
  cases step with
  | checked _ _ streaming =>
    rw [Consumer.onCheck, fresh, if_neg (by decide), Consumer.observe_stage, streaming]

theorem Sound.read {frame : Frame} {rest : List Frame} {time : Nat} {f : PublicFeed}
    (sound : Sound g before s) (h : PublicFeed.step? g s.feed (.frame frame time) = some f) :
    Sound g before ⟨f, s.seen ++ [frame], rest⟩ := by
  have kept := sound.feed.step h (by simp)
  have messages : (before ++ (s.seen ++ [frame])).filterMap Frame.message? =
      (before ++ s.seen).filterMap Frame.message? ++ frame.message?.toList := by
    rw [← List.append_assoc, List.filterMap_append]
    cases made : frame.message? <;> simp [made]
  refine ⟨?_, sound.roomy.step h, ?_⟩
  · show PublicFeed.Sound g ((before ++ (s.seen ++ [frame])).filterMap Frame.message?) f
    rw [messages]
    exact kept
  · obtain ⟨c, read, rfl⟩ := Option.map_eq_some_iff.mp h
    exact isUp_readFrame? read

theorem Sound.step (sound : Sound g before s) (h : step? g s e = some next) :
    Sound g before next ∧ next.seen ++ next.unread = s.seen ++ s.unread ++ e.sent?.toList := by
  have quiet : ∀ event, s.onward? g event = some next → e.sent? = none → event.message? = none →
      event ≠ .consumer .cancelled → (∀ f, PublicFeed.step? g s.feed event = some f → IsUp f) →
      Sound g before next ∧ next.seen ++ next.unread = s.seen ++ s.unread ++ e.sent?.toList := by
    intro event onward unsent noFrame uncancelled up
    rw [unsent, Option.toList_none, List.append_nil]
    exact sound.onward onward noFrame uncancelled up
  cases e with
  | sent frame =>
    have added : next = { s with unread := s.unread ++ [frame] } := by
      cases frame with
      | close reason => cases h
      | _ => exact (Option.some.inj h).symm
    subst added
    exact ⟨⟨sound.feed, sound.roomy, sound.up⟩, (List.append_assoc ..).symm⟩
  | read time =>
    cases unread : s.unread with
    | nil =>
      rw [step?, unread] at h
      cases h
    | cons frame rest =>
      rw [step?, unread] at h
      obtain ⟨f, stepped, rfl⟩ := Option.map_eq_some_iff.mp h
      exact ⟨sound.read stepped, by simp [Event.sent?]⟩
  | deliver =>
    refine quiet .deliver h rfl rfl (by simp) fun f stepped => ?_
    obtain ⟨⟨c, router⟩, delivered, rfl⟩ := Option.map_eq_some_iff.mp stepped
    obtain ⟨_, _, _, streaming⟩ := deliver?_stages delivered
    exact .inl streaming
  | checked time lastFrameAt =>
    rw [step?] at h
    split at h
    · cases h
    · rename_i fresh
      refine quiet _ h rfl rfl (by simp) fun f stepped => ?_
      obtain ⟨c, consumed, rfl⟩ := Option.map_eq_some_iff.mp stepped
      exact .inl (isUp_checked (Bool.of_not_eq_true fresh) consumed)
  | diffs event =>
    refine quiet (.diffs event) h rfl rfl (by simp) fun f stepped => ?_
    obtain ⟨⟨router, d⟩, -, rfl⟩ := Option.map_eq_some_iff.mp stepped
    exact sound.up
  | trades event =>
    refine quiet (.trades event) h rfl rfl (by simp) fun f stepped => ?_
    obtain ⟨⟨router, d⟩, -, rfl⟩ := Option.map_eq_some_iff.mp stepped
    exact sound.up
  | funding event =>
    refine quiet (.funding event) h rfl rfl (by simp) fun f stepped => ?_
    obtain ⟨⟨router, d⟩, -, rfl⟩ := Option.map_eq_some_iff.mp stepped
    exact sound.up

theorem Sound.run (sound : Sound g before (ofFeed f)) (ran : run? g (ofFeed f) events = some s) :
    Sound g before s ∧ s.seen ++ s.unread = sentOf events := by
  refine Runs.induction
    (motive := fun events s => Sound g before s ∧ s.seen ++ s.unread = sentOf events) ran ⟨sound, rfl⟩ ?_
  rintro events s e next ⟨sound, account⟩ stepped
  obtain ⟨kept, more⟩ := sound.step stepped
  refine ⟨kept, ?_⟩
  rw [more, account, sentOf, sentOf, List.filterMap_append]
  cases sent : e.sent? <;> simp [sent]

/-! ### At rest -/

section AtRest

variable {α : Type} {convert : StreamMessage → Except Overflow (List α)} {name : String} {party : Party}
  {d : Drain α} {router : Router StreamMessage}

theorem Party.emptied (serves : party.serves = true) (running : d.isRunning = true)
    (bounded : d.output.Bounded)
    (rests : ∀ e, party.allows e = true → drain? convert name router d e = none) :
    d.output.items = [] ∧ d.pending = [] ∧ router.queued name = [] := by
  obtain ⟨drains, reads⟩ := Bool.and_eq_true_iff.mp serves
  exact all_passed running bounded (rests .take drains) (rests .pass drains) (rests .readOut reads)

/-- The reader of a channel that is served has got all that the loop has let go. -/
theorem Party.read_eq {messages : List StreamMessage} {c : Consumer} (serves : party.serves = true)
    (balanced : Balanced convert name messages c router d) (bounded : d.output.Bounded)
    (rests : ∀ e, party.allows e = true → drain? convert name router d e = none)
    (held : d.isRunning = true → c.held name = []) :
    d.read = (messages.filter (·.isOn name)).flatMap (resultsOf convert) := by
  have running : d.isRunning = true := decide_eq_true balanced.running
  obtain ⟨items, pending, queued⟩ := emptied serves running bounded rests
  exact balanced.delivers.complete (held running) queued pending items

theorem AtRest.diffs (rests : AtRest g p s) (e : DrainEvent) (allowed : p.diffs.allows e = true) :
    drain? BookMessage.diffsOf Exchange.depthChannel s.feed.router s.feed.diffs e = none :=
  Option.map_eq_none_iff.mp (Option.map_eq_none_iff.mp (rests (.diffs e) allowed))

theorem AtRest.trades (rests : AtRest g p s) (e : DrainEvent) (allowed : p.trades.allows e = true) :
    drain? BookMessage.tradesOf Exchange.tradeChannel s.feed.router s.feed.trades e = none :=
  Option.map_eq_none_iff.mp (Option.map_eq_none_iff.mp (rests (.trades e) allowed))

theorem AtRest.funding (rests : AtRest g p s) (e : DrainEvent) (allowed : p.funding.allows e = true) :
    drain? FundingInfo.updatesOf Exchange.markPriceChannel s.feed.router s.feed.funding e = none :=
  Option.map_eq_none_iff.mp (Option.map_eq_none_iff.mp (rests (.funding e) allowed))

theorem queued_eq_nil_of_served (roomy : Roomy s.feed) (rests : AtRest g p s)
    (served : Served p s.feed name) : s.feed.router.queued name = [] := by
  cases served with
  | diffs serves running => exact (Party.emptied serves running roomy.diffs rests.diffs).2.2
  | trades serves running => exact (Party.emptied serves running roomy.trades rests.trades).2.2
  | funding serves running => exact (Party.emptied serves running roomy.funding rests.funding).2.2

/-- A loop that has a message to deliver waits for room in the queue of its channel. -/
theorem full_of_delivering (rests : AtRest g p s) {channel : String} {message : StreamMessage}
    (stage : s.feed.consumer.stage = .delivering channel message) :
    ∃ name ∈ s.feed.router.map Route.channels, Text.startsWith channel name = true ∧
      s.feed.router.IsFull name := by
  have blocked : deliver? (PublicFeed.plan g) s.feed.consumer s.feed.router = none :=
    Option.map_eq_none_iff.mp (Option.map_eq_none_iff.mp (rests .deliver rfl))
  have waits : s.feed.router.deliver? channel message = none := by
    cases delivered : s.feed.router.deliver? channel message with
    | none => rfl
    | some after => simp [deliver?, stage, Consumer.step?, delivered] at blocked
  exact Router.IsFull.of_deliver? waits

theorem held_eq_nil_of_served (sound : Sound g before s) (rests : AtRest g p s)
    (listed : name ∈ Gateway.channels g.kind) (served : Served p s.feed name) :
    s.feed.consumer.held name = [] := by
  have ready := sound.feed.routes
  rcases sound.up with streaming | ⟨channel, message, delivering⟩
  · exact Consumer.held_eq_nil (by rw [streaming]; rfl)
  · rw [Consumer.held, delivering]
    dsimp only
    split
    · rename_i here
      -- The message that waits is of this channel, so its full queue is the empty one of the channel.
      obtain ⟨other, member, begins, full⟩ := full_of_delivering rests delivering
      rw [ready.named] at member
      obtain rfl := ready.separate.unique listed member here begins
      exact (full.queued_ne_nil ready sound.roomy.routes (queued_eq_nil_of_served sound.roomy rests served)).elim
    · rfl

theorem stalledBy_of_unread (sound : Sound g before s) (rests : AtRest g p s) (unread : s.unread ≠ []) :
    ∃ name ∈ Gateway.channels g.kind, StalledBy p s.feed name := by
  have ready := sound.feed.routes
  rcases sound.up with streaming | ⟨channel, message, delivering⟩
  -- A loop that waits for a frame can read one: no kind of frame is refused.
  · obtain ⟨frame, rest, split⟩ := List.exists_cons_of_ne_nil unread
    have blocked := rests (.read 0) rfl
    simp only [step?, split, PublicFeed.step?, readFrame?, streaming, Option.map_eq_none_iff] at blocked
    split at blocked
    · simp [Consumer.step?, streaming] at blocked
    · cases blocked
  · obtain ⟨name, member, begins, full⟩ := full_of_delivering rests delivering
    rw [ready.named] at member
    refine ⟨name, member, ⟨channel, message, delivering, begins⟩, full, fun served => ?_⟩
    exact full.queued_ne_nil ready sound.roomy.routes (queued_eq_nil_of_served sound.roomy rests served)

end AtRest

/-! ### What is delivered -/

/-- What has come of the frames that were read, on this connection and before, when nobody can go on. -/
structure Settled (g : Gateway) (p : Parties) (frames : List Frame) (s : LiveFeed) : Prop where
  diffs : p.diffs.serves = true → s.feed.diffs.output.isOpen = true →
    s.feed.diffs.read = (depthEvents frames).filterMap diffOf?
  trades : p.trades.serves = true → s.feed.trades.output.isOpen = true →
    s.feed.trades.read = (tradeEvents frames).filterMap tradeOf?
  funding : g.kind = .perpetual → p.funding.serves = true → s.feed.funding.output.isOpen = true →
    s.feed.funding.read = (markPriceEvents frames).filterMap fundingOf?
  unread : s.unread ≠ [] → ∃ name ∈ Gateway.channels g.kind, StalledBy p s.feed name

theorem Sound.settled (sound : Sound g before s) (rests : AtRest g p s) :
    Settled g p (before ++ s.seen) s := by
  constructor
  · intro serves isOpen
    rw [← PublicFeed.depth_results]
    refine Party.read_eq serves (sound.feed.diffs isOpen) sound.roomy.diffs rests.diffs fun running => ?_
    exact held_eq_nil_of_served sound rests (PublicFeed.depthChannel_mem _) (.diffs serves running)
  · intro serves isOpen
    rw [← PublicFeed.trade_results]
    refine Party.read_eq serves (sound.feed.trades isOpen) sound.roomy.trades rests.trades fun running => ?_
    exact held_eq_nil_of_served sound rests (PublicFeed.tradeChannel_mem _) (.trades serves running)
  · intro perpetual serves isOpen
    rw [← PublicFeed.markPrice_results]
    refine Party.read_eq serves (sound.feed.funding perpetual isOpen) sound.roomy.funding rests.funding
      fun running => ?_
    exact held_eq_nil_of_served sound rests (PublicFeed.markPriceChannel_mem perpetual)
      (.funding serves running)
  · exact stalledBy_of_unread sound rests

/-- When nobody can go on, every reader whose drain goes on has got all that has been read, and what has
been sent has been read, unless the loop waits for room in the queue of a channel that nobody empties. -/
theorem full_queues_alone_stall {time capacity : Nat} {history : List PublicFeed.Event}
    (begun : PublicFeed.run? g (PublicFeed.initial g time capacity) history = some f)
    (uncancelled : PublicFeed.Event.consumer .cancelled ∉ history)
    (streaming : f.consumer.stage = .streaming) (ran : run? g (ofFeed f) events = some s)
    (rests : AtRest g p s) :
    s.seen ++ s.unread = sentOf events ∧ Settled g p (framesOf history ++ s.seen) s := by
  have feed := (PublicFeed.initial_sound g time capacity).run begun uncancelled
  rw [List.nil_append, PublicFeed.messages_eq] at feed
  have start : Sound g (framesOf history) (ofFeed f) := by
    refine ⟨?_, roomy_of_run begun, .inl streaming⟩
    rw [ofFeed, List.append_nil]
    exact feed
  obtain ⟨sound, account⟩ := start.run ran
  exact ⟨account, sound.settled rests⟩

/-! ### A channel that nobody empties -/

/-- Every event that some party makes, a read at one time standing for all. -/
def moves : List Event :=
  .read 0 :: .deliver ::
    [DrainEvent.take, .pass, .stop, .readOut].flatMap fun e => [.diffs e, .trades e, .funding e]

theorem step?_read_eq_none (blocked : step? g s (.read 0) = none) (time : Nat) :
    step? g s (.read time) = none := by
  rw [step?] at blocked ⊢
  cases unread : s.unread with
  | nil => rfl
  | cons frame rest =>
    rw [unread] at blocked
    have none := Option.map_eq_none_iff.mp (Option.map_eq_none_iff.mp blocked)
    apply Option.map_eq_none_iff.mpr
    apply Option.map_eq_none_iff.mpr
    unfold readFrame? at none ⊢
    split at none
    · rename_i streaming
      split at none
      · simp [Consumer.step?, streaming] at none
      · cases none
    · rfl

theorem atRest_of_moves (blocked : ∀ e ∈ moves, p.allow e = true → step? g s e = none) :
    AtRest g p s := by
  intro e allowed
  cases e with
  | sent frame => cases allowed
  | checked time lastFrameAt => cases allowed
  | read time => exact step?_read_eq_none (blocked (.read 0) (by simp [moves]) rfl) time
  | deliver => exact blocked .deliver (by simp [moves]) rfl
  | diffs event | trades event | funding event =>
    cases event with
    | closeOutput => cases allowed
    | _ => exact blocked _ (by simp [moves]) allowed

namespace Neglected

open PublicFeed.Reconnecting (connecting depthFrame)

/-- A gateway whose queues have room for one message. -/
def gateway : Gateway :=
  { PublicFeed.Reconnecting.gateway with options := { StreamOptions.default with queueCapacity := 1 } }

/-- Nobody asks for the trades. -/
def parties : Parties := ⟨⟨true, true⟩, ⟨false, false⟩, ⟨false, false⟩⟩

def tradeFrame : Frame :=
  .text ("\x7b\"stream\":\"trade.SOL_USDC\",\"data\":\x7b\"e\":\"trade\",\"E\":1,\"s\":\"SOL_USDC\"," ++
    "\"t\":2,\"p\":\"1\",\"q\":\"1\",\"m\":true,\"T\":1\x7d\x7d")

def history : List PublicFeed.Event := .consumer .started :: connecting

def delivered : List Event := [.diffs .take, .diffs .pass, .diffs .readOut]

/-- One trade, which its queue has room for, between two book differences. -/
def passing : List Event :=
  [.sent (depthFrame "100.50"), .read 2, .sent tradeFrame, .sent (depthFrame "99"), .deliver] ++ delivered ++
    [.read 3, .deliver, .checked 4 none, .read 5, .deliver] ++ delivered

/-- Two trades before a book difference. -/
def stalling : List Event :=
  [.sent tradeFrame, .sent tradeFrame, .sent (depthFrame "99"), .read 2, .deliver, .read 3]

/-- Reaches the end of some events on a connection that has just come up, and shows it. -/
def reached? {α : Type} (events : List Event) (view : LiveFeed → α) : Option (Bool × Bool × α) :=
  (PublicFeed.run? gateway (PublicFeed.initial gateway 0 8) history).bind fun f =>
    (run? gateway (ofFeed f) events).map fun s =>
      (f.consumer.stage matches .streaming,
        moves.all fun e => !parties.allow e || (step? gateway s e).isNone, view s)

theorem reached {α : Type} {events : List Event} {view : LiveFeed → α} {shown : α}
    (h : reached? events view = some (true, true, shown)) :
    ∃ f s, PublicFeed.run? gateway (PublicFeed.initial gateway 0 8) history = some f ∧
      f.consumer.stage = .streaming ∧ run? gateway (ofFeed f) events = some s ∧
      AtRest gateway parties s ∧ view s = shown := by
  obtain ⟨f, begun, h⟩ := Option.bind_eq_some_iff.mp h
  obtain ⟨s, ran, same⟩ := Option.map_eq_some_iff.mp h
  obtain ⟨streaming, rest⟩ := Prod.mk.inj same
  obtain ⟨blocked, shown⟩ := Prod.mk.inj rest
  refine ⟨f, s, begun, ?_, ran, atRest_of_moves fun e member allowed => ?_, shown⟩
  · cases stage : f.consumer.stage with
    | streaming => rfl
    | _ =>
      rw [stage] at streaming
      cases streaming
  · have none := List.all_eq_true.mp blocked e member
    rw [allowed, Bool.not_true, Bool.false_or] at none
    exact Option.isNone_iff_eq_none.mp none

theorem uncancelled : PublicFeed.Event.consumer .cancelled ∉ history := by simp [history, connecting]

end Neglected

open Neglected in
open PublicFeed.Reconnecting (diff) in
theorem full_queues_alone_stall_passing :
    ∃ f s, PublicFeed.run? gateway (PublicFeed.initial gateway 0 8) history = some f ∧
      PublicFeed.Event.consumer .cancelled ∉ history ∧ f.consumer.stage = .streaming ∧
      run? gateway (ofFeed f) passing = some s ∧ AtRest gateway parties s ∧
      s.feed.diffs.read = [diff 10050 2 (by decide) (by decide), diff 99 0 (by decide) (by decide)] ∧
      Settled gateway parties (framesOf history ++ s.seen) s := by
  have computed : reached? passing (fun s => s.feed.diffs.read) = some (true, true,
      [diff 10050 2 (by decide) (by decide), diff 99 0 (by decide) (by decide)]) := by
    decide +kernel
  obtain ⟨f, s, begun, streaming, ran, rests, read⟩ := reached computed
  exact ⟨f, s, begun, uncancelled, streaming, ran, rests, read,
    (full_queues_alone_stall begun uncancelled streaming ran rests).2⟩

open Neglected in
open PublicFeed.Reconnecting (diff) in
/-- The trades fill their queue, and a book difference that has been sent does not get to its reader. -/
theorem neglected_trades_stall_diffs :
    ∃ f s, PublicFeed.run? gateway (PublicFeed.initial gateway 0 8) history = some f ∧
      f.consumer.stage = .streaming ∧ run? gateway (ofFeed f) stalling = some s ∧
      AtRest gateway parties s ∧ parties.diffs.serves = true ∧ s.feed.diffs.output.isOpen = true ∧
      s.feed.diffs.read ≠ (depthEvents (sentOf stalling)).filterMap diffOf? := by
  have computed : reached? stalling (fun s => (s.feed.diffs.output.isOpen, s.feed.diffs.read)) =
      some (true, true, true, []) := by
    decide +kernel
  have expected : (depthEvents (sentOf stalling)).filterMap diffOf? =
      [diff 99 0 (by decide) (by decide)] := by
    decide +kernel
  obtain ⟨f, s, begun, streaming, ran, rests, shown⟩ := reached computed
  obtain ⟨isOpen, read⟩ := Prod.mk.inj shown
  refine ⟨f, s, begun, streaming, ran, rests, rfl, isOpen, ?_⟩
  rw [read, expected]
  exact (List.cons_ne_nil _ _).symm

end LiveFeed

end MarketGateway
