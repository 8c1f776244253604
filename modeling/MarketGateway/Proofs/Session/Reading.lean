import MarketGateway.Stream.Session
import Mathlib.Data.List.Induction

/-!
# Reading from a connection

Whatever frames mean, calls for the next message come to the messages of the frames in their order, up
to the end of the connection and however the frames are spread over the calls. Main statement:
`reading_is_a_filter`.
-/

namespace MarketGateway.Session

variable {α : Type} {decode : Decoder α} {s : Session} {arrivals : List Arrival}

/-! ### What arrivals mean -/

def Arrival.isEnd : Arrival → Bool
  | .frame (.close _) _ _ | .failure | .finished => true
  | .frame _ _ _ => false

def Decoder.message? (decode : Decoder α) (frame : Frame) : Option α :=
  match decode frame with
  | .ok message => message
  | .error _ => none

/-- What a call comes to with this arrival, unless it reads on. -/
def outcome? (decode : Decoder α) : Arrival → Option (Outcome α)
  | .frame (.text content) _ _ => (decode.message? (.text content)).map .item
  | .frame (.binary content) _ _ => (decode.message? (.binary content)).map .item
  | .frame (.ping _) _ _ => none
  | .frame (.pong _) _ _ => none
  | .frame (.close reason) _ _ =>
    some (.failure (.socket (.closedByPeer (CloseReason.describe reason))))
  | .failure => some (.failure (.socket .read))
  | .finished => some .finished

/-- What a call came to, unless it was given up. -/
def Outcome.made? : Outcome α → Option (Outcome α)
  | .waiting => none
  | outcome => some outcome

def pong? : Arrival → Option Frame
  | .frame (.ping content) _ _ => some (.pong content)
  | _ => none

/-- The answer to a ping gets through. -/
def Arrival.isAnswerable : Arrival → Bool
  | .frame (.ping _) _ answerable => answerable
  | _ => true

/-- A connection whose two halves are there. -/
structure IsOpen (s : Session) : Prop where
  isConnected : s.isConnected = true
  canWrite : s.canWrite = true
  canRead : s.canRead = true

/-- The session once it has heard of an arrival. -/
def heard (s : Session) : Arrival → Session
  | .frame (.close _) time _ => { s with lastFrameAt := some time, isConnected := false }
  | .frame _ time _ => { s with lastFrameAt := some time }
  | .failure | .finished => { s with isConnected := false }

theorem IsOpen.heard {a : Arrival} (isOpen : s.IsOpen) (goesOn : a.isEnd = false) :
    (s.heard a).IsOpen := by
  unfold Arrival.isEnd at goesOn
  unfold Session.heard
  split
  · cases goesOn
  · exact ⟨isOpen.isConnected, isOpen.canWrite, isOpen.canRead⟩
  · cases goesOn
  · cases goesOn

theorem heard_of_isEnd {a : Arrival} (isEnd : a.isEnd = true) : (s.heard a).isConnected = false := by
  unfold Arrival.isEnd at isEnd
  split at isEnd
  · rfl
  · rfl
  · rfl
  · cases isEnd

theorem outcome?_of_isEnd (decode : Decoder α) {a : Arrival} (isEnd : a.isEnd = true) :
    ∃ outcome, outcome? decode a = some outcome ∧ outcome.made? = some outcome := by
  unfold Arrival.isEnd at isEnd
  split at isEnd
  · exact ⟨_, rfl, rfl⟩
  · exact ⟨_, rfl, rfl⟩
  · exact ⟨_, rfl, rfl⟩
  · cases isEnd

/-- As long as a connection does not end, outcomes are messages. -/
theorem item_of_outcome? {a : Arrival} {outcome : Outcome α} (goesOn : a.isEnd = false)
    (found : outcome? decode a = some outcome) : ∃ value, outcome = .item value := by
  have item : ∀ message : Option α, message.map Outcome.item = some outcome →
      ∃ value, outcome = .item value := by
    intro message is
    obtain ⟨value, -, rfl⟩ := Option.map_eq_some_iff.mp is
    exact ⟨value, rfl⟩
  unfold Arrival.isEnd at goesOn
  unfold outcome? at found
  split at found
  · exact item _ found
  · exact item _ found
  · cases found
  · cases found
  all_goals cases goesOn

/-- Nothing is answered where a call comes to an end. -/
theorem pong?_of_outcome? {a : Arrival} {outcome : Outcome α}
    (found : outcome? decode a = some outcome) : pong? a = none := by
  unfold pong?
  split
  · cases found
  · rfl

/-! ### One loop

The loop over frames and the loop over control frames within it are one loop over the arrivals. -/

theorem Decoder.message?_eq_none {frame : Frame} (skips : ∀ message, decode frame ≠ .ok (some message)) :
    decode.message? frame = none := by
  unfold message?
  split
  · rename_i message decoded
    cases message with
    | none => rfl
    | some message => exact absurd decoded (skips message)
  · rfl

theorem nextDecoded_of_nextFrame {r : Reading Frame} (found : s.nextFrame arrivals = r) :
    s.nextDecoded decode arrivals =
      match r.outcome with
      | .waiting => ⟨.waiting, r.session, r.rest, r.pongs⟩
      | .finished => ⟨.finished, r.session, r.rest, r.pongs⟩
      | .failure e => ⟨.failure e, r.session, r.rest, r.pongs⟩
      | .item (.close reason) =>
        ⟨.failure (.socket (.closedByPeer (CloseReason.describe reason))), r.session, r.rest, r.pongs⟩
      | .item frame =>
        match decode.message? frame with
        | some message => ⟨.item message, r.session, r.rest, r.pongs⟩
        | none => (r.session.nextDecoded decode r.rest).after r.pongs := by
  subst found
  rw [nextDecoded]
  split
  case h_5 =>
    rename_i frame open_ item
    simp only [item]
    split
    · rename_i message decoded
      simp only [Decoder.message?, decoded]
    · rename_i skips
      rw [Decoder.message?_eq_none skips]
  all_goals simp_all

theorem nextDecoded_of_after {later : Session} {rest : List Arrival} {pongs : List Frame}
    (found : s.nextFrame arrivals = (later.nextFrame rest).after pongs) :
    s.nextDecoded decode arrivals = (later.nextDecoded decode rest).after pongs := by
  generalize inner : later.nextFrame rest = r at found
  rw [nextDecoded_of_nextFrame found, nextDecoded_of_nextFrame inner]
  obtain ⟨outcome, session, rest, sent⟩ := r
  cases outcome with
  | item frame =>
    cases frame with
    | close reason => rfl
    | _ =>
      simp only [Reading.after]
      split <;> simp
  | _ => rfl

theorem nextFrame_of_isOpen (isOpen : s.IsOpen) (arrivals : List Arrival) :
    s.nextFrame arrivals = s.readOn arrivals := by
  simp [nextFrame, isOpen.isConnected, isOpen.canRead]

theorem nextDecoded_nil (isOpen : s.IsOpen) : s.nextDecoded decode [] = ⟨.waiting, s, [], []⟩ :=
  nextDecoded_of_nextFrame (nextFrame_of_isOpen isOpen [])

theorem answer_of_isOpen (isOpen : s.IsOpen) (content : ByteArray) :
    s.answer content true = (s, [.pong content]) := by
  simp [answer, send, isOpen.isConnected, isOpen.canWrite]

theorem nextDecoded_cons {a : Arrival} {rest : List Arrival} (isOpen : s.IsOpen)
    (able : a.isAnswerable = true) :
    s.nextDecoded decode (a :: rest) =
      match outcome? decode a with
      | some outcome => ⟨outcome, s.heard a, rest, []⟩
      | none => ((s.heard a).nextDecoded decode rest).after (pong? a).toList := by
  have first := nextFrame_of_isOpen isOpen (a :: rest)
  cases a with
  | failure => exact nextDecoded_of_nextFrame first
  | finished => exact nextDecoded_of_nextFrame first
  | frame frame time answerable =>
    cases frame with
    | close reason => exact nextDecoded_of_nextFrame first
    | text content =>
      rw [nextDecoded_of_nextFrame first]
      simp only [readOn, outcome?]
      cases decode.message? (.text content) <;> rfl
    | binary content =>
      rw [nextDecoded_of_nextFrame first]
      simp only [readOn, outcome?]
      cases decode.message? (.binary content) <;> rfl
    | pong content =>
      apply nextDecoded_of_after
      rw [first, nextFrame_of_isOpen (isOpen.heard rfl)]
      rfl
    | ping content =>
      obtain rfl : answerable = true := able
      have stays : (s.heard (.frame (.ping content) time true)).IsOpen := isOpen.heard rfl
      apply nextDecoded_of_after
      have answered : answer { s with lastFrameAt := some time } content true =
          ({ s with lastFrameAt := some time }, [.pong content]) := answer_of_isOpen stays content
      rw [first, nextFrame_of_isOpen stays, readOn, answered]
      rfl

theorem nextDecoded_of_not_isConnected (closed : s.isConnected = false) :
    s.nextDecoded decode arrivals = ⟨.failure (.socket .notConnected), s, arrivals, []⟩ :=
  nextDecoded_of_nextFrame (r := ⟨.failure (.socket .notConnected), s, arrivals, []⟩)
    (by simp [nextFrame, closed])

/-! ### Single messages -/

/-- A call for the next message, which reads up to the first outcome. -/
inductive Reads (decode : Decoder α) : List Arrival → Reading α → Prop where
  | item {s : Session} {read rest : List Arrival} {value : α} (isOpen : s.IsOpen)
      (quiet : ∀ a ∈ read, a.isEnd = false)
      (first : read.filterMap (outcome? decode) = [.item value]) :
      Reads decode (read ++ rest) ⟨.item value, s, rest, read.filterMap pong?⟩
  | waits {s : Session} {read : List Arrival} (isOpen : s.IsOpen)
      (quiet : ∀ a ∈ read, a.isEnd = false) (first : read.filterMap (outcome? decode) = []) :
      Reads decode read ⟨.waiting, s, [], read.filterMap pong?⟩
  | ends {s : Session} {read rest : List Arrival} {last : Arrival} {outcome : Outcome α}
      (closed : s.isConnected = false) (quiet : ∀ a ∈ read, a.isEnd = false)
      (first : read.filterMap (outcome? decode) = []) (isEnd : last.isEnd = true)
      (final : outcome? decode last = some outcome) :
      Reads decode (read ++ last :: rest) ⟨outcome, s, rest, read.filterMap pong?⟩

theorem Reads.skip {skipped : List Arrival} {r : Reading α} (reads : Reads decode arrivals r)
    (quiet : ∀ a ∈ skipped, a.isEnd = false) (none : skipped.filterMap (outcome? decode) = []) :
    Reads decode (skipped ++ arrivals) (r.after (skipped.filterMap pong?)) := by
  cases reads with
  | item isOpen more first =>
    rw [Reading.after, ← List.filterMap_append, ← List.append_assoc]
    refine .item isOpen (List.forall_mem_append.mpr ⟨quiet, more⟩) ?_
    rw [List.filterMap_append, none, first, List.nil_append]
  | waits isOpen more first =>
    rw [Reading.after, ← List.filterMap_append]
    refine .waits isOpen (List.forall_mem_append.mpr ⟨quiet, more⟩) ?_
    rw [List.filterMap_append, none, first, List.nil_append]
  | ends closed more first isEnd final =>
    rw [Reading.after, ← List.filterMap_append, ← List.append_assoc]
    refine .ends closed (List.forall_mem_append.mpr ⟨quiet, more⟩) ?_ isEnd final
    rw [List.filterMap_append, none, first, List.nil_append]

theorem nextDecoded_reads (isOpen : s.IsOpen) (able : ∀ a ∈ arrivals, a.isAnswerable = true) :
    Reads decode arrivals (s.nextDecoded decode arrivals) := by
  -- An arrival without an outcome leaves the session open, and goes before what the rest is read as.
  induction arrivals generalizing s with
  | nil =>
    rw [nextDecoded_nil isOpen]
    exact .waits isOpen nofun rfl
  | cons a rest ih =>
    obtain ⟨ableFirst, able⟩ := List.forall_mem_cons.mp able
    rw [nextDecoded_cons isOpen ableFirst]
    cases found : outcome? decode a with
    | none =>
      have goesOn : a.isEnd = false := by
        by_contra isEnd
        obtain ⟨outcome, is, -⟩ := outcome?_of_isEnd decode (Bool.of_not_eq_false isEnd)
        rw [found] at is
        cases is
      have skipped : Reads decode ([a] ++ rest)
          (((s.heard a).nextDecoded decode rest).after ([a].filterMap pong?)) :=
        (ih (isOpen.heard goesOn) able).skip (by simpa using goesOn) (by simp [found])
      cases pong : pong? a <;> simpa [pong] using skipped
    | some outcome =>
      cases isEnd : a.isEnd with
      | true =>
        have ends : Reads decode ([] ++ a :: rest) ⟨outcome, s.heard a, rest, [].filterMap pong?⟩ :=
          .ends (heard_of_isEnd isEnd) nofun rfl isEnd found
        exact ends
      | false =>
        obtain ⟨value, rfl⟩ := item_of_outcome? isEnd found
        have once : Reads decode ([a] ++ rest) ⟨.item value, s.heard a, rest, [a].filterMap pong?⟩ :=
          .item (isOpen.heard isEnd) (by simpa using isEnd) (by simp [found])
        rwa [List.filterMap_cons_none (pong?_of_outcome? found)] at once

/-- What a call comes to is the first outcome of the arrivals. -/
theorem Reads.outcome_eq {r : Reading α} (reads : Reads decode arrivals r) :
    r.outcome = (arrivals.findSome? (outcome? decode)).getD .waiting := by
  rw [← List.head?_filterMap]
  cases reads with
  | item isOpen quiet first => simp [first]
  | waits isOpen quiet none => simp [none]
  | ends closed quiet none isEnd final => simp [none, final]

/-! ### Calls one after the other -/

/-- What may be done with a session; a call for the next message comes with what has arrived since
the last one, and is given up when it would have to wait for more. -/
inductive Turn where
  | call (arrived : List Arrival)
  | attempt (tried : Attempt)
  | request (credentials : Option Credentials) (action : StreamAction) (streams : List String)
      (nowMs : Int64) (delivered : Bool)
  | close

def Turn.arrived : Turn → List Arrival
  | .call arrived => arrived
  | _ => []

/-- What a turn may be as long as the connection is to last. -/
def Turn.IsPeaceful : Turn → Prop
  | .call arrived => ∀ a ∈ arrived, a.isAnswerable = true
  | .attempt tried => tried ≠ .succeeded
  | .request _ _ _ _ delivered => delivered = true
  | .close => False

/-- A session with what it has not read, the outcomes of the calls that were not given up and the pongs
that were sent. -/
structure Progress (α : Type) where
  session : Session
  unread : List Arrival
  outcomes : List (Outcome α)
  pongs : List Frame

def Progress.connected (α : Type) (s : Session) : Progress α := ⟨(s.connect .succeeded).1, [], [], []⟩

def Progress.turn (decode : Decoder α) (p : Progress α) : Turn → Progress α
  | .call arrived =>
    let r := p.session.nextDecoded decode (p.unread ++ arrived)
    ⟨r.session, r.rest, p.outcomes ++ r.outcome.made?.toList, p.pongs ++ r.pongs⟩
  | .attempt .succeeded => { p with session := (p.session.connect .succeeded).1, unread := [] }
  | .attempt tried => { p with session := (p.session.connect tried).1 }
  | .request credentials action streams nowMs delivered =>
    { p with session := (p.session.request credentials action streams nowMs delivered).1 }
  | .close => { p with session := p.session.close }

def Progress.turns (decode : Decoder α) (p : Progress α) (turns : List Turn) : Progress α :=
  turns.foldl (Progress.turn decode) p

def notConnected : Outcome α := .failure (.socket .notConnected)

/-- How far the calls have come with all that has arrived. -/
inductive Filtered (decode : Decoder α) (arrived : List Arrival) (p : Progress α) : Prop where
  | reading (read : List Arrival) (isOpen : p.session.IsOpen) (split : arrived = read ++ p.unread)
      (quiet : ∀ a ∈ read, a.isEnd = false)
      (outcomes : p.outcomes = read.filterMap (outcome? decode))
      (pongs : p.pongs = read.filterMap pong?)
  /-- Calls that come too late fail. -/
  | ended (read : List Arrival) (last : Arrival) (late : Nat) (closed : p.session.isConnected = false)
      (split : arrived = read ++ last :: p.unread) (quiet : ∀ a ∈ read, a.isEnd = false)
      (isEnd : last.isEnd = true)
      (outcomes : p.outcomes =
        (read ++ [last]).filterMap (outcome? decode) ++ List.replicate late notConnected)
      (pongs : p.pongs = read.filterMap pong?)

/-- The connection is only lost while a peaceful turn reads. -/
theorem request_of_delivered (credentials : Option Credentials) (action : StreamAction)
    (streams : List String) (nowMs : Int64) (kept : s.IsOpen ∨ s.isConnected = false) :
    (s.request credentials action streams nowMs true).1 = s := by
  unfold request
  split
  · rfl
  · split
    · rfl
    · rcases kept with isOpen | closed
      · simp [send, isOpen.isConnected, isOpen.canWrite]
      · simp [send, closed]

variable {arrived : List Arrival} {p : Progress α} {t : Turn} {turns : List Turn}

theorem Filtered.call {more : List Arrival} (filtered : Filtered decode arrived p)
    (able : ∀ a ∈ p.unread ++ more, a.isAnswerable = true) :
    Filtered decode (arrived ++ more) (p.turn decode (.call more)) := by
  cases filtered with
  | reading read isOpen split quiet outcomes pongs =>
    have reads : Reads decode (p.unread ++ more) (p.session.nextDecoded decode (p.unread ++ more)) :=
      nextDecoded_reads isOpen able
    rw [Progress.turn, split, List.append_assoc, outcomes, pongs]
    generalize p.session.nextDecoded decode (p.unread ++ more) = r at reads ⊢
    generalize p.unread ++ more = coming at reads ⊢
    cases reads with
    | @item s seen rest value isOpen seenQuiet first =>
      refine .reading (read ++ seen) isOpen (List.append_assoc ..).symm
        (List.forall_mem_append.mpr ⟨quiet, seenQuiet⟩) ?_ List.filterMap_append.symm
      rw [List.filterMap_append, first]
      rfl
    | @waits s seen isOpen seenQuiet none =>
      refine .reading (read ++ coming) isOpen (List.append_nil _).symm
        (List.forall_mem_append.mpr ⟨quiet, seenQuiet⟩) ?_ List.filterMap_append.symm
      rw [List.filterMap_append, none]
      rfl
    | @ends s seen rest last outcome closed seenQuiet none isEnd final =>
      refine .ended (read ++ seen) last 0 closed (List.append_assoc ..).symm
        (List.forall_mem_append.mpr ⟨quiet, seenQuiet⟩) isEnd ?_ List.filterMap_append.symm
      obtain ⟨made, found, isMade⟩ := outcome?_of_isEnd decode isEnd
      obtain rfl : made = outcome := Option.some.inj (found.symm.trans final)
      simp [none, found, isMade]
  | ended read last late closed split quiet isEnd outcomes pongs =>
    rw [Progress.turn, nextDecoded_of_not_isConnected closed]
    refine .ended read last (late + 1) closed ?_ quiet isEnd ?_ ?_
    · rw [split, List.append_assoc, List.cons_append]
    · rw [outcomes, List.replicate_succ', List.append_assoc]
      rfl
    · rw [pongs, List.append_nil]

theorem Filtered.turn (filtered : Filtered decode arrived p) (peaceful : t.IsPeaceful)
    (able : ∀ a ∈ arrived, a.isAnswerable = true) :
    Filtered decode (arrived ++ t.arrived) (p.turn decode t) := by
  have unchanged : (p.turn decode t) = p → Filtered decode (arrived ++ []) (p.turn decode t) := by
    intro same
    rwa [same, List.append_nil]
  cases t with
  | call more =>
    have rest : ∀ a ∈ p.unread, a ∈ arrived := by
      intro a listed
      cases filtered with
      | reading read _ split => simp [split, listed]
      | ended read last _ _ split => simp [split, listed]
    refine filtered.call (List.forall_mem_append.mpr ⟨?_, peaceful⟩)
    exact fun a listed => able a (rest a listed)
  | attempt tried =>
    cases tried with
    | succeeded => exact absurd rfl peaceful
    | failed | timedOut | dropped => exact unchanged rfl
  | request credentials action streams nowMs delivered =>
    obtain rfl : delivered = true := peaceful
    have kept : p.session.IsOpen ∨ p.session.isConnected = false := by
      cases filtered with
      | reading _ isOpen => exact .inl isOpen
      | ended _ _ _ closed => exact .inr closed
    apply unchanged
    rw [Progress.turn, request_of_delivered credentials action streams nowMs kept]
  | close => exact absurd peaceful id

theorem Progress.turns_append (more : List Turn) :
    p.turns decode (turns ++ more) = (p.turns decode turns).turns decode more :=
  List.foldl_append

theorem turns_filtered (s : Session) (peaceful : ∀ t ∈ turns, t.IsPeaceful) :
    Filtered decode (turns.flatMap Turn.arrived) ((Progress.connected α s).turns decode turns) ∧
      ∀ a ∈ turns.flatMap Turn.arrived, a.isAnswerable = true := by
  -- From the last turn, since `Filtered` is about all that has arrived before it.
  induction turns using List.reverseRecOn with
  | nil => exact ⟨.reading [] ⟨rfl, rfl, rfl⟩ rfl nofun rfl rfl, nofun⟩
  | append_singleton turns t ih =>
    obtain ⟨before, peaceful⟩ := List.forall_mem_append.mp peaceful
    have peaceful : t.IsPeaceful := peaceful t (List.mem_singleton_self t)
    obtain ⟨filtered, able⟩ := ih before
    rw [Progress.turns_append, List.flatMap_append, List.flatMap_singleton]
    refine ⟨filtered.turn peaceful able, List.forall_mem_append.mpr ⟨able, ?_⟩⟩
    cases t with
    | call more => exact peaceful
    | _ => exact nofun

theorem turns_of_not_isConnected {later : List Turn} (closed : p.session.isConnected = false)
    (noAttempt : ∀ t ∈ later, t ≠ .attempt .succeeded) :
    (p.turns decode later).session.isConnected = false := by
  induction later generalizing p with
  | nil => exact closed
  | cons t later ih =>
    obtain ⟨first, noAttempt⟩ := List.forall_mem_cons.mp noAttempt
    refine ih ?_ noAttempt
    cases t with
    | call more => rw [Progress.turn, nextDecoded_of_not_isConnected closed]; exact closed
    | attempt tried =>
      cases tried with
      | succeeded => exact absurd rfl first
      | failed | timedOut | dropped => exact closed
    | request credentials action streams nowMs delivered =>
      simp only [Progress.turn, request, send, closed]
      split
      · exact closed
      · split <;> exact closed
    | close => rfl

/-- After a successful attempt, calls come to what the frames mean up to the first end, whenever calls
are made and given up; a further call reads up to the next outcome, and once the end has been read every
call fails until an attempt succeeds. -/
theorem reading_is_a_filter (decode : Decoder α) (s : Session) (turns : List Turn)
    (peaceful : ∀ t ∈ turns, t.IsPeaceful) :
    let p := (Progress.connected α s).turns decode turns
    Filtered decode (turns.flatMap Turn.arrived) p ∧
      (p.session.isConnected = true → ∀ more : List Arrival, (∀ a ∈ more, a.isAnswerable = true) →
        (p.session.nextDecoded decode (p.unread ++ more)).outcome =
          ((p.unread ++ more).findSome? (outcome? decode)).getD .waiting) ∧
      (p.session.isConnected = false → ∀ later : List Turn,
        (∀ t ∈ later, t ≠ .attempt .succeeded) → ∀ arrivals : List Arrival,
          ((p.turns decode later).session.nextDecoded decode arrivals).outcome = notConnected) := by
  intro p
  obtain ⟨filtered, able⟩ : Filtered decode (turns.flatMap Turn.arrived) p ∧ _ :=
    turns_filtered s peaceful
  refine ⟨filtered, ?_, ?_⟩
  · intro connected more answerable
    cases filtered with
    | reading read isOpen split =>
      have unread : ∀ a ∈ p.unread, a.isAnswerable = true := by
        intro a listed
        exact able a (by rw [split]; exact List.mem_append_right read listed)
      exact (nextDecoded_reads isOpen (List.forall_mem_append.mpr ⟨unread, answerable⟩)).outcome_eq
    | ended _ _ _ closed =>
      rw [closed] at connected
      cases connected
  · intro closed later noAttempt arrivals
    rw [nextDecoded_of_not_isConnected (turns_of_not_isConnected closed noAttempt)]
    rfl

/-- Reads texts, except those that say nothing and those that cannot be read. -/
private def sampleDecoder : Decoder String
  | .text "?" => .error (.unreadable .json)
  | .text "" => .ok none
  | .text content => .ok (some content)
  | _ => .ok none

private def sampleTurns : List Turn :=
  [.call [.frame (.text "") 1 true, .frame (.ping ⟨#[7]⟩) 2 true, .frame (.text "?") 3 true,
      .frame (.text "a") 4 true, .frame (.text "b") 5 true],
    .call [], .request none .subscribe ["depth.X"] 5 true, .call [.frame (.ping ⟨#[8]⟩) 6 true],
    .call [.frame (.pong ⟨#[]⟩) 7 true, .frame (.binary ⟨#[1]⟩) 8 true, .frame (.text "c") 9 true],
    .call [.frame (.close none) 10 true, .frame (.text "late") 11 true], .attempt .timedOut, .call []]

private def sampleProgress : Progress String :=
  (Progress.connected String .initial).turns sampleDecoder sampleTurns

theorem sample_reading_is_a_filter :
    (∀ t ∈ sampleTurns, t.IsPeaceful) ∧
      Filtered sampleDecoder (sampleTurns.flatMap Turn.arrived) sampleProgress ∧
      sampleProgress.outcomes =
        [.item "a", .item "b", .item "c", .failure (.socket (.closedByPeer "None")),
          notConnected] ∧
      sampleProgress.pongs = [.pong ⟨#[7]⟩, .pong ⟨#[8]⟩] := by
  have peaceful : ∀ t ∈ sampleTurns, t.IsPeaceful := by
    simp [sampleTurns, Turn.IsPeaceful, Arrival.isAnswerable]
  have open_ : ∀ time, IsOpen ⟨true, true, true, time⟩ := fun _ => ⟨rfl, rfl, rfl⟩
  have able : ∀ frame time, (Arrival.frame frame time true).isAnswerable = true := by
    intro frame time
    cases frame <;> rfl
  have asked : ∀ time, (request ⟨true, true, true, time⟩ none .subscribe ["depth.X"] 5 true).1 =
      ⟨true, true, true, time⟩ :=
    fun time => request_of_delivered none .subscribe ["depth.X"] 5 (.inl (open_ time))
  refine ⟨peaceful, (reading_is_a_filter sampleDecoder .initial sampleTurns peaceful).1, ?_⟩
  simp [sampleProgress, sampleTurns, Progress.connected, Progress.turns, Progress.turn, connect,
    nextDecoded_cons, nextDecoded_nil, nextDecoded_of_not_isConnected, open_, able, asked, heard,
    outcome?, pong?, Reading.after, Decoder.message?, sampleDecoder, Outcome.made?, notConnected]
  rfl

end MarketGateway.Session
