import MarketGateway.Proofs.Session.Reading

/-!
# Connections of a session

Whatever is done with a session, in whatever order, and whatever the connection makes of it: a session that
is connected has both halves of its connection, and one that has lost or closed it neither sends nor reads
until it is connected again. Main statement: `connected_sessions_are_open`.
-/

namespace MarketGateway.Session

variable {α : Type} {s t : Session} {arrivals : List Arrival}

/-! ### Operations -/

/-- What can be done with a session, with what the connection makes of it. -/
inductive Operation where
  | connect (tried : Attempt)
  | send (delivered : Bool)
  | request (credentials : Option Credentials) (action : StreamAction) (streams : List String)
      (nowMs : Int64) (delivered : Bool)
  | read (arrivals : List Arrival)
  | close

def perform (s : Session) : Operation → Session
  | .connect tried => (s.connect tried).1
  | .send delivered => (s.send delivered).1
  | .request credentials action streams nowMs delivered =>
    (s.request credentials action streams nowMs delivered).1
  | .read arrivals => (s.nextFrame arrivals).session
  | .close => s.close

def performAll (s : Session) (operations : List Operation) : Session := operations.foldl perform s

def IsReachable (s : Session) : Prop := ∃ operations, performAll .initial operations = s

theorem IsReachable.perform (reachable : s.IsReachable) (operation : Operation) :
    (s.perform operation).IsReachable := by
  obtain ⟨operations, rfl⟩ := reachable
  exact ⟨operations ++ [operation], by rw [performAll, List.foldl_append]; rfl⟩

theorem performAll_induction {motive : Session → Prop} {operations : List Operation} (start : motive s)
    (kept : ∀ operation ∈ operations, ∀ t, motive t → motive (t.perform operation)) :
    motive (s.performAll operations) := by
  induction operations generalizing s with
  | nil => exact start
  | cons operation operations ih =>
    obtain ⟨first, kept⟩ := List.forall_mem_cons.mp kept
    exact ih (first s start) kept

/-! ### Losing the connection -/

/-- The session is as before, except that it may have lost its connection and seen frames. -/
structure Fades (s t : Session) : Prop where
  canWrite : t.canWrite = s.canWrite
  canRead : t.canRead = s.canRead
  wasConnected : t.isConnected = true → s.isConnected = true

theorem Fades.refl (s : Session) : s.Fades s := ⟨rfl, rfl, id⟩

theorem Fades.trans {middle : Session} (first : s.Fades middle) (second : middle.Fades t) : s.Fades t where
  canWrite := second.canWrite.trans first.canWrite
  canRead := second.canRead.trans first.canRead
  wasConnected connected := first.wasConnected (second.wasConnected connected)

theorem fades_saw (s : Session) (time : Option Nat) : s.Fades { s with lastFrameAt := time } := ⟨rfl, rfl, id⟩

theorem fades_lost (s : Session) : s.Fades { s with isConnected := false } := ⟨rfl, rfl, nofun⟩

theorem send_fades (s : Session) (delivered : Bool) : s.Fades (s.send delivered).1 := by
  unfold send
  split
  · exact .refl s
  · split
    · exact .refl s
    · split
      · exact .refl s
      · exact fades_lost s

theorem answer_fades (s : Session) (content : ByteArray) (answerable : Bool) :
    s.Fades (s.answer content answerable).1 := by
  have sent := send_fades s answerable
  unfold answer
  split
  all_goals
    rename_i result
    rwa [result] at sent

theorem readOn_fades (s : Session) (arrivals : List Arrival) : s.Fades (s.readOn arrivals).session := by
  fun_induction readOn s arrivals with
  | case1 s => exact .refl s
  | case2 s rest => exact fades_lost s
  | case3 s rest => exact fades_lost s
  | case4 s time answerable rest heard content answered pongs result ih =>
    have asked := answer_fades heard content answerable
    rw [result] at asked
    exact ((fades_saw s (some time)).trans asked).trans ih
  | case5 s time answerable rest heard content ih => exact (fades_saw s (some time)).trans ih
  | case6 s time answerable rest heard reason => exact (fades_saw s (some time)).trans (fades_lost heard)
  | case7 s time answerable rest heard content => exact fades_saw s (some time)
  | case8 s time answerable rest heard content => exact fades_saw s (some time)

theorem nextFrame_fades (s : Session) (arrivals : List Arrival) : s.Fades (s.nextFrame arrivals).session := by
  unfold nextFrame
  split
  · exact .refl s
  · split
    · exact .refl s
    · exact readOn_fades s arrivals

/-- A request is not sent for want of streams or of a frame, or it comes to what sending its frame comes to. -/
theorem request_outcomes (s : Session) (credentials : Option Credentials) (action : StreamAction)
    (streams : List String) (nowMs : Int64) (delivered : Bool) :
    s.request credentials action streams nowMs delivered = (s, .ok none) ∨
    (∃ e, streamRequestFrame credentials action streams nowMs = .error e ∧
      s.request credentials action streams nowMs delivered = (s, .error e)) ∨
    ∃ frame, streamRequestFrame credentials action streams nowMs = .ok frame ∧
      s.request credentials action streams nowMs delivered =
        ((s.send delivered).1, ((s.send delivered).2.map fun _ => some frame).mapError .socket) := by
  unfold request
  split
  · exact .inl rfl
  · split
    · rename_i e unwritten
      exact .inr (.inl ⟨e, unwritten, rfl⟩)
    · rename_i frame written
      exact .inr (.inr ⟨frame, written, rfl⟩)

theorem request_fades (s : Session) (credentials : Option Credentials) (action : StreamAction)
    (streams : List String) (nowMs : Int64) (delivered : Bool) :
    s.Fades (s.request credentials action streams nowMs delivered).1 := by
  rcases request_outcomes s credentials action streams nowMs delivered with same | ⟨e, -, same⟩ | ⟨frame, -, same⟩
  · rw [same]
    exact .refl s
  · rw [same]
    exact .refl s
  · rw [same]
    exact send_fades s delivered

/-- Only an attempt that succeeds connects a session, and closing it lets go of both halves. -/
theorem perform_cases (s : Session) (operation : Operation) :
    operation = .connect .succeeded ∧ s.perform operation = ⟨true, true, true, none⟩ ∨
      operation = .close ∧ s.perform operation = s.close ∨ s.Fades (s.perform operation) := by
  cases operation with
  | connect tried =>
    cases tried with
    | succeeded => exact .inl ⟨rfl, rfl⟩
    | failed | timedOut | dropped => exact .inr (.inr (.refl s))
  | send delivered => exact .inr (.inr (send_fades s delivered))
  | request credentials action streams nowMs delivered =>
    exact .inr (.inr (request_fades s credentials action streams nowMs delivered))
  | read arrivals => exact .inr (.inr (nextFrame_fades s arrivals))
  | close => exact .inr (.inl ⟨rfl, rfl⟩)

/-! ### Being connected -/

theorem Fades.isOpen (whole : s.isConnected = true → s.IsOpen) (fades : s.Fades t)
    (connected : t.isConnected = true) : t.IsOpen := by
  have before := whole (fades.wasConnected connected)
  exact ⟨connected, fades.canWrite.trans before.canWrite, fades.canRead.trans before.canRead⟩

theorem IsReachable.isOpen (reachable : s.IsReachable) (connected : s.isConnected = true) : s.IsOpen := by
  obtain ⟨operations, rfl⟩ := reachable
  revert connected
  refine performAll_induction (motive := fun t => t.isConnected = true → t.IsOpen) nofun ?_
  intro operation _ t whole connected
  rcases perform_cases t operation with ⟨-, same⟩ | ⟨-, same⟩ | fades
  · rw [same]
    exact ⟨rfl, rfl, rfl⟩
  · rw [same] at connected
    cases connected
  · exact fades.isOpen whole connected

/-- None of the operations connects the session. -/
def NeverConnects (operations : List Operation) : Prop := ∀ operation ∈ operations, operation ≠ .connect .succeeded

/-- What holds of every closed session, and goes on while a session fades, lasts until the session is connected. -/
theorem performAll_lasts {motive : Session → Prop} {operations : List Operation} (start : motive s)
    (never : NeverConnects operations) (close : ∀ t : Session, motive t.close)
    (fade : ∀ t t' : Session, t.Fades t' → motive t → motive t') : motive (s.performAll operations) := by
  refine performAll_induction start fun operation listed t holds => ?_
  rcases perform_cases t operation with ⟨success, -⟩ | ⟨-, same⟩ | fades
  · exact absurd success (never operation listed)
  · rw [same]
    exact close t
  · exact fade t _ fades holds

theorem Fades.not_isConnected (fades : s.Fades t) (lost : s.isConnected = false) : t.isConnected = false :=
  Bool.eq_false_iff.mpr fun connected => Bool.false_ne_true (lost.symm.trans (fades.wasConnected connected))

theorem performAll_not_isConnected {operations : List Operation} (lost : s.isConnected = false)
    (never : NeverConnects operations) : (s.performAll operations).isConnected = false :=
  performAll_lasts lost never (fun _ => rfl) fun _ _ => Fades.not_isConnected

theorem performAll_closingFrames {operations : List Operation} (never : NeverConnects operations) :
    (s.close.performAll operations).closingFrames = [] := by
  refine performAll_lasts (motive := fun t => t.closingFrames = []) rfl never (fun _ => rfl) fun t t' fades none => ?_
  rwa [closingFrames, fades.canWrite]

/-! ### Sending -/

theorem send_of_lost (lost : s.isConnected = false) (delivered : Bool) :
    s.send delivered = (s, .error .notConnected) := by
  rw [send, lost]
  rfl

theorem send_of_isOpen (isOpen : s.IsOpen) (delivered : Bool) :
    s.send delivered = if delivered then (s, .ok ()) else ({ s with isConnected := false }, .error .send) := by
  rw [send, isOpen.isConnected, isOpen.canWrite]
  rfl

theorem send_failed {delivered : Bool} {cause : SocketFailure} (whole : s.isConnected = true → s.IsOpen)
    (failed : (s.send delivered).2 = .error cause) :
    (s.send delivered).1.isConnected = false ∧ (cause = .notConnected ∨ cause = .send) := by
  cases connected : s.isConnected with
  | false =>
    rw [send_of_lost connected] at failed ⊢
    exact ⟨connected, .inl (Except.error.inj failed).symm⟩
  | true =>
    rw [send_of_isOpen (whole connected)] at failed ⊢
    cases delivered with
    | true => cases failed
    | false => exact ⟨rfl, .inr (Except.error.inj failed).symm⟩

theorem answer_of_stays {content : ByteArray} {answerable : Bool} (whole : s.isConnected = true → s.IsOpen)
    (stays : (s.answer content answerable).1.isConnected = true) :
    (s.answer content answerable).2 = [.pong content] := by
  have isOpen := whole ((answer_fades s content answerable).wasConnected stays)
  unfold answer at stays ⊢
  rw [send_of_isOpen isOpen] at stays ⊢
  cases answerable with
  | true => rfl
  | false => cases stays

/-! ### Reading -/

/-- What was read, and what it has to do with the outcome: only the end of the connection gives an end, and a
failure leaves the session not connected, as a close frame and a ping whose answer gets lost do. -/
structure Accounts (arrivals : List Arrival) (r : Reading Frame) (read : List Arrival) : Prop where
  split : arrivals = read ++ r.rest
  finished : r.outcome = .finished → read.getLast? = some .finished
  failed : ∀ e, r.outcome = .failure e →
    (e = .socket .notConnected ∨ e = .socket .read) ∧ r.session.isConnected = false
  closed : ∀ reason, r.outcome = .item (.close reason) → r.session.isConnected = false
  answered : r.session.isConnected = true → r.pongs = read.filterMap pong?

theorem Accounts.cons {a : Arrival} {r : Reading Frame} {read : List Arrival} {pongs : List Frame}
    (accounts : Accounts arrivals r read) (answer : r.session.isConnected = true → pongs = (pong? a).toList) :
    Accounts (a :: arrivals) (r.after pongs) (a :: read) where
  split := congrArg (a :: ·) accounts.split
  finished ended := by
    rw [List.getLast?_cons, accounts.finished ended]
    rfl
  failed := accounts.failed
  closed := accounts.closed
  answered connected := by
    show pongs ++ r.pongs = _
    rw [answer connected, accounts.answered connected]
    cases pong : pong? a <;> simp [pong]

/-- The call comes to an end with the first arrival. -/
theorem Accounts.first {a : Arrival} {rest : List Arrival} {outcome : Outcome Frame} {t : Session}
    (finished : outcome = .finished → a = .finished)
    (failed : ∀ e, outcome = .failure e → e = .socket .read ∧ t.isConnected = false)
    (closed : ∀ reason, outcome = .item (.close reason) → t.isConnected = false)
    (answered : t.isConnected = true → pong? a = none) :
    Accounts (a :: rest) ⟨outcome, t, rest, []⟩ [a] where
  split := rfl
  finished ended := congrArg some (finished ended)
  failed e failure := (failed e failure).imp_left .inr
  closed := closed
  answered connected := by
    have silent : [a].filterMap pong? = [] := List.filterMap_cons_none (answered connected)
    exact silent.symm

theorem readOn_accounts (whole : s.isConnected = true → s.IsOpen) (arrivals : List Arrival) :
    ∃ read, Accounts arrivals (s.readOn arrivals) read := by
  fun_induction readOn s arrivals with
  | case1 s => exact ⟨[], rfl, by simp, by simp, by simp, fun _ => rfl⟩
  | case2 s rest => exact ⟨_, .first (by simp) (by simp) (by simp) (by simp)⟩
  | case3 s rest => exact ⟨_, .first (by simp) (by simp) (by simp) (by simp)⟩
  | case4 s time answerable rest heard content answered pongs result ih =>
    have wholeHeard : heard.isConnected = true → heard.IsOpen := (fades_saw s (some time)).isOpen whole
    have fades := answer_fades heard content answerable
    rw [result] at fades
    obtain ⟨read, accounts⟩ := ih (fades.isOpen wholeHeard)
    have stays := (readOn_fades answered rest).wasConnected
    have sent : (heard.answer content answerable).1.isConnected = true →
        (heard.answer content answerable).2 = [.pong content] := answer_of_stays wholeHeard
    rw [result] at sent
    exact ⟨_, accounts.cons fun connected => sent (stays connected)⟩
  | case5 s time answerable rest heard content ih =>
    obtain ⟨read, accounts⟩ := ih ((fades_saw s (some time)).isOpen whole)
    exact ⟨_, accounts.cons fun _ => rfl⟩
  | case6 s time answerable rest heard reason => exact ⟨_, .first (by simp) (by simp) (by simp) (by simp)⟩
  | case7 s time answerable rest heard content => exact ⟨_, .first (by simp) (by simp) (by simp) fun _ => rfl⟩
  | case8 s time answerable rest heard content => exact ⟨_, .first (by simp) (by simp) (by simp) fun _ => rfl⟩

theorem nextFrame_of_lost (lost : s.isConnected = false) (arrivals : List Arrival) :
    s.nextFrame arrivals = ⟨.failure (.socket .notConnected), s, arrivals, []⟩ := by
  rw [nextFrame, lost]
  rfl

theorem nextFrame_accounts (whole : s.isConnected = true → s.IsOpen) (arrivals : List Arrival) :
    ∃ read, Accounts arrivals (s.nextFrame arrivals) read := by
  cases connected : s.isConnected with
  | false =>
    rw [nextFrame_of_lost connected]
    exact ⟨[], rfl, nofun, fun e failed => ⟨.inl (Outcome.failure.inj failed).symm, connected⟩, nofun, fun _ => rfl⟩
  | true =>
    rw [nextFrame_of_isOpen (whole connected)]
    exact readOn_accounts whole arrivals

/-! ### Messages -/

/-- A call for the next message is made of calls for the next frame, and fails only when the connection is lost. -/
theorem IsReachable.nextDecoded (reachable : s.IsReachable) (decode : Decoder α) (arrivals : List Arrival) :
    (s.nextDecoded decode arrivals).session.IsReachable ∧
      ∀ e, (s.nextDecoded decode arrivals).outcome = .failure e →
        e ≠ .socket .noWriteHalf ∧ (s.nextDecoded decode arrivals).session.isConnected = false := by
  induction length : arrivals.length using Nat.strongRecOn generalizing s arrivals with
  | ind _ ih =>
    subst length
    have here : (s.nextFrame arrivals).session.IsReachable := reachable.perform (.read arrivals)
    obtain ⟨_, accounts⟩ := nextFrame_accounts reachable.isOpen arrivals
    rw [nextDecoded_of_nextFrame rfl]
    cases outcome : (s.nextFrame arrivals).outcome with
    | waiting => exact ⟨here, nofun⟩
    | finished => exact ⟨here, nofun⟩
    | failure e =>
      refine ⟨here, fun e' same => ?_⟩
      obtain rfl := Outcome.failure.inj same
      obtain ⟨rfl | rfl, lost⟩ := accounts.failed e outcome <;> exact ⟨nofun, lost⟩
    | item frame =>
      -- A frame without a message is followed by the frames behind it.
      have later := ih _ (nextFrame_rest_lt outcome) here (s.nextFrame arrivals).rest rfl
      cases frame with
      | close reason =>
        refine ⟨here, fun e same => ?_⟩
        obtain rfl := Outcome.failure.inj same
        exact ⟨nofun, accounts.closed reason outcome⟩
      | _ =>
        dsimp only
        split
        · exact ⟨here, nofun⟩
        · exact later

/-! ### Every session -/

theorem streamRequestFrame_ne_socket {credentials : Option Credentials} {action : StreamAction}
    {streams : List String} {nowMs : Int64} (cause : SocketFailure) :
    streamRequestFrame credentials action streams nowMs ≠ .error (.socket cause) := by
  unfold streamRequestFrame streamRequest Signing.timestamp
  split
  · cases credentials with
    | none => nofun
    | some c =>
      dsimp only
      split <;> nofun
  · nofun

theorem request_failed {credentials : Option Credentials} {action : StreamAction} {streams : List String}
    {nowMs : Int64} {delivered : Bool} {e : ExchangeError} (whole : s.isConnected = true → s.IsOpen)
    (failed : (s.request credentials action streams nowMs delivered).2 = .error e) :
    e ≠ .socket .noWriteHalf ∧
      (streamRequestFrame credentials action streams nowMs = .error e ∧
          (s.request credentials action streams nowMs delivered).1 = s ∨
        (s.request credentials action streams nowMs delivered).1.isConnected = false) := by
  rcases request_outcomes s credentials action streams nowMs delivered with
    same | ⟨e', unwritten, same⟩ | ⟨frame, -, same⟩
  · rw [same] at failed
    cases failed
  · rw [same] at failed ⊢
    obtain rfl := Except.error.inj failed
    exact ⟨fun socket => streamRequestFrame_ne_socket .noWriteHalf (socket ▸ unwritten), .inl ⟨unwritten, rfl⟩⟩
  · rw [same] at failed ⊢
    cases sent : (s.send delivered).2 with
    | ok _ =>
      rw [sent] at failed
      cases failed
    | error cause =>
      rw [sent] at failed
      obtain rfl := Except.error.inj failed
      obtain ⟨lost, rfl | rfl⟩ := send_failed whole sent <;> exact ⟨nofun, .inr lost⟩

/-- Nothing can be sent or read. -/
structure IsSilent (s : Session) : Prop where
  isConnected : s.isConnected = false
  send : ∀ delivered, s.send delivered = (s, .error .notConnected)
  request : ∀ credentials action streams nowMs delivered frame,
    (s.request credentials action streams nowMs delivered).2 ≠ .ok (some frame)
  read : ∀ arrivals, s.nextFrame arrivals = ⟨.failure (.socket .notConnected), s, arrivals, []⟩

theorem isSilent_of_lost (lost : s.isConnected = false) : s.IsSilent := by
  refine ⟨lost, send_of_lost lost, ?_, nextFrame_of_lost lost⟩
  intro credentials action streams nowMs delivered frame asked
  rcases request_outcomes s credentials action streams nowMs delivered with same | ⟨e, -, same⟩ | ⟨frame, -, same⟩
  · rw [same] at asked
    cases asked
  · rw [same] at asked
    cases asked
  · rw [same, send_of_lost lost] at asked
    cases asked

/-- A session that is connected has both halves, so sending never fails for want of one and only the end of the
connection ends the reading; whatever fails leaves it not connected, and then it is silent until it is connected
again, as it is after closing. -/
theorem connected_sessions_are_open (reachable : s.IsReachable) :
    (s.isConnected = true → s.canWrite = true ∧ s.canRead = true) ∧
    (∀ delivered cause, (s.send delivered).2 = .error cause →
      cause ≠ .noWriteHalf ∧ (s.send delivered).1.isConnected = false) ∧
    (∀ credentials action streams nowMs delivered e,
      (s.request credentials action streams nowMs delivered).2 = .error e →
        e ≠ .socket .noWriteHalf ∧
        (streamRequestFrame credentials action streams nowMs = .error e ∧
            (s.request credentials action streams nowMs delivered).1 = s ∨
          (s.request credentials action streams nowMs delivered).1.isConnected = false)) ∧
    (∀ arrivals, ∃ read, Accounts arrivals (s.nextFrame arrivals) read) ∧
    (∀ later, NeverConnects later → (s.isConnected = false → (s.performAll later).IsSilent) ∧
      (s.close.performAll later).IsSilent ∧ (s.close.performAll later).closingFrames = []) ∧
    ∀ (β : Type) (decode : Decoder β) arrivals, (s.nextDecoded decode arrivals).session.IsReachable ∧
      ∀ e, (s.nextDecoded decode arrivals).outcome = .failure e →
        e ≠ .socket .noWriteHalf ∧ (s.nextDecoded decode arrivals).session.isConnected = false := by
  have whole := reachable.isOpen
  refine ⟨fun connected => ⟨(whole connected).canWrite, (whole connected).canRead⟩, ?_,
    fun _ _ _ _ _ _ => request_failed whole, nextFrame_accounts whole, fun later never => ⟨fun lost => ?_, ?_, ?_⟩,
    fun β decode => reachable.nextDecoded decode⟩
  · intro delivered cause failed
    obtain ⟨lost, rfl | rfl⟩ := send_failed whole failed <;> exact ⟨nofun, lost⟩
  · exact isSilent_of_lost (performAll_not_isConnected lost never)
  · exact isSilent_of_lost (performAll_not_isConnected rfl never)
  · exact performAll_closingFrames never

/-- The answer to a ping gets lost while the next frame is handed out; the session is connected no longer, though
both halves are still there to be closed. -/
theorem connected_sessions_are_open_pong_lost :
    (nextFrame ⟨true, true, true, none⟩ [.frame (.ping ⟨#[7]⟩) 1 false, .frame (.text "late") 2 true]) =
        ⟨.item (.text "late"), ⟨false, true, true, some 2⟩, [], []⟩ ∧
      IsReachable ⟨false, true, true, some 2⟩ ∧ closingFrames ⟨false, true, true, some 2⟩ = [.close none] ∧
      (performAll ⟨false, true, true, some 2⟩ [.send true, .connect .timedOut]).IsSilent ∧
      (performAll (close ⟨false, true, true, some 2⟩) [.connect .dropped, .close]).closingFrames = [] := by
  have reachable : IsReachable ⟨false, true, true, some 2⟩ :=
    ⟨[.connect .succeeded, .read [.frame (.ping ⟨#[7]⟩) 1 false, .frame (.text "late") 2 true]], rfl⟩
  obtain ⟨-, -, -, -, lasts, -⟩ := connected_sessions_are_open reachable
  exact ⟨rfl, reachable, rfl, (lasts [.send true, .connect .timedOut] (by simp [NeverConnects])).1 rfl,
    (lasts [.connect .dropped, .close] (by simp [NeverConnects])).2.2⟩

end MarketGateway.Session
