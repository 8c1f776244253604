import MarketGateway.Proofs.Http.Retries
import MarketGateway.Proofs.Json.RoundTrip

/-!
# Answers to public reads

A public read sends the same request until it is answered; what it comes to is the content of the
response: `perform_answered`.
-/

namespace MarketGateway.Client

open Call (Outside Record)

variable {c : Client} {ask : Ask} {o : Outside} {r : Record} {response : Response} {retries failures : Nat}

/-- The requests of a call after so many attempts at a public read. -/
def asked (c : Client) (ask : Ask) (r : Record) (attempts : Nat) : List Request :=
  r.requests ++ List.replicate attempts (c.requestOf ask [])

/-- So many requests get no answer, and the next one gets the response. -/
structure AnsweredAfter (c : Client) (ask : Ask) (o : Outside) (r : Record) (failures : Nat)
    (response : Response) : Prop where
  failed : ∀ n < failures, ∃ failure, o.answer (c.asked ask r (n + 1)) = .error failure
  answered : o.answer (c.asked ask r (failures + 1)) = .ok response

/-- A response that is no success and one that cannot be read are not asked for again. -/
theorem content_isFinal {e : ExchangeError} (failed : content response = .error e) : e.IsFinal := by
  unfold content at failed
  split at failed
  · obtain rfl := Except.error.inj failed
    exact .api _ _
  · split at failed
    · cases failed
    · split at failed
      · cases failed
      · obtain rfl := Except.error.inj failed
        exact .unreadable _

theorem afterSlot_run (unsigned : ask.signed = false) (o : Outside) (r : Record) :
    (c.afterSlot ask).run.run o r =
      (((o.answer (c.asked ask r 1)).mapError .network).bind content,
        { r with requests := c.asked ask r 1 }) := by
  have headers : c.signingHeaders ask (bodyBytes ask.body) = pure [] := by
    rw [signingHeaders, unsigned]
    rfl
  have sending : (c.afterSlot ask).run = Call.send (c.requestOf ask []) fun answer =>
      Call.done ((answer.mapError .network).bind content) := by
    rw [afterSlot, headers]
    apply congrArg (Call.send (c.requestOf ask []))
    funext answer
    cases answer <;> rfl
  rw [sending]
  rfl

/-- A list that a server writes is the content of its response. -/
theorem content_of_list {items : List Json} {status : Nat}
    (readable : Json.Readable Json.Assembly.maxDepth (.array items)) (success : 200 ≤ status ∧ status < 300) :
    content ⟨status, Json.render (.array items)⟩ = .ok (.array items) := by
  have visible : Text.allBlank (Json.render (.array items)) = false := by
    rw [Text.allBlank, Json.render, String.toList_ofList]
    cases items <;> rfl
  have inside : (status < 200 || 300 ≤ status) = false := by
    simp only [Bool.or_eq_false_iff, decide_eq_false_iff_not]
    omega
  rw [content, inside, visible, Json.parse?_render readable]
  rfl

/-- An attempt at a public read sends its request and comes to the content of the answer. -/
theorem attempt_run (unsigned : ask.signed = false) (o : Outside) (r : Record) :
    ∃ after, after.requests = c.asked ask r 1 ∧
      (c.attempt ask).run.run o r =
        (((o.answer (c.asked ask r 1)).mapError .network).bind content, after) := by
  rw [attempt_eq]
  split
  · exact ⟨_, rfl, afterSlot_run unsigned o { r with slots := r.slots ++ [ask.path] }⟩
  · exact ⟨_, rfl, afterSlot_run unsigned o r⟩

theorem asked_asked {after : Record} (requests : after.requests = c.asked ask r 1) (attempts : Nat) :
    c.asked ask after attempts = c.asked ask r (attempts + 1) := by
  rw [asked, requests, asked, asked, List.append_assoc, Nat.add_comm attempts, List.replicate_add]

/-- A public read that is answered before its attempts are used up comes to the content of the answer. -/
theorem retrying_answered (unsigned : ask.signed = false) (enough : failures ≤ retries)
    (answered : c.AnsweredAfter ask o r failures response) :
    ((Call.retrying (c.attempt ask).run retries).run o r).1 = content response := by
  induction retries generalizing r failures with
  | zero =>
    obtain rfl : failures = 0 := Nat.le_zero.mp enough
    obtain ⟨after, -, attempted⟩ := attempt_run (c := c) unsigned o r
    rw [Call.retrying, attempted, answered.answered]
    rfl
  | succ retries ih =>
    obtain ⟨after, requests, attempted⟩ := attempt_run (c := c) unsigned o r
    rw [Call.retrying_succ, Call.run_bind, attempted]
    cases failures with
    | zero =>
      rw [answered.answered]
      cases read : content response with
      | ok j => simp [Except.bind, Except.mapError, read, Call.run]
      | error e =>
        have stays : e.isTransient = false := (content_isFinal read).not_isTransient
        simp [Except.bind, Except.mapError, read, stays, Call.run]
    | succ failures =>
      obtain ⟨failure, failed⟩ := answered.failed 0 (Nat.succ_pos failures)
      rw [failed]
      have rest : c.AnsweredAfter ask o after failures response := by
        constructor
        · intro n few
          rw [asked_asked requests]
          exact answered.failed (n + 1) (Nat.succ_lt_succ few)
        · rw [asked_asked requests]
          exact answered.answered
      exact ih (Nat.le_of_succ_le_succ enough) rest

theorem perform_answered (unsigned : ask.signed = false) (enough : failures ≤ c.retries ask)
    (answered : c.AnsweredAfter ask o r failures response) :
    ((c.perform ask).run.run o r).1 = content response :=
  retrying_answered unsigned enough answered

end MarketGateway.Client
