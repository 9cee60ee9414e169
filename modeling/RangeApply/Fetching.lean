import Mathlib.Algebra.Order.Ring.Rat
import Mathlib.Logic.Function.Basic
import Mathlib.Tactic.Linarith

/-! What a source adapter does on the network: one call with its retries and its accounts, and the
circuits that keep a failing source from being asked again. Times are in seconds. -/
namespace RangeApply.Fetching

inductive Kind
  | notFound | forbidden | rateLimited | serverError | network | invalidResponse | circuitOpen
  | httpError
  deriving DecidableEq

def Kind.value : Kind → String
  | notFound => "not_found" | forbidden => "forbidden" | rateLimited => "rate_limited"
  | serverError => "server_error" | network => "network"
  | invalidResponse => "invalid_response" | circuitOpen => "circuit_open"
  | httpError => "http_error"

structure SourceError where
  message : String
  identifier : String
  statusCode : Option ℕ
  kind : Kind
  deriving DecidableEq

structure RequestStats where
  requests : ℕ
  retries : ℕ
  rateLimitHits : ℕ
  serverErrors : ℕ
  networkErrors : ℕ
  secondsWaited : ℚ
  deriving DecidableEq

/-! ### The circuits -/

structure Circuit where
  consecutiveFailures : ℕ
  openUntil : ℚ
  deriving DecidableEq

/-- `SOURCE_CIRCUIT_FAILURE_THRESHOLD` and `SOURCE_CIRCUIT_OPEN_SECONDS`. -/
structure Breaker where
  threshold : ℕ
  openSeconds : ℚ

/-- One circuit more failed, at a time on the clock. -/
def Breaker.fail (b : Breaker) (now : ℚ) (c : Circuit) : Circuit where
  consecutiveFailures := c.consecutiveFailures + 1
  openUntil := if b.threshold ≤ c.consecutiveFailures + 1 then now + b.openSeconds else c.openUntil

def Circuit.closed : Circuit := ⟨0, 0⟩

section Registry
variable {κ : Type} [DecidableEq κ]

/-- The dictionary of circuits, by source type. -/
abbrev Registry (κ : Type) := κ → Option Circuit

namespace Registry
variable (r : Registry κ) (key : κ)

/-- `is_open`: for how long still. -/
def isOpen (now : ℚ) : Option ℚ :=
  (r key).bind fun c => if now < c.openUntil then some (c.openUntil - now) else none

def recordFailure (b : Breaker) (now : ℚ) : Registry κ :=
  Function.update r key (some (b.fail now ((r key).getD .closed)))

def recordSuccess : Registry κ := Function.update r key none

end Registry
end Registry

/-! ### One call -/

/-- What a request brings: nothing, or a response with its body where that is JSON. -/
inductive Reply (β : Type)
  | failed (error : String)
  | response (status : ℕ) (retryAfter : Option String) (json : Option β)

def retryableStatus : List ℕ := [429, 500, 502, 503, 504]

def Reply.retryable {β : Type} : Reply β → Bool
  | .failed _ => true
  | .response status _ _ => decide (status ∈ retryableStatus)

/-- What a call reads besides the replies: its target, the settings, `float` of a header, and what
the limiter and the jitter bring at each attempt. -/
structure Request where
  key : String
  identifier : String
  maxRetries : ℕ
  backoffBase : ℚ
  float : String → Option ℚ
  jitter : ℕ → ℚ
  limiter : ℕ → ℚ
  seconds : ℚ → String

/-- What a call tells the circuit of its source. -/
inductive Verdict
  | success | failure | nothing
  deriving DecidableEq

/-- The last failure that was retried. -/
structure Last where
  error : Option String
  status : Option ℕ
  kind : Kind
  deriving DecidableEq

/-- How a call ends, with the pauses it made. -/
structure Fetched (β : Type) where
  stats : RequestStats
  slept : List ℚ
  verdict : Verdict
  result : Except SourceError β

section Call
variable {β : Type} (q : Request)

def Request.backoff (attempt : ℕ) : ℚ := q.backoffBase ^ attempt * (1 + q.jitter attempt)

/-- `_retry_after`: a header that is empty or no number says nothing. -/
def Request.retryAfter (header : Option String) : Option ℚ :=
  match header with
  | none => none
  | some raw => if raw = "" then none else (q.float raw).map fun s => max 0 s

/-- The accounts of a request that is sent. -/
def Request.sent (attempt : ℕ) (s : RequestStats) : RequestStats :=
  { s with
    secondsWaited := s.secondsWaited + q.limiter attempt
    requests := s.requests + 1
    retries := s.retries + if attempt = 0 then 0 else 1 }

/-- The accounts of a reply that is retried. -/
def RequestStats.retried (s : RequestStats) : Reply β → RequestStats
  | .failed _ => { s with networkErrors := s.networkErrors + 1 }
  | .response status _ _ =>
    if status = 429 then { s with rateLimitHits := s.rateLimitHits + 1 }
    else { s with serverErrors := s.serverErrors + 1 }

def Last.retried (last : Last) : Reply β → Last
  | .failed error => { last with error := some s!"request failed: {error}", kind := .network }
  | .response status _ _ =>
    ⟨some s!"HTTP {status}", some status, if status = 429 then .rateLimited else .serverError⟩

/-- The pause before the next attempt. -/
def Request.pause (attempt : ℕ) : Reply β → ℚ
  | .failed _ => q.backoff attempt
  | .response _ header _ => (q.retryAfter header).getD (q.backoff attempt)

def Request.error (message : String) (statusCode : Option ℕ) (kind : Kind) : SourceError :=
  ⟨message, q.identifier, statusCode, kind⟩

/-- The end of a call whose reply is not retried, as a request that failed always is. -/
def Request.answered : Reply β → Verdict × Except SourceError β
  | .failed _ => (.nothing, .error (q.error "" none .network))
  | .response status _ json =>
    if status = 404 then
      (.nothing, .error (q.error s!"{q.key} board not found: '{q.identifier}'" (some 404)
        .notFound))
    else if status = 401 ∨ status = 403 then
      (.failure, .error (q.error s!"{q.key} refused access ({status}) for '{q.identifier}'"
        (some status) .forbidden))
    else if status < 200 ∨ 300 ≤ status then
      (.nothing, .error (q.error s!"{q.key} HTTP error {status} for '{q.identifier}'" (some status)
        .httpError))
    else match json with
      | none => (.nothing, .error (q.error
          s!"{q.key} returned non-JSON content for '{q.identifier}'" (some status)
          .invalidResponse))
      | some payload => (.success, .ok payload)

/-- The end of a call whose replies were all retried. -/
def Request.exhausted (last : Last) : SourceError :=
  q.error (s!"{q.key} request failed for '{q.identifier}' after {q.maxRetries + 1} attempts: " ++
    last.error.getD "None") last.status last.kind

/-- The loop over the attempts, with the attempts that are left. -/
def Request.attempts (replies : ℕ → Reply β) : ℕ → ℕ → RequestStats → List ℚ → Last → Fetched β
  | 0, _, stats, slept, last => ⟨stats, slept, .failure, .error (q.exhausted last)⟩
  | left + 1, attempt, stats, slept, last =>
    let reply := replies attempt
    let stats := q.sent attempt stats
    if reply.retryable then
      -- The last attempt breaks off without a pause.
      let slept := if left = 0 then slept else slept ++ [q.pause attempt reply]
      Request.attempts replies left (attempt + 1) (stats.retried reply) slept (last.retried reply)
    else ⟨stats, slept, (q.answered reply).1, (q.answered reply).2⟩

/-- `fetch_json` past the circuit. -/
def Request.fetch (replies : ℕ → Reply β) (stats : RequestStats) : Fetched β :=
  q.attempts replies (q.maxRetries + 1) 0 stats [] ⟨none, none, .serverError⟩

/-- `fetch_json` at an open circuit. -/
def Request.refused (remaining : ℚ) : SourceError :=
  q.error s!"{q.key} circuit is open for another {q.seconds remaining}s after repeated failures"
    none .circuitOpen

end Call

/-! ### What a call sends and counts -/

section Accounts
variable {β : Type} {q : Request} {replies : ℕ → Reply β} {stats : RequestStats} {n : ℕ}

/-- The accounts after the first attempts, all retried. -/
def Request.tried (q : Request) (replies : ℕ → Reply β) (stats : RequestStats) :
    ℕ → RequestStats
  | 0 => stats
  | n + 1 => (q.sent n (q.tried replies stats n)).retried (replies n)

def lastOf (replies : ℕ → Reply β) : ℕ → Last
  | 0 => ⟨none, none, .serverError⟩
  | n + 1 => (lastOf replies n).retried (replies n)

def Request.pauses (q : Request) (replies : ℕ → Reply β) (n : ℕ) : List ℚ :=
  (List.range n).map fun i => q.pause i (replies i)

theorem pauses_succ : q.pauses replies (n + 1) = q.pauses replies n ++ [q.pause n (replies n)] := by
  simp [Request.pauses, List.range_succ]

/-- The call ends at the first reply that is not retried, or when no attempt is left. -/
inductive Request.Ends (q : Request) (replies : ℕ → Reply β) (stats : RequestStats) :
    Fetched β → Prop
  | answered (n : ℕ) (within : n ≤ q.maxRetries) (before : ∀ i < n, (replies i).retryable = true)
      (final : (replies n).retryable = false) :
      q.Ends replies stats ⟨q.sent n (q.tried replies stats n), q.pauses replies n,
        (q.answered (replies n)).1, (q.answered (replies n)).2⟩
  | exhausted (before : ∀ i ≤ q.maxRetries, (replies i).retryable = true) :
      q.Ends replies stats ⟨q.tried replies stats (q.maxRetries + 1),
        q.pauses replies q.maxRetries, .failure,
        .error (q.exhausted (lastOf replies (q.maxRetries + 1)))⟩

theorem attempts_answered {left : ℕ} {slept : List ℚ} {last : Last}
    (final : (replies n).retryable = false) :
    q.attempts replies (left + 1) n stats slept last =
      ⟨q.sent n stats, slept, (q.answered (replies n)).1, (q.answered (replies n)).2⟩ := by
  rw [Request.attempts]
  simp only [final]
  rfl

theorem attempts_retried {left : ℕ} {slept : List ℚ} {last : Last}
    (retried : (replies n).retryable = true) :
    q.attempts replies (left + 1) n stats slept last =
      q.attempts replies left (n + 1) ((q.sent n stats).retried (replies n))
        (if left = 0 then slept else slept ++ [q.pause n (replies n)])
        (last.retried (replies n)) := by
  rw [Request.attempts]
  simp only [retried]
  rfl

theorem attempts_ends (left : ℕ) (whole : n + left = q.maxRetries)
    (before : ∀ i < n, (replies i).retryable = true) :
    q.Ends replies stats (q.attempts replies (left + 1) n (q.tried replies stats n)
      (q.pauses replies n) (lastOf replies n)) := by
  induction left generalizing n with
  | zero =>
    obtain rfl : n = q.maxRetries := whole
    cases kind : (replies q.maxRetries).retryable with
    | false =>
      rw [attempts_answered kind]
      exact .answered q.maxRetries le_rfl before kind
    | true =>
      rw [attempts_retried kind]
      apply Request.Ends.exhausted
      intro i bound
      rcases Nat.lt_or_eq_of_le bound with less | rfl
      · exact before i less
      · exact kind
  | succ left ih =>
    cases kind : (replies n).retryable with
    | false =>
      rw [attempts_answered kind]
      exact .answered n (by omega) before kind
    | true =>
      rw [attempts_retried kind, if_neg (Nat.succ_ne_zero left), ← pauses_succ]
      have onward : ∀ i < n + 1, (replies i).retryable = true := by
        intro i bound
        rcases Nat.lt_succ_iff_lt_or_eq.mp bound with less | rfl
        · exact before i less
        · exact kind
      exact ih (by omega) onward

theorem fetch_ends (q : Request) (replies : ℕ → Reply β) (stats : RequestStats) :
    q.Ends replies stats (q.fetch replies stats) :=
  attempts_ends q.maxRetries (Nat.zero_add _) fun _ less => absurd less (Nat.not_lt_zero _)

/-- What was met by the requests: refusals for the rate, errors of the server and of the network. -/
def RequestStats.setbacks (s : RequestStats) : ℕ :=
  s.rateLimitHits + s.serverErrors + s.networkErrors

@[simp] theorem sent_setbacks {s : RequestStats} : (q.sent n s).setbacks = s.setbacks := rfl

theorem retried_accounts (s : RequestStats) (reply : Reply β) :
    (s.retried reply).requests = s.requests ∧ (s.retried reply).retries = s.retries ∧
      (s.retried reply).setbacks = s.setbacks + 1 := by
  cases reply with
  | failed error => exact ⟨rfl, rfl, rfl⟩
  | response status header json =>
    by_cases limited : status = 429
    · rw [RequestStats.retried, if_pos limited]
      exact ⟨rfl, rfl, by simp only [RequestStats.setbacks]; omega⟩
    · rw [RequestStats.retried, if_neg limited]
      exact ⟨rfl, rfl, by simp only [RequestStats.setbacks]; omega⟩

theorem tried_accounts (q : Request) (replies : ℕ → Reply β) (stats : RequestStats) (n : ℕ) :
    (q.tried replies stats n).requests = stats.requests + n ∧
      (q.tried replies stats n).retries = stats.retries + (n - 1) ∧
        (q.tried replies stats n).setbacks = stats.setbacks + n := by
  induction n with
  | zero => exact ⟨rfl, rfl, rfl⟩
  | succ n ih =>
    obtain ⟨requests, retries, setbacks⟩ := ih
    obtain ⟨same, same', more⟩ := retried_accounts (q.sent n (q.tried replies stats n)) (replies n)
    refine ⟨?_, ?_, ?_⟩
    · rw [Request.tried, same]
      simp only [Request.sent]
      omega
    · rw [Request.tried, same']
      simp only [Request.sent]
      split <;> omega
    · rw [Request.tried, more, sent_setbacks]
      omega

/-- What a reply that is retried is called when it is the last one. -/
def Reply.kind : Reply β → Kind
  | .failed _ => .network
  | .response status _ _ => if status = 429 then .rateLimited else .serverError

theorem lastOf_kind (n : ℕ) : (lastOf replies (n + 1)).kind = (replies n).kind := by
  rw [lastOf]
  cases replies n with
  | failed error => rfl
  | response status header json => rfl

theorem answered_success (reply : Reply β) :
    (q.answered reply).1 = .success ↔ ∃ payload, (q.answered reply).2 = .ok payload := by
  cases reply with
  | failed error => simp [Request.answered]
  | response status header json =>
    unfold Request.answered
    dsimp only
    split
    · simp
    split
    · simp
    split
    · simp
    · cases json with
      | none => simp
      | some payload => simp

end Accounts

end RangeApply.Fetching
