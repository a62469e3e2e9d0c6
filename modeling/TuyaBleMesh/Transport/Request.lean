import Mathlib.Algebra.Order.Field.Rat
import Mathlib.Tactic.Linarith
import TuyaBleMesh.Exceptions
import TuyaBleMesh.Lib.Bytes

/-!
# Requests and results

`request.py` and `result.py` of the transport layer. Monotonic time is a rational
number of seconds.
-/

namespace TuyaBleMesh

/-- A request id, a UUID. -/
abbrev RequestId := Nat

inductive Protocol
  | telink
  | sig
  deriving DecidableEq, Repr

/-- A retry policy that its `__post_init__` accepts. -/
structure RetryPolicy where
  maxRetries : Nat
  backoffBase : Rat
  backoffMax : Rat
  jitter : Rat
  backoffBase_pos : 0 < backoffBase
  backoffBase_le : backoffBase ≤ backoffMax
  jitter_nonneg : 0 ≤ jitter
  jitter_le : jitter ≤ 1
  deriving DecidableEq

/-- The largest exponent whose power of two Python still converts to a `float`. -/
def _MAX_FLOAT_EXPONENT : Nat := 1023

/-- The delay after the failed attempt number `attempt`; `sample` is `random.random()`. -/
def RetryPolicy.backoff (policy : RetryPolicy) (attempt : Nat) (sample : Rat) :
    Except PyError Rat :=
  -- `backoff_base * (2**attempt)` converts the power first
  if _MAX_FLOAT_EXPONENT < attempt then .error .overflowError
  else
    let backoff := min (policy.backoffBase * 2 ^ attempt) policy.backoffMax
    if policy.jitter > 0 then .ok (backoff + backoff * policy.jitter * (sample * 2 - 1))
    else .ok backoff

theorem RetryPolicy.backoff_ok (policy : RetryPolicy) {attempt : Nat}
    (small : attempt ≤ _MAX_FLOAT_EXPONENT) (sample : Rat) :
    ∃ delay, policy.backoff attempt sample = .ok delay := by
  rw [backoff, if_neg (Nat.not_lt.mpr small)]
  split
  · exact ⟨_, rfl⟩
  · exact ⟨_, rfl⟩

theorem RetryPolicy.backoff_overflow (policy : RetryPolicy) {attempt : Nat}
    (large : _MAX_FLOAT_EXPONENT < attempt) (sample : Rat) :
    policy.backoff attempt sample = .error .overflowError := if_pos large

/-- A request that its `__post_init__` accepts. -/
structure CommandRequest where
  requestId : RequestId
  protocol : Protocol
  targetNode : Nat
  opcode : Nat
  params : Bytes
  expectedResponseOpcode : Option Nat
  ttl : Rat
  retryPolicy : RetryPolicy
  priority : Nat
  createdAt : Rat
  targetNode_le : targetNode ≤ 0xFFFF
  opcode_le : opcode ≤ 0xFFFF
  ttl_pos : 0 < ttl
  deriving DecidableEq

namespace CommandRequest

def deadline (request : CommandRequest) : Rat := request.createdAt + request.ttl

def isExpired (request : CommandRequest) (now : Rat) : Bool := request.deadline ≤ now

def age (request : CommandRequest) (now : Rat) : Rat := now - request.createdAt

theorem isExpired_iff {request : CommandRequest} {now : Rat} :
    request.isExpired now = true ↔ request.deadline ≤ now := by
  rw [isExpired, decide_eq_true_eq]

theorem age_pos {request : CommandRequest} {now : Rat} (expired : request.isExpired now = true) :
    0 < request.age now := by
  have late := isExpired_iff.mp expired
  have ttl := request.ttl_pos
  rw [deadline] at late
  rw [age]
  linarith

end CommandRequest

/-! ### Results -/

inductive Status
  | success
  | timeout
  | error
  | cancelled
  | coalesced
  deriving DecidableEq, Repr

/-- A result that its `__post_init__` accepts. -/
structure CommandResult where
  requestId : RequestId
  status : Status
  responseData : Option Bytes
  latencyMs : Rat
  retriesUsed : Nat
  error : Option PyError
  error_isSome : status = .error → error ≠ none
  error_eq_none : status = .success → error = none
  latencyMs_nonneg : 0 ≤ latencyMs
  deriving DecidableEq

/-- `CommandResult(..)`, with its checks in their order. -/
def commandResult (requestId : RequestId) (status : Status) (responseData : Option Bytes)
    (latencyMs : Rat) (retriesUsed : Nat) (error : Option PyError) :
    Except PyError CommandResult :=
  if missing : status = .error ∧ error = none then
    .error (.invalidResultError "status='error' requires error to be set")
  else if unexpected : status = .success ∧ error ≠ none then
    .error (.invalidResultError "status='success' should not have error set")
  else if negative : latencyMs < 0 then
    .error (.invalidResultError s!"latency_ms must be >= 0, got {latencyMs}")
  else
    .ok {
      requestId, status, responseData, latencyMs, retriesUsed, error
      error_isSome := fun failed absent => missing ⟨failed, absent⟩
      error_eq_none := fun succeeded => by
        by_contra present
        exact unexpected ⟨succeeded, present⟩
      latencyMs_nonneg := le_of_not_gt negative }

section Result

variable {requestId : RequestId} {status : Status} {responseData : Option Bytes} {latencyMs : Rat}
  {retriesUsed : Nat} {error : Option PyError}

/-- An accepted result has the values it was built from. -/
theorem commandResult_fields {result : CommandResult}
    (valid : commandResult requestId status responseData latencyMs retriesUsed error = .ok result) :
    result.requestId = requestId ∧ result.status = status ∧ result.responseData = responseData ∧
      result.retriesUsed = retriesUsed ∧ result.error = error := by
  unfold commandResult at valid
  split at valid
  · cases valid
  · split at valid
    · cases valid
    · split at valid
      · cases valid
      · cases valid
        exact ⟨rfl, rfl, rfl, rfl, rfl⟩

theorem commandResult_success (nonneg : 0 ≤ latencyMs) :
    ∃ result, commandResult requestId .success responseData latencyMs retriesUsed none =
      .ok result := by
  simp only [commandResult, reduceCtorEq, false_and, dite_false, ne_eq, not_true_eq_false,
    and_false, dif_neg (not_lt.mpr nonneg)]
  exact ⟨_, rfl⟩

theorem commandResult_failure (nonneg : 0 ≤ latencyMs) (raised : PyError) :
    ∃ result, commandResult requestId .error responseData latencyMs retriesUsed (some raised) =
      .ok result := by
  simp only [commandResult, reduceCtorEq, and_false, dite_false, false_and,
    dif_neg (not_lt.mpr nonneg)]
  exact ⟨_, rfl⟩

theorem commandResult_without_error :
    commandResult requestId .error responseData latencyMs retriesUsed none =
      .error (.invalidResultError "status='error' requires error to be set") := rfl

end Result

/-- A request whose deadline has passed. -/
abbrev ExpiredRequest (now : Rat) := { request : CommandRequest // request.isExpired now = true }

/-- `CommandResult(request_id=.., status="timeout", latency_ms=request.age() * 1000)`: the age
of an expired request passes the checks. -/
def timeoutResult {now : Rat} (expired : ExpiredRequest now) : CommandResult where
  requestId := expired.val.requestId
  status := .timeout
  responseData := none
  latencyMs := expired.val.age now * 1000
  retriesUsed := 0
  error := none
  error_isSome := by decide
  error_eq_none := by decide
  latencyMs_nonneg := by
    have positive := CommandRequest.age_pos expired.property
    linarith

/-- What `stop` resolves a future with. -/
def cancelledResult (requestId : RequestId) : CommandResult where
  requestId
  status := .cancelled
  responseData := none
  latencyMs := 0
  retriesUsed := 0
  error := none
  error_isSome := by decide
  error_eq_none := by decide
  latencyMs_nonneg := le_refl 0

end TuyaBleMesh
