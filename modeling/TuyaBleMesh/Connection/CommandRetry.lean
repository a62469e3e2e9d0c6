import Mathlib.Data.List.Basic
import Mathlib.Data.Rat.Defs
import TuyaBleMesh.Exceptions

/-!
# Commands with retries

`send_command_with_retry` of the connection manager, and the services of the switch and
of the SIG Mesh light that call it. A service turns an `OSError` into the error that
Home Assistant shows; the errors of the package are none, and come out as they are.
-/

namespace TuyaBleMesh

def DEFAULT_MAX_COMMAND_RETRIES : Nat := 3

def DEFAULT_COMMAND_RETRY_BASE_DELAY : Rat := 1 / 2

/-- `AttributeError` and `TypeError`. -/
def PyError.isProgrammingError : PyError → Bool
  | .attributeError => true
  | .typeError => true
  | _ => false

/-- The retry loop goes on. -/
def PyError.isRetried (error : PyError) : Bool := error.isException && !error.isProgrammingError

/-- What the services ask of the device. -/
inductive PlugCommand
  | sendPower (on : Bool)
  | sendLevel (level : Int)
  deriving DecidableEq

/-- `ConnectionStatistics`, as far as commands count. -/
structure CommandStatistics where
  commandErrors : Nat := 0
  totalErrors : Nat := 0
  deriving DecidableEq

structure RetryState where
  stats : CommandStatistics
  /-- The calls of the device. -/
  calls : List PlugCommand := []
  waits : List Rat := []
  lastExc : Option PyError := none
  deriving DecidableEq

namespace RetryState

def called (s : RetryState) (command : PlugCommand) : RetryState :=
  { s with calls := s.calls ++ [command] }

/-- An attempt has raised; there is a pause before the next one. -/
def failed (s : RetryState) (max : Nat) (delay : Rat) (attempt : Nat) (error : PyError) :
    RetryState :=
  { s with
    lastExc := some error
    stats := ⟨s.stats.commandErrors + 1, s.stats.totalErrors + 1⟩
    waits := s.waits ++ if attempt < max then [delay * 2 ^ (attempt - 1)] else [] }

end RetryState

/-- `for attempt in range(1, _max + 1)`, from an attempt on. -/
def retryLoop (command : PlugCommand) (outcome : Nat → Except PyError Unit) (max : Nat)
    (delay : Rat) (s : RetryState) : List Nat → RetryState × Except PyError Unit
  | [] =>
    match s.lastExc with
    | some error => (s, .error error)
    | none => (s, .ok ())
  | attempt :: attempts =>
    let s := s.called command
    match outcome attempt with
    | .ok () => (s, .ok ())
    | .error error =>
      if error.isRetried then
        retryLoop command outcome max delay (s.failed max delay attempt error) attempts
      else (s, .error error)

/-- `send_command_with_retry`, where an attempt of the command has the given outcome. -/
def sendCommandWithRetry (command : PlugCommand) (outcome : Nat → Except PyError Unit)
    (maxRetries : Option Nat) (baseDelay : Option Rat) (stats : CommandStatistics) :
    RetryState × Except PyError Unit :=
  let max := maxRetries.getD DEFAULT_MAX_COMMAND_RETRIES
  let delay := baseDelay.getD DEFAULT_COMMAND_RETRY_BASE_DELAY
  retryLoop command outcome max delay { stats } (List.range' 1 max)

/-! ### Services -/

/-- `async_turn_on` and `async_turn_off` of the switch and of `TuyaSIGMeshLight`. -/
inductive ServiceCall
  | switchTurnOn
  | switchTurnOff
  | lightTurnOn (brightness : Option Int)
  | lightTurnOff
  deriving DecidableEq

inductive ServiceResult
  | returned
  | homeAssistantError (translationKey : String)
  | raised (error : PyError)
  deriving DecidableEq

namespace ServiceCall

def command : ServiceCall → PlugCommand
  | .switchTurnOn => .sendPower true
  | .switchTurnOff => .sendPower false
  | .lightTurnOn (some brightness) => .sendLevel (max 0 (min brightness 255) * 257 - 32768)
  | .lightTurnOn none => .sendPower true
  | .lightTurnOff => .sendPower false

def translationKey : ServiceCall → String
  | .switchTurnOn => "switch_on_failed"
  | .switchTurnOff => "switch_off_failed"
  | .lightTurnOn _ => "switch_on_failed"
  | .lightTurnOff => "switch_off_failed"

/-- The handler around the retries: `ConnectionError` and `TimeoutError` are `OSError`s. -/
def result (call : ServiceCall) : Except PyError Unit → ServiceResult
  | .ok () => .returned
  | .error error =>
    if error.isOsError then .homeAssistantError call.translationKey else .raised error

def run (call : ServiceCall) (outcome : Nat → Except PyError Unit) (stats : CommandStatistics) :
    RetryState × ServiceResult :=
  let (s, result) := sendCommandWithRetry call.command outcome none none stats
  (s, call.result result)

end ServiceCall

/-! ### Outcomes of the device -/

/-- An exception that a device call raises. -/
abbrev DeviceFailure := { error : PyError // (error.isOsError || error.isTuyaBleMeshError) = true }

/-- The outcome of each attempt, the first one being the attempt 1. -/
abbrev DeviceOutcomes := Nat → Except DeviceFailure Unit

def DeviceOutcomes.raising (outcomes : DeviceOutcomes) (attempt : Nat) : Except PyError Unit :=
  (outcomes attempt).mapError Subtype.val

/-- The attempt fails. -/
def DeviceOutcomes.fails (outcomes : DeviceOutcomes) (attempt : Nat) : Bool :=
  !(outcomes attempt).isOk

namespace ServiceCall

variable (call : ServiceCall) (outcomes : DeviceOutcomes) (stats : CommandStatistics)

/-- How many attempts are made. -/
def made : Nat := (call.run outcomes.raising stats).1.calls.length

/-- The attempts end with the first success, and each failure is counted once. -/
structure Accounted : Prop where
  returns : (call.run outcomes.raising stats).2 = .returned ↔
    ∃ attempt, 1 ≤ attempt ∧ attempt ≤ call.made outcomes stats ∧ outcomes attempt = .ok ()
  stops : ∀ attempt, 1 ≤ attempt → attempt < call.made outcomes stats →
    outcomes attempt ≠ .ok ()
  bounded : call.made outcomes stats ≤ DEFAULT_MAX_COMMAND_RETRIES
  counts :
    let failures := (List.range' 1 (call.made outcomes stats)).countP outcomes.fails
    (call.run outcomes.raising stats).1.stats =
      ⟨stats.commandErrors + failures, stats.totalErrors + failures⟩

/-- Moreover a call that does not return raises the error for Home Assistant. -/
structure Truthful : Prop extends call.Accounted outcomes stats where
  raises : (call.run outcomes.raising stats).2 = .returned ∨
    (call.run outcomes.raising stats).2 = .homeAssistantError call.translationKey

/-- An attempt succeeds, or the last one raises an `OSError`. -/
def Reported : Prop :=
  (∃ attempt, 1 ≤ attempt ∧ attempt ≤ DEFAULT_MAX_COMMAND_RETRIES ∧ outcomes attempt = .ok ()) ∨
    ∃ failure : DeviceFailure,
      outcomes DEFAULT_MAX_COMMAND_RETRIES = .error failure ∧ failure.val.isOsError = true

end ServiceCall

/-! ### The loop -/

theorem DeviceFailure.isRetried (failure : DeviceFailure) : failure.val.isRetried = true := by
  obtain ⟨error, listed⟩ := failure
  cases error <;> first | rfl | exact Bool.noConfusion listed

namespace DeviceOutcomes

variable {outcomes : DeviceOutcomes} {attempt : Nat}

theorem raising_ok (succeeds : outcomes attempt = .ok ()) : outcomes.raising attempt = .ok () := by
  unfold raising
  rw [succeeds]
  rfl

theorem raising_error {failure : DeviceFailure} (failed : outcomes attempt = .error failure) :
    outcomes.raising attempt = .error failure.val := by
  unfold raising
  rw [failed]
  rfl

theorem fails_iff : outcomes.fails attempt = true ↔ outcomes attempt ≠ .ok () := by
  unfold fails
  cases outcomes attempt with
  | ok value => simp [Except.isOk, Except.toBool]
  | error failure => simp [Except.isOk, Except.toBool]

end DeviceOutcomes

def CommandStatistics.count (stats : CommandStatistics) (failures : Nat) : CommandStatistics :=
  ⟨stats.commandErrors + failures, stats.totalErrors + failures⟩

theorem CommandStatistics.count_count (stats : CommandStatistics) (first second : Nat) :
    (stats.count first).count second = stats.count (first + second) := by
  simp only [CommandStatistics.count, Nat.add_assoc]

/-- The loop ends with the first attempt that succeeds. -/
structure Succeeded (command : PlugCommand) (outcomes : DeviceOutcomes) (s : RetryState)
    (first failures : Nat) (ended : RetryState × Except PyError Unit) : Prop where
  failed : ∀ attempt, first ≤ attempt → attempt < first + failures → outcomes attempt ≠ .ok ()
  succeeds : outcomes (first + failures) = .ok ()
  calls : ended.1.calls = s.calls ++ List.replicate (failures + 1) command
  stats : ended.1.stats = s.stats.count failures
  result : ended.2 = .ok ()

/-- The loop uses up its attempts, and raises the last exception. -/
structure Exhausted (command : PlugCommand) (outcomes : DeviceOutcomes) (s : RetryState)
    (first left : Nat) (ended : RetryState × Except PyError Unit) : Prop where
  failed : ∀ attempt, first ≤ attempt → attempt < first + left → outcomes attempt ≠ .ok ()
  calls : ended.1.calls = s.calls ++ List.replicate left command
  stats : ended.1.stats = s.stats.count left
  last : ∀ failure : DeviceFailure,
    (if left = 0 then s.lastExc = some failure.val
      else outcomes (first + left - 1) = .error failure) →
    ended.2 = .error failure.val

variable (command : PlugCommand) (outcomes : DeviceOutcomes) (max : Nat) (delay : Rat)

theorem retryLoop_nil (outcome : Nat → Except PyError Unit) (s : RetryState) :
    (retryLoop command outcome max delay s []).1 = s := by
  unfold retryLoop
  split
  · rfl
  · rfl

/-- An attempt that succeeds ends the loop. -/
theorem retryLoop_ok {first : Nat} (succeeds : outcomes first = .ok ()) (s : RetryState)
    (attempts : List Nat) :
    retryLoop command outcomes.raising max delay s (first :: attempts) =
      (s.called command, .ok ()) := by
  unfold retryLoop
  rw [DeviceOutcomes.raising_ok succeeds]

/-- An attempt that fails is counted, and the loop goes on. -/
theorem retryLoop_error {first : Nat} {failure : DeviceFailure}
    (fails : outcomes first = .error failure) (s : RetryState) (attempts : List Nat) :
    retryLoop command outcomes.raising max delay s (first :: attempts) =
      retryLoop command outcomes.raising max delay
        ((s.called command).failed max delay first failure.val) attempts := by
  rw [retryLoop, DeviceOutcomes.raising_error fails]
  exact if_pos failure.isRetried

theorem append_replicate (calls : List PlugCommand) (n : Nat) :
    calls ++ [command] ++ List.replicate n command = calls ++ List.replicate (n + 1) command := by
  rw [List.append_assoc, List.replicate_succ]
  rfl

/-- Either the loop meets a success, or it is exhausted. -/
theorem retryLoop_cases (s : RetryState) (first left : Nat) :
    let ended := retryLoop command outcomes.raising max delay s (List.range' first left)
    (∃ failures < left, Succeeded command outcomes s first failures ended) ∨
      Exhausted command outcomes s first left ended := by
  induction left generalizing s first with
  | zero =>
    -- no attempt is left
    right
    refine ⟨fun attempt from_ below => by omega, ?_, ?_, ?_⟩
    · rw [List.range'_zero, retryLoop_nil]
      exact (List.append_nil _).symm
    · rw [List.range'_zero, retryLoop_nil]
      rfl
    intro failure last
    rw [if_pos rfl] at last
    simp only [List.range'_zero, retryLoop, last]
  | succ left ih =>
    rw [List.range'_succ]
    cases here : outcomes first with
    | ok value =>
      left
      rw [retryLoop_ok command outcomes max delay here]
      exact ⟨0, by omega, fun attempt from_ below => by omega, here, rfl, rfl, rfl⟩
    | error failure =>
      rw [retryLoop_error command outcomes max delay here]
      -- the first attempt is put in front of those that fail later
      have failed (n attempt : Nat)
          (later : ∀ attempt, first + 1 ≤ attempt → attempt < first + 1 + n →
            outcomes attempt ≠ .ok ())
          (from_ : first ≤ attempt) (below : attempt < first + (n + 1)) :
          outcomes attempt ≠ .ok () := by
        rcases Nat.eq_or_lt_of_le from_ with rfl | after
        · rw [here]
          exact nofun
        · exact later attempt after (by omega)
      rcases ih ((s.called command).failed max delay first failure.val) (first + 1) with
        ⟨failures, fewer, rest⟩ | rest
      · left
        refine ⟨failures + 1, by omega, fun attempt => failed failures attempt rest.failed, ?_, ?_,
          ?_, rest.result⟩
        · rw [← rest.succeeds]
          congr 1
          omega
        · rw [rest.calls]
          exact append_replicate command s.calls _
        · rw [rest.stats, Nat.add_comm failures 1, ← CommandStatistics.count_count]
          rfl
      · right
        refine ⟨fun attempt => failed left attempt rest.failed, ?_, ?_, ?_⟩
        · rw [rest.calls]
          exact append_replicate command s.calls _
        · rw [rest.stats, Nat.add_comm left 1, ← CommandStatistics.count_count]
          rfl
        · intro failure' last
          apply rest.last failure'
          rw [if_neg (Nat.succ_ne_zero left)] at last
          -- the last exception is that of this attempt, or of a later one
          split
          · next none =>
            rw [none, Nat.add_sub_cancel, here] at last
            cases last
            rfl
          · next some =>
            rw [← last]
            congr 1
            omega

/-! ### The services -/

namespace ServiceCall

variable (call : ServiceCall) (stats : CommandStatistics)

theorem run_eq : call.run outcomes.raising stats =
    let ended := retryLoop call.command outcomes.raising DEFAULT_MAX_COMMAND_RETRIES
      DEFAULT_COMMAND_RETRY_BASE_DELAY { stats } (List.range' 1 DEFAULT_MAX_COMMAND_RETRIES)
    (ended.1, call.result ended.2) := rfl

/-- Each of the first failing attempts is counted. -/
theorem countP_failed {outcomes : DeviceOutcomes} {n : Nat}
    (failed : ∀ attempt, 1 ≤ attempt → attempt < 1 + n → outcomes attempt ≠ .ok ()) :
    (List.range' 1 n).countP outcomes.fails = n := by
  have all : (List.range' 1 n).countP outcomes.fails = (List.range' 1 n).length := by
    rw [List.countP_eq_length]
    intro attempt member
    rw [List.mem_range'_1] at member
    exact DeviceOutcomes.fails_iff.mpr (failed attempt member.1 member.2)
  rw [all, List.length_range']

theorem returned_of_succeeded {failures : Nat} {ended : RetryState × Except PyError Unit}
    (ran : call.run outcomes.raising stats = (ended.1, call.result ended.2))
    (succeeded : Succeeded call.command outcomes { stats } 1 failures ended) :
    (call.run outcomes.raising stats).2 = .returned := by
  rw [ran, succeeded.result]
  rfl

theorem accounted_of_succeeded {failures : Nat} (fewer : failures < DEFAULT_MAX_COMMAND_RETRIES)
    {ended : RetryState × Except PyError Unit}
    (ran : call.run outcomes.raising stats = (ended.1, call.result ended.2))
    (succeeded : Succeeded call.command outcomes { stats } 1 failures ended) :
    call.Accounted outcomes stats := by
  have made : call.made outcomes stats = failures + 1 := by
    unfold ServiceCall.made
    rw [ran, succeeded.calls, List.nil_append, List.length_replicate]
  -- one more attempt is made than fail
  have last : outcomes.fails (1 + failures) = false := by
    rw [← Bool.not_eq_true, DeviceOutcomes.fails_iff, not_not]
    exact succeeded.succeeds
  refine ⟨?_, ?_, ?_, ?_⟩
  · exact ⟨fun _ => ⟨1 + failures, by omega, by omega, succeeded.succeeds⟩,
      fun _ => call.returned_of_succeeded outcomes stats ran succeeded⟩
  · intro attempt from_ below
    exact succeeded.failed attempt from_ (by omega)
  · omega
  · dsimp only
    rw [made, List.range'_1_concat, List.countP_append, countP_failed succeeded.failed,
      List.countP_singleton, last, ran]
    exact succeeded.stats

/-- What comes out is decided by the last attempt. -/
theorem result_of_exhausted {ended : RetryState × Except PyError Unit}
    (ran : call.run outcomes.raising stats = (ended.1, call.result ended.2))
    (exhausted : Exhausted call.command outcomes { stats } 1 DEFAULT_MAX_COMMAND_RETRIES ended) :
    ∃ failure : DeviceFailure, outcomes DEFAULT_MAX_COMMAND_RETRIES = .error failure ∧
      (call.run outcomes.raising stats).2 =
        if failure.val.isOsError then .homeAssistantError call.translationKey
        else .raised failure.val := by
  cases last : outcomes DEFAULT_MAX_COMMAND_RETRIES with
  -- the last attempt is one of those that have failed
  | ok value => exact absurd last (exhausted.failed _ (by decide) (by decide))
  | error failure =>
    refine ⟨failure, rfl, ?_⟩
    rw [ran, exhausted.last failure last]
    rfl

theorem accounted_of_exhausted {ended : RetryState × Except PyError Unit}
    (ran : call.run outcomes.raising stats = (ended.1, call.result ended.2))
    (exhausted : Exhausted call.command outcomes { stats } 1 DEFAULT_MAX_COMMAND_RETRIES ended) :
    call.Accounted outcomes stats := by
  have made : call.made outcomes stats = DEFAULT_MAX_COMMAND_RETRIES := by
    unfold ServiceCall.made
    rw [ran, exhausted.calls, List.nil_append, List.length_replicate]
  obtain ⟨failure, _, result⟩ := call.result_of_exhausted outcomes stats ran exhausted
  refine ⟨?_, ?_, made.le, ?_⟩
  · rw [result, made]
    constructor
    · intro returned
      split at returned
      · cases returned
      · cases returned
    · rintro ⟨attempt, from_, below, succeeds⟩
      exact absurd succeeds (exhausted.failed attempt from_ (by omega))
  · intro attempt from_ below
    exact exhausted.failed attempt from_ (by omega)
  · dsimp only
    rw [made, countP_failed exhausted.failed, ran]
    exact exhausted.stats

/-- A service gives the right account of its attempts, whatever the device does. -/
theorem accounted : call.Accounted outcomes stats := by
  have ran := call.run_eq outcomes stats
  rcases retryLoop_cases call.command outcomes DEFAULT_MAX_COMMAND_RETRIES
    DEFAULT_COMMAND_RETRY_BASE_DELAY { stats } 1 DEFAULT_MAX_COMMAND_RETRIES with
    ⟨failures, fewer, succeeded⟩ | exhausted
  · exact call.accounted_of_succeeded outcomes stats fewer ran succeeded
  · exact call.accounted_of_exhausted outcomes stats ran exhausted

theorem raises_iff :
    ((call.run outcomes.raising stats).2 = .returned ∨
      (call.run outcomes.raising stats).2 = .homeAssistantError call.translationKey) ↔
    Reported outcomes := by
  have ran := call.run_eq outcomes stats
  rcases retryLoop_cases call.command outcomes DEFAULT_MAX_COMMAND_RETRIES
    DEFAULT_COMMAND_RETRY_BASE_DELAY { stats } 1 DEFAULT_MAX_COMMAND_RETRIES with
    ⟨failures, fewer, succeeded⟩ | exhausted
  · have returned := call.returned_of_succeeded outcomes stats ran succeeded
    exact ⟨fun _ => .inl ⟨1 + failures, by omega, by omega, succeeded.succeeds⟩,
      fun _ => .inl returned⟩
  · obtain ⟨failure, last, result⟩ := call.result_of_exhausted outcomes stats ran exhausted
    rw [result]
    constructor
    · -- only an `OSError` is turned into the error for Home Assistant
      intro shown
      refine .inr ⟨failure, last, ?_⟩
      by_contra other
      rw [if_neg other] at shown
      rcases shown with returned | raised
      · cases returned
      · cases raised
    · rintro (⟨attempt, from_, below, succeeds⟩ | ⟨failure', same, os⟩)
      · exact absurd succeeds (exhausted.failed attempt from_ (by omega))
      · rw [last] at same
        cases same
        exact .inr (if_pos os)

end ServiceCall

/-- A service call tells its caller the truth exactly when one of its attempts succeeds or the
last one raises an `OSError`. -/
theorem service_truthful_iff (call : ServiceCall) (outcomes : DeviceOutcomes)
    (stats : CommandStatistics) :
    call.Truthful outcomes stats ↔ ServiceCall.Reported outcomes := by
  rw [← call.raises_iff outcomes stats]
  constructor
  · intro truthful
    exact truthful.raises
  · intro raises
    exact ⟨call.accounted outcomes stats, raises⟩

/-- A device that is not connected. -/
def notConnected : DeviceOutcomes := fun _ => .error ⟨.sigMeshError "Not connected", rfl⟩

/-- The error of the package comes out of the service as it is. -/
theorem notConnected_not_truthful :
    ¬∀ (call : ServiceCall) (outcomes : DeviceOutcomes) (stats : CommandStatistics),
      call.Truthful outcomes stats := by
  intro truthful
  have shown := (truthful .switchTurnOn notConnected {}).raises
  revert shown
  decide

end TuyaBleMesh
