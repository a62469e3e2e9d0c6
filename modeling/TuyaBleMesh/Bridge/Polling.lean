import Mathlib.Data.Nat.Find
import TuyaBleMesh.Bridge.Recognition

/-!
# Polling for a result

`_http_get`, and the polling loops of `_send_and_wait` and `_send_telink_cmd_once`:
what each outcome of a poll does to the call. A request that fails becomes a
`MeshConnectionError` in `_http_get`, which the handlers of the loops do not name.
-/

namespace TuyaBleMesh

/-- The errors that `_http_get` and `_http_post` translate. -/
def PyError.isHttpError : PyError → Bool
  | .timeoutError => true
  | .clientError _ => true
  | _ => false

/-- `str(exc)` of the errors that are translated. -/
def PyError.httpText : PyError → String
  | .clientError msg => msg
  | _ => ""

/-- `_http_get` and `_http_post`, from how the request itself ends. -/
def httpRequest (method path : String) : Except PyError Json → Except PyError Json
  | .ok result => .ok result
  | .error error =>
    if error.isHttpError then
      .error (.meshConnectionError s!"Bridge HTTP {method} {path} failed: {error.httpText}")
    else .error error

/-- The errors after which a loop polls again. -/
def PyError.isPolledAgain (error : PyError) : Bool := error.isHttpError || error.isOsError

/-- The disconnect callbacks are called in turn; a cancellation ends the call. -/
def fireDisconnect : List (Except PyError Unit) → Except PyError Unit
  | [] => .ok ()
  | callback :: rest =>
    if callback = .error .cancelledError then .error .cancelledError else fireDisconnect rest

/-- How a call ends. -/
structure PollReport where
  result : Except PyError Json
  /-- How often the bridge was polled. -/
  polls : Nat
  /-- The bridge was declared disconnected. -/
  disconnected : Bool

namespace BridgeCall

variable (call : BridgeCall) (str : Json → String)

/-- How the call ends with its result. -/
def finish (result : Json) : Except PyError Json := do
  match call.device with
  | .sigMesh _ => return result
  | .telink _ =>
    if ((← result.get "success").any Json.truthy) then return result
    else
      let error ← result.getD "error" (.string "Unknown error")
      throw (.sigMeshError s!"Telink command failed: {str error}")

/-- One poll: the loop goes on unless there is a result or an error that it does not handle. -/
def pollOnce (outcome : Except PyError Json) : Option (Except PyError Json) :=
  let polled : Except PyError (Option (Except PyError Json)) := do
    let result ← httpRequest "GET" "/result" outcome
    if ← call.recognises result then return some (call.finish str result) else return none
  match polled with
  | .ok ended => ended
  | .error error => if error.isPolledAgain then none else some (.error error)

/-- The end of a call whose polls were all in vain. -/
def giveUp (callbacks : List (Except PyError Unit)) : Except PyError Json := do
  fireDisconnect callbacks
  match call.device with
  | .sigMesh _ => return failure "Timed out waiting for bridge result"
  | .telink _ => throw (.sigMeshError "Timed out waiting for telink bridge result")

/-- The polling loop, with `left` of the polls left. -/
def pollFrom (callbacks : List (Except PyError Unit)) (polls : Nat → Except PyError Json) :
    (left attempt : Nat) → PollReport
  | 0, attempt => ⟨call.giveUp callbacks, attempt, true⟩
  | left + 1, attempt =>
    match call.pollOnce str (polls attempt) with
    | some result => ⟨result, attempt + 1, false⟩
    | none => pollFrom callbacks polls left (attempt + 1)

/-- `_send_and_wait` and `_send_telink_cmd_once`: the command is posted, and then polled for. -/
def sendAndWait (callbacks : List (Except PyError Unit)) (posted : Except PyError Json)
    (polls : Nat → Except PyError Json) : PollReport :=
  match httpRequest "POST" "/command" posted with
  | .error error => ⟨.error error, 0, false⟩
  | .ok _ => call.pollFrom str callbacks polls _MAX_POLL_ATTEMPTS 0

/-! ### The outcomes of polls -/

/-- The poll gets a result that the call recognises. -/
def Matches (outcome : Except PyError Json) : Prop :=
  ∃ result, outcome = .ok result ∧ call.recognises result = .ok true

/-- The bridge is unreachable, the request times out, or there is an answer of the bridge. -/
def IsPollOutcome : Except PyError Json → Prop
  | .ok result => result.isObject = true
  | .error error => error.isPolledAgain = true

/-- The request fails with an error that `_http_get` translates. -/
def IsTranslated (outcome : Except PyError Json) : Prop :=
  ∃ error, outcome = .error error ∧ error.isHttpError = true

/-- A call ends with the first result that it recognises within its polls, and without one it
ends only after all of them. -/
structure Tolerates (callbacks : List (Except PyError Unit)) (polls : Nat → Except PyError Json)
    (report : PollReport) : Prop where
  finishes : ∀ i < _MAX_POLL_ATTEMPTS, (∀ j < i, ¬call.Matches (polls j)) → ∀ result,
    polls i = .ok result → call.recognises result = .ok true →
      report = ⟨call.finish str result, i + 1, false⟩
  patient : (∀ i < _MAX_POLL_ATTEMPTS, ¬call.Matches (polls i)) →
    report.polls = _MAX_POLL_ATTEMPTS

section Polls

variable {call str} {callbacks : List (Except PyError Unit)} {polls : Nat → Except PyError Json}
  {outcome : Except PyError Json}

theorem recognises_object (call : BridgeCall) {result : Json} (object : result.isObject = true) :
    ∃ recognised, call.recognises result = .ok recognised := by
  cases result with
  | object members => exact ⟨_, rfl⟩
  | _ => cases object

/-- The first result that is recognised ends the call. -/
theorem pollOnce_match {result : Json} (recognised : call.recognises result = .ok true) :
    call.pollOnce str (.ok result) = some (call.finish str result) := by
  simp only [pollOnce, httpRequest, bind, Except.bind, recognised, if_true, pure, Except.pure]

/-- What `_http_get` translates is not what the loop handles. -/
theorem pollOnce_translated (call : BridgeCall) (str : Json → String)
    (translated : IsTranslated outcome) :
    ∃ msg, call.pollOnce str outcome = some (.error (.meshConnectionError msg)) := by
  obtain ⟨error, rfl, http⟩ := translated
  have polled : ∃ msg, httpRequest "GET" "/result" (.error error) =
      .error (.meshConnectionError msg) := ⟨_, if_pos http⟩
  obtain ⟨msg, polled⟩ := polled
  refine ⟨msg, ?_⟩
  rw [pollOnce, polled]
  rfl

/-- Any other outcome without a result is passed over. -/
theorem pollOnce_vain (expected : IsPollOutcome outcome) (unmatched : ¬call.Matches outcome)
    (untranslated : ¬IsTranslated outcome) : call.pollOnce str outcome = none := by
  cases outcome with
  | ok result =>
    obtain ⟨recognised, recognises⟩ := recognises_object call expected
    cases recognised with
    | true => exact absurd ⟨result, rfl, recognises⟩ unmatched
    | false => simp [pollOnce, httpRequest, bind, Except.bind, recognises, pure, Except.pure]
  | error error =>
    have http : error.isHttpError = false := by
      apply Bool.eq_false_of_not_eq_true
      exact fun http => untranslated ⟨error, rfl, http⟩
    simp only [pollOnce, httpRequest, http, bind, Except.bind]
    exact if_pos expected

/-- Polls in vain are passed over. -/
theorem pollFrom_skip (left : Nat) {k attempt : Nat}
    (vain : ∀ j, attempt ≤ j → j < attempt + k → call.pollOnce str (polls j) = none) :
    call.pollFrom str callbacks polls (left + k) attempt =
      call.pollFrom str callbacks polls left (attempt + k) := by
  induction k generalizing attempt with
  | zero => rfl
  | succ k ih =>
    have first : call.pollOnce str (polls attempt) = none := vain attempt (Nat.le_refl _) (by omega)
    rw [← Nat.add_assoc, pollFrom, first]
    rw [show attempt + (k + 1) = attempt + 1 + k by omega]
    exact ih fun j lower upper => vain j (by omega) (by omega)

/-- The call from the first poll that may not be passed over. -/
theorem sendAndWait_skip (posted : Json) {i : Nat} (within : i ≤ _MAX_POLL_ATTEMPTS)
    (vain : ∀ j < i, call.pollOnce str (polls j) = none) :
    call.sendAndWait str callbacks (.ok posted) polls =
      call.pollFrom str callbacks polls (_MAX_POLL_ATTEMPTS - i) i := by
  have split : _MAX_POLL_ATTEMPTS = _MAX_POLL_ATTEMPTS - i + i := (Nat.sub_add_cancel within).symm
  show call.pollFrom str callbacks polls _MAX_POLL_ATTEMPTS 0 = _
  rw [split, pollFrom_skip _ fun j _ upper => vain j (by omega), Nat.zero_add,
    Nat.add_sub_cancel]

/-- The call ends with the poll at which it may not go on. -/
theorem sendAndWait_ends (callbacks : List (Except PyError Unit)) (posted : Json) {i : Nat}
    (within : i < _MAX_POLL_ATTEMPTS)
    (vain : ∀ j < i, call.pollOnce str (polls j) = none) {result : Except PyError Json}
    (ends : call.pollOnce str (polls i) = some result) :
    call.sendAndWait str callbacks (.ok posted) polls = ⟨result, i + 1, false⟩ := by
  rw [sendAndWait_skip posted (Nat.le_of_lt within) vain]
  obtain ⟨left, more⟩ := Nat.exists_eq_add_of_lt within
  rw [show _MAX_POLL_ATTEMPTS - i = left + 1 by omega, pollFrom, ends]

/-- A translated error raises at once, so that nothing but the last poll may end with one. -/
theorem tolerates_iff (posted : Json)
    (expected : ∀ i < _MAX_POLL_ATTEMPTS, IsPollOutcome (polls i)) :
    call.Tolerates str callbacks polls (call.sendAndWait str callbacks (.ok posted) polls) ↔
      ∀ i, i + 1 < _MAX_POLL_ATTEMPTS → (∀ j < i, ¬call.Matches (polls j)) →
        ¬IsTranslated (polls i) := by
  constructor
  · intro tolerates i
    -- the first translated error ends the call
    induction i using Nat.strong_induction_on with
    | _ i ih =>
      intro within unmatched translated
      have vain : ∀ j < i, call.pollOnce str (polls j) = none := by
        intro j below
        have early : j + 1 < _MAX_POLL_ATTEMPTS := by omega
        exact pollOnce_vain (expected j (by omega)) (unmatched j below)
          (ih j below early fun k lower => unmatched k (Nat.lt_trans lower below))
      obtain ⟨msg, ends⟩ := pollOnce_translated call str translated
      have report := sendAndWait_ends callbacks posted (by omega : i < _) vain ends
      rw [report] at tolerates
      by_cases found : ∃ m < _MAX_POLL_ATTEMPTS, call.Matches (polls m)
      · classical
        -- the first match would have ended the call
        obtain ⟨m, below, ⟨result, answered, recognised⟩, first⟩ : ∃ m, m < _MAX_POLL_ATTEMPTS ∧
            call.Matches (polls m) ∧ ∀ j < m, ¬call.Matches (polls j) := by
          obtain ⟨below, matched⟩ := Nat.find_spec found
          refine ⟨Nat.find found, below, matched, fun j lower earlier => ?_⟩
          exact Nat.find_min found lower ⟨Nat.lt_trans lower below, earlier⟩
        have ended := tolerates.finishes m below first result answered recognised
        have same : i = m := Nat.succ.inj (congrArg PollReport.polls ended)
        obtain ⟨error, failed, _⟩ := translated
        rw [same, answered] at failed
        cases failed
      · have patient := tolerates.patient fun m below matched => found ⟨m, below, matched⟩
        dsimp only at patient
        omega
  · intro untranslated
    have passes : ∀ i, i + 1 < _MAX_POLL_ATTEMPTS → (∀ j ≤ i, ¬call.Matches (polls j)) →
        call.pollOnce str (polls i) = none := by
      intro i within unmatched
      apply pollOnce_vain (expected i (by omega)) (unmatched i (Nat.le_refl i))
      exact untranslated i within fun j below => unmatched j (Nat.le_of_lt below)
    refine ⟨?_, ?_⟩
    · intro i within unmatched result answered recognised
      have vain : ∀ j < i, call.pollOnce str (polls j) = none := fun j below =>
        passes j (by omega) fun k lower => unmatched k (by omega)
      apply sendAndWait_ends callbacks posted within vain
      rw [answered]
      exact pollOnce_match recognised
    · intro unmatched
      have vain : ∀ j < 29, call.pollOnce str (polls j) = none := fun j below =>
        passes j (Nat.succ_lt_succ below) fun k lower => unmatched k (by
          unfold _MAX_POLL_ATTEMPTS
          omega)
      rw [sendAndWait_skip posted (by decide : 29 ≤ _MAX_POLL_ATTEMPTS) vain]
      show (call.pollFrom str callbacks polls (0 + 1) 29).polls = 30
      rw [BridgeCall.pollFrom]
      split
      · rfl
      · rfl

end Polls

/-- The bridge is off the network, answers with an old result, and then with that of the call. -/
def sampleResult (result : Json) (unreachable : PyError) : Nat → Except PyError Json
  | 0 => .error unreachable
  | 1 => .ok (failure "No result available")
  | _ => .ok result

/-- A result of the action, for either device. -/
def sampleOn : Json :=
  .object [("action", .string "on"), ("device_type", .string "telink"), ("success", .bool true),
    ("timestamp", .number 1000)]

def queued : Json := .object [("queued", .bool true)]

def lightOn : BridgeCall := (BridgeSend.sendPower true).call 0 "DC:23:4F:10:52:C4"

def plugOn : BridgeCall := (BridgeSend.sigPower 0xB0 true).call 0 "DC:23:4F:10:52:C4"

theorem sampleResult_expected {unreachable : PyError} (again : unreachable.isPolledAgain = true) :
    ∀ i < _MAX_POLL_ATTEMPTS, IsPollOutcome (sampleResult sampleOn unreachable i) := by
  intro i _
  rcases i with _ | _ | i
  · exact again
  · rfl
  · rfl

theorem brokenConnection_tolerated :
    lightOn.Tolerates (fun _ => "") [] (sampleResult sampleOn .osError)
      (lightOn.sendAndWait (fun _ => "") [] (.ok queued) (sampleResult sampleOn .osError)) := by
  refine (tolerates_iff queued (sampleResult_expected rfl)).mpr ?_
  rintro i _ _ ⟨error, failed, http⟩
  rcases i with _ | _ | i
  · cases failed
    cases http
  · cases failed
  · cases failed

/-- The first poll fails with an error of the HTTP library or a timeout, and the call raises at
once. -/
theorem unreachable_raises :
    lightOn.sendAndWait (fun _ => "") [] (.ok queued) (sampleResult sampleOn (.clientError "")) =
        ⟨.error (.meshConnectionError "Bridge HTTP GET /result failed: "), 1, false⟩ ∧
    plugOn.sendAndWait (fun _ => "") [] (.ok queued) (sampleResult sampleOn .timeoutError) =
        ⟨.error (.meshConnectionError "Bridge HTTP GET /result failed: "), 1, false⟩ ∧
    ¬lightOn.Tolerates (fun _ => "") [] (sampleResult sampleOn (.clientError ""))
      (lightOn.sendAndWait (fun _ => "") [] (.ok queued)
        (sampleResult sampleOn (.clientError ""))) := by
  refine ⟨rfl, rfl, fun tolerates => ?_⟩
  have untranslated := (tolerates_iff queued (sampleResult_expected rfl)).mp tolerates 0
    (by decide) fun j below => absurd below (Nat.not_lt_zero j)
  exact untranslated ⟨_, rfl, rfl⟩

end BridgeCall

end TuyaBleMesh
