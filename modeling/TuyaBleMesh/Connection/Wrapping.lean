import TuyaBleMesh.Connection.ErrorClass

/-!
# What the connection makes of an error

`BLEConnection.connect`, as far as the exceptions go that come out of it: which exception
of the scan, of provisioning or of the clean-up reaches the reconnect loop, and whether
`classify_error` still sees in it what went wrong.
-/

namespace TuyaBleMesh

/-- What comes of one attempt of `_connect_with_retry`. -/
inductive AttemptOutcome
  /-- The scan, or the callback, has no device. -/
  | notFound
  | linked
  | raised (err : ConnectFailure)
  | cancelled
  deriving DecidableEq

/-- The exceptions after which the next attempt is made. -/
def FailureKind.isRetried : FailureKind → Bool
  | .osError => true
  | .timeoutError => true
  | .bleakError => true
  | _ => false

def AttemptOutcome.isRetried : AttemptOutcome → Bool
  | .raised err => err.kind.isRetried
  | .cancelled => true
  | _ => false

def meshConnectionFailure (message : String) : ConnectFailure :=
  ⟨.meshConnectionError, "MeshConnectionError", message⟩

def deviceNotFound (address : String) : ConnectFailure :=
  meshConnectionFailure (s!"Device {address} not found in BLE scan. " ++
    "Ensure device is powered on and in range of a BLE adapter or ESPHome proxy.")

def provisioningFailed (address : String) : ConnectFailure :=
  meshConnectionFailure s!"Provisioning failed for {address}"

/-- The loop of `_connect_with_retry`, with what comes of the attempts that are left. -/
def connectAttempts (address : String) (maxRetries : Nat) :
    List AttemptOutcome → Except ConnectFailure Unit
  | [] => .error (meshConnectionFailure
      s!"Failed to connect to {address} after {maxRetries} attempts")
  | .notFound :: _ => .error (deviceNotFound address)
  | .linked :: _ => .ok ()
  | .raised err :: rest =>
    if err.kind.isRetried then connectAttempts address maxRetries rest else .error err
  | .cancelled :: rest => connectAttempts address maxRetries rest

/-- `_connect_with_retry`, with one outcome for each of the `max_retries` attempts. -/
def connectWithRetry (address : String) (attempts : List AttemptOutcome) :
    Except ConnectFailure Unit :=
  connectAttempts address attempts.length attempts

/-- What a call of `connect` meets with. -/
structure ConnectCall where
  /-- The connection is READY already. -/
  ready : Bool
  attempts : List AttemptOutcome
  provision : Except ConnectFailure Unit
  /-- `_cleanup` after a failed provisioning: what `client.disconnect()` raises, unless it is an
  `OSError`. -/
  cleanup : Except ConnectFailure Unit
  /-- The firmware version, the keep-alive task and the notifications. -/
  start : Except ConnectFailure Unit

namespace ConnectCall

/-- `BLEConnection.connect`. -/
def connect (address : String) (call : ConnectCall) : Except ConnectFailure Unit :=
  if call.ready then .ok ()
  else do
    connectWithRetry address call.attempts
    match call.provision with
    | .ok _ => call.start
    | .error _ => do
      call.cleanup
      .error (provisioningFailed address)

/-- An attempt is made that comes to `outcome`. -/
def Reaches (call : ConnectCall) (outcome : AttemptOutcome) : Prop :=
  call.ready = false ∧ ∃ before after, call.attempts = before ++ outcome :: after ∧
    ∀ earlier ∈ before, earlier.isRetried = true

/-- The device is there, and provisioning raises. -/
def FailsToProvision (call : ConnectCall) (err : ConnectFailure) : Prop :=
  call.Reaches .linked ∧ call.provision = .error err

/-- The classes whose repair issues and availability are about the device's credentials or what
it speaks. -/
def IsMismatch (err : ConnectFailure) : Prop :=
  classifyError err = .meshAuth ∨ classifyError err = .protocol

instance (err : ConnectFailure) : Decidable (IsMismatch err) := inferInstanceAs (Decidable (_ ∨ _))

/-- What went wrong can still be seen from the exception that `connect` raises. -/
structure ClassSurvives (address : String) (call : ConnectCall) : Prop where
  provisioning : ∀ err, call.FailsToProvision err → IsMismatch err →
    ∃ raised, call.connect address = .error raised ∧ classifyError raised = classifyError err
  notFound : call.Reaches .notFound →
    ∃ raised, call.connect address = .error raised ∧ classifyError raised = .deviceOffline

/-! ### What reaches the caller -/

variable {address : String} {call : ConnectCall} {err : ConnectFailure}

/-- The attempts before one that is not retried do not matter. -/
theorem connectAttempts_append {maxRetries : Nat} {before : List AttemptOutcome}
    (retried : ∀ earlier ∈ before, earlier.isRetried = true) (rest : List AttemptOutcome) :
    connectAttempts address maxRetries (before ++ rest) =
      connectAttempts address maxRetries rest := by
  induction before with
  | nil => rfl
  | cons outcome before ih =>
    have next := ih fun earlier member => retried earlier (List.mem_cons_of_mem outcome member)
    have first : outcome.isRetried = true := retried outcome List.mem_cons_self
    cases outcome with
    | notFound => cases first
    | linked => cases first
    | raised err =>
      -- the loop goes on after an error that is retried
      have again : err.kind.isRetried = true := first
      rw [List.cons_append, connectAttempts, if_pos again]
      exact next
    | cancelled => exact next

/-- A scan that finds nothing is not repeated. -/
theorem connect_notFound (reached : call.Reaches .notFound) :
    call.connect address = .error (deviceNotFound address) := by
  obtain ⟨waiting, before, after, split, retried⟩ := reached
  rw [connect, waiting, connectWithRetry, split, connectAttempts_append retried]
  rfl

/-- The exception of provisioning is replaced, by the one of the clean-up or by the
connection's own. -/
theorem connect_failsToProvision (failed : call.FailsToProvision err) :
    call.connect address =
      match call.cleanup with
      | .ok _ => .error (provisioningFailed address)
      | .error other => .error other := by
  obtain ⟨⟨waiting, before, after, split, retried⟩, provision⟩ := failed
  rw [connect, waiting, connectWithRetry, split, connectAttempts_append retried, provision]
  cases call.cleanup with
  | ok _ => rfl
  | error other => rfl

/-- The connection's own exceptions say nothing about the device. -/
theorem classifyError_meshConnectionFailure (message : String) :
    classifyError (meshConnectionFailure message) = .bridgeDown ∨
      classifyError (meshConnectionFailure message) = .transient := by
  by_cases unreachable : mentions ["refused", "unreachable", "no route"] (lower message) = true
  · exact .inl (if_pos unreachable)
  · exact .inr (if_neg unreachable)

theorem not_isMismatch_meshConnectionFailure (message : String) :
    ¬ IsMismatch (meshConnectionFailure message) := by
  intro mismatch
  rcases classifyError_meshConnectionFailure message with down | transient
  · rw [IsMismatch, down] at mismatch
    cases mismatch <;> contradiction
  · rw [IsMismatch, transient] at mismatch
    cases mismatch <;> contradiction

/-- What went wrong is seen only where a clean-up that fails happens to say the same: the
connection's own exception never does. -/
theorem classSurvives_iff (address : String) (call : ConnectCall) :
    ClassSurvives address call ↔
      ¬ call.Reaches .notFound ∧ ∀ err, call.FailsToProvision err → IsMismatch err →
        ∃ other, call.cleanup = .error other ∧ classifyError other = classifyError err := by
  constructor
  · intro survives
    constructor
    · intro reached
      obtain ⟨raised, isRaised, offline⟩ := survives.notFound reached
      rw [connect_notFound reached] at isRaised
      cases isRaised
      rcases classifyError_meshConnectionFailure _ with down | transient
      · exact absurd (down.symm.trans offline) ErrorClass.noConfusion
      · exact absurd (transient.symm.trans offline) ErrorClass.noConfusion
    · -- the wrapper has no such class, so it is the clean-up that raises
      intro err failed mismatch
      obtain ⟨raised, isRaised, same⟩ := survives.provisioning err failed mismatch
      rw [connect_failsToProvision failed] at isRaised
      cases cleaned : call.cleanup with
      | ok _ =>
        rw [cleaned] at isRaised
        cases isRaised
        rw [IsMismatch, ← same] at mismatch
        exact absurd mismatch (not_isMismatch_meshConnectionFailure _)
      | error other =>
        rw [cleaned] at isRaised
        cases isRaised
        exact ⟨_, rfl, same⟩
  · rintro ⟨found, cleansUp⟩
    refine ⟨fun err failed mismatch => ?_, fun reached => absurd reached found⟩
    obtain ⟨other, cleaned, same⟩ := cleansUp err failed mismatch
    refine ⟨other, ?_, same⟩
    rw [connect_failsToProvision failed, cleaned]

/-- The device rejects the credentials. -/
def rejectedCall : ConnectCall where
  ready := false
  attempts := [.linked]
  provision := .error ⟨.otherError, "ProvisioningError",
    "Device rejected pairing (0x0E — wrong mesh name or password)"⟩
  cleanup := .ok ()
  start := .ok ()

theorem rejectedCall_not_classSurvives :
    ¬ ∀ (address : String) (call : ConnectCall), ClassSurvives address call := by
  intro survives
  have failed : rejectedCall.FailsToProvision _ := ⟨⟨rfl, [], [], rfl, by simp⟩, rfl⟩
  obtain ⟨raised, isRaised, same⟩ :=
    (survives "DC:23:4D:21:43:A5" rejectedCall).provisioning _ failed (by decide)
  rw [connect_failsToProvision failed] at isRaised
  cases isRaised
  revert same
  decide

end ConnectCall

end TuyaBleMesh
