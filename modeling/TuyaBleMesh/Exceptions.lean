/-!
# Exceptions

The exceptions the modelled code raises or lets through: the package's own
(`exceptions.py`, with their messages) and Python's.
-/

namespace TuyaBleMesh

inductive PyError
  | cryptoError (msg : String)
  | protocolError (msg : String)
  | malformedPacketError (msg : String)
  | sigMeshError (msg : String)
  | sigMeshKeyError (msg : String)
  | secretAccessError (msg : String)
  | meshConnectionError (msg : String)
  | provisioningError (msg : String)
  | invalidResultError (msg : String)
  | correlationConflictError (msg : String)
  | disconnectedError (msg : String)
  | commandQueueFullError (msg : String)
  | commandExpiredError (msg : String)
  | deviceNotFoundError (msg : String)
  | meshTimeoutError (msg : String)
  | authenticationError (msg : String)
  | powerControlError (msg : String)
  | invalidRequestError (msg : String)
  /-- Raised by the Bluetooth library; not an `OSError`. -/
  | bleakError
  /-- Raised by the HTTP library for a request that fails. -/
  | clientError (msg : String)
  | structError
  | valueError
  /-- A `ValueError` that the package itself raises, with its text. -/
  | valueErrorText (msg : String)
  | indexError
  | typeError
  | attributeError
  | overflowError
  | osError
  | timeoutError
  | eofError
  | runtimeError
  /-- What Home Assistant's `Store` raises when its file cannot be read or written. -/
  | storageError
  | cancelledError
  deriving DecidableEq, Repr

/-- Subclasses of Python's `Exception`. `asyncio.CancelledError` is not one: it derives
from `BaseException`. -/
def PyError.isException : PyError → Bool
  | .cancelledError => false
  | _ => true

/-- Subclasses of `TuyaBLEMeshError`. -/
def PyError.isTuyaBleMeshError : PyError → Bool
  | .cryptoError _ => true
  | .protocolError _ => true
  | .malformedPacketError _ => true
  | .sigMeshError _ => true
  | .sigMeshKeyError _ => true
  | .secretAccessError _ => true
  | .meshConnectionError _ => true
  | .provisioningError _ => true
  | .invalidResultError _ => true
  | .correlationConflictError _ => true
  | .disconnectedError _ => true
  | .commandQueueFullError _ => true
  | .commandExpiredError _ => true
  | .deviceNotFoundError _ => true
  | .meshTimeoutError _ => true
  | .authenticationError _ => true
  | .powerControlError _ => true
  | .invalidRequestError _ => true
  | _ => false

/-- `OSError` and its subclass `TimeoutError`. -/
def PyError.isOsError : PyError → Bool
  | .osError => true
  | .timeoutError => true
  | _ => false

/-- `MeshConnectionError` and its subclass `DisconnectedError`. -/
def PyError.isMeshConnectionError : PyError → Bool
  | .meshConnectionError _ => true
  | .disconnectedError _ => true
  | _ => false

def PyError.isDisconnectedError : PyError → Bool
  | .disconnectedError _ => true
  | _ => false

/-- `SIGMeshError` and its subclass `SIGMeshKeyError`. -/
def PyError.isSigMeshError : PyError → Bool
  | .sigMeshError _ => true
  | .sigMeshKeyError _ => true
  | _ => false

def PyError.isSecretAccessError : PyError → Bool
  | .secretAccessError _ => true
  | _ => false

def PyError.isValueError : PyError → Bool
  | .valueError => true
  | .valueErrorText _ => true
  | _ => false

def PyError.isProvisioningError : PyError → Bool
  | .provisioningError _ => true
  | _ => false

/-- What is computed in two parts has come through the first. -/
theorem bind_eq_ok {α β : Type} {first : Except PyError α} {rest : α → Except PyError β}
    {result : β} : first >>= rest = .ok result ↔
      ∃ value, first = .ok value ∧ rest value = .ok result := by
  cases first with
  | error error => exact ⟨nofun, nofun⟩
  | ok value => exact ⟨fun done => ⟨value, rfl, done⟩, fun ⟨_, rfl, done⟩ => done⟩

/-- The errors of a computation are all of one kind. -/
def OnlyRaises (kind : PyError → Bool) {α : Type} (result : Except PyError α) : Prop :=
  ∀ error, result = .error error → kind error = true

namespace OnlyRaises

variable {kind : PyError → Bool} {α β : Type}

theorem ok (value : α) : OnlyRaises kind (.ok value : Except PyError α) := by rintro _ ⟨⟩

theorem error {error : PyError} (is : kind error = true) :
    OnlyRaises kind (.error error : Except PyError α) := by
  rintro _ ⟨⟩
  exact is

theorem bind {first : Except PyError α} {rest : α → Except PyError β}
    (one : OnlyRaises kind first) (two : ∀ value, first = .ok value → OnlyRaises kind (rest value)) :
    OnlyRaises kind (first >>= rest) := by
  intro error failed
  cases first with
  | error error' =>
    cases failed
    exact one error rfl
  | ok value => exact two value rfl error failed

theorem mapM {f : α → Except PyError β} {xs : List α}
    (each : ∀ x ∈ xs, OnlyRaises kind (f x)) : OnlyRaises kind (xs.mapM f) := by
  induction xs with
  | nil => exact .ok _
  | cons x xs ih =>
    rw [List.mapM_cons]
    apply bind (each x List.mem_cons_self)
    intro y _
    apply bind (ih fun x' member => each x' (List.mem_cons_of_mem x member))
    intro ys _
    exact .ok _

theorem ite {condition : Prop} [Decidable condition] {yes no : Except PyError α}
    (one : condition → OnlyRaises kind yes) (two : ¬condition → OnlyRaises kind no) :
    OnlyRaises kind (if condition then yes else no) := by
  split
  · next holds => exact one holds
  · next fails => exact two fails

end OnlyRaises

end TuyaBleMesh
