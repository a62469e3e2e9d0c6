import Mathlib.Data.List.Basic

/-!
# Classes of connection errors

`error_classifier.py`: what an exception of `connect` says about the device.
-/

namespace TuyaBleMesh

/-- `ErrorClass`. -/
inductive ErrorClass
  | bridgeDown
  | deviceOffline
  | meshAuth
  | protocol
  | permanent
  | transient
  | unknown
  deriving DecidableEq

def ErrorClass.value : ErrorClass → String
  | .bridgeDown => "bridge_down"
  | .deviceOffline => "device_offline"
  | .meshAuth => "mesh_auth"
  | .protocol => "protocol"
  | .permanent => "permanent"
  | .transient => "transient"
  | .unknown => "unknown"

/-- The exceptions that are told apart, each with its subclasses. -/
inductive FailureKind
  | cryptoError
  | sigMeshKeyError
  | meshTimeoutError
  | protocolError
  | deviceNotFoundError
  | meshConnectionError
  | timeoutError
  | osError
  | bleakError
  /-- `AttributeError`, `TypeError` and `NameError`. -/
  | programmingError
  | otherError
  deriving DecidableEq

/-- An exception that comes out of `connect`. -/
structure ConnectFailure where
  kind : FailureKind
  typeName : String
  message : String
  deriving DecidableEq

def lower (text : String) : List Char := text.toList.map Char.toLower

/-- `any(keyword in text for keyword in keywords)`. -/
def mentions (keywords : List String) (text : List Char) : Bool :=
  keywords.any fun keyword => text.tails.any fun rest => keyword.toList.isPrefixOf rest

/-- The classification by the text. -/
def classifyText (err : ConnectFailure) : ErrorClass :=
  let type := lower err.typeName
  let message := lower err.message
  if err.kind = .timeoutError || mentions ["timeout"] message then .transient
  else if ["auth", "password", "credential"].any
      fun keyword => mentions [keyword] type || mentions [keyword] message then .meshAuth
  else if mentions ["protocol", "version"] message then .protocol
  else if mentions ["connection refused", "unreachable", "no route"] message then .bridgeDown
  else if mentions ["not found"] message then .deviceOffline
  else if mentions ["vendor", "unsupported"] message then .permanent
  else .unknown

/-- `classify_error`. -/
def classifyError (err : ConnectFailure) : ErrorClass :=
  match err.kind with
  | .cryptoError | .sigMeshKeyError => .meshAuth
  | .meshTimeoutError => .transient
  | .protocolError => .protocol
  | .deviceNotFoundError => .deviceOffline
  | .meshConnectionError =>
    if mentions ["refused", "unreachable", "no route"] (lower err.message) then .bridgeDown
    else .transient
  | .timeoutError | .osError | .bleakError | .programmingError | .otherError => classifyText err

/-- The exceptions of the library itself. -/
def FailureKind.isLibrary : FailureKind → Bool
  | .cryptoError | .sigMeshKeyError | .meshTimeoutError | .protocolError | .deviceNotFoundError
  | .meshConnectionError => true
  | .timeoutError | .osError | .bleakError | .programmingError | .otherError => false

/-- Only the text of a foreign exception makes an error permanent. -/
theorem classifyError_library {err : ConnectFailure} (library : err.kind.isLibrary = true) :
    classifyError err ≠ .permanent := by
  obtain ⟨kind, typeName, message⟩ := err
  cases kind with
  | cryptoError => exact ErrorClass.noConfusion
  | sigMeshKeyError => exact ErrorClass.noConfusion
  | meshTimeoutError => exact ErrorClass.noConfusion
  | protocolError => exact ErrorClass.noConfusion
  | deviceNotFoundError => exact ErrorClass.noConfusion
  | meshConnectionError =>
    simp only [classifyError]
    split
    · exact ErrorClass.noConfusion
    · exact ErrorClass.noConfusion
  | _ => cases library

/-- A timeout is never permanent either. -/
theorem classifyError_timeout {err : ConnectFailure} (timeout : err.kind = .timeoutError) :
    classifyError err = .transient := by
  obtain ⟨kind, typeName, message⟩ := err
  dsimp only at timeout
  subst timeout
  simp only [classifyError, classifyText, decide_true, Bool.true_or, if_true]

example : classifyError ⟨.bleakError, "BleakError", "Unsupported feature"⟩ = .permanent := by
  decide

end TuyaBleMesh
