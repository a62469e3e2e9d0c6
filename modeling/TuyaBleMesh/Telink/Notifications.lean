import TuyaBleMesh.Telink.Decode

/-!
# Status notifications

`decrypt_notification` and `decode_status` of `protocol.py`, and `_handle_notification` of
`device.py`, which the Bluetooth library calls with whatever arrives.
-/

namespace TuyaBleMesh

namespace Telink

def _NOTIFICATION_HEADER_SIZE : Nat := 5

def _NOTIFICATION_CHECKSUM_OFFSET : Nat := 5

def _NOTIFICATION_PAYLOAD_OFFSET : Nat := 7

def _NOTIFICATION_MIN_SIZE : Nat := _NOTIFICATION_PAYLOAD_OFFSET + 1

def STATUS_OFFSET_MESH_ID : Nat := 3

def STATUS_OFFSET_MODE : Nat := 12

def STATUS_OFFSET_WHITE_BRIGHTNESS : Nat := 13

def STATUS_OFFSET_WHITE_TEMP : Nat := 14

def STATUS_OFFSET_COLOR_BRIGHTNESS : Nat := 15

def STATUS_OFFSET_RED : Nat := 16

def STATUS_OFFSET_GREEN : Nat := 17

def STATUS_OFFSET_BLUE : Nat := 18

def _STATUS_MIN_SIZE : Nat := STATUS_OFFSET_BLUE + 1

structure StatusResponse where
  meshId : UInt8
  mode : UInt8
  whiteBrightness : UInt8
  whiteTemp : UInt8
  colorBrightness : UInt8
  red : UInt8
  green : UInt8
  blue : UInt8
  deriving DecidableEq

def buildNotificationNonce (macBytes rawHeader : Bytes) : Except PyError Bytes :=
  if macBytes.length ≠ MAC_BYTES_SIZE then
    .error (.protocolError s!"MAC must be {MAC_BYTES_SIZE} bytes, got {macBytes.length}")
  else if rawHeader.length < _NOTIFICATION_HEADER_SIZE then
    .error (.protocolError (s!"raw_header must be at least {_NOTIFICATION_HEADER_SIZE} bytes, " ++
      s!"got {rawHeader.length}"))
  else .ok (macBytes.reverse.take 3 ++ rawHeader.take _NOTIFICATION_HEADER_SIZE)

def decodeStatus (data : Bytes) : Except PyError StatusResponse :=
  if data.length < _STATUS_MIN_SIZE then
    .error (.malformedPacketError s!"Status data too short: {data.length} < {_STATUS_MIN_SIZE}")
  else do
    let meshId ← index data STATUS_OFFSET_MESH_ID
    let mode ← index data STATUS_OFFSET_MODE
    let whiteBrightness ← index data STATUS_OFFSET_WHITE_BRIGHTNESS
    let whiteTemp ← index data STATUS_OFFSET_WHITE_TEMP
    let colorBrightness ← index data STATUS_OFFSET_COLOR_BRIGHTNESS
    let red ← index data STATUS_OFFSET_RED
    let green ← index data STATUS_OFFSET_GREEN
    let blue ← index data STATUS_OFFSET_BLUE
    return { meshId, mode, whiteBrightness, whiteTemp, colorBrightness, red, green, blue }

/-- What a call of `_handle_notification` does. -/
structure Handled where
  /-- The statuses that callbacks were called with. -/
  fired : List StatusResponse := []
  /-- The exception that leaves the call. -/
  raised : Option PyError := none
  deriving DecidableEq

/-- A callback that was registered for statuses. -/
abbrev StatusCallback := StatusResponse → Except PyError Unit

/-- The loop over the callbacks. -/
def notifyCallbacks (status : StatusResponse) : List StatusCallback → Handled
  | [] => {}
  | callback :: rest =>
    let others := notifyCallbacks status rest
    match callback status with
    | .ok () => { others with fired := status :: others.fired }
    | .error error =>
      -- `CancelledError` is not an `Exception`
      if error.isException then { others with fired := status :: others.fired }
      else { fired := [status], raised := some error }

/-- `except (CryptoError, MalformedPacketError)`. -/
def isRejection : PyError → Bool
  | .cryptoError _ => true
  | .authenticationError _ => true
  | .malformedPacketError _ => true
  | _ => false

section Handling

variable (suite : CipherSuite)

def decryptNotification (key macBytes data : Bytes) : Except PyError Bytes :=
  if data.length < _NOTIFICATION_MIN_SIZE then
    .error (.malformedPacketError
      s!"Notification too short: {data.length} < {_NOTIFICATION_MIN_SIZE}")
  else do
    let nonceHeader := data.take _NOTIFICATION_HEADER_SIZE
    let expectedMac := (data.drop _NOTIFICATION_CHECKSUM_OFFSET).take CHECKSUM_SIZE
    let encrypted := data.drop _NOTIFICATION_PAYLOAD_OFFSET
    let nonce ← buildNotificationNonce macBytes nonceHeader
    let payload ← cryptPayload suite key nonce encrypted
    verifyChecksum suite key nonce payload expectedMac
    return data.take _NOTIFICATION_PAYLOAD_OFFSET ++ payload

/-- The `try` of `_handle_notification`. -/
def decodeNotification (key macBytes data : Bytes) : Except PyError StatusResponse := do
  let decrypted ← decryptNotification suite key macBytes data
  decodeStatus decrypted

def handleNotification (sessionKey : Option Bytes) (macBytes data : Bytes)
    (callbacks : List StatusCallback) : Handled :=
  match sessionKey with
  | none => {}
  | some key =>
    match decodeNotification suite key macBytes data with
    | .ok status => notifyCallbacks status callbacks
    | .error error => if isRejection error then {} else { raised := some error }

/-- A notification is decoded or rejected, no exception leaves its handler, and no callback
fires for one that is rejected. -/
structure Contained (key macBytes data : Bytes) (callbacks : List StatusCallback) : Prop where
  decodes : OnlyRaises isRejection (decodeNotification suite key macBytes data)
  returns : (handleNotification suite (some key) macBytes data callbacks).raised = none
  silent : ∀ error, decodeNotification suite key macBytes data = .error error →
    (handleNotification suite (some key) macBytes data callbacks).fired = []

end Handling

/-! ### What each step raises -/

section Errors

variable (suite : CipherSuite) {key macBytes data payload : Bytes}

theorem index_ok {i : Nat} (inside : i < data.length) : ∃ byte, index data i = .ok byte := by
  unfold index
  rw [List.getElem?_eq_getElem inside]
  exact ⟨_, rfl⟩

theorem decodeStatus_errors (data : Bytes) : OnlyRaises isRejection (decodeStatus data) := by
  refine .ite (fun _ => .error rfl) fun long => ?_
  have inside : ∀ i ≤ STATUS_OFFSET_BLUE, OnlyRaises isRejection (index data i) := by
    intro i low
    have long : _STATUS_MIN_SIZE ≤ data.length := Nat.le_of_not_lt long
    have below : i < data.length := Nat.lt_of_le_of_lt low long
    obtain ⟨byte, found⟩ := index_ok below
    rw [found]
    exact .ok byte
  refine (inside _ (by decide)).bind fun _ _ => ?_
  refine (inside _ (by decide)).bind fun _ _ => ?_
  refine (inside _ (by decide)).bind fun _ _ => ?_
  refine (inside _ (by decide)).bind fun _ _ => ?_
  refine (inside _ (by decide)).bind fun _ _ => ?_
  refine (inside _ (by decide)).bind fun _ _ => ?_
  refine (inside _ (by decide)).bind fun _ _ => ?_
  exact (inside _ (by decide)).bind fun _ _ => .ok _

theorem buildNotificationNonce_ok {rawHeader : Bytes} (mac : macBytes.length = MAC_BYTES_SIZE)
    (header : rawHeader.length = _NOTIFICATION_HEADER_SIZE) :
    ∃ nonce, buildNotificationNonce macBytes rawHeader = .ok nonce := by
  unfold buildNotificationNonce
  rw [if_neg (not_not_intro mac), if_neg (by omega)]
  exact ⟨_, rfl⟩

theorem cryptPayload_errors' (validKey : key.length = _AES_BLOCK_SIZE) (nonce : Bytes) :
    OnlyRaises isRejection (cryptPayload suite key nonce payload) := by
  unfold cryptPayload
  rw [validateKey_ok validKey]
  exact .ite (fun _ => .error rfl) fun _ => .ok _

/-- The counter has one byte. -/
theorem cryptPayload_ok (validKey : key.length = _AES_BLOCK_SIZE) (nonce : Bytes)
    (fits : payload.length ≤ 4096) : ∃ encrypted,
      cryptPayload suite key nonce payload = .ok encrypted := by
  have blocks : ¬blocksNeeded payload > _MAX_CTR_BLOCKS := by
    simp only [blocksNeeded, _AES_BLOCK_SIZE, _MAX_CTR_BLOCKS]
    omega
  unfold cryptPayload
  rw [validateKey_ok validKey]
  simp only [bind, Except.bind, if_neg blocks]
  exact ⟨_, rfl⟩

theorem cryptPayload_error (validKey : key.length = _AES_BLOCK_SIZE) (nonce : Bytes)
    (long : 4096 < payload.length) : ∃ msg,
      cryptPayload suite key nonce payload = .error (.cryptoError msg) := by
  have blocks : blocksNeeded payload > _MAX_CTR_BLOCKS := by
    simp only [blocksNeeded, _AES_BLOCK_SIZE, _MAX_CTR_BLOCKS]
    omega
  unfold cryptPayload
  rw [validateKey_ok validKey]
  simp only [bind, Except.bind, if_pos blocks]
  exact ⟨_, rfl⟩

/-- So has the length in the first block of the checksum. -/
theorem verifyChecksum_errors (validKey : key.length = _AES_BLOCK_SIZE) (nonce expectedMac : Bytes)
    (short : payload.length < 256) :
    OnlyRaises isRejection (verifyChecksum suite key nonce payload expectedMac) := by
  unfold verifyChecksum makeChecksum
  rw [validateKey_ok validKey, byteOf_ok short]
  refine OnlyRaises.bind (.ok _) fun _ _ => ?_
  exact .ite (fun _ => .error rfl) fun _ => .ok _

theorem verifyChecksum_valueError (validKey : key.length = _AES_BLOCK_SIZE)
    (nonce expectedMac : Bytes) (long : 256 ≤ payload.length) :
    verifyChecksum suite key nonce payload expectedMac = .error .valueError := by
  have none : byteOf payload.length = .error .valueError := if_neg (Nat.not_lt_of_le long)
  unfold verifyChecksum makeChecksum
  rw [validateKey_ok validKey, none]
  rfl

section Lengths

variable (validKey : key.length = _AES_BLOCK_SIZE) (mac : macBytes.length = MAC_BYTES_SIZE)
include validKey mac

theorem decodeNotification_errors (size : data.length < 263 ∨ 4103 < data.length) :
    OnlyRaises isRejection (decodeNotification suite key macBytes data) := by
  refine OnlyRaises.bind ?_ fun decrypted _ => decodeStatus_errors decrypted
  refine .ite (fun _ => .error rfl) fun long => ?_
  have header : (data.take _NOTIFICATION_HEADER_SIZE).length = _NOTIFICATION_HEADER_SIZE := by
    simp only [_NOTIFICATION_MIN_SIZE, _NOTIFICATION_PAYLOAD_OFFSET] at long
    simp only [List.length_take, _NOTIFICATION_HEADER_SIZE]
    omega
  obtain ⟨nonce, built⟩ := buildNotificationNonce_ok mac header
  have nonceMade : OnlyRaises isRejection
      (buildNotificationNonce macBytes (data.take _NOTIFICATION_HEADER_SIZE)) := by
    rw [built]
    exact .ok nonce
  refine nonceMade.bind fun nonce _ => ?_
  refine OnlyRaises.bind (cryptPayload_errors' suite validKey nonce) fun payload decrypted => ?_
  have length := (cryptPayload_inverse decrypted).1
  have short : payload.length < 256 := by
    rcases size with short | long
    · rw [length, List.length_drop]
      simp only [_NOTIFICATION_PAYLOAD_OFFSET]
      omega
    · -- too long for the counter, so that nothing was decrypted
      have beyond : 4096 < (data.drop _NOTIFICATION_PAYLOAD_OFFSET).length := by
        simp only [List.length_drop, _NOTIFICATION_PAYLOAD_OFFSET]
        omega
      obtain ⟨msg, failed⟩ := cryptPayload_error suite validKey nonce beyond
      rw [failed] at decrypted
      cases decrypted
  exact (verifyChecksum_errors suite validKey nonce _ short).bind fun _ _ => .ok _

theorem decodeNotification_valueError (long : 263 ≤ data.length) (short : data.length ≤ 4103) :
    decodeNotification suite key macBytes data = .error .valueError := by
  have header : (data.take _NOTIFICATION_HEADER_SIZE).length = _NOTIFICATION_HEADER_SIZE := by
    simp only [List.length_take, _NOTIFICATION_HEADER_SIZE]
    omega
  obtain ⟨nonce, built⟩ := buildNotificationNonce_ok mac header
  have behind : (data.drop _NOTIFICATION_PAYLOAD_OFFSET).length = data.length - 7 :=
    List.length_drop
  have fits : (data.drop _NOTIFICATION_PAYLOAD_OFFSET).length ≤ 4096 := by omega
  obtain ⟨payload, decrypted⟩ := cryptPayload_ok suite validKey nonce fits
  have length := (cryptPayload_inverse decrypted).1
  have enough : ¬data.length < _NOTIFICATION_MIN_SIZE := by
    simp only [_NOTIFICATION_MIN_SIZE, _NOTIFICATION_PAYLOAD_OFFSET]
    omega
  unfold decodeNotification decryptNotification
  rw [if_neg enough]
  simp only [built, decrypted, bind, Except.bind]
  rw [verifyChecksum_valueError suite validKey nonce _ (by omega)]

end Lengths

end Errors

/-! ### What leaves the handler -/

section Contained

variable {suite : CipherSuite} {key macBytes data : Bytes} {callbacks : List StatusCallback}

/-- Whatever else a callback raises is logged. -/
theorem notifyCallbacks_raised (status : StatusResponse)
    (plain : ∀ callback ∈ callbacks, ∀ status, callback status ≠ .error .cancelledError) :
    (notifyCallbacks status callbacks).raised = none := by
  induction callbacks with
  | nil => rfl
  | cons callback callbacks ih =>
    have rest := ih fun other member => plain other (List.mem_cons_of_mem _ member)
    have here := plain callback List.mem_cons_self status
    unfold notifyCallbacks
    cases called : callback status with
    | ok done => exact rest
    | error error =>
      cases error with
      | cancelledError => exact absurd called here
      | _ => exact rest

/-- A notification of at most 262 bytes, or of more than the counter allows, is contained, and no
other one is. -/
theorem contained_iff (suite : CipherSuite) {key macBytes : Bytes} (data : Bytes)
    {callbacks : List StatusCallback} (validKey : key.length = _AES_BLOCK_SIZE)
    (mac : macBytes.length = MAC_BYTES_SIZE)
    (plain : ∀ callback ∈ callbacks, ∀ status, callback status ≠ .error .cancelledError) :
    Contained suite key macBytes data callbacks ↔ data.length < 263 ∨ 4103 < data.length := by
  constructor
  · intro contained
    by_contra between
    rw [not_or, Nat.not_lt, Nat.not_lt] at between
    have failed := decodeNotification_valueError suite validKey mac between.1 between.2
    have kind := contained.decodes .valueError failed
    cases kind
  · intro size
    have decodes := decodeNotification_errors suite validKey mac size
    refine ⟨decodes, ?_, ?_⟩
    · simp only [handleNotification]
      cases result : decodeNotification suite key macBytes data with
      | ok status => exact notifyCallbacks_raised status plain
      | error error =>
        simp only [decodes error result, if_true]
    · intro error result
      simp only [handleNotification, result, decodes error result, if_true]

end Contained

/-! ### Sample notifications -/

/-- The status callback of a test. -/
def keepStatus : StatusCallback := fun _ => .ok ()

theorem shortNotification_contained :
    Contained nonceTagSuite sampleKey sampleMac (List.replicate 20 0x00) [keepStatus] := by
  have key : sampleKey.length = _AES_BLOCK_SIZE := rfl
  have mac : sampleMac.length = MAC_BYTES_SIZE := rfl
  have plain : ∀ callback ∈ [keepStatus], ∀ status, callback status ≠ .error .cancelledError := by
    intro callback member status
    rw [List.mem_singleton.mp member]
    exact nofun
  exact (contained_iff nonceTagSuite _ key mac plain).mpr (.inl (by decide))

/-- The length of its payload does not fit into a byte. -/
theorem longNotification_raises :
    handleNotification nonceTagSuite (some sampleKey) sampleMac (List.replicate 263 0x00)
        [keepStatus] = { raised := some .valueError } ∧
      ¬Contained nonceTagSuite sampleKey sampleMac (List.replicate 263 0x00) [keepStatus] := by
  have raised : handleNotification nonceTagSuite (some sampleKey) sampleMac
      (List.replicate 263 0x00) [keepStatus] = { raised := some .valueError } := by
    decide +kernel
  refine ⟨raised, fun contained => ?_⟩
  have returns := contained.returns
  rw [raised] at returns
  cases returns

end Telink

end TuyaBleMesh
