import TuyaBleMesh.Mesh.SegmentRoundTrip

/-!
# The receive path of a device

`SIGMeshDeviceSegmentsMixin`: from the bytes of a proxy notification to the
response futures and callbacks. The lock `_segment_lock` is never held across an
await that suspends, so a notification task runs from its start to its end
without another one in between.
-/

namespace TuyaBleMesh

def _REASSEMBLY_TIMEOUT : Rat := 10

def _OPCODE_ONOFF_STATUS : Nat := 0x8204
def _OPCODE_LEVEL_STATUS : Nat := 0x8208

/-- `(src, dst, seq_zero, aid)`. -/
abbrev BufferKey := Nat × Nat × Nat × Nat

/-- A response future of `send_config_*`, under `(opcode, correlation id)`. -/
structure ResponseFuture where
  done : Bool := false
  deriving DecidableEq, Repr

/-- The attributes of `SIGMeshDevice` that the receive path reads and writes; a callback
is known by a number. -/
structure Device where
  targetAddr : Nat
  levelTargetAddr : Nat
  keys : Option MeshKeys := none
  segmentBuffers : OrderedDict BufferKey ReassemblyBuffer := .empty
  pendingResponses : OrderedDict (Nat × Nat) ResponseFuture := .empty
  correlationId : Nat := 0
  onoffCallbacks : List Nat := []
  levelCallbacks : List Nat := []
  vendorCallbacks : List Nat := []
  compositionCallbacks : List Nat := []
  composition : Option CompositionData := none
  firmwareVersion : Option String := none

/-- What others can observe of processing a notification. -/
inductive Effect
  /-- `_complete_reassembly` is called for this buffer. -/
  | handedOver (buf : ReassemblyBuffer)
  | resolved (key : Nat × Nat) (params : Bytes)
  | onoffCallback (callback : Nat) (onState : Bool)
  | levelCallback (callback : Nat) (level : Int)
  | vendorCallback (callback : Nat) (opcode : Nat) (params : Bytes)
  | compositionCallback (callback : Nat) (comp : CompositionData)
  deriving DecidableEq

/-- How the callbacks answer a call: `none` when the call returns. -/
abbrev Answers := Effect → Option PyError

/-- The device after a call, what happened during it, and what it raised. -/
structure Outcome where
  device : Device
  effects : List Effect := []
  raised : Option PyError := none

/-! ### Dispatch -/

/-- The loop over a copy of a callback list: an `Exception` is logged and the next callback
called, `CancelledError` ends the loop. -/
def callAll (answers : Answers) : List Effect → List Effect × Option PyError
  | [] => ([], none)
  | call :: calls =>
    match answers call with
    | some error =>
      if error.isException then
        let (made, raised) := callAll answers calls
        (call :: made, raised)
      else ([call], some error)
    | none =>
      let (made, raised) := callAll answers calls
      (call :: made, raised)

def Device.callback (d : Device) (answers : Answers) (calls : List Effect) : Outcome :=
  let (made, raised) := callAll answers calls
  { device := d, effects := made, raised }

/-- `f"{n:04X}"`. -/
def hex4 (n : Nat) : String :=
  let digits := (Nat.toDigits 16 n).map Char.toUpper
  String.ofList (List.replicate (4 - digits.length) '0' ++ digits)

/-- The text that `_handle_composition_data` makes the firmware version. -/
def CompositionData.firmwareVersion (comp : CompositionData) : String :=
  s!"CID:{hex4 comp.cid} PID:{hex4 comp.pid} VID:{hex4 comp.vid}"

/-- `_handle_composition_data`. -/
def Device.handleCompositionData (d : Device) (answers : Answers) (params : Bytes) : Outcome :=
  match parseCompositionData params with
  | .error (.malformedPacketError _) => { device := d }
  | .error error => { device := d, raised := some error }
  | .ok comp =>
    let d' := { d with
      composition := some comp
      firmwareVersion := some comp.firmwareVersion }
    d'.callback answers (d'.compositionCallbacks.map (.compositionCallback · comp))

/-- The first pending response waiting for `opcode`. -/
def Device.matchedKey (d : Device) (opcode : Nat) : Option (Nat × Nat) :=
  d.pendingResponses.keys.find? (·.1 = opcode)

/-- `_dispatch_access_payload_unlocked`; the source address goes to the log only. -/
def Device.dispatchAccessPayloadUnlocked (d : Device) (answers : Answers) (_src opcode : Nat)
    (params : Bytes) : Outcome :=
  match d.matchedKey opcode with
  | some key =>
    -- the key goes even when its future is done, and the status reaches no callback
    { device := { d with pendingResponses := d.pendingResponses.erase key }
      effects := match d.pendingResponses.get? key with
        | some future => if future.done then [] else [.resolved key params]
        | none => [] }
  | none =>
    if opcode = _OPCODE_ONOFF_STATUS ∧ params ≠ [] then
      let onState := decide (params.getD 0 0 ≠ 0)
      d.callback answers (d.onoffCallbacks.map (.onoffCallback · onState))
    else if opcode = _OPCODE_LEVEL_STATUS ∧ params.length ≥ 2 then
      let level := unpackSignedLE (params.getD 0 0) (params.getD 1 0)
      d.callback answers (d.levelCallbacks.map (.levelCallback · level))
    else if opcode = OP_LIGHT_LIGHTNESS_STATUS ∧ params.length ≥ 2 then
      -- the unsigned lightness, shifted to the signed scale of Generic Level
      let lightness := unpackLE (params.getD 0 0) (params.getD 1 0)
      let level := (lightness : Int) - 32768
      d.callback answers (d.levelCallbacks.map (.levelCallback · level))
    else if opcode = OP_CONFIG_COMPOSITION_STATUS then d.handleCompositionData answers params
    else if opcode > 0xFFFF then
      -- only three-byte opcodes are above 0xFFFF
      d.callback answers (d.vendorCallbacks.map (.vendorCallback · opcode params))
    else { device := d }

/-! ### Segments -/

/-- `_complete_reassembly`, for the buffer it pops. -/
def Device.completeReassembly (suite : CipherSuite) (d : Device) (answers : Answers)
    (bufKey : BufferKey) : Outcome :=
  let popped := { d with segmentBuffers := d.segmentBuffers.erase bufKey }
  match d.segmentBuffers.get? bufKey, d.keys with
  | some buf, some keys =>
    match buf.reassemble suite keys with
    | .error error => { device := popped, raised := some error }
    | .ok none => { device := popped }
    | .ok (some accessPayload) =>
      match parseAccessOpcode accessPayload with
      | .error (.malformedPacketError _) => { device := popped }
      | .error error => { device := popped, raised := some error }
      | .ok (opcode, params) => popped.dispatchAccessPayloadUnlocked answers buf.src opcode params
  | _, _ => { device := popped }

/-- `now - buf.created_at > _REASSEMBLY_TIMEOUT`. -/
def ReassemblyBuffer.stale (buf : ReassemblyBuffer) (now : Rat) : Bool :=
  now - buf.createdAt > _REASSEMBLY_TIMEOUT

/-- `_clean_stale_buffers`. -/
def Device.cleanStaleBuffers (d : Device) (now : Rat) : Device :=
  { d with segmentBuffers := d.segmentBuffers.filter fun _ buf => !buf.stale now }

/-- The clock readings of one call: when it creates a buffer, and when it sweeps. -/
structure Clock where
  now : Rat
  sweep : Rat
  deriving DecidableEq

def segmentKey (src dst : Nat) (header : SegmentHeader) : BufferKey :=
  (src, dst, header.seqZero, header.aid)

/-- The buffer that a segment ends up in. -/
def Device.storedBuffer (d : Device) (src dst : Nat) (now : Rat) (header : SegmentHeader) :
    ReassemblyBuffer :=
  .receive (d.segmentBuffers.get? (segmentKey src dst header)) src dst now header

/-- `_handle_segment` once the header is parsed. -/
def Device.collectSegment (suite : CipherSuite) (d : Device) (answers : Answers) (clock : Clock)
    (src dst : Nat) (header : SegmentHeader) : Outcome :=
  let bufKey := segmentKey src dst header
  let buf := d.storedBuffer src dst clock.now header
  let stored := { d with segmentBuffers := d.segmentBuffers.set bufKey buf }
  let outcome : Outcome :=
    if buf.complete then
      let completed := stored.completeReassembly suite answers bufKey
      { completed with effects := .handedOver buf :: completed.effects }
    else { device := stored }
  -- an exception skips the sweep
  match outcome.raised with
  | some _ => outcome
  | none => { outcome with device := outcome.device.cleanStaleBuffers clock.sweep }

/-- `_handle_segment`. -/
def Device.handleSegment (suite : CipherSuite) (d : Device) (answers : Answers) (clock : Clock)
    (src dst : Nat) (transportPdu : Bytes) : Outcome :=
  match parseSegmentHeader transportPdu with
  | .error (.malformedPacketError _) => { device := d }
  | .error error => { device := d, raised := some error }
  | .ok header => d.collectSegment suite answers clock src dst header

/-! ### Notifications -/

/-- `_dispatch_access_payload`. -/
def Device.dispatchAccessPayload (d : Device) (answers : Answers) (src : Nat)
    (accessPayload : Bytes) : Outcome :=
  match parseAccessOpcode accessPayload with
  | .error (.malformedPacketError _) => { device := d }
  | .error error => { device := d, raised := some error }
  | .ok (opcode, params) => d.dispatchAccessPayloadUnlocked answers src opcode params

/-- `_process_notify`. -/
def Device.processNotify (suite : CipherSuite) (d : Device) (answers : Answers) (clock : Clock)
    (data : Bytes) : Outcome :=
  match d.keys with
  | none => { device := d }
  | some keys =>
    match parseProxyPdu data with
    | .error (.malformedPacketError _) => { device := d }
    | .error error => { device := d, raised := some error }
    | .ok proxy =>
      match decryptNetworkPdu suite keys.encKey keys.privKey keys.nid proxy.payload
          keys.ivIndex with
      -- not inside any `try`
      | .error error => { device := d, raised := some error }
      | .ok none => { device := d }
      | .ok (some netPdu) =>
        match decryptAccessPayload suite keys netPdu.src netPdu.dst netPdu.seq
            netPdu.transportPdu with
        | .error error => { device := d, raised := some error }
        | .ok none => { device := d }
        | .ok (some accessMsg) =>
          if accessMsg.seg then
            d.handleSegment suite answers clock netPdu.src netPdu.dst netPdu.transportPdu
          else
            match accessMsg.accessPayload with
            | none => { device := d }
            | some accessPayload => d.dispatchAccessPayload answers netPdu.src accessPayload

end TuyaBleMesh
