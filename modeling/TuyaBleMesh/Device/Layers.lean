import TuyaBleMesh.Device.Receive
import TuyaBleMesh.Lib.EventSystem

/-!
# What the layers make of a notification

Proxy, network, transport and opcode parsing depend on the keys alone. Their
result is a value, and `_process_notify` acts on it.
-/

namespace TuyaBleMesh

/-- The result of the parsing and decryption layers. -/
inductive Received
  /-- The PDU does not parse, authenticate or decrypt. -/
  | rejected
  | segment (src dst : Nat) (header : SegmentHeader)
  | access (src opcode : Nat) (params : Bytes)
  | raised (error : PyError)
  deriving DecidableEq

/-- An access payload from `src`, down to its opcode. -/
def receiveAccess (src : Nat) (accessPayload : Bytes) : Received :=
  match parseAccessOpcode accessPayload with
  | .error (.malformedPacketError _) => .rejected
  | .error error => .raised error
  | .ok (opcode, params) => .access src opcode params

def receiveSegment (src dst : Nat) (transportPdu : Bytes) : Received :=
  match parseSegmentHeader transportPdu with
  | .error (.malformedPacketError _) => .rejected
  | .error error => .raised error
  | .ok header => .segment src dst header

/-- A network PDU, down to its access payload or segment. -/
def receiveNetwork (suite : CipherSuite) (keys : MeshKeys) (netPdu : NetworkPDU) : Received :=
  match decryptAccessPayload suite keys netPdu.src netPdu.dst netPdu.seq netPdu.transportPdu with
  | .error error => .raised error
  | .ok none => .rejected
  | .ok (some accessMsg) =>
    if accessMsg.seg then receiveSegment netPdu.src netPdu.dst netPdu.transportPdu
    else
      match accessMsg.accessPayload with
      | none => .rejected
      | some accessPayload => receiveAccess netPdu.src accessPayload

def receive (suite : CipherSuite) (keys : MeshKeys) (data : Bytes) : Received :=
  match parseProxyPdu data with
  | .error (.malformedPacketError _) => .rejected
  | .error error => .raised error
  | .ok proxy =>
    match decryptNetworkPdu suite keys.encKey keys.privKey keys.nid proxy.payload keys.ivIndex with
    | .error error => .raised error
    | .ok none => .rejected
    | .ok (some netPdu) => receiveNetwork suite keys netPdu

theorem receiveAccess_ne_segment (sender : Nat) (accessPayload : Bytes) (src dst : Nat)
    (header : SegmentHeader) : receiveAccess sender accessPayload ≠ .segment src dst header := by
  unfold receiveAccess
  intro segment
  split at segment <;> cases segment

/-- A segment comes from a lower transport PDU with its header. -/
theorem receive_segment_parsed {suite : CipherSuite} {keys : MeshKeys} {data : Bytes}
    {src dst : Nat} {header : SegmentHeader}
    (segment : receive suite keys data = .segment src dst header) :
    ∃ transportPdu, parseSegmentHeader transportPdu = .ok header := by
  unfold receive at segment
  split at segment
  · cases segment
  · cases segment
  · split at segment
    · cases segment
    · cases segment
    · next netPdu _ =>
      unfold receiveNetwork at segment
      split at segment
      · cases segment
      · cases segment
      · split at segment
        · unfold receiveSegment at segment
          split at segment
          · cases segment
          · cases segment
          · next header' parsed =>
            cases segment
            exact ⟨netPdu.transportPdu, parsed⟩
        · split at segment
          · cases segment
          · exact absurd segment (receiveAccess_ne_segment _ _ _ _ _)

/-- What a complete buffer decodes to. -/
def ReassemblyBuffer.received (buf : ReassemblyBuffer) (suite : CipherSuite) (keys : MeshKeys) :
    Received :=
  match buf.reassemble suite keys with
  | .error error => .raised error
  | .ok none => .rejected
  | .ok (some accessPayload) => receiveAccess buf.src accessPayload

theorem ReassemblyBuffer.received_ne_segment (buf : ReassemblyBuffer) (suite : CipherSuite)
    (keys : MeshKeys) (src dst : Nat) (header : SegmentHeader) :
    buf.received suite keys ≠ .segment src dst header := by
  unfold ReassemblyBuffer.received
  intro segment
  split at segment
  · cases segment
  · cases segment
  · exact receiveAccess_ne_segment _ _ _ _ _ segment

/-- What `_process_notify` does with each result. -/
def Device.act (suite : CipherSuite) (d : Device) (answers : Answers) (clock : Clock) :
    Received → Outcome
  | .rejected => { device := d }
  | .segment src dst header => d.collectSegment suite answers clock src dst header
  | .access src opcode params => d.dispatchAccessPayloadUnlocked answers src opcode params
  | .raised error => { device := d, raised := some error }

section Notify

variable (suite : CipherSuite) (d : Device) (answers : Answers) (clock : Clock)

private theorem dispatchAccessPayload_eq (src : Nat) (accessPayload : Bytes) :
    d.dispatchAccessPayload answers src accessPayload =
      d.act suite answers clock (receiveAccess src accessPayload) := by
  simp only [Device.dispatchAccessPayload, receiveAccess]
  cases parseAccessOpcode accessPayload with
  | error error => cases error <;> rfl
  | ok parsed => rfl

private theorem handleSegment_eq (src dst : Nat) (transportPdu : Bytes) :
    d.handleSegment suite answers clock src dst transportPdu =
      d.act suite answers clock (receiveSegment src dst transportPdu) := by
  simp only [Device.handleSegment, receiveSegment]
  cases parseSegmentHeader transportPdu with
  | error error => cases error <;> rfl
  | ok header => rfl

/-- `_process_notify` acts on what the layers return, and they look at the keys only. -/
theorem processNotify_eq {keys : MeshKeys} (loaded : d.keys = some keys) (data : Bytes) :
    d.processNotify suite answers clock data =
      d.act suite answers clock (receive suite keys data) := by
  simp only [Device.processNotify, loaded, receive]
  cases parseProxyPdu data with
  | error error => cases error <;> rfl
  | ok proxy =>
    dsimp only
    cases decryptNetworkPdu suite keys.encKey keys.privKey keys.nid proxy.payload keys.ivIndex with
    | error error => rfl
    | ok decrypted =>
      cases decrypted with
      | none => rfl
      | some netPdu =>
        simp only [receiveNetwork]
        cases decryptAccessPayload suite keys netPdu.src netPdu.dst netPdu.seq
            netPdu.transportPdu with
        | error error => rfl
        | ok message =>
          cases message with
          | none => rfl
          | some accessMsg =>
            dsimp only
            by_cases segmented : accessMsg.seg = true
            · simp only [segmented, if_true]
              exact handleSegment_eq suite d answers clock _ _ _
            · simp only [segmented]
              cases accessMsg.accessPayload with
              | none => rfl
              | some accessPayload => exact dispatchAccessPayload_eq suite d answers clock _ _

/-- A reassembled message is acted on like an unsegmented one. -/
theorem completeReassembly_eq {keys : MeshKeys} (loaded : d.keys = some keys) {bufKey : BufferKey}
    {buf : ReassemblyBuffer} (found : d.segmentBuffers.get? bufKey = some buf) :
    d.completeReassembly suite answers bufKey =
      ({ d with segmentBuffers := d.segmentBuffers.erase bufKey } : Device).act suite answers clock
        (buf.received suite keys) := by
  simp only [Device.completeReassembly, found, loaded, ReassemblyBuffer.received]
  cases buf.reassemble suite keys with
  | error error => rfl
  | ok joined =>
    cases joined with
    | none => rfl
    | some accessPayload =>
      simp only [receiveAccess]
      cases parseAccessOpcode accessPayload with
      | error error => cases error <;> rfl
      | ok parsed => rfl

end Notify

end TuyaBleMesh
