import TuyaBleMesh.Provisioning.Segmentation

/-!
# The device that is provisioned

The other side of the exchange: the device that the tests of the provisioner simulate in
`tests/unit/test_sig_mesh_provisioner_exchange.py`, which takes the PDUs in the order of
`docs/DOMAIN.md`, section 4. It also checks the confirmation, decrypts the provisioning
data and reports what it does not accept, with a code of `_PROV_ERROR_NAMES`.
-/

namespace TuyaBleMesh

/-- What the device keeps when it has been provisioned. -/
structure MeshNode where
  netKey : Bytes
  netKeyIndex : Nat
  flags : Nat
  ivIndex : Nat
  unicastAddr : Nat
  devKey : Bytes
  deriving DecidableEq, Repr

/-- The PDU that the device waits for, and what it keeps until then. -/
inductive DevicePhase
  | invite
  | start (inviteParams : Bytes)
  | publicKey (inviteParams startParams : Bytes)
  | confirmation (secret confSalt : Bytes)
  | random (secret confSalt conf : Bytes)
  | data (secret confSalt randomProvisioner : Bytes)
  | provisioned (node : MeshNode)
  | failed
  deriving DecidableEq, Repr

structure SimulatedDevice where
  /-- The parameters of its Capabilities. -/
  capabilities : Bytes
  pubKeyBytes : Bytes
  ecdh : Bytes → Except String Bytes
  random : Bytes
  /-- How it cuts what it notifies. -/
  mtu : Nat

/-! ### What it does with a PDU -/

/-- The codes of its errors. -/
def InvalidPDU : UInt8 := 0x01
def InvalidFormat : UInt8 := 0x02
def UnexpectedPDU : UInt8 := 0x03
def ConfirmationFailed : UInt8 := 0x04
def DecryptionFailed : UInt8 := 0x06
def UnexpectedError : UInt8 := 0x07

/-- The fields of the provisioning data. -/
def parseProvisioningData (data devKey : Bytes) : MeshNode where
  netKey := data.take 16
  netKeyIndex := Bytes.beValue ((data.drop 16).take 2)
  flags := Bytes.beValue ((data.drop 18).take 1)
  ivIndex := Bytes.beValue ((data.drop 19).take 4)
  unicastAddr := Bytes.beValue (data.drop 23)
  devKey

namespace SimulatedDevice

def check (condition : Bool) (code : UInt8) : Except UInt8 Unit :=
  if condition then .ok () else .error code

def computed {ε α : Type} (code : UInt8) : Except ε α → Except UInt8 α
  | .ok value => .ok value
  | .error _ => .error code

section Reaction

variable (suite : CipherSuite) (d : SimulatedDevice)

/-- The next phase and the answer, or the code of an error. -/
def react (type : UInt8) (params : Bytes) :
    DevicePhase → Except UInt8 (DevicePhase × Option Bytes)
  | .invite => do
    check (type = _PROV_INVITE) UnexpectedPDU
    return (.start params, some ([_PROV_CAPABILITIES] ++ d.capabilities))
  | .start inviteParams => do
    check (type = _PROV_START) UnexpectedPDU
    return (.publicKey inviteParams params, none)
  | .publicKey inviteParams startParams => do
    check (type = _PROV_PUBLIC_KEY) UnexpectedPDU
    check (params.length = 64) InvalidFormat
    let secret ← computed InvalidFormat (d.ecdh params)
    let confSalt ← computed UnexpectedError
      (suite.macSuite.s1 (inviteParams ++ d.capabilities ++ startParams ++ params ++ d.pubKeyBytes))
    return (.confirmation secret confSalt, some ([_PROV_PUBLIC_KEY] ++ d.pubKeyBytes))
  | .confirmation secret confSalt => do
    check (type = _PROV_CONFIRMATION) UnexpectedPDU
    let confKey ← computed UnexpectedError (suite.macSuite.k1 secret confSalt prck)
    let conf ← computed UnexpectedError (aesCmac suite confKey (d.random ++ _NO_OOB_AUTH))
    return (.random secret confSalt params, some ([_PROV_CONFIRMATION] ++ conf))
  | .random secret confSalt conf => do
    check (type = _PROV_RANDOM) UnexpectedPDU
    let confKey ← computed UnexpectedError (suite.macSuite.k1 secret confSalt prck)
    let expectedConf ← computed UnexpectedError (aesCmac suite confKey (params ++ _NO_OOB_AUTH))
    check (expectedConf = conf) ConfirmationFailed
    return (.data secret confSalt params, some ([_PROV_RANDOM] ++ d.random))
  | .data secret confSalt randomProvisioner => do
    check (type = _PROV_DATA) UnexpectedPDU
    let provSalt ← computed UnexpectedError
      (suite.macSuite.s1 (confSalt ++ randomProvisioner ++ d.random))
    let sessionKey ← computed UnexpectedError (suite.macSuite.k1 secret provSalt prsk)
    let sessionNonce ← computed UnexpectedError (suite.macSuite.k1 secret provSalt prsn)
    let devKey ← computed UnexpectedError (suite.macSuite.k1 secret provSalt prdk)
    let data ← computed DecryptionFailed
      (meshAesCcmDecrypt suite sessionKey (sessionNonce.drop 3) params 8)
    check (data.length = 25) InvalidFormat
    return (.provisioned (parseProvisioningData data devKey), some [_PROV_COMPLETE])
  | phase => return (phase, none)

def answer (phase : DevicePhase) (pdu : Bytes) : DevicePhase × Option Bytes :=
  let reaction :=
    match pdu with
    | [] => Except.error InvalidPDU
    | type :: params => d.react suite type params phase
  match reaction with
  | .ok done => done
  | .error code => (.failed, some [_PROV_FAILED, code])

end Reaction

end SimulatedDevice

/-! ### Segments -/

/-- What a segment makes of the partial buffer, and the PDU that it completes. -/
def assemble (buffer : Bytes) : Bytes → Bytes × Option Bytes
  | [] => (buffer, none)
  | header :: payload =>
    let sar := (header >>> 6) &&& 0x03
    if sar = _SAR_COMPLETE then (buffer, some payload)
    else if sar = _SAR_FIRST then (payload, none)
    else if sar = _SAR_CONTINUATION then (buffer ++ payload, none)
    else ([], some (buffer ++ payload))

/-- The PDUs that segments bring one after the other. -/
def assembled (buffer : Bytes) : List Bytes → List Bytes
  | [] => []
  | segment :: segments =>
    let (buffer, pdu) := assemble buffer segment
    pdu.toList ++ assembled buffer segments

/-- The last segment brings the PDU, and those before it nothing. -/
inductive Yields : Bytes → List Bytes → Bytes → Prop
  | last {buffer buffer' segment pdu : Bytes} (brings : assemble buffer segment = (buffer', some pdu)) :
    Yields buffer [segment] pdu
  | more {buffer buffer' segment pdu : Bytes} {segments : List Bytes}
      (keeps : assemble buffer segment = (buffer', none)) (rest : Yields buffer' segments pdu) :
    Yields buffer (segment :: segments) pdu

/-- What the provisioner does with a notification. -/
theorem Session.processNotify_eq (suite : CipherSuite) (ecdh : Bytes → Except String Bytes)
    (s : Session UInt8) (data : Bytes) :
    s.processNotify (codeSuite suite ecdh) data =
      match assemble s.rxSarBuffer data with
      | (rxSarBuffer, none) => { s with rxSarBuffer }
      | (rxSarBuffer, some pdu) => { s.receive pdu with rxSarBuffer } := by
  cases data with
  | nil => rfl
  | cons header payload =>
    have kind : Session.sarOf (codeSuite suite ecdh) header = (header >>> 6) &&& 0x03 := rfl
    rw [Session.processNotify, assemble, kind]
    have four : (header >>> 6) &&& 0x03 = _SAR_COMPLETE ∨ (header >>> 6) &&& 0x03 = _SAR_FIRST ∨
        (header >>> 6) &&& 0x03 = _SAR_CONTINUATION ∨ (header >>> 6) &&& 0x03 = _SAR_LAST := by
      have small : ((header >>> 6) &&& 0x03).toNat ≤ 3 := by
        rw [UInt8.toNat_and]
        exact Nat.and_le_right
      simp only [_SAR_COMPLETE, _SAR_FIRST, _SAR_CONTINUATION, _SAR_LAST, ← UInt8.toNat_inj]
      change _ = 0 ∨ _ = 1 ∨ _ = 2 ∨ _ = 3
      omega
    rcases four with is | is | is | is
    · simp only [is, if_true]
      rfl
    · simp only [is, show _SAR_FIRST ≠ _SAR_COMPLETE by decide, if_true, if_false]
    · simp only [is, show _SAR_CONTINUATION ≠ _SAR_COMPLETE by decide,
        show _SAR_CONTINUATION ≠ _SAR_FIRST by decide, if_true, if_false]
    · simp only [is, show _SAR_LAST ≠ _SAR_COMPLETE by decide,
        show _SAR_LAST ≠ _SAR_FIRST by decide, show _SAR_LAST ≠ _SAR_CONTINUATION by decide,
        if_true, if_false]

section Segments

variable {buffer pdu : Bytes} {maxPayload count : Nat}

theorem assemble_segment (i : Nat) :
    assemble buffer (provisioningSegment pdu maxPayload count i) =
      let chunk := (pdu.drop (i * maxPayload)).take maxPayload
      if i = 0 then (chunk, none)
      else if i = count - 1 then ([], some (buffer ++ chunk))
      else (buffer ++ chunk, none) := by
  have kind : ((sarAt count i <<< 6 ||| 0x03) >>> 6) &&& 0x03 = sarAt count i :=
    segmentSar_provisioningSegment pdu maxPayload count i
  rw [provisioningSegment, assemble, kind]
  dsimp only
  unfold sarAt
  split
  · rw [if_neg (by decide), if_pos rfl]
  · split
    · rw [if_neg (by decide), if_neg (by decide), if_neg (by decide)]
    · rw [if_neg (by decide), if_neg (by decide), if_pos rfl]

/-- The segments from `k` on complete what those before them have put together. -/
theorem segments_yield (k left : Nat) (begun : 0 < k) (count_eq : count = k + left + 1)
    (whole : pdu.length ≤ count * maxPayload) :
    Yields (pdu.take (k * maxPayload))
      ((List.range' k (left + 1)).map (provisioningSegment pdu maxPayload count)) pdu := by
  have upto (k : Nat) : pdu.take (k * maxPayload) ++ (pdu.drop (k * maxPayload)).take maxPayload =
      pdu.take ((k + 1) * maxPayload) := by
    rw [Nat.succ_mul, List.take_add]
  induction left generalizing k with
  | zero =>
    have all : pdu.take ((k + 1) * maxPayload) = pdu := List.take_of_length_le (count_eq ▸ whole)
    have brings : assemble (pdu.take (k * maxPayload)) (provisioningSegment pdu maxPayload count k) =
        ([], some pdu) := by
      rw [assemble_segment, if_neg (Nat.pos_iff_ne_zero.mp begun), if_pos (by omega), upto, all]
    exact .last brings
  | succ left ih =>
    rw [List.range'_succ, List.map_cons]
    have keeps : assemble (pdu.take (k * maxPayload)) (provisioningSegment pdu maxPayload count k) =
        (pdu.take ((k + 1) * maxPayload), none) := by
      rw [assemble_segment, if_neg (Nat.pos_iff_ne_zero.mp begun), if_neg (by omega), upto]
    exact .more keeps (ih (k + 1) (Nat.succ_pos k) (by omega))

/-- A PDU comes out of its segments, whatever the partial buffer holds. -/
theorem wrap_yields (suite : CipherSuite) (ecdh : Bytes → Except String Bytes) {mtu : Nat}
    (room : 4 < mtu) (buffer pdu : Bytes) :
    Yields buffer (wrapProvisioningPdu (codeSuite suite ecdh) pdu mtu) pdu := by
  by_cases short : pdu.length ≤ mtu - 4
  · rw [wrapProvisioningPdu_short suite ecdh short]
    have kind : ((0x03 : UInt8) >>> 6) &&& 0x03 = _SAR_COMPLETE := by decide
    have brings : assemble buffer (0x03 :: pdu) = (buffer, some pdu) := by
      rw [assemble, kind]
      rfl
    exact .last brings
  · have long := Nat.lt_of_not_le short
    obtain ⟨two, -, whole⟩ := count_bounds (Nat.sub_pos_of_lt room) long
    rw [wrapProvisioningPdu_long suite ecdh long]
    generalize (pdu.length + (mtu - 4) - 1) / (mtu - 4) = count at two whole ⊢
    obtain ⟨left, rfl⟩ : ∃ left, count = left + 1 + 1 := ⟨count - 2, by omega⟩
    rw [List.range_eq_range', List.range'_succ, List.map_cons]
    have keeps : assemble buffer (provisioningSegment pdu (mtu - 4) (left + 1 + 1) 0) =
        (pdu.take (1 * (mtu - 4)), none) := by
      rw [assemble_segment, if_pos rfl, Nat.one_mul, Nat.zero_mul, List.drop_zero]
    exact .more keeps (segments_yield 1 left Nat.one_pos (by omega) whole)

theorem Yields.assembled_eq {segments : List Bytes} (yields : Yields buffer segments pdu) :
    assembled buffer segments = [pdu] := by
  induction yields with
  | last brings =>
    rw [assembled, brings]
    rfl
  | more keeps _ ih =>
    rw [assembled, keeps]
    exact ih

/-- The PDU of segments that come last. -/
theorem assembled_append {segments : List Bytes} (yields : ∀ buffer, Yields buffer segments pdu)
    (buffer : Bytes) (before : List Bytes) :
    assembled buffer (before ++ segments) = assembled buffer before ++ [pdu] := by
  induction before generalizing buffer with
  | nil => exact (yields buffer).assembled_eq
  | cons segment before ih =>
    rw [List.cons_append, assembled, assembled]
    dsimp only
    rw [ih, List.append_assoc]

end Segments

/-! ### The state of the device -/

structure DeviceState where
  phase : DevicePhase := .invite
  sarBuffer : Bytes := []
  /-- The PDUs that it has notified. -/
  sent : List Bytes := []

namespace DeviceState

variable (suite : CipherSuite) (d : SimulatedDevice)

def handle (s : DeviceState) (pdu : Bytes) : DeviceState :=
  let (phase, reply) := d.answer suite s.phase pdu
  { s with phase, sent := s.sent ++ reply.toList }

/-- A segment is written to the device. -/
def receive (s : DeviceState) (segment : Bytes) : DeviceState :=
  match assemble s.sarBuffer segment with
  | (sarBuffer, none) => { s with sarBuffer }
  | (sarBuffer, some pdu) => { s with sarBuffer }.handle suite d pdu

end DeviceState

end TuyaBleMesh
