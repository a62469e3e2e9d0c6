import TuyaBleMesh.Exceptions
import TuyaBleMesh.Lib.Bytes

/-!
# Packet codec

The constants and parsers of `sig_mesh_protocol_codec.py` that the network,
transport and access layers read.
-/

namespace TuyaBleMesh

/-! ### Constants -/

def PROXY_SAR_COMPLETE : Nat := 0x00
def PROXY_TYPE_NETWORK : Nat := 0x00

def MAX_UNSEG_ACCESS_PAYLOAD : Nat := 11
def SEG_DATA_SIZE : Nat := 12

def MESH_NID_MASK : Nat := 0x7F
def MESH_IVI_SHIFT : Nat := 7
def MESH_TTL_MASK : Nat := 0x7F
def MESH_CTL_SHIFT : Nat := 7
def MIC_LEN_ACCESS : Nat := 4
def MIC_LEN_CONTROL : Nat := 8

def MESH_SEG_BIT : Nat := 0x80
def MESH_AKF_SHIFT : Nat := 6
def MESH_AID_MASK : Nat := 0x3F

def MESH_SZMIC_SHIFT : Nat := 23
def MESH_SEQ_ZERO_SHIFT : Nat := 10
def MESH_SEQ_ZERO_MASK : Nat := 0x1FFF
def MESH_SEG_O_SHIFT : Nat := 5
def MESH_SEG_MASK : Nat := 0x1F

def PROXY_SAR_MASK : Nat := 0x03
def PROXY_TYPE_MASK : Nat := 0x3F

def MESH_OPCODE_1BYTE_MASK : Nat := 0x80
def MESH_OPCODE_2BYTE_MASK : Nat := 0xC0
def MESH_OPCODE_2BYTE_VALUE : Nat := 0x80

def OP_CONFIG_COMPOSITION_STATUS : Nat := 0x02
def OP_LIGHT_LIGHTNESS_STATUS : Nat := 0x824E

/-! ### Segment header -/

structure SegmentHeader where
  akf : Nat
  aid : Nat
  szmic : Nat
  seqZero : Nat
  segO : Nat
  segN : Nat
  segmentData : Bytes
  deriving DecidableEq, Repr

def parseSegmentHeader (transportPdu : Bytes) : Except PyError SegmentHeader :=
  match transportPdu with
  | hdr :: b1 :: b2 :: b3 :: segmentData =>
    let hdr := hdr.toNat
    if hdr &&& MESH_SEG_BIT = 0 then
      .error (.malformedPacketError "Not a segmented PDU (SEG bit not set)")
    else
      let info := b1.toNat <<< 16 ||| b2.toNat <<< 8 ||| b3.toNat
      .ok {
        akf := (hdr >>> MESH_AKF_SHIFT) &&& 1
        aid := hdr &&& MESH_AID_MASK
        szmic := (info >>> MESH_SZMIC_SHIFT) &&& 1
        seqZero := (info >>> MESH_SEQ_ZERO_SHIFT) &&& MESH_SEQ_ZERO_MASK
        segO := (info >>> MESH_SEG_O_SHIFT) &&& MESH_SEG_MASK
        segN := info &&& MESH_SEG_MASK
        segmentData }
  | short =>
    .error (.malformedPacketError s!"Segmented transport PDU too short: {short.length} bytes")

/-! ### Proxy PDU -/

structure ProxyPDU where
  sar : Nat
  pduType : Nat
  payload : Bytes
  deriving DecidableEq, Repr

def makeProxyPdu (networkPdu : Bytes) : Bytes :=
  [UInt8.ofNat (PROXY_SAR_COMPLETE <<< 6 ||| PROXY_TYPE_NETWORK)] ++ networkPdu

def parseProxyPdu (data : Bytes) : Except PyError ProxyPDU :=
  match data with
  | [] => .error (.malformedPacketError "Empty proxy PDU")
  | first :: payload =>
    .ok {
      sar := (first.toNat >>> 6) &&& PROXY_SAR_MASK
      pduType := first.toNat &&& PROXY_TYPE_MASK
      payload }

/-! ### Access opcode -/

/-- One-byte opcodes have the top bit clear, two-byte ones the top bits 10, and the
vendor opcodes 11. -/
def parseAccessOpcode (data : Bytes) : Except PyError (Nat × Bytes) :=
  match data with
  | [] => .error (.malformedPacketError "Empty access payload")
  | b0 :: rest =>
    if b0.toNat &&& MESH_OPCODE_1BYTE_MASK = 0 then .ok (b0.toNat, rest)
    else if b0.toNat &&& MESH_OPCODE_2BYTE_MASK = MESH_OPCODE_2BYTE_VALUE then
      match rest with
      | b1 :: params => .ok (b0.toNat <<< 8 ||| b1.toNat, params)
      | [] => .error (.malformedPacketError "2-byte opcode truncated")
    else
      match rest with
      | b1 :: b2 :: params =>
        .ok (b0.toNat <<< 16 ||| b1.toNat <<< 8 ||| b2.toNat, params)
      | _ => .error (.malformedPacketError "3-byte vendor opcode truncated")

/-! ### Composition data -/

structure CompositionData where
  cid : Nat
  pid : Nat
  vid : Nat
  crpl : Nat
  features : Nat
  rawElements : Bytes
  deriving DecidableEq, Repr

/-- `struct.unpack_from("<H", ..)`. -/
def unpackLE (low high : UInt8) : Nat := low.toNat + high.toNat * 256

/-- `struct.unpack_from("<h", ..)`. -/
def unpackSignedLE (low high : UInt8) : Int :=
  let unsigned := unpackLE low high
  if unsigned < 0x8000 then unsigned else (unsigned : Int) - 0x10000

def parseCompositionData (params : Bytes) : Except PyError CompositionData :=
  match params with
  | _page :: c0 :: c1 :: p0 :: p1 :: v0 :: v1 :: r0 :: r1 :: f0 :: f1 :: rawElements =>
    .ok {
      cid := unpackLE c0 c1
      pid := unpackLE p0 p1
      vid := unpackLE v0 v1
      crpl := unpackLE r0 r1
      features := unpackLE f0 f1
      rawElements }
  | short =>
    .error (.malformedPacketError
      s!"Composition Data too short: {short.length} bytes (need >= 11)")

/-! ### What the parsers accept -/

theorem parseProxyPdu_makeProxyPdu (networkPdu : Bytes) :
    parseProxyPdu (makeProxyPdu networkPdu) =
      .ok ⟨PROXY_SAR_COMPLETE, PROXY_TYPE_NETWORK, networkPdu⟩ := rfl

theorem parseSegmentHeader_error {transportPdu : Bytes} {error : PyError}
    (raised : parseSegmentHeader transportPdu = .error error) :
    ∃ msg, error = .malformedPacketError msg := by
  simp only [parseSegmentHeader] at raised
  split at raised
  · split at raised
    · cases raised
      exact ⟨_, rfl⟩
    · cases raised
  · cases raised
    exact ⟨_, rfl⟩

/-- The fields of a segment header as remainders. -/
theorem parseSegmentHeader_fields (hdr b1 b2 b3 : UInt8) (segmentData : Bytes)
    (segmented : hdr.toNat &&& MESH_SEG_BIT ≠ 0) :
    parseSegmentHeader (hdr :: b1 :: b2 :: b3 :: segmentData) =
      let info := Bytes.beValue [b1, b2, b3]
      .ok {
        akf := hdr.toNat / 2 ^ 6 % 2
        aid := hdr.toNat % 2 ^ 6
        szmic := info / 2 ^ 23 % 2
        seqZero := info / 2 ^ 10 % 2 ^ 13
        segO := info / 2 ^ 5 % 2 ^ 5
        segN := info % 2 ^ 5
        segmentData } := by
  have akf : (hdr.toNat >>> MESH_AKF_SHIFT) &&& 1 = hdr.toNat / 2 ^ 6 % 2 :=
    Bytes.shiftRight_and hdr.toNat 6 1
  have aid : hdr.toNat &&& MESH_AID_MASK = hdr.toNat % 2 ^ 6 :=
    Nat.and_two_pow_sub_one_eq_mod hdr.toNat 6
  simp only [parseSegmentHeader, segmented, if_false, akf, aid, Bytes.beValue_three]
  generalize Bytes.beValue [b1, b2, b3] = info
  have szmic : (info >>> MESH_SZMIC_SHIFT) &&& 1 = info / 2 ^ 23 % 2 :=
    Bytes.shiftRight_and info 23 1
  have seqZero : (info >>> MESH_SEQ_ZERO_SHIFT) &&& MESH_SEQ_ZERO_MASK = info / 2 ^ 10 % 2 ^ 13 :=
    Bytes.shiftRight_and info 10 13
  have segO : (info >>> MESH_SEG_O_SHIFT) &&& MESH_SEG_MASK = info / 2 ^ 5 % 2 ^ 5 :=
    Bytes.shiftRight_and info 5 5
  have segN : info &&& MESH_SEG_MASK = info % 2 ^ 5 := Nat.and_two_pow_sub_one_eq_mod info 5
  rw [szmic, seqZero, segO, segN]

theorem parseSegmentHeader_ok {transportPdu : Bytes} {header : SegmentHeader}
    (parsed : parseSegmentHeader transportPdu = .ok header) :
    header.akf ≤ 1 ∧ header.aid < 64 ∧ header.szmic ≤ 1 ∧ header.seqZero < 8192 ∧
      header.segO < 32 ∧ header.segN < 32 := by
  simp only [parseSegmentHeader] at parsed
  split at parsed
  · split at parsed
    · cases parsed
    · cases parsed
      refine ⟨Nat.and_le_right, ?_, Nat.and_le_right, ?_, ?_, ?_⟩
      · exact Nat.lt_succ_of_le Nat.and_le_right
      · exact Nat.lt_succ_of_le Nat.and_le_right
      · exact Nat.lt_succ_of_le Nat.and_le_right
      · exact Nat.lt_succ_of_le Nat.and_le_right
  · cases parsed

theorem parseAccessOpcode_error {data : Bytes} {error : PyError}
    (raised : parseAccessOpcode data = .error error) :
    ∃ msg, error = .malformedPacketError msg := by
  unfold parseAccessOpcode at raised
  split at raised
  · cases raised
    exact ⟨_, rfl⟩
  · split at raised
    · cases raised
    · split at raised <;> split at raised <;> cases raised <;> exact ⟨_, rfl⟩

theorem parseCompositionData_error {params : Bytes} {error : PyError}
    (raised : parseCompositionData params = .error error) :
    ∃ msg, error = .malformedPacketError msg := by
  unfold parseCompositionData at raised
  split at raised
  · cases raised
  · cases raised
    exact ⟨_, rfl⟩

end TuyaBleMesh
