import Mathlib.Data.List.DropRight
import TuyaBleMesh.Telink.Packet

/-!
# Decoding Telink command packets

`decode_command_packet` of `protocol.py`, and the two ways around: what a packet that was
encoded decodes to, and what a packet that is accepted was encoded from.
-/

namespace TuyaBleMesh

namespace Telink

def COMMAND_PACKET_SIZE : Nat := 20

def SEQUENCE_SIZE : Nat := 3

def _MAC_SIZE : Nat := 2

/-- `CommandPacket`. -/
structure CommandPacket where
  sequence : Nat
  destId : Nat
  opcode : Nat
  vendorId : Bytes
  params : Bytes
  deriving DecidableEq

/-- `rstrip(b"\x00")`. -/
def rstripZeros (data : Bytes) : Bytes := data.rdropWhile (· = 0)

section Decoding

variable (suite : CipherSuite)

def verifyChecksum (key nonce payload expectedMac : Bytes) : Except PyError Unit := do
  let computed ← makeChecksum suite key nonce payload
  if computed.take _MAC_SIZE ≠ expectedMac.take _MAC_SIZE then
    .error (.authenticationError "Packet MAC verification failed")

/-- The fields of a decrypted payload. -/
def parsePayload (sequence : Nat) (payload : Bytes) : Except PyError CommandPacket := do
  let opcode ← index payload 2
  return {
    sequence
    destId := Bytes.beValue (payload.take 2).reverse
    opcode := opcode.toNat
    vendorId := (payload.drop 3).take 2
    params := rstripZeros (payload.drop 5) }

def decodeCommandPacket (key macBytes data : Bytes) : Except PyError CommandPacket :=
  if data.length ≠ COMMAND_PACKET_SIZE then
    .error (.malformedPacketError
      s!"Command packet must be {COMMAND_PACKET_SIZE} bytes, got {data.length}")
  else do
    let sequence := Bytes.beValue (data.take SEQUENCE_SIZE).reverse
    let expectedMac := (data.drop SEQUENCE_SIZE).take CHECKSUM_SIZE
    let encrypted := data.drop (SEQUENCE_SIZE + CHECKSUM_SIZE)
    let nonce ← buildNonce macBytes sequence
    let payload ← cryptPayload suite key nonce encrypted
    verifyChecksum suite key nonce payload expectedMac
    parsePayload sequence payload

end Decoding

/-! ### Padding -/

theorem rstripZeros_pad (params : Bytes) (n : Nat) :
    rstripZeros (params ++ List.replicate n 0) = rstripZeros params := by
  induction n with
  | zero => simp
  | succ n ih =>
    rw [List.replicate_succ', ← List.append_assoc, rstripZeros,
      List.rdropWhile_concat_pos _ _ _ (by simp)]
    exact ih

/-- What is stripped off is put back by padding to the old length. -/
theorem pad_rstripZeros (data : Bytes) :
    rstripZeros data ++ List.replicate (data.length - (rstripZeros data).length) 0 = data := by
  have parts : rstripZeros data ++ data.rtakeWhile (· = 0) = data :=
    List.rdropWhile_append_rtakeWhile
  have zeros : data.rtakeWhile (· = 0) =
      List.replicate (data.length - (rstripZeros data).length) 0 := by
    apply List.eq_replicate_iff.mpr
    constructor
    · have total := congrArg List.length parts
      rw [List.length_append] at total
      omega
    · intro byte member
      simpa using List.mem_rtakeWhile_imp member
  rw [← zeros, parts]

theorem rstripZeros_eq_self_iff (params : Bytes) :
    rstripZeros params = params ↔ params.getLast? ≠ some 0 := by
  rw [rstripZeros, List.rdropWhile_eq_self_iff]
  rcases List.eq_nil_or_concat params with rfl | ⟨front, last, rfl⟩
  · simp
  · simp

theorem rstripZeros_length (data : Bytes) : (rstripZeros data).length ≤ data.length :=
  (List.rdropWhile_prefix _ data).length_le

/-! ### Payloads -/

section Payloads

variable {destId opcode : Nat} {params vendorId payload : Bytes} {packet : CommandPacket}

theorem encodeCommandPayload_ok (dest : destId ≤ 0xFFFF) (op : opcode ≤ 0xFF)
    (vendor : vendorId.length = 2) (fits : params.length ≤ MAX_PARAM_LEN) :
    encodeCommandPayload destId opcode params vendorId =
      .ok ((Bytes.beBytes 2 destId).reverse ++ [UInt8.ofNat opcode] ++ vendorId ++ params ++
        List.replicate (10 - params.length) 0) := by
  unfold encodeCommandPayload
  rw [if_neg (by omega), if_neg (by omega), if_neg (by omega), if_neg (by omega)]
  have room : PAYLOAD_SIZE - ((Bytes.beBytes 2 destId).reverse ++ [UInt8.ofNat opcode] ++
      vendorId ++ params).length = 10 - params.length := by
    simp [PAYLOAD_SIZE, vendor]
    omega
  simp only [room]

theorem parse_encodePayload (sequence : Nat) (dest : destId ≤ 0xFFFF) (op : opcode ≤ 0xFF)
    (vendor : vendorId.length = 2) (fits : params.length ≤ MAX_PARAM_LEN)
    (encoded : encodeCommandPayload destId opcode params vendorId = .ok payload) :
    parsePayload sequence payload =
      .ok { sequence, destId, opcode, vendorId, params := rstripZeros params } := by
  rw [encodeCommandPayload_ok dest op vendor fits] at encoded
  cases encoded
  obtain ⟨v0, v1, rfl⟩ := List.length_eq_two.mp vendor
  have value : Bytes.beValue (Bytes.beBytes 2 destId) = destId := Bytes.beValue_beBytes (by omega)
  have byte : (UInt8.ofNat opcode).toNat = opcode := by
    rw [UInt8.toNat_ofNat']
    omega
  -- the payload, byte by byte
  have plain : (Bytes.beBytes 2 destId).reverse ++ [UInt8.ofNat opcode] ++ [v0, v1] ++ params ++
      List.replicate (10 - params.length) 0 =
        UInt8.ofNat destId :: UInt8.ofNat (destId / 256) :: UInt8.ofNat opcode :: v0 :: v1 ::
          (params ++ List.replicate (10 - params.length) 0) := by
    simp [Bytes.beBytes]
  have back : [UInt8.ofNat destId, UInt8.ofNat (destId / 256)].reverse = Bytes.beBytes 2 destId := by
    simp [Bytes.beBytes]
  rw [plain]
  simp only [parsePayload, index_cons_succ, index_cons_zero, bind, Except.bind, pure, Except.pure,
    List.take_succ_cons, List.take_zero, List.drop_succ_cons, List.drop_zero, back, value, byte,
    rstripZeros_pad]

theorem encode_parsePayload {sequence : Nat} (size : payload.length = PAYLOAD_SIZE)
    (parsed : parsePayload sequence payload = .ok packet) :
    packet.sequence = sequence ∧
      encodeCommandPayload packet.destId packet.opcode packet.params packet.vendorId =
        .ok payload := by
  have five : 5 ≤ payload.length := by
    rw [size]
    decide
  -- the five bytes of the header and ten of parameters
  rcases payload with _ | ⟨d0, _ | ⟨d1, _ | ⟨op, _ | ⟨v0, _ | ⟨v1, raw⟩⟩⟩⟩⟩
  all_goals simp only [List.length_cons, List.length_nil] at five size
  · omega
  · omega
  · omega
  · omega
  · omega
  have ten : raw.length = 10 := by
    simp only [PAYLOAD_SIZE] at size
    omega
  simp only [parsePayload, index_cons_succ, index_cons_zero, bind, Except.bind, pure, Except.pure,
    List.take_succ_cons, List.take_zero, List.drop_succ_cons, List.drop_zero] at parsed
  cases parsed
  have dest_lt : Bytes.beValue [d0, d1].reverse < 256 ^ 2 := Bytes.beValue_lt [d0, d1].reverse
  have dest_le : Bytes.beValue [d0, d1].reverse ≤ 0xFFFF := by omega
  have dest : Bytes.beBytes 2 (Bytes.beValue [d0, d1].reverse) = [d0, d1].reverse :=
    Bytes.beBytes_beValue [d0, d1].reverse
  have op_lt := op.toNat_lt
  have op_le : op.toNat ≤ 0xFF := by omega
  have fits : (rstripZeros raw).length ≤ MAX_PARAM_LEN := (rstripZeros_length raw).trans_eq ten
  refine ⟨rfl, ?_⟩
  rw [encodeCommandPayload_ok dest_le op_le rfl fits, dest, ← ten, List.append_assoc,
    pad_rstripZeros]
  simp

end Payloads

/-! ### Counter mode is its own inverse -/

section Crypt

variable (suite : CipherSuite) (key : Block) (nonce : Bytes)

theorem telinkAes_length (plaintext : Bytes) :
    (telinkAes suite key plaintext).length = _AES_BLOCK_SIZE :=
  (reverseBlock _).property

theorem cryptBlocks_nil (left counter : Nat) : cryptBlocks suite key nonce left counter [] = [] := by
  induction left generalizing counter with
  | zero => rfl
  | succ left ih => simp [cryptBlocks, ih]

/-- A block of key stream covers a chunk. -/
theorem xor_keystream_length (plaintext payload : Bytes) :
    (List.zipWith (· ^^^ ·) (telinkAes suite key plaintext)
      (payload.take _AES_BLOCK_SIZE)).length = min _AES_BLOCK_SIZE payload.length := by
  simp [telinkAes_length]

theorem cryptBlocks_length (left counter : Nat) (payload : Bytes)
    (covered : payload.length ≤ left * _AES_BLOCK_SIZE) :
    (cryptBlocks suite key nonce left counter payload).length = payload.length := by
  induction left generalizing counter payload with
  | zero =>
    have empty : payload = [] := by simpa using covered
    simp [cryptBlocks, empty]
  | succ left ih =>
    have rest : (payload.drop _AES_BLOCK_SIZE).length ≤ left * _AES_BLOCK_SIZE := by
      rw [List.length_drop]
      simp only [_AES_BLOCK_SIZE] at *
      omega
    rw [cryptBlocks, List.length_append, xor_keystream_length, ih (counter + 1) _ rest,
      List.length_drop]
    omega

/-- What follows a chunk follows a whole one. -/
theorem take_drop_chunk (chunk rest : Bytes) {n : Nat} (fits : chunk.length ≤ n)
    (whole : rest ≠ [] → chunk.length = n) :
    (chunk ++ rest).take n = chunk ∧ (chunk ++ rest).drop n = rest := by
  by_cases none : rest = []
  · rw [none, List.append_nil]
    exact ⟨List.take_of_length_le fits, List.drop_eq_nil_of_le fits⟩
  · exact ⟨List.take_left' (whole none), List.drop_left' (whole none)⟩

theorem zipWith_xor_cancel (stream chunk : Bytes) (covered : chunk.length ≤ stream.length) :
    List.zipWith (· ^^^ ·) stream (List.zipWith (· ^^^ ·) stream chunk) = chunk := by
  have comm (a b : Bytes) : List.zipWith (· ^^^ ·) a b = List.zipWith (· ^^^ ·) b a :=
    List.zipWith_comm_of_comm UInt8.xor_comm
  rw [comm stream chunk, comm stream]
  exact Bytes.xor_cancel chunk stream covered

/-- The same key stream twice. -/
theorem cryptBlocks_cancel (left counter : Nat) (payload : Bytes)
    (covered : payload.length ≤ left * _AES_BLOCK_SIZE) :
    cryptBlocks suite key nonce left counter (cryptBlocks suite key nonce left counter payload) =
      payload := by
  induction left generalizing counter payload with
  | zero =>
    have empty : payload = [] := by simpa using covered
    simp [cryptBlocks, empty]
  | succ left ih =>
    have covered' : (payload.drop _AES_BLOCK_SIZE).length ≤ left * _AES_BLOCK_SIZE := by
      rw [List.length_drop]
      simp only [_AES_BLOCK_SIZE] at *
      omega
    simp only [cryptBlocks]
    generalize rest : cryptBlocks suite key nonce left (counter + 1)
      (payload.drop _AES_BLOCK_SIZE) = encrypted
    have front := xor_keystream_length suite key
      (padToBlock (UInt8.ofNat counter :: nonce)) payload
    have size := telinkAes_length suite key (padToBlock (UInt8.ofNat counter :: nonce))
    generalize telinkAes suite key (padToBlock (UInt8.ofNat counter :: nonce)) = keystream
      at front size ⊢
    have fits : (List.zipWith (· ^^^ ·) keystream (payload.take _AES_BLOCK_SIZE)).length ≤
        _AES_BLOCK_SIZE := by
      rw [front]
      exact Nat.min_le_left _ _
    obtain ⟨first, others⟩ := take_drop_chunk _ encrypted fits (by
      intro more
      -- a second chunk comes behind a whole one only
      by_contra short
      apply more
      rw [← rest, List.drop_eq_nil_of_le (by omega), cryptBlocks_nil])
    rw [first, others, zipWith_xor_cancel keystream _ (by simp [size]), ← rest,
      ih (counter + 1) _ covered', List.take_append_drop]

end Crypt

/-! ### Packets -/

section Packets

variable {suite : CipherSuite} {key nonce payload encrypted : Bytes}

/-- Decryption is encryption. -/
theorem cryptPayload_inverse (crypted : cryptPayload suite key nonce payload = .ok encrypted) :
    encrypted.length = payload.length ∧ cryptPayload suite key nonce encrypted = .ok payload := by
  obtain ⟨block, valid, crypted⟩ := bind_eq_ok.mp crypted
  split at crypted
  · cases crypted
  · next fits =>
    cases crypted
    have covered : payload.length ≤ blocksNeeded payload * _AES_BLOCK_SIZE := by
      simp only [blocksNeeded, _AES_BLOCK_SIZE]
      omega
    have length := cryptBlocks_length suite block nonce _ 0 payload covered
    have blocks : blocksNeeded (cryptBlocks suite block nonce (blocksNeeded payload) 0 payload) =
        blocksNeeded payload := by
      rw [blocksNeeded, length, blocksNeeded]
    refine ⟨length, ?_⟩
    rw [cryptPayload, valid]
    simp only [bind, Except.bind, blocks]
    rw [if_neg fits, cryptBlocks_cancel suite block nonce _ 0 payload covered]

theorem sequenceBytes_ok {sequence : Nat} (fits : sequence < 256 ^ 3) :
    sequenceBytes sequence = .ok (Bytes.beBytes 3 sequence).reverse := if_pos fits

theorem buildNonce_ok {macBytes : Bytes} {sequence : Nat} (mac : macBytes.length = MAC_BYTES_SIZE)
    (fits : sequence < 256 ^ 3) : buildNonce macBytes sequence =
      .ok (macBytes.reverse.take 4 ++ [0x01] ++ (Bytes.beBytes 3 sequence).reverse) := by
  unfold buildNonce
  rw [if_neg (by simp [mac]), if_neg (by omega), sequenceBytes_ok fits]
  rfl

theorem encodePayload_length {destId opcode : Nat} {params vendorId : Bytes}
    (encoded : encodeCommandPayload destId opcode params vendorId = .ok payload) :
    payload.length = PAYLOAD_SIZE := by
  unfold encodeCommandPayload at encoded
  split at encoded
  · cases encoded
  · split at encoded
    · cases encoded
    · split at encoded
      · cases encoded
      · split at encoded
        · cases encoded
        · next vendor _ _ fits =>
          cases encoded
          simp only [MAX_PARAM_LEN, PAYLOAD_SIZE, TELINK_VENDOR_ID, List.length_cons,
            List.length_nil] at fits ⊢
          simp only [List.length_append, List.length_reverse, Bytes.beBytes_length,
            List.length_singleton, List.length_replicate]
          omega

theorem verifyChecksum_ok {expectedMac : Bytes} :
    verifyChecksum suite key nonce payload expectedMac = .ok () ↔
      ∃ checksum, makeChecksum suite key nonce payload = .ok checksum ∧
        checksum.take _MAC_SIZE = expectedMac.take _MAC_SIZE := by
  unfold verifyChecksum
  rw [bind_eq_ok]
  constructor
  · rintro ⟨checksum, made, verified⟩
    refine ⟨checksum, made, ?_⟩
    by_contra differs
    rw [if_pos differs] at verified
    cases verified
  · rintro ⟨checksum, made, same⟩
    exact ⟨checksum, made, if_neg (not_not_intro same)⟩

theorem checkBlocks_length (block : Block) (left : Nat) (check payload : Bytes)
    (length : check.length = _AES_BLOCK_SIZE) :
    (checkBlocks suite block left check payload).length = _AES_BLOCK_SIZE := by
  induction left generalizing check payload with
  | zero => exact length
  | succ left ih => exact ih _ _ (telinkAes_length suite block _)

theorem makeChecksum_length {checksum : Bytes}
    (made : makeChecksum suite key nonce payload = .ok checksum) :
    checksum.length = _AES_BLOCK_SIZE := by
  obtain ⟨block, _, made⟩ := bind_eq_ok.mp made
  obtain ⟨length, _, made⟩ := bind_eq_ok.mp made
  cases made
  exact checkBlocks_length block _ _ payload (telinkAes_length suite block _)

/-- A packet is accepted exactly if it consists of a sequence number, the beginning of the
checksum of a payload, and that payload encrypted. -/
theorem decodeCommandPacket_ok {macBytes data : Bytes} {packet : CommandPacket} :
    decodeCommandPacket suite key macBytes data = .ok packet ↔
      ∃ sequence nonce payload encrypted checksum,
        sequence < 256 ^ 3 ∧ buildNonce macBytes sequence = .ok nonce ∧
        payload.length = PAYLOAD_SIZE ∧ cryptPayload suite key nonce payload = .ok encrypted ∧
        makeChecksum suite key nonce payload = .ok checksum ∧
        data = (Bytes.beBytes 3 sequence).reverse ++ checksum.take CHECKSUM_SIZE ++ encrypted ∧
        parsePayload sequence payload = .ok packet := by
  constructor
  · intro accepted
    unfold decodeCommandPacket at accepted
    split at accepted
    · cases accepted
    · next size =>
      have size : data.length = 20 := not_not.mp size
      obtain ⟨nonce, built, accepted⟩ := bind_eq_ok.mp accepted
      obtain ⟨payload, decrypted, accepted⟩ := bind_eq_ok.mp accepted
      obtain ⟨⟨⟩, verified, parsed⟩ := bind_eq_ok.mp accepted
      obtain ⟨length, encrypted⟩ := cryptPayload_inverse decrypted
      obtain ⟨checksum, made, same⟩ := verifyChecksum_ok.mp verified
      -- the three parts of the packet are put together again
      have three : (data.take SEQUENCE_SIZE).reverse.length = 3 := by
        simp [SEQUENCE_SIZE, size]
      have sequence_lt := Bytes.beValue_lt (data.take SEQUENCE_SIZE).reverse
      have sequence := Bytes.beBytes_beValue (data.take SEQUENCE_SIZE).reverse
      rw [three] at sequence_lt sequence
      refine ⟨_, nonce, payload, _, checksum, sequence_lt, built, ?_, encrypted, made, ?_, parsed⟩
      · rw [length, List.length_drop, size]
        rfl
      · have front : checksum.take CHECKSUM_SIZE = (data.drop 3).take 2 :=
          same.trans List.take_take
        rw [sequence, List.reverse_reverse, front, List.append_assoc]
        have rest : (data.drop 3).take 2 ++ data.drop (SEQUENCE_SIZE + CHECKSUM_SIZE) =
            data.drop 3 := by
          rw [show SEQUENCE_SIZE + CHECKSUM_SIZE = 3 + 2 from rfl, ← List.drop_drop]
          exact List.take_append_drop 2 _
        rw [rest]
        exact (List.take_append_drop 3 data).symm
  · rintro ⟨sequence, nonce, payload, encrypted, checksum, sequence_lt, built, length, crypted, made,
      rfl, parsed⟩
    obtain ⟨same, decrypted⟩ := cryptPayload_inverse crypted
    have mac : (checksum.take CHECKSUM_SIZE).length = 2 := by
      rw [List.length_take, makeChecksum_length made]
      rfl
    have first : (Bytes.beBytes 3 sequence).reverse.length = 3 := by simp
    have size : ((Bytes.beBytes 3 sequence).reverse ++ checksum.take CHECKSUM_SIZE ++
        encrypted).length = COMMAND_PACKET_SIZE := by
      rw [List.length_append, List.length_append, first, mac, same, length]
      rfl
    unfold decodeCommandPacket
    rw [if_neg (not_not_intro size)]
    -- the slices of such a packet are its three parts
    have seqBytes : ((Bytes.beBytes 3 sequence).reverse ++ checksum.take CHECKSUM_SIZE ++
        encrypted).take SEQUENCE_SIZE = (Bytes.beBytes 3 sequence).reverse := by
      rw [List.append_assoc]
      exact List.take_left' first
    have behind : ((Bytes.beBytes 3 sequence).reverse ++ checksum.take CHECKSUM_SIZE ++
        encrypted).drop SEQUENCE_SIZE = checksum.take CHECKSUM_SIZE ++ encrypted := by
      rw [List.append_assoc]
      exact List.drop_left' first
    have last : ((Bytes.beBytes 3 sequence).reverse ++ checksum.take CHECKSUM_SIZE ++
        encrypted).drop (SEQUENCE_SIZE + CHECKSUM_SIZE) = encrypted := by
      apply List.drop_left'
      rw [List.length_append, first, mac]
      rfl
    have verified : verifyChecksum suite key nonce payload (checksum.take CHECKSUM_SIZE) =
        .ok () := verifyChecksum_ok.mpr ⟨checksum, made, by rw [List.take_take]; rfl⟩
    have value : Bytes.beValue (Bytes.beBytes 3 sequence) = sequence := Bytes.beValue_beBytes sequence_lt
    have front : (checksum.take CHECKSUM_SIZE ++ encrypted).take CHECKSUM_SIZE =
        checksum.take CHECKSUM_SIZE := List.take_left' mac
    simp only [seqBytes, behind, last, front, List.reverse_reverse, value, built, decrypted,
      verified, bind, Except.bind]
    exact parsed

/-- A command that was encoded decodes to itself, but for zeros at the end of its parameters. -/
theorem decode_encodeCommandPacket (suite : CipherSuite) {key macBytes : Bytes}
    {sequence destId opcode : Nat} {params vendorId : Bytes}
    (validKey : key.length = _AES_BLOCK_SIZE) (mac : macBytes.length = MAC_BYTES_SIZE)
    (sequence_lt : sequence < 2 ^ 24) (dest : destId ≤ 0xFFFF) (op : opcode ≤ 0xFF)
    (vendor : vendorId.length = 2) (fits : params.length ≤ 10) :
    ∃ packet, encodeCommandPacket suite key macBytes sequence destId opcode params vendorId =
        .ok packet ∧
      decodeCommandPacket suite key macBytes packet =
        .ok { sequence, destId, opcode, vendorId, params := rstripZeros params } ∧
      (rstripZeros params = params ↔ params.getLast? ≠ some 0) := by
  have small : sequence < 256 ^ 3 := by omega
  have encoded := encodeCommandPayload_ok dest op vendor fits
  generalize made : (Bytes.beBytes 2 destId).reverse ++ [UInt8.ofNat opcode] ++ vendorId ++ params ++
    List.replicate (10 - params.length) 0 = payload at encoded
  have length := encodePayload_length encoded
  have parsed := parse_encodePayload sequence dest op vendor fits encoded
  have built := buildNonce_ok mac small
  generalize macBytes.reverse.take 4 ++ [0x01] ++ (Bytes.beBytes 3 sequence).reverse = nonce at built
  -- one block is encrypted, and its length fits into a byte
  have crypted : ∃ encrypted, cryptPayload suite key nonce payload = .ok encrypted := by
    unfold cryptPayload
    rw [validateKey_ok validKey]
    simp only [bind, Except.bind, blocksNeeded, length]
    exact ⟨_, rfl⟩
  have checked : ∃ checksum, makeChecksum suite key nonce payload = .ok checksum := by
    unfold makeChecksum
    rw [validateKey_ok validKey]
    simp only [bind, Except.bind, length, byteOf_ok (show PAYLOAD_SIZE < 256 by decide)]
    exact ⟨_, rfl⟩
  obtain ⟨encrypted, crypted⟩ := crypted
  obtain ⟨checksum, checked⟩ := checked
  refine ⟨(Bytes.beBytes 3 sequence).reverse ++ checksum.take CHECKSUM_SIZE ++ encrypted, ?_, ?_,
    rstripZeros_eq_self_iff params⟩
  · unfold encodeCommandPacket
    simp only [sequenceBytes_ok small, built, encoded, checked, crypted, bind, Except.bind]
  · exact decodeCommandPacket_ok.mpr
      ⟨sequence, nonce, payload, encrypted, checksum, small, built, length, crypted, checked, rfl,
        parsed⟩

/-- The packet for the command that an accepted packet decodes to is that packet. -/
theorem encode_decodeCommandPacket {macBytes data : Bytes} {packet : CommandPacket}
    (accepted : decodeCommandPacket suite key macBytes data = .ok packet) :
    encodeCommandPacket suite key macBytes packet.sequence packet.destId packet.opcode
      packet.params packet.vendorId = .ok data := by
  obtain ⟨sequence, nonce, payload, encrypted, checksum, sequence_lt, built, length, crypted, made,
    rfl, parsed⟩ := decodeCommandPacket_ok.mp accepted
  obtain ⟨same, encoded⟩ := encode_parsePayload length parsed
  unfold encodeCommandPacket
  simp only [same, sequenceBytes_ok sequence_lt, built, encoded, made, crypted, bind, Except.bind]

/-- A packet that is accepted is the only one for its command. -/
theorem decodeCommandPacket_injective {macBytes data : Bytes} {packet : CommandPacket}
    (accepted : decodeCommandPacket suite key macBytes data = .ok packet) :
    encodeCommandPacket suite key macBytes packet.sequence packet.destId packet.opcode
        packet.params packet.vendorId = .ok data ∧
      ∀ data', decodeCommandPacket suite key macBytes data' = .ok packet → data' = data := by
  have encoded := encode_decodeCommandPacket accepted
  refine ⟨encoded, fun data' accepted' => ?_⟩
  have encoded' := encode_decodeCommandPacket accepted'
  rw [encoded] at encoded'
  cases encoded'
  rfl

end Packets

/-! ### Sample packets -/

def sampleMac : Bytes := [0xDC, 0x23, 0x4D, 0x21, 0x43, 0xA5]

def sampleKey : Bytes := List.replicate 16 0xAB

/-- What the packet of a command with these parameters decodes to. -/
def sampleDecoded (params : Bytes) : Except PyError CommandPacket := do
  let packet ← encodeCommandPacket nonceTagSuite sampleKey sampleMac 1 1 0xD0 params TELINK_VENDOR_ID
  decodeCommandPacket nonceTagSuite sampleKey sampleMac packet

theorem powerOn_decodes :
    sampleDecoded [0x01] = .ok ⟨1, 1, 0xD0, TELINK_VENDOR_ID, [0x01]⟩ := by
  have sequence_lt : 1 < 2 ^ 24 := by decide
  have dest : 1 ≤ 0xFFFF := by decide
  have op : 0xD0 ≤ 0xFF := by decide
  have fits : ([0x01] : Bytes).length ≤ 10 := by decide
  have key : sampleKey.length = _AES_BLOCK_SIZE := rfl
  have mac : sampleMac.length = MAC_BYTES_SIZE := rfl
  have vendor : TELINK_VENDOR_ID.length = 2 := rfl
  obtain ⟨packet, encoded, decoded, -⟩ :=
    decode_encodeCommandPacket nonceTagSuite key mac sequence_lt dest op vendor fits
  unfold sampleDecoded
  rw [encoded]
  exact decoded

/-- The zero that switches a light off is taken for padding. -/
theorem powerOff_decodes : sampleDecoded [0x00] = .ok ⟨1, 1, 0xD0, TELINK_VENDOR_ID, []⟩ := by
  decide +kernel

def sampleCommandPacket : Bytes :=
  [0x01, 0x00, 0x00, 0xA4, 0x43, 0x01, 0xA5, 0x93, 0x20, 0x5D, 0x00, 0x01] ++ List.replicate 8 0x00

theorem samplePacket_only : encodeCommandPacket nonceTagSuite sampleKey sampleMac 1 1 0xD0 [0x01]
      TELINK_VENDOR_ID = .ok sampleCommandPacket ∧
    ∀ packet, decodeCommandPacket nonceTagSuite sampleKey sampleMac packet =
      .ok ⟨1, 1, 0xD0, TELINK_VENDOR_ID, [0x01]⟩ → packet = sampleCommandPacket := by
  have accepted : decodeCommandPacket nonceTagSuite sampleKey sampleMac sampleCommandPacket =
      .ok ⟨1, 1, 0xD0, TELINK_VENDOR_ID, [0x01]⟩ := by
    decide +kernel
  exact decodeCommandPacket_injective accepted

end Telink

end TuyaBleMesh
