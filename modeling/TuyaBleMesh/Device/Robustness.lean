import TuyaBleMesh.Device.Run

/-!
# What an arbitrary notification can do

When `decrypt_network_pdu` raises, for any bytes; that nothing else on the receive
path raises in a reachable state; and that a rejected PDU changes nothing.
-/

namespace TuyaBleMesh

section Network

variable (suite : CipherSuite) (keys : MeshKeys)

/-- The six header bytes of a PDU, de-obfuscated. -/
def deobfuscate (pdu : Bytes) (long : 7 ≤ (pdu.drop 7).length) : Bytes :=
  Bytes.xor ((pdu.drop 1).take 6) (privacyMask suite keys (pdu.drop 7) long)

theorem deobfuscate_length (pdu : Bytes) (long : 7 ≤ (pdu.drop 7).length) :
    (deobfuscate suite keys pdu long).length = 6 := by
  rw [deobfuscate, Bytes.xor_length, privacyMask_length]
  simp only [List.length_drop] at long
  simp only [List.length_take, List.length_drop]
  omega

private theorem list_of_length_six {bs : Bytes} (six : bs.length = 6) :
    ∃ b0 b1 b2 b3 b4 b5, bs = [b0, b1, b2, b3, b4, b5] := by
  match bs, six with
  | [b0, b1, b2, b3, b4, b5], _ => exact ⟨b0, b1, b2, b3, b4, b5, rfl⟩

/-- A control PDU whose 8-byte MIC verifies. -/
def AuthenticControl (pdu : Bytes) : Prop :=
  ∃ long b0 b1 b2 b3 b4 b5 plaintext,
    deobfuscate suite keys pdu long = [b0, b1, b2, b3, b4, b5] ∧
    (b0.toNat >>> MESH_CTL_SHIFT) &&& 1 = 1 ∧
    suite.ccmDecrypt ⟨keys.encKey, keys.encKey_length⟩ MIC_LEN_CONTROL
      (networkNonce b0.toNat (Bytes.beValue [b1, b2, b3]) (Bytes.beValue [b4, b5]) keys.ivIndex)
      (pdu.drop 7) = some plaintext

/-- PDUs for this network on which a slice or an index runs past the end: too short to fill
the privacy block, or a control PDU with less than a destination address inside. -/
def Truncated (pdu : Bytes) : Prop :=
  10 ≤ pdu.length ∧ (pdu.headD 0).toNat &&& MESH_NID_MASK = keys.nid ∧
    (pdu.length < 14 ∨ (pdu.length = 15 ∨ pdu.length = 16) ∧ AuthenticControl suite keys pdu)

/-- PDUs that the length or the NID check turns away. -/
theorem decryptNetworkPdu_foreign {pdu : Bytes}
    (foreign : pdu.length < 10 ∨ (pdu.headD 0).toNat &&& MESH_NID_MASK ≠ keys.nid) :
    decryptNetworkPdu suite keys.encKey keys.privKey keys.nid pdu keys.ivIndex = .ok none := by
  unfold decryptNetworkPdu
  by_cases short : pdu.length < 10
  · rw [if_pos short]
  · rw [if_neg short]
    cases pdu with
    | nil => exact absurd (Nat.zero_lt_succ 9) short
    | cons first rest =>
      have other := foreign.resolve_left short
      simp only [List.headD_cons] at other
      simp only [index_cons_zero, bind, Except.bind, other, ne_eq, not_false_eq_true, if_true, pure,
        Except.pure]

/-- From 10 to 13 bytes the privacy block is too short for AES, and nothing catches what
`aes_ecb` raises. -/
theorem decryptNetworkPdu_short {pdu : Bytes} (enough : 10 ≤ pdu.length) (short : pdu.length < 14)
    (nid : (pdu.headD 0).toNat &&& MESH_NID_MASK = keys.nid) :
    ∃ msg, decryptNetworkPdu suite keys.encKey keys.privKey keys.nid pdu keys.ivIndex =
      .error (.cryptoError msg) := by
  have block : (pecbInput (Bytes.beBytes 4 keys.ivIndex) ((pdu.drop 7).take 7)).length ≠
      _AES_BLOCK_SIZE := by
    simp only [pecbInput, List.length_append, Bytes.beBytes_length, List.length_take,
      List.length_drop, List.length_cons, List.length_nil, _AES_BLOCK_SIZE]
    -- 5 + 4 + (length - 7) bytes, which is less than 16
    omega
  obtain ⟨msg, raised⟩ := aesEcb_short suite keys.privKey_length block
  refine ⟨msg, ?_⟩
  have notShort : ¬ pdu.length < 10 := Nat.not_lt.mpr enough
  unfold decryptNetworkPdu
  rw [if_neg notShort]
  cases pdu with
  | nil => cases enough
  | cons first rest =>
    simp only [List.headD_cons] at nid
    simp only [index_cons_zero, bind, Except.bind, nid, ne_eq, not_true_eq_false, if_false,
      packBE_ok keys.ivIndex_lt, raised]

/-- From 14 bytes on the header is readable. -/
theorem decryptNetworkPdu_long {pdu : Bytes} (long : 7 ≤ (pdu.drop 7).length)
    (nid : (pdu.headD 0).toNat &&& MESH_NID_MASK = keys.nid) {b0 b1 b2 b3 b4 b5 : UInt8}
    (header : deobfuscate suite keys pdu long = [b0, b1, b2, b3, b4, b5]) :
    decryptNetworkPdu suite keys.encKey keys.privKey keys.nid pdu keys.ivIndex =
      openNetworkPdu suite keys b0.toNat (Bytes.beValue [b1, b2, b3]) (Bytes.beValue [b4, b5])
        (pdu.drop 7) := by
  have fourteen : 14 ≤ pdu.length := by
    rw [List.length_drop] at long
    omega
  cases pdu with
  | nil => cases fourteen
  | cons first rest =>
    have six : (rest.take 6).length = 6 := by
      rw [List.length_take]
      rw [List.length_cons] at fourteen
      omega
    have split : first :: rest = first :: (rest.take 6 ++ (first :: rest).drop 7) := by
      rw [List.drop_succ_cons, List.take_append_drop]
    have opened := decryptNetworkPdu_open suite keys first (rest.take 6) ((first :: rest).drop 7) six
      long nid b0 b1 b2 b3 b4 b5 header
    rwa [← split] at opened

/-- A PDU that opens holds its destination address, unless it is a control PDU of at most
nine encrypted bytes. -/
theorem openNetworkPdu_error [CcmTagged suite] {ctlTtl seq src : Nat} {encrypted : Bytes}
    (long : 7 ≤ encrypted.length) {error : PyError}
    (raised : openNetworkPdu suite keys ctlTtl seq src encrypted = .error error) :
    (encrypted.length = 8 ∨ encrypted.length = 9) ∧ (ctlTtl >>> MESH_CTL_SHIFT) &&& 1 = 1 ∧
      ∃ plaintext, suite.ccmDecrypt ⟨keys.encKey, keys.encKey_length⟩ MIC_LEN_CONTROL
        (networkNonce ctlTtl seq src keys.ivIndex) encrypted = some plaintext := by
  have bit : (ctlTtl >>> MESH_CTL_SHIFT) &&& 1 ≤ 1 := Nat.and_le_right
  have parameters := networkNonce_parameters (micLen_valid ((ctlTtl >>> MESH_CTL_SHIFT) &&& 1))
    ctlTtl seq src keys.ivIndex
  simp only [openNetworkPdu] at raised
  generalize (ctlTtl >>> MESH_CTL_SHIFT) &&& 1 = ctl at *
  split at raised
  · cases raised
  · cases raised
  · next plaintext other opened =>
    have tagged := CcmTagged.decrypt_length _ _ _ _ _ parameters opened
    have small : plaintext.length < 2 := by
      rcases plaintext with _ | ⟨d0, _ | ⟨d1, rest⟩⟩
      · decide
      · exact Nat.lt_succ_self 1
      · exact absurd rfl (other d0 d1 rest)
    by_cases control : ctl = 0
    · -- behind the 4-byte MIC of an access PDU there are at least three bytes
      simp only [control, ne_eq, not_true_eq_false, if_false, MIC_LEN_ACCESS] at tagged
      omega
    · have one : ctl = 1 := by omega
      rw [if_pos control] at opened tagged
      simp only [MIC_LEN_CONTROL] at tagged
      exact ⟨by omega, one, plaintext, opened⟩

theorem openNetworkPdu_truncated [CcmTagged suite] {ctlTtl seq src : Nat}
    {encrypted plaintext : Bytes}
    (short : encrypted.length = 8 ∨ encrypted.length = 9)
    (control : (ctlTtl >>> MESH_CTL_SHIFT) &&& 1 = 1)
    (authentic : suite.ccmDecrypt ⟨keys.encKey, keys.encKey_length⟩ MIC_LEN_CONTROL
      (networkNonce ctlTtl seq src keys.ivIndex) encrypted = some plaintext) :
    openNetworkPdu suite keys ctlTtl seq src encrypted = .error .indexError := by
  have tagged : encrypted.length = plaintext.length + 8 :=
    CcmTagged.decrypt_length _ _ _ _ _
      (networkNonce_parameters (.inr rfl) ctlTtl seq src keys.ivIndex) authentic
  simp only [openNetworkPdu, control, ne_eq, one_ne_zero, not_false_eq_true, if_true, authentic]
  rcases plaintext with _ | ⟨d0, _ | ⟨d1, rest⟩⟩
  · rfl
  · rfl
  · -- a destination address would have made the PDU longer
    simp only [List.length_cons] at tagged
    omega

theorem decryptNetworkPdu_raises_iff [CcmTagged suite] (pdu : Bytes) :
    (∃ error, decryptNetworkPdu suite keys.encKey keys.privKey keys.nid pdu keys.ivIndex =
      .error error) ↔ Truncated suite keys pdu := by
  constructor
  · rintro ⟨error, raised⟩
    by_cases foreign : pdu.length < 10 ∨ (pdu.headD 0).toNat &&& MESH_NID_MASK ≠ keys.nid
    · rw [decryptNetworkPdu_foreign suite keys foreign] at raised
      cases raised
    · rw [not_or, not_not, Nat.not_lt] at foreign
      refine ⟨foreign.1, foreign.2, ?_⟩
      by_cases short : pdu.length < 14
      · -- from 10 to 13 bytes the AES block is not filled
        exact .inl short
      · have long : 7 ≤ (pdu.drop 7).length := by
          rw [List.length_drop]
          omega
        obtain ⟨b0, b1, b2, b3, b4, b5, header⟩ :=
          list_of_length_six (deobfuscate_length suite keys pdu long)
        rw [decryptNetworkPdu_long suite keys long foreign.2 header] at raised
        obtain ⟨size, control, plaintext, authentic⟩ := openNetworkPdu_error suite keys long raised
        rw [List.length_drop] at size
        exact .inr ⟨by omega, long, b0, b1, b2, b3, b4, b5, plaintext, header, control, authentic⟩
  · rintro ⟨enough, nid, short | ⟨size, long, b0, b1, b2, b3, b4, b5, plaintext, header, control,
      authentic⟩⟩
    · obtain ⟨msg, raised⟩ := decryptNetworkPdu_short suite keys enough short nid
      exact ⟨_, raised⟩
    · have encrypted : (pdu.drop 7).length = 8 ∨ (pdu.drop 7).length = 9 := by
        rw [List.length_drop]
        omega
      rw [decryptNetworkPdu_long suite keys long nid header]
      exact ⟨_, openNetworkPdu_truncated suite keys encrypted control authentic⟩

/-- Every decoded network PDU has its fields in range. -/
theorem decryptNetworkPdu_inRange {pdu : Bytes} {netPdu : NetworkPDU}
    (decrypted : decryptNetworkPdu suite keys.encKey keys.privKey keys.nid pdu keys.ivIndex =
      .ok (some netPdu)) :
    netPdu.seq < 256 ^ 3 ∧ netPdu.src < 256 ^ 2 ∧ netPdu.dst < 256 ^ 2 := by
  by_cases foreign : pdu.length < 10 ∨ (pdu.headD 0).toNat &&& MESH_NID_MASK ≠ keys.nid
  · rw [decryptNetworkPdu_foreign suite keys foreign] at decrypted
    cases decrypted
  · rw [not_or, not_not, Nat.not_lt] at foreign
    by_cases short : pdu.length < 14
    · obtain ⟨msg, raised⟩ := decryptNetworkPdu_short suite keys foreign.1 short foreign.2
      rw [raised] at decrypted
      cases decrypted
    · have long : 7 ≤ (pdu.drop 7).length := by
        rw [List.length_drop]
        omega
      obtain ⟨b0, b1, b2, b3, b4, b5, header⟩ :=
        list_of_length_six (deobfuscate_length suite keys pdu long)
      rw [decryptNetworkPdu_long suite keys long foreign.2 header] at decrypted
      simp only [openNetworkPdu] at decrypted
      split at decrypted
      · cases decrypted
      · cases decrypted
        exact ⟨Bytes.beValue_lt _, Bytes.beValue_lt _, Bytes.beValue_lt _⟩
      · cases decrypted

/-! ### The upper layers -/

theorem meshAesCcmDecrypt_total (key nonce ctAndMic : Bytes) (micLen : Nat) :
    (∃ plaintext, meshAesCcmDecrypt suite key nonce ctAndMic micLen = .ok plaintext) ∨
      ∃ msg, meshAesCcmDecrypt suite key nonce ctAndMic micLen = .error (.cryptoError msg) := by
  cases decrypted : meshAesCcmDecrypt suite key nonce ctAndMic micLen with
  | ok plaintext => exact .inl ⟨plaintext, rfl⟩
  | error error =>
    obtain ⟨msg, rfl⟩ := meshAesCcmDecrypt_error suite decrypted
    exact .inr ⟨msg, rfl⟩

/-- `decrypt_access_payload` raises nothing on the fields of a decoded network PDU. -/
theorem decryptAccessPayload_total {src dst seq : Nat} (seq_lt : seq < 256 ^ 3)
    (src_lt : src < 256 ^ 2) (dst_lt : dst < 256 ^ 2) (transportPdu : Bytes) :
    ∃ message, decryptAccessPayload suite keys src dst seq transportPdu = .ok message := by
  have seq_lt' : seq < 256 ^ 4 := Nat.lt_trans seq_lt (by decide)
  cases transportPdu with
  | nil => exact ⟨none, rfl⟩
  | cons hdr encryptedUpper =>
    simp only [decryptAccessPayload]
    split
    · exact ⟨_, rfl⟩
    · split
      · exact ⟨none, rfl⟩
      · next key selected =>
        have nonce := makeAppNonce_ok ((hdr.toNat >>> MESH_AKF_SHIFT) &&& 1) (Nat.zero_le 1) seq_lt'
          src_lt dst_lt keys.ivIndex_lt
        simp only [nonce, bind, Except.bind]
        -- the nonce packs, and what AES-CCM raises is caught
        rcases meshAesCcmDecrypt_total suite key _ encryptedUpper MIC_LEN_ACCESS with
          ⟨plaintext, decrypted⟩ | ⟨msg, decrypted⟩
        · rw [decrypted]
          exact ⟨_, rfl⟩
        · rw [decrypted]
          exact ⟨none, rfl⟩

theorem reassembleAndDecryptSegments_total {src dst segN szmic seqZero akf : Nat}
    (szmic_le : szmic ≤ 1) (seqZero_lt : seqZero < 8192) (src_lt : src < 256 ^ 2)
    (dst_lt : dst < 256 ^ 2) (segments : Nat → Option Bytes) :
    ∃ payload, reassembleAndDecryptSegments suite keys src dst segments segN szmic seqZero akf =
      .ok payload := by
  have seq_lt : seqZero < 256 ^ 4 := Nat.lt_trans seqZero_lt (by decide)
  unfold reassembleAndDecryptSegments
  split
  · exact ⟨none, rfl⟩
  · next upperTransport joined =>
    split
    · exact ⟨none, rfl⟩
    · next key selected =>
      have nonce := makeAppNonce_ok akf szmic_le seq_lt src_lt dst_lt keys.ivIndex_lt
      simp only [nonce, bind, Except.bind]
      generalize (if szmic ≠ 0 then MIC_LEN_CONTROL else MIC_LEN_ACCESS) = micLen
      rcases meshAesCcmDecrypt_total suite key _ upperTransport micLen with
        ⟨plaintext, decrypted⟩ | ⟨msg, decrypted⟩
      · rw [decrypted]
        exact ⟨_, rfl⟩
      · rw [decrypted]
        exact ⟨none, rfl⟩

/-- What the layers return when the network layer raises nothing. -/
inductive Decoded : Received → Prop
  | rejected : Decoded .rejected
  | segment (src dst : Nat) (header : SegmentHeader) (src_lt : src < 256 ^ 2)
      (dst_lt : dst < 256 ^ 2) (szmic_le : header.szmic ≤ 1) (seqZero_lt : header.seqZero < 8192) :
    Decoded (.segment src dst header)
  | access (src opcode : Nat) (params : Bytes) : Decoded (.access src opcode params)

theorem receiveAccess_decoded (src : Nat) (accessPayload : Bytes) :
    Decoded (receiveAccess src accessPayload) := by
  unfold receiveAccess
  cases parsed : parseAccessOpcode accessPayload with
  | error error =>
    obtain ⟨msg, rfl⟩ := parseAccessOpcode_error parsed
    exact .rejected
  | ok parsed => exact .access _ _ _

theorem receiveSegment_decoded {src dst : Nat} (src_lt : src < 256 ^ 2) (dst_lt : dst < 256 ^ 2)
    (transportPdu : Bytes) : Decoded (receiveSegment src dst transportPdu) := by
  unfold receiveSegment
  cases parsed : parseSegmentHeader transportPdu with
  | error error =>
    obtain ⟨msg, rfl⟩ := parseSegmentHeader_error parsed
    exact .rejected
  | ok header =>
    obtain ⟨_, _, szmic_le, seqZero_lt, _⟩ := parseSegmentHeader_ok parsed
    exact .segment src dst header src_lt dst_lt szmic_le seqZero_lt

theorem receiveNetwork_decoded {netPdu : NetworkPDU} (seq_lt : netPdu.seq < 256 ^ 3)
    (src_lt : netPdu.src < 256 ^ 2) (dst_lt : netPdu.dst < 256 ^ 2) :
    Decoded (receiveNetwork suite keys netPdu) := by
  obtain ⟨message, decrypted⟩ := decryptAccessPayload_total suite keys seq_lt src_lt dst_lt
    netPdu.transportPdu
  rw [receiveNetwork, decrypted]
  cases message with
  | none => exact .rejected
  | some accessMsg =>
    dsimp only
    split
    · exact receiveSegment_decoded src_lt dst_lt netPdu.transportPdu
    · split
      · exact .rejected
      · exact receiveAccess_decoded _ _

/-- The layers raise exactly what the network layer raises. -/
theorem receive_decoded (data : Bytes) :
    Decoded (receive suite keys data) ∨
      ∃ proxy error, parseProxyPdu data = .ok proxy ∧
        decryptNetworkPdu suite keys.encKey keys.privKey keys.nid proxy.payload keys.ivIndex =
          .error error ∧
        receive suite keys data = .raised error := by
  cases data with
  | nil => exact .inl .rejected
  | cons first payload =>
    simp only [receive, parseProxyPdu]
    cases decrypted : decryptNetworkPdu suite keys.encKey keys.privKey keys.nid payload
        keys.ivIndex with
    | error error => exact .inr ⟨_, error, rfl, decrypted, rfl⟩
    | ok netPdu =>
      cases netPdu with
      | none => exact .inl .rejected
      | some netPdu =>
        obtain ⟨seq_lt, src_lt, dst_lt⟩ := decryptNetworkPdu_inRange suite keys decrypted
        exact .inl (receiveNetwork_decoded suite keys seq_lt src_lt dst_lt)

end Network

/-! ### Reachable devices -/

/-- A buffer lies under the key of its message, and the fields that the nonce of the message
is packed from fit. -/
structure ReassemblyBuffer.FiledUnder (buf : ReassemblyBuffer) (key : BufferKey) : Prop where
  key_eq : key = (buf.src, buf.dst, buf.seqZero, buf.aid)
  src_lt : buf.src < 256 ^ 2
  dst_lt : buf.dst < 256 ^ 2
  szmic_le : buf.szmic ≤ 1
  seqZero_lt : buf.seqZero < 8192

def Device.BuffersFiled (d : Device) : Prop :=
  ∀ key buf, d.segmentBuffers.get? key = some buf → buf.FiledUnder key

section Reachable

variable (suite : CipherSuite) {d : Device}

theorem ReassemblyBuffer.received_decoded {buf : ReassemblyBuffer} {key : BufferKey}
    (filed : buf.FiledUnder key)
    (keys : MeshKeys) : buf.received suite keys = .rejected ∨
      ∃ opcode params, buf.received suite keys = .access buf.src opcode params := by
  obtain ⟨payload, joined⟩ := reassembleAndDecryptSegments_total suite keys filed.szmic_le
    filed.seqZero_lt filed.src_lt filed.dst_lt buf.segments.get?
  unfold ReassemblyBuffer.received
  rw [ReassemblyBuffer.reassemble, joined]
  cases payload with
  | none => exact .inl rfl
  | some accessPayload =>
    cases parsed : parseAccessOpcode accessPayload with
    | error error =>
      obtain ⟨msg, rfl⟩ := parseAccessOpcode_error parsed
      exact .inl (by simp only [receiveAccess, parsed])
    | ok parsed' => exact .inr ⟨parsed'.1, parsed'.2, by simp only [receiveAccess, parsed]⟩

theorem storedBuffer_filed (filed : d.BuffersFiled) {src dst : Nat} {header : SegmentHeader}
    (decoded : Decoded (.segment src dst header)) (now : Rat) :
    (d.storedBuffer src dst now header).FiledUnder (segmentKey src dst header) := by
  unfold Device.storedBuffer ReassemblyBuffer.receive
  cases found : d.segmentBuffers.get? (segmentKey src dst header) with
  | none =>
    cases decoded with
    | segment _ _ _ src_lt dst_lt szmic_le seqZero_lt =>
      exact ⟨rfl, src_lt, dst_lt, szmic_le, seqZero_lt⟩
  | some buf =>
    obtain ⟨key_eq, src_lt, dst_lt, szmic_le, seqZero_lt⟩ := filed _ buf found
    exact ⟨key_eq, src_lt, dst_lt, szmic_le, seqZero_lt⟩

theorem act_buffersFiled (filed : d.BuffersFiled) (answers : Answers) (clock : Clock)
    {result : Received} (decoded : Decoded result) :
    (d.act suite answers clock result).device.BuffersFiled := by
  cases decoded with
  | rejected => exact filed
  | segment src dst header src_lt dst_lt szmic_le seqZero_lt =>
    intro key buf found
    rcases collectSegment_get? suite d answers clock src dst header found with
      ⟨own, stored, _⟩ | ⟨_, before⟩
    · rw [own, stored]
      exact storedBuffer_filed filed (.segment src dst header src_lt dst_lt szmic_le seqZero_lt)
        clock.now
    · exact filed key buf before
  | access src opcode params =>
    obtain ⟨pendingResponses, composition, firmwareVersion, frame⟩ :=
      (dispatched d answers src opcode params).frame
    rw [Device.act, frame]
    exact filed

theorem processNotify_buffersFiled (filed : d.BuffersFiled) (answers : Answers)
    (clock : Clock) (data : Bytes) :
    (d.processNotify suite answers clock data).device.BuffersFiled := by
  cases loaded : d.keys with
  | none =>
    simp only [Device.processNotify, loaded]
    exact filed
  | some keys =>
    rw [processNotify_eq suite d answers clock loaded]
    rcases receive_decoded suite keys data with decoded | ⟨_, _, _, _, raised⟩
    · exact act_buffersFiled suite filed answers clock decoded
    · rw [raised]
      exact filed

/-- The buffers of every reachable device are filed under the keys of their messages. -/
theorem reachable_buffersFiled {targetAddr : Nat} {levelTargetAddr : Option Nat}
    {events : List DeviceEvent}
    (reached : (deviceSystem suite).exec (Device.new targetAddr levelTargetAddr) events = some d) :
    d.BuffersFiled := by
  apply (deviceSystem suite).exec_invariant_of_step Device.BuffersFiled _ _ reached
  · -- only a notification touches the buffers
    rintro d event _ filed ⟨⟩
    cases event with
    | notify answers clock data =>
      exact processNotify_buffersFiled suite filed answers clock data
    | register kind callback => cases kind <;> exact filed
    | unregister kind callback => cases kind <;> exact filed
    | _ => exact filed
  · intro key buf found
    cases found

/-! ### What escapes, and what a failed PDU leaves behind -/

/-- Acting on a decoded result raises nothing of its own. -/
theorem act_raised {keys : MeshKeys} (loaded : d.keys = some keys) (filed : d.BuffersFiled)
    (answers : Answers) (clock : Clock) {result : Received} (decoded : Decoded result) :
    (d.act suite answers clock result).raised = none ∨
      (d.act suite answers clock result).CancelledByCallback answers := by
  cases decoded with
  | rejected => exact .inl rfl
  | access src opcode params => exact (dispatched d answers src opcode params).raised
  | segment src dst header src_lt dst_lt szmic_le seqZero_lt =>
    rw [Device.act]
    by_cases complete : (d.storedBuffer src dst clock.now header).complete = true
    · have stored := storedBuffer_filed filed
        (.segment src dst header src_lt dst_lt szmic_le seqZero_lt) clock.now
      rw [collectSegment_complete suite d answers clock src dst header loaded complete]
      -- the completed message is dispatched like an unsegmented one
      rcases ReassemblyBuffer.received_decoded suite stored keys with
        rejected | ⟨opcode, params, access⟩
      · rw [rejected]
        exact .inl rfl
      · rw [access]
        rcases (dispatched (d.popped clock src dst header) answers _ opcode params).raised with
          quiet | ⟨raised, call, member, cancelled⟩
        · exact .inl quiet
        · exact .inr ⟨raised, call, List.mem_cons_of_mem _ member, cancelled⟩
    · rw [collectSegment_incomplete suite d answers clock src dst header
        (Bool.eq_false_of_not_eq_true complete)]
      exact .inl rfl

/-- The network PDU of the notification reaches the network layer and is truncated. -/
def Device.ReceivesTruncated (d : Device) (data : Bytes) : Prop :=
  ∃ keys proxy, d.keys = some keys ∧ parseProxyPdu data = .ok proxy ∧
    Truncated suite keys proxy.payload

/-- The PDU does not parse, authenticate or decrypt at some layer. -/
def Device.FailsToDecode (d : Device) (data : Bytes) : Prop :=
  ∃ keys, d.keys = some keys ∧
    (receive suite keys data = .rejected ∨ ∃ error, receive suite keys data = .raised error)

/-- The PDU is the segment that completes a message, and that message does not parse,
authenticate or decrypt. -/
def Device.CompletesUndecodable (d : Device) (clock : Clock) (data : Bytes) (src dst : Nat)
    (header : SegmentHeader) : Prop :=
  ∃ keys, d.keys = some keys ∧ receive suite keys data = .segment src dst header ∧
    (d.storedBuffer src dst clock.now header).complete = true ∧
    ∀ sender opcode params,
      (d.storedBuffer src dst clock.now header).received suite keys ≠ .access sender opcode params

/-- What a notification must not do, whatever its bytes. -/
structure Device.Robust (d : Device) (answers : Answers) (clock : Clock) (data : Bytes) : Prop where
  /-- `decrypt_network_pdu` returns a PDU or `None`. -/
  returns : ∀ keys proxy, d.keys = some keys → parseProxyPdu data = .ok proxy →
    ∃ netPdu, decryptNetworkPdu suite keys.encKey keys.privKey keys.nid proxy.payload
      keys.ivIndex = .ok netPdu
  /-- No exception escapes, but the cancellation that a callback raises itself. -/
  contained : (d.processNotify suite answers clock data).raised = none ∨
    (d.processNotify suite answers clock data).CancelledByCallback answers
  unchanged : d.FailsToDecode suite data →
    (d.processNotify suite answers clock data).device = d ∧
      (d.processNotify suite answers clock data).effects = []
  /-- A completed message that fails costs its own buffer, and the expired ones. -/
  dropped : ∀ src dst header, d.CompletesUndecodable suite clock data src dst header →
    (d.processNotify suite answers clock data).device =
        (d.popped clock src dst header).cleanStaleBuffers clock.sweep ∧
      (d.processNotify suite answers clock data).effects =
        [.handedOver (d.storedBuffer src dst clock.now header)]

theorem processNotify_robust [CcmTagged suite] (filed : d.BuffersFiled) {answers : Answers}
    {clock : Clock} {data : Bytes} (whole : ¬ d.ReceivesTruncated suite data) :
    d.Robust suite answers clock data where
  returns keys proxy loaded parsed := by
    cases decrypted : decryptNetworkPdu suite keys.encKey keys.privKey keys.nid proxy.payload
        keys.ivIndex with
    | ok netPdu => exact ⟨netPdu, rfl⟩
    | error error =>
      have truncated := (decryptNetworkPdu_raises_iff suite keys _).mp ⟨error, decrypted⟩
      exact absurd ⟨keys, proxy, loaded, parsed, truncated⟩ whole
  contained := by
    cases loaded : d.keys with
    | none =>
      have quiet : (d.processNotify suite answers clock data).raised = none := by
        simp only [Device.processNotify, loaded]
      exact .inl quiet
    | some keys =>
      rw [processNotify_eq suite d answers clock loaded]
      rcases receive_decoded suite keys data with decoded | ⟨proxy, error, parsed, decrypted, _⟩
      · exact act_raised suite loaded filed answers clock decoded
      · have truncated := (decryptNetworkPdu_raises_iff suite keys _).mp ⟨error, decrypted⟩
        exact absurd ⟨keys, proxy, loaded, parsed, truncated⟩ whole
  unchanged := by
    rintro ⟨keys, loaded, rejected | ⟨error, raised⟩⟩
    · rw [processNotify_eq suite d answers clock loaded, rejected]
      exact ⟨rfl, rfl⟩
    · rw [processNotify_eq suite d answers clock loaded, raised]
      exact ⟨rfl, rfl⟩
  dropped := by
    rintro src dst header ⟨keys, loaded, segment, complete, undecodable⟩
    have decoded : Decoded (.segment src dst header) := by
      rcases receive_decoded suite keys data with decoded | ⟨_, _, _, _, raised⟩
      · rwa [segment] at decoded
      · rw [segment] at raised
        cases raised
    have stored := storedBuffer_filed filed decoded clock.now
    rw [processNotify_eq suite d answers clock loaded, segment, Device.act,
      collectSegment_complete suite d answers clock src dst header loaded complete]
    rcases ReassemblyBuffer.received_decoded suite stored keys with
      rejected | ⟨opcode, params, access⟩
    · rw [rejected]
      exact ⟨rfl, rfl⟩
    · exact absurd access (undecodable _ opcode params)

end Reachable

/-- Any bytes, in any reachable state: `_process_notify` lets nothing escape and a PDU that
fails leaves no trace, exactly unless the network PDU is truncated. -/
theorem notification_robust_iff (suite : CipherSuite) [CcmTagged suite] {targetAddr : Nat}
    {levelTargetAddr : Option Nat} {events : List DeviceEvent} {d : Device}
    (reached : (deviceSystem suite).exec (Device.new targetAddr levelTargetAddr) events = some d)
    (answers : Answers) (clock : Clock) (data : Bytes) :
    d.Robust suite answers clock data ↔ ¬ d.ReceivesTruncated suite data := by
  constructor
  · rintro robust ⟨keys, proxy, loaded, parsed, truncated⟩
    obtain ⟨error, raised⟩ := (decryptNetworkPdu_raises_iff suite keys proxy.payload).mpr truncated
    obtain ⟨netPdu, returned⟩ := robust.returns keys proxy loaded parsed
    rw [raised] at returned
    cases returned
  · exact processNotify_robust suite (reachable_buffersFiled suite reached)

theorem onoffStatus_robust : sampleDevice.Robust nonceTagSuite (fun _ => none) ⟨0, 0⟩
    (onoffStatusFrom 0xB0) := by
  have reached : (deviceSystem nonceTagSuite).exec (Device.new 0xB0 none)
      [.loadKeys sampleKeys] = some sampleDevice := rfl
  apply (notification_robust_iff nonceTagSuite reached (fun _ => none) ⟨0, 0⟩
    (onoffStatusFrom 0xB0)).mpr
  rintro ⟨keys, proxy, loaded, parsed, enough, nid, short | ⟨size, authentic⟩⟩
  · cases parsed
    exact absurd short (by decide)
  · cases parsed
    exact absurd size (by decide)

/-- Ten bytes for this network make `aes_ecb` raise, and an authentic control PDU without
a destination address makes an index run past its end. -/
theorem truncatedPdu_escapes :
    (deviceSystem nonceTagSuite).exec (Device.new 0xB0 none) [.loadKeys sampleKeys] =
        some sampleDevice ∧
      (sampleDevice.processNotify nonceTagSuite (fun _ => none) ⟨0, 0⟩
        (0x00 :: 0x2A :: List.replicate 9 0x00)).raised =
          some (.cryptoError "Plaintext must be 16 bytes, got 12") ∧
      (sampleDevice.processNotify nonceTagSuite (fun _ => none) ⟨0, 0⟩
        [0x00, 0x2A, 0x80, 0x00, 0x00, 0x01, 0x00, 0xB0, 0x00, 0x00, 0x01, 0x00, 0xB0, 0x00, 0x00,
          0x00]).raised = some .indexError :=
  ⟨rfl, by decide, by decide⟩

end TuyaBleMesh
