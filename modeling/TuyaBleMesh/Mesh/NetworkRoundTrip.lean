import TuyaBleMesh.Mesh.Protocol

/-!
# Decryption inverts encryption: network PDUs and unsegmented messages

What `decrypt_network_pdu` does with any PDU long enough to be de-obfuscated, and
the round trips through the network layer and through the whole stack.
-/

namespace TuyaBleMesh

/-! ### Nonces -/

/-- The 13 bytes of `_make_network_nonce`, for fields that fit. -/
def networkNonce (ctlTtl seq src ivIndex : Nat) : Bytes :=
  [0x00, UInt8.ofNat ctlTtl] ++ Bytes.beBytes 3 seq ++ Bytes.beBytes 2 src ++ [0x00, 0x00] ++
    Bytes.beBytes 4 ivIndex

/-- The 13 bytes of `_make_app_nonce`, for fields that fit. -/
def appNonce (akf szmic seq src dst ivIndex : Nat) : Bytes :=
  [if akf ≠ 0 then 0x01 else 0x02, UInt8.ofNat (szmic <<< 7)] ++ Bytes.beBytes 3 seq ++
    Bytes.beBytes 2 src ++ Bytes.beBytes 2 dst ++ Bytes.beBytes 4 ivIndex

theorem makeNetworkNonce_ok {ctlTtl seq src ivIndex : Nat} (ctlTtl_lt : ctlTtl < 256)
    (seq_lt : seq < 256 ^ 4) (src_lt : src < 256 ^ 2) (ivIndex_lt : ivIndex < 256 ^ 4) :
    makeNetworkNonce ctlTtl seq src ivIndex = .ok (networkNonce ctlTtl seq src ivIndex) := by
  simp only [makeNetworkNonce, byteOf_ok ctlTtl_lt, packBE_ok seq_lt, packBE_ok src_lt,
    packBE_ok ivIndex_lt, bind, Except.bind, pure, Except.pure, networkNonce, Bytes.beBytes_tail]

theorem makeAppNonce_ok (akf : Nat) {szmic seq src dst ivIndex : Nat} (szmic_le : szmic ≤ 1)
    (seq_lt : seq < 256 ^ 4) (src_lt : src < 256 ^ 2) (dst_lt : dst < 256 ^ 2)
    (ivIndex_lt : ivIndex < 256 ^ 4) :
    makeAppNonce akf szmic seq src dst ivIndex = .ok (appNonce akf szmic seq src dst ivIndex) := by
  have fits : szmic <<< 7 < 256 := by
    rw [Nat.shiftLeft_eq]
    omega
  simp only [makeAppNonce, byteOf_ok fits, packBE_ok seq_lt, packBE_ok src_lt, packBE_ok dst_lt,
    packBE_ok ivIndex_lt, bind, Except.bind, pure, Except.pure, appNonce, Bytes.beBytes_tail]

theorem networkNonce_parameters {micLen : Nat} (valid : micLen = 4 ∨ micLen = 8)
    (ctlTtl seq src ivIndex : Nat) : CcmParameters micLen (networkNonce ctlTtl seq src ivIndex) := by
  refine ⟨valid, ?_⟩
  simp [networkNonce]

theorem appNonce_parameters {micLen : Nat} (valid : micLen = 4 ∨ micLen = 8)
    (akf szmic seq src dst ivIndex : Nat) :
    CcmParameters micLen (appNonce akf szmic seq src dst ivIndex) := by
  refine ⟨valid, ?_⟩
  simp [appNonce]

/-- `MIC_LEN_CONTROL if flag else MIC_LEN_ACCESS`. -/
theorem micLen_valid (flag : Nat) :
    (if flag ≠ 0 then MIC_LEN_CONTROL else MIC_LEN_ACCESS) = 4 ∨
      (if flag ≠ 0 then MIC_LEN_CONTROL else MIC_LEN_ACCESS) = 8 := by
  split
  · exact .inr rfl
  · exact .inl rfl

/-! ### Obfuscation -/

theorem pecbInput_length (ivIndex : Nat) {encrypted : Bytes} (long : 7 ≤ encrypted.length) :
    (pecbInput (Bytes.beBytes 4 ivIndex) (encrypted.take 7)).length = _AES_BLOCK_SIZE := by
  simp only [pecbInput, List.length_append, Bytes.beBytes_length, List.length_take,
    Nat.min_eq_left long]
  rfl

/-- The six bytes that hide the header in front of `encrypted`. -/
def privacyMask (suite : CipherSuite) (keys : MeshKeys) (encrypted : Bytes)
    (long : 7 ≤ encrypted.length) : Bytes :=
  (suite.aes ⟨keys.privKey, keys.privKey_length⟩
    ⟨pecbInput (Bytes.beBytes 4 keys.ivIndex) (encrypted.take 7),
      pecbInput_length keys.ivIndex long⟩).val.take 6

theorem privacyMask_length (suite : CipherSuite) (keys : MeshKeys) (encrypted : Bytes)
    (long : 7 ≤ encrypted.length) : (privacyMask suite keys encrypted long).length = 6 := by
  simp only [privacyMask, List.length_take, (suite.aes _ _).property]
  rfl

section Network

variable (suite : CipherSuite) (keys : MeshKeys)

/-- What `decrypt_network_pdu` does once the header is readable. -/
def openNetworkPdu (ctlTtl seq src : Nat) (encrypted : Bytes) :
    Except PyError (Option NetworkPDU) :=
  let ctl := (ctlTtl >>> MESH_CTL_SHIFT) &&& 1
  let micLen := if ctl ≠ 0 then MIC_LEN_CONTROL else MIC_LEN_ACCESS
  match suite.ccmDecrypt ⟨keys.encKey, keys.encKey_length⟩ micLen
      (networkNonce ctlTtl seq src keys.ivIndex) encrypted with
  | none => .ok none
  | some (d0 :: d1 :: transportPdu) =>
    .ok (some { ctl, ttl := ctlTtl &&& MESH_TTL_MASK, seq, src,
                dst := Bytes.beValue [d0, d1], transportPdu })
  | some _ => .error .indexError

theorem decryptNetworkPdu_open (first : UInt8) (obfuscated encrypted : Bytes)
    (six : obfuscated.length = 6) (long : 7 ≤ encrypted.length)
    (nid : first.toNat &&& MESH_NID_MASK = keys.nid) (b0 b1 b2 b3 b4 b5 : UInt8)
    (header : Bytes.xor obfuscated (privacyMask suite keys encrypted long) =
      [b0, b1, b2, b3, b4, b5]) :
    decryptNetworkPdu suite keys.encKey keys.privKey keys.nid (first :: (obfuscated ++ encrypted))
        keys.ivIndex =
      openNetworkPdu suite keys b0.toNat (Bytes.beValue [b1, b2, b3]) (Bytes.beValue [b4, b5])
        encrypted := by
  have data : (first :: (obfuscated ++ encrypted)).drop 7 = encrypted := by
    rw [List.drop_succ_cons, ← six, List.drop_left]
  have mask : ((first :: (obfuscated ++ encrypted)).drop 1).take 6 = obfuscated := by
    rw [List.drop_succ_cons, List.drop_zero, ← six, List.take_left]
  have enough : ¬ (first :: (obfuscated ++ encrypted)).length < 10 := by
    simp only [List.length_cons, List.length_append]
    omega
  have seq_lt : Bytes.beValue [b1, b2, b3] < 256 ^ 4 :=
    Nat.lt_trans (Bytes.beValue_lt [b1, b2, b3]) (show 256 ^ 3 < 256 ^ 4 by decide)
  have nonce := makeNetworkNonce_ok b0.toNat_lt seq_lt (Bytes.beValue_lt [b4, b5]) keys.ivIndex_lt
  have pecb := aesEcb_ok suite keys.privKey_length (pecbInput_length keys.ivIndex long)
  rw [privacyMask] at header
  simp only [decryptNetworkPdu, enough, if_false, index_cons_zero, index_cons_succ, nid, ne_eq,
    not_true_eq_false, data, mask, packBE_ok keys.ivIndex_lt, pecb, header, Bytes.beValue_two,
    Bytes.beValue_three, nonce, bind, Except.bind, pure, Except.pure, openNetworkPdu]
  -- both MIC lengths go the same way from here
  have valid := micLen_valid (b0.toNat >>> MESH_CTL_SHIFT &&& 1)
  simp only [ne_eq] at valid
  generalize (if ¬ b0.toNat >>> MESH_CTL_SHIFT &&& 1 = 0 then MIC_LEN_CONTROL
    else MIC_LEN_ACCESS) = micLen at valid ⊢
  have parameters := networkNonce_parameters valid b0.toNat (Bytes.beValue [b1, b2, b3])
    (Bytes.beValue [b4, b5]) keys.ivIndex
  cases opened : suite.ccmDecrypt ⟨keys.encKey, keys.encKey_length⟩ micLen
      (networkNonce b0.toNat (Bytes.beValue [b1, b2, b3]) (Bytes.beValue [b4, b5]) keys.ivIndex)
      encrypted with
  | none => rw [meshAesCcmDecrypt_none suite keys.encKey_length parameters opened]
  | some plaintext =>
    rw [meshAesCcmDecrypt_some suite keys.encKey_length parameters opened]
    -- only a plaintext of two bytes or more has an address
    match plaintext with
    | [] => rfl
    | [_] => rfl
    | d0 :: d1 :: transportPdu =>
      simp only [index_cons_zero, index_cons_succ]
      rfl

/-! ### Network PDUs -/

/-- The ranges in which `encrypt_network_pdu` keeps every field. -/
structure NetworkPDU.InRange (fields : NetworkPDU) : Prop where
  ctl_le : fields.ctl ≤ 1
  ttl_le : fields.ttl ≤ 127
  seq_lt : fields.seq < 256 ^ 3
  src_lt : fields.src < 256 ^ 2
  dst_lt : fields.dst < 256 ^ 2

/-- `((ctl & 1) << 7) | (ttl & 0x7F)`, for fields in range. -/
theorem ctlTtl_eq {ctl ttl : Nat} (ctl_le : ctl ≤ 1) (ttl_le : ttl ≤ 127) :
    ((ctl &&& 1) <<< MESH_CTL_SHIFT) ||| (ttl &&& MESH_TTL_MASK) = ctl * 128 + ttl := by
  have low : ttl &&& MESH_TTL_MASK = ttl := by
    rw [show MESH_TTL_MASK = 2 ^ 7 - 1 from rfl, Nat.and_two_pow_sub_one_eq_mod]
    omega
  have high : ctl &&& 1 = ctl := by
    rw [Nat.and_one_is_mod]
    omega
  rw [low, high, show MESH_CTL_SHIFT = 7 from rfl]
  exact Bytes.shiftLeft_or ctl ttl 7 (by omega)

theorem ctl_of_ctlTtl {ctl ttl : Nat} (ctl_le : ctl ≤ 1) (ttl_le : ttl ≤ 127) :
    ((ctl * 128 + ttl) >>> MESH_CTL_SHIFT) &&& 1 = ctl := by
  rw [show MESH_CTL_SHIFT = 7 from rfl, Nat.shiftRight_eq_div_pow, Nat.and_one_is_mod]
  omega

theorem ttl_of_ctlTtl (ctl : Nat) {ttl : Nat} (ttl_le : ttl ≤ 127) :
    (ctl * 128 + ttl) &&& MESH_TTL_MASK = ttl := by
  rw [show MESH_TTL_MASK = 2 ^ 7 - 1 from rfl, Nat.and_two_pow_sub_one_eq_mod]
  omega

/-- The first byte carries the lowest bit of the IV index over the NID. -/
theorem iviNid_eq {ivIndex nid : Nat} (nid_lt : nid < 128) :
    ((ivIndex &&& 1) <<< MESH_IVI_SHIFT) ||| (nid &&& MESH_NID_MASK) = ivIndex % 2 * 128 + nid := by
  have low : nid &&& MESH_NID_MASK = nid := by
    rw [show MESH_NID_MASK = 2 ^ 7 - 1 from rfl, Nat.and_two_pow_sub_one_eq_mod]
    omega
  rw [low, Nat.and_one_is_mod, show MESH_IVI_SHIFT = 7 from rfl]
  exact Bytes.shiftLeft_or (ivIndex % 2) nid 7 (by omega)

/-- The six header bytes that are obfuscated. -/
def networkHeader (fields : NetworkPDU) : Bytes :=
  UInt8.ofNat (fields.ctl * 128 + fields.ttl) :: (Bytes.beBytes 3 fields.seq ++
    Bytes.beBytes 2 fields.src)

def networkCiphertext (fields : NetworkPDU) : Bytes :=
  suite.ccmEncrypt ⟨keys.encKey, keys.encKey_length⟩
    (if fields.ctl ≠ 0 then MIC_LEN_CONTROL else MIC_LEN_ACCESS)
    (networkNonce (fields.ctl * 128 + fields.ttl) fields.seq fields.src keys.ivIndex)
    (Bytes.beBytes 2 fields.dst ++ fields.transportPdu)

theorem networkCiphertext_long [LawfulCcm suite] (fields : NetworkPDU)
    (payload : fields.transportPdu ≠ []) : 7 ≤ (networkCiphertext suite keys fields).length := by
  have valid := micLen_valid fields.ctl
  have some := List.length_pos_iff.mpr payload
  rw [networkCiphertext, LawfulCcm.encrypt_length _ _ _ _ (networkNonce_parameters valid _ _ _ _),
    List.length_append, Bytes.beBytes_length]
  omega

theorem encryptNetworkPdu_ok [LawfulCcm suite] (fields : NetworkPDU) (inRange : fields.InRange)
    (payload : fields.transportPdu ≠ []) :
    encryptNetworkPdu suite keys.encKey keys.privKey keys.nid fields keys.ivIndex =
      .ok (UInt8.ofNat (keys.ivIndex % 2 * 128 + keys.nid) ::
        (Bytes.xor (networkHeader fields) (privacyMask suite keys
          (networkCiphertext suite keys fields) (networkCiphertext_long suite keys fields payload)) ++
        networkCiphertext suite keys fields)) := by
  have ctlTtl := ctlTtl_eq inRange.ctl_le inRange.ttl_le
  have ctlTtl_lt : fields.ctl * 128 + fields.ttl < 256 := by
    have ctl := inRange.ctl_le
    have ttl := inRange.ttl_le
    omega
  have first_lt : keys.ivIndex % 2 * 128 + keys.nid < 256 := by
    have nid := keys.nid_lt
    omega
  have seq_lt : fields.seq < 256 ^ 4 := Nat.lt_trans inRange.seq_lt (by decide)
  have nonce := makeNetworkNonce_ok ctlTtl_lt seq_lt inRange.src_lt keys.ivIndex_lt
  have encrypted : meshAesCcmEncrypt suite keys.encKey
      (networkNonce (fields.ctl * 128 + fields.ttl) fields.seq fields.src keys.ivIndex)
      (Bytes.beBytes 2 fields.dst ++ fields.transportPdu)
      (if fields.ctl ≠ 0 then MIC_LEN_CONTROL else MIC_LEN_ACCESS) =
        .ok (networkCiphertext suite keys fields) :=
    meshAesCcmEncrypt_ok suite keys.encKey_length
      (networkNonce_parameters (micLen_valid fields.ctl) _ _ _ _)
  have long := networkCiphertext_long suite keys fields payload
  have pecb := aesEcb_ok suite keys.privKey_length (pecbInput_length keys.ivIndex long)
  simp only [encryptNetworkPdu, ctlTtl, iviNid_eq keys.nid_lt, nonce, packBE_ok inRange.dst_lt,
    encrypted, byteOf_ok first_lt, byteOf_ok ctlTtl_lt, packBE_ok seq_lt, packBE_ok inRange.src_lt,
    packBE_ok keys.ivIndex_lt, pecb, Bytes.beBytes_tail, bind, Except.bind, pure, Except.pure]
  rfl

theorem nid_of_iviNid {ivIndex nid : Nat} (nid_lt : nid < 128) :
    (UInt8.ofNat (ivIndex % 2 * 128 + nid)).toNat &&& MESH_NID_MASK = nid := by
  rw [UInt8.toNat_ofNat', show MESH_NID_MASK = 2 ^ 7 - 1 from rfl, Nat.and_two_pow_sub_one_eq_mod]
  omega

theorem openNetworkPdu_ciphertext [LawfulCcm suite] (fields : NetworkPDU)
    (inRange : fields.InRange) :
    openNetworkPdu suite keys (fields.ctl * 128 + fields.ttl) fields.seq fields.src
      (networkCiphertext suite keys fields) = .ok (some fields) := by
  have parameters := networkNonce_parameters (micLen_valid fields.ctl)
    (fields.ctl * 128 + fields.ttl) fields.seq fields.src keys.ivIndex
  have opened : suite.ccmDecrypt _ _ _ (suite.ccmEncrypt _ _ _ _) = some _ :=
    LawfulCcm.decrypt_encrypt ⟨keys.encKey, keys.encKey_length⟩ _ _
      (Bytes.beBytes 2 fields.dst ++ fields.transportPdu) parameters
  have dst : Bytes.beValue (Bytes.beBytes 2 fields.dst) = fields.dst :=
    Bytes.beValue_beBytes inRange.dst_lt
  simp only [openNetworkPdu, ctl_of_ctlTtl inRange.ctl_le inRange.ttl_le,
    ttl_of_ctlTtl fields.ctl inRange.ttl_le, networkCiphertext]
  rw [opened]
  simp only [Bytes.beBytes, List.cons_append, List.nil_append] at dst ⊢
  rw [dst]

/-- `decrypt_network_pdu` inverts `encrypt_network_pdu`, for control and access PDUs. -/
theorem decrypt_encrypt_networkPdu [LawfulCcm suite] (fields : NetworkPDU)
    (inRange : fields.InRange) (payload : fields.transportPdu ≠ []) :
    ∃ pdu, encryptNetworkPdu suite keys.encKey keys.privKey keys.nid fields keys.ivIndex = .ok pdu ∧
      decryptNetworkPdu suite keys.encKey keys.privKey keys.nid pdu keys.ivIndex =
        .ok (some fields) := by
  refine ⟨_, encryptNetworkPdu_ok suite keys fields inRange payload, ?_⟩
  have long := networkCiphertext_long suite keys fields payload
  have mask := privacyMask_length suite keys _ long
  have six : (networkHeader fields).length = 6 := by
    simp only [networkHeader, List.length_cons, List.length_append, Bytes.beBytes_length]
  have obfuscated : (Bytes.xor (networkHeader fields)
      (privacyMask suite keys _ long)).length = 6 := by
    rw [Bytes.xor_length, six, mask]
    rfl
  have header : Bytes.xor (Bytes.xor (networkHeader fields) (privacyMask suite keys _ long))
      (privacyMask suite keys _ long) = networkHeader fields :=
    Bytes.xor_cancel _ _ (by rw [six, mask])
  have first : (UInt8.ofNat (fields.ctl * 128 + fields.ttl)).toNat =
      fields.ctl * 128 + fields.ttl := by
    rw [UInt8.toNat_ofNat']
    have ctl := inRange.ctl_le
    have ttl := inRange.ttl_le
    omega
  have seq : Bytes.beValue (Bytes.beBytes 3 fields.seq) = fields.seq :=
    Bytes.beValue_beBytes inRange.seq_lt
  have src : Bytes.beValue (Bytes.beBytes 2 fields.src) = fields.src :=
    Bytes.beValue_beBytes inRange.src_lt
  -- the receiver computes the same mask, since it sees the same ciphertext
  rw [decryptNetworkPdu_open suite keys _ _ _ obfuscated long (nid_of_iviNid keys.nid_lt) _ _ _ _ _ _
    header, first]
  simp only [Bytes.beBytes] at seq src
  rw [seq, src]
  exact openNetworkPdu_ciphertext suite keys fields inRange

/-! ### Unsegmented access messages -/

/-- The header byte of an unsegmented message: the SEG bit is clear. -/
theorem accessHeader_eq {akf : Nat} (akf_le : akf ≤ 1) (aid : Nat) :
    (akf <<< MESH_AKF_SHIFT) ||| (aid &&& MESH_AID_MASK) = akf * 64 + aid % 64 ∧
      akf * 64 + aid % 64 < 128 := by
  have low : aid &&& MESH_AID_MASK = aid % 64 := Nat.and_two_pow_sub_one_eq_mod aid 6
  have high : akf * 64 + aid % 64 < 128 := by omega
  rw [low]
  exact ⟨Bytes.shiftLeft_or akf (aid % 64) 6 (Nat.mod_lt _ (by decide)), high⟩

theorem accessHeader_fields {hdr : UInt8} {akf aid : Nat} (akf_le : akf ≤ 1)
    (value : hdr.toNat = akf * 64 + aid % 64) :
    hdr.toNat &&& MESH_SEG_BIT = 0 ∧ (hdr.toNat >>> MESH_AKF_SHIFT) &&& 1 = akf ∧
      hdr.toNat &&& MESH_AID_MASK = aid % 64 := by
  have seg : hdr.toNat &&& MESH_SEG_BIT = hdr.toNat / 2 ^ 7 % 2 * 2 ^ 7 := Bytes.and_bit hdr.toNat 7
  have key : (hdr.toNat >>> MESH_AKF_SHIFT) &&& 1 = hdr.toNat / 2 ^ 6 % 2 ^ 1 :=
    Bytes.shiftRight_and hdr.toNat 6 1
  have identifier : hdr.toNat &&& MESH_AID_MASK = hdr.toNat % 2 ^ 6 :=
    Nat.and_two_pow_sub_one_eq_mod hdr.toNat 6
  rw [seg, key, identifier, value]
  omega

theorem makeAccessUnsegmented_ok {key : Bytes} (validKey : key.length = _AES_BLOCK_SIZE)
    {src dst seq akf aid : Nat} {payload : Bytes} (short : payload.length ≤ 11)
    (akf_le : akf ≤ 1) (seq_lt : seq < 256 ^ 3) (src_lt : src < 256 ^ 2) (dst_lt : dst < 256 ^ 2) :
    makeAccessUnsegmented suite key src dst seq keys.ivIndex payload akf aid =
      .ok (UInt8.ofNat (akf * 64 + aid % 64) ::
        suite.ccmEncrypt ⟨key, validKey⟩ MIC_LEN_ACCESS
          (appNonce akf 0 seq src dst keys.ivIndex) payload) := by
  have fits : ¬ payload.length > MAX_UNSEG_ACCESS_PAYLOAD := Nat.not_lt.mpr short
  have seq_lt : seq < 256 ^ 4 := Nat.lt_trans seq_lt (by decide)
  have nonce := makeAppNonce_ok akf (Nat.zero_le 1) seq_lt src_lt dst_lt keys.ivIndex_lt
  have encrypted : meshAesCcmEncrypt suite key (appNonce akf 0 seq src dst keys.ivIndex) payload
      MIC_LEN_ACCESS = .ok _ :=
    meshAesCcmEncrypt_ok suite validKey (appNonce_parameters (.inl rfl) _ _ _ _ _ _)
  obtain ⟨header, header_lt⟩ := accessHeader_eq akf_le aid
  have header_lt : akf * 64 + aid % 64 < 256 := by omega
  simp only [makeAccessUnsegmented, fits, if_false, nonce, encrypted, header, byteOf_ok header_lt,
    bind, Except.bind, pure, Except.pure]
  rfl

theorem decryptAccessPayload_unsegmented [LawfulCcm suite] {key : Bytes} {akf : Nat}
    (selected : keys.accessKey akf = some key) (validKey : key.length = _AES_BLOCK_SIZE)
    {src dst seq : Nat} (aid : Nat) (payload : Bytes) (akf_le : akf ≤ 1) (seq_lt : seq < 256 ^ 3)
    (src_lt : src < 256 ^ 2) (dst_lt : dst < 256 ^ 2) :
    let lower := UInt8.ofNat (akf * 64 + aid % 64) ::
      suite.ccmEncrypt ⟨key, validKey⟩ MIC_LEN_ACCESS (appNonce akf 0 seq src dst keys.ivIndex) payload
    decryptAccessPayload suite keys src dst seq lower =
      .ok (some { seg := false, akf, aid := aid % 64, accessPayload := some payload,
                  raw := lower }) := by
  have value : (UInt8.ofNat (akf * 64 + aid % 64)).toNat = akf * 64 + aid % 64 := by
    rw [UInt8.toNat_ofNat']
    omega
  obtain ⟨unsegmented, keyFlag, identifier⟩ := accessHeader_fields akf_le value
  have seq_lt : seq < 256 ^ 4 := Nat.lt_trans seq_lt (by decide)
  have nonce := makeAppNonce_ok akf (Nat.zero_le 1) seq_lt src_lt dst_lt keys.ivIndex_lt
  have parameters := appNonce_parameters (.inl rfl : MIC_LEN_ACCESS = 4 ∨ MIC_LEN_ACCESS = 8) akf 0
    seq src dst keys.ivIndex
  have opened := meshAesCcmDecrypt_some suite validKey parameters
    (LawfulCcm.decrypt_encrypt ⟨key, validKey⟩ _ _ payload parameters)
  simp only [decryptAccessPayload, unsegmented, keyFlag, identifier, selected, nonce, opened,
    ne_eq, not_true_eq_false, if_false, bind, Except.bind, pure, Except.pure]

end Network

/-! ### The whole stack -/

/-- An unsegmented message comes back unchanged from the proxy PDU it is sent in: the
network header, the lower transport PDU and the access payload. And the network layer by
itself returns every control or access PDU. -/
theorem unsegmented_stack_round_trip (suite : CipherSuite) [LawfulCcm suite] (keys : MeshKeys)
    (key payload : Bytes) (ctl ttl seq src dst akf aid : Nat)
    (selected : keys.accessKey akf = some key) (validKey : key.length = 16) (akf_le : akf ≤ 1)
    (short : payload.length ≤ 11) (ctl_le : ctl ≤ 1) (ttl_le : ttl ≤ 127) (seq_lt : seq < 2 ^ 24)
    (src_lt : src < 2 ^ 16) (dst_lt : dst < 2 ^ 16) :
    (∃ lower pdu proxy message,
      makeAccessUnsegmented suite key src dst seq keys.ivIndex payload akf aid = .ok lower ∧
      encryptNetworkPdu suite keys.encKey keys.privKey keys.nid
        ⟨ctl, ttl, seq, src, dst, lower⟩ keys.ivIndex = .ok pdu ∧
      parseProxyPdu (makeProxyPdu pdu) = .ok proxy ∧
      decryptNetworkPdu suite keys.encKey keys.privKey keys.nid proxy.payload keys.ivIndex =
        .ok (some ⟨ctl, ttl, seq, src, dst, lower⟩) ∧
      decryptAccessPayload suite keys src dst seq lower = .ok (some message) ∧
      message.seg = false ∧ message.akf = akf ∧ message.accessPayload = some payload) ∧
    ∀ transportPdu : Bytes, transportPdu ≠ [] → ∃ pdu,
      encryptNetworkPdu suite keys.encKey keys.privKey keys.nid
        ⟨ctl, ttl, seq, src, dst, transportPdu⟩ keys.ivIndex = .ok pdu ∧
      decryptNetworkPdu suite keys.encKey keys.privKey keys.nid pdu keys.ivIndex =
        .ok (some ⟨ctl, ttl, seq, src, dst, transportPdu⟩) := by
  have network : ∀ transportPdu : Bytes, transportPdu ≠ [] → ∃ pdu,
      encryptNetworkPdu suite keys.encKey keys.privKey keys.nid
        ⟨ctl, ttl, seq, src, dst, transportPdu⟩ keys.ivIndex = .ok pdu ∧
      decryptNetworkPdu suite keys.encKey keys.privKey keys.nid pdu keys.ivIndex =
        .ok (some ⟨ctl, ttl, seq, src, dst, transportPdu⟩) := by
    intro transportPdu payload
    exact decrypt_encrypt_networkPdu suite keys _ ⟨ctl_le, ttl_le, seq_lt, src_lt, dst_lt⟩ payload
  refine ⟨?_, network⟩
  have made : makeAccessUnsegmented suite key src dst seq keys.ivIndex payload akf aid = .ok _ :=
    makeAccessUnsegmented_ok suite keys validKey short akf_le seq_lt src_lt dst_lt
  -- the lower transport PDU is what the network layer hands back
  have opened := decryptAccessPayload_unsegmented suite keys selected validKey aid payload akf_le
    seq_lt src_lt dst_lt
  obtain ⟨pdu, encrypted, decrypted⟩ := network _ (List.cons_ne_nil _ _)
  exact ⟨_, pdu, _, _, made, encrypted, parseProxyPdu_makeProxyPdu pdu, decrypted, opened, rfl, rfl,
    rfl⟩

/-- Keys of a network with NID 0x2A and IV index 7. -/
def sampleKeys : MeshKeys where
  devKey := List.replicate 16 0x11
  appKey := some (List.replicate 16 0x22)
  ivIndex := 7
  nid := 0x2A
  encKey := List.replicate 16 0x33
  privKey := List.replicate 16 0x44
  aid := 0x26
  ivIndex_lt := by decide
  nid_lt := by decide
  encKey_length := rfl
  privKey_length := rfl

theorem unsegmented_stack_round_trip_sample :
    ∃ lower pdu proxy message,
      makeAccessUnsegmented nonceTagSuite (List.replicate 16 0x22) 0xB0 1 0xABCDEF 7
        [0x82, 0x04, 0x01] 1 0x26 = .ok lower ∧
      encryptNetworkPdu nonceTagSuite sampleKeys.encKey sampleKeys.privKey sampleKeys.nid
        ⟨0, 5, 0xABCDEF, 0xB0, 1, lower⟩ 7 = .ok pdu ∧
      parseProxyPdu (makeProxyPdu pdu) = .ok proxy ∧
      decryptNetworkPdu nonceTagSuite sampleKeys.encKey sampleKeys.privKey sampleKeys.nid
        proxy.payload 7 = .ok (some ⟨0, 5, 0xABCDEF, 0xB0, 1, lower⟩) ∧
      decryptAccessPayload nonceTagSuite sampleKeys 0xB0 1 0xABCDEF lower = .ok (some message) ∧
      message.seg = false ∧ message.akf = 1 ∧ message.accessPayload = some [0x82, 0x04, 0x01] :=
  (unsegmented_stack_round_trip nonceTagSuite sampleKeys (List.replicate 16 0x22)
    [0x82, 0x04, 0x01] 0 5 0xABCDEF 0xB0 1 1 0x26 rfl rfl (by decide) (by decide) (by decide)
    (by decide) (by decide) (by decide) (by decide)).1

end TuyaBleMesh
