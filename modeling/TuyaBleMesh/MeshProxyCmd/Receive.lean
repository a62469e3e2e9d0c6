import TuyaBleMesh.Device.Robustness
import TuyaBleMesh.MeshProxyCmd.Pdus

/-!
# What the script and the library read from the same bytes

Layer by layer: where the script agrees with the library, and where it raises instead of
turning a PDU away.
-/

namespace TuyaBleMesh

open Bytes

namespace MeshProxyCmd

variable (lib : CipherLibrary) (suite : CipherSuite) (keys : MeshKeys)

/-! ### Network layer -/

theorem keyed_valid {key : Bytes} (validKey : key.length = _AES_BLOCK_SIZE) :
    lib.keyed key = .ok (lib.toCipherSuite, ⟨key, validKey⟩) := dif_pos validKey

theorem ecb_block {key plaintext : Bytes} (validKey : key.length = _AES_BLOCK_SIZE)
    (whole : plaintext.length = _AES_BLOCK_SIZE) :
    ecb lib key plaintext = .ok (lib.aes ⟨key, validKey⟩ ⟨plaintext, whole⟩).val := by
  rw [ecb, keyed_valid lib validKey]
  exact aesEcb_block lib.toCipherSuite ⟨key, validKey⟩ ⟨plaintext, whole⟩

/-- `finalize` raises for a part of a block. -/
theorem ecb_short {key plaintext : Bytes} (validKey : key.length = _AES_BLOCK_SIZE)
    (some : plaintext ≠ []) (short : plaintext.length < 16) :
    ecb lib key plaintext = .error .valueError := by
  have part : ¬(plaintext.take 16).length = 16 := by
    rw [List.length_take]
    omega
  rw [ecb, keyed_valid lib validKey]
  change aesEcb lib.toCipherSuite ⟨key, validKey⟩ plaintext = _
  rw [aesEcb, if_neg some, dif_neg part]

theorem xor_six {a b : Bytes} (left : a.length = 6) (right : b.length = 6) :
    xor a b = .ok (Bytes.xor a b) := if_pos (left.trans right.symm)

theorem decryptNetworkPdu_nil :
    decryptNetworkPdu lib keys.encKey keys.privKey keys.nid [] keys.ivIndex =
      .error .indexError := rfl

theorem decryptNetworkPdu_foreign {first : UInt8} {rest : Bytes}
    (other : first.toNat &&& 0x7F ≠ keys.nid) :
    decryptNetworkPdu lib keys.encKey keys.privKey keys.nid (first :: rest) keys.ivIndex =
      .ok none := by
  simp only [decryptNetworkPdu, index_cons_zero, other, ne_eq, not_false_eq_true, if_true, bind,
    Except.bind, pure, Except.pure]

theorem decryptNetworkPdu_short {first : UInt8} {rest : Bytes}
    (nid : first.toNat &&& 0x7F = keys.nid) (short : rest.length < 13) :
    decryptNetworkPdu lib keys.encKey keys.privKey keys.nid (first :: rest) keys.ivIndex =
      .error .valueError := by
  have part : (pecbInput (Bytes.beBytes 4 keys.ivIndex)
      (((first :: rest).drop 7).take 7)).length < 16 := by
    simp only [pecbInput, List.length_append, Bytes.beBytes_length, List.length_take,
      List.length_drop, List.length_cons, List.length_nil]
    omega
  have raised : ecb lib keys.privKey (pecbInput (Bytes.beBytes 4 keys.ivIndex)
      (((first :: rest).drop 7).take 7)) = .error .valueError :=
    ecb_short lib keys.privKey_length (List.cons_ne_nil _ _) part
  simp only [decryptNetworkPdu, index_cons_zero, nid, ne_eq, not_true_eq_false, if_false,
    packBE_ok keys.ivIndex_lt, raised, bind, Except.bind]

/-- From 14 bytes on the header is readable. -/
theorem decryptNetworkPdu_open {first : UInt8} {rest : Bytes}
    (long : 7 ≤ ((first :: rest).drop 7).length) (nid : first.toNat &&& 0x7F = keys.nid)
    {b0 b1 b2 b3 b4 b5 : UInt8} (header : deobfuscate lib.toCipherSuite keys (first :: rest) long =
      [b0, b1, b2, b3, b4, b5]) :
    decryptNetworkPdu lib keys.encKey keys.privKey keys.nid (first :: rest) keys.ivIndex =
      openNetworkPdu lib.toCipherSuite keys b0.toNat (Bytes.beValue [b1, b2, b3])
        (Bytes.beValue [b4, b5]) ((first :: rest).drop 7) := by
  have whole := pecbInput_length keys.ivIndex long
  have six : (((first :: rest).drop 1).take 6).length = 6 := by
    rw [List.length_take, List.length_drop]
    rw [List.length_drop] at long
    omega
  have mask := xor_six six (privacyMask_length lib.toCipherSuite keys _ long)
  rw [deobfuscate] at header
  rw [header, privacyMask] at mask
  have seq_lt : Bytes.beValue [b1, b2, b3] < 256 ^ 4 :=
    Nat.lt_trans (Bytes.beValue_lt [b1, b2, b3]) (show 256 ^ 3 < 256 ^ 4 by decide)
  have nonce := makeNetworkNonce_ok b0.toNat_lt seq_lt (Bytes.beValue_lt [b4, b5]) keys.ivIndex_lt
  simp only [decryptNetworkPdu, index_cons_zero, index_cons_succ, nid, ne_eq, not_true_eq_false,
    if_false, packBE_ok keys.ivIndex_lt, ecb_block lib keys.privKey_length whole, mask,
    Bytes.beValue_two, Bytes.beValue_three, makeNetworkNonce, nonce, meshAesCcmDecrypt,
    keyed_valid lib keys.encKey_length, bind, Except.bind, pure, Except.pure, openNetworkPdu]
  -- both MIC lengths go the same way from here
  have same : (if ¬b0.toNat >>> 7 &&& 1 = 0 then 8 else 4) =
      if ¬b0.toNat >>> MESH_CTL_SHIFT &&& 1 = 0 then MIC_LEN_CONTROL else MIC_LEN_ACCESS := rfl
  rw [same]
  generalize lib.ccmDecrypt _ _ _ _ = opened
  cases opened with
  | none => rfl
  | some plaintext =>
    rcases plaintext with _ | ⟨_, _ | ⟨_, _⟩⟩
    · rfl
    · rfl
    · rfl

/-- From 14 bytes on, both read the same. -/
theorem decryptNetworkPdu_agree {first : UInt8} {rest : Bytes} (long : 13 ≤ rest.length)
    (nid : first.toNat &&& 0x7F = keys.nid) :
    decryptNetworkPdu lib keys.encKey keys.privKey keys.nid (first :: rest) keys.ivIndex =
      TuyaBleMesh.decryptNetworkPdu lib.toCipherSuite keys.encKey keys.privKey keys.nid
        (first :: rest) keys.ivIndex := by
  have readable : 7 ≤ ((first :: rest).drop 7).length := by
    rw [List.length_drop, List.length_cons]
    omega
  match header : deobfuscate lib.toCipherSuite keys (first :: rest) readable,
      deobfuscate_length lib.toCipherSuite keys (first :: rest) readable with
  | [b0, b1, b2, b3, b4, b5], _ =>
    rw [decryptNetworkPdu_open lib keys readable nid header]
    exact (decryptNetworkPdu_long lib.toCipherSuite keys readable nid header).symm

/-! ### Transport layer and opcodes -/

/-- No access key is of a length that AES takes and the library does not. -/
def PlainKeys : Prop :=
  ∀ akf key, keys.accessKey akf = some key → key.length ≠ 24 ∧ key.length ≠ 32

/-- What the handlers of `except Exception` leave of a decryption. -/
def opened : Except PyError (Option Bytes) → Option Bytes
  | .ok plaintext => plaintext
  | .error _ => none

theorem opened_agree {key nonce : Bytes} (plain : key.length ≠ 24 ∧ key.length ≠ 32)
    (parameters : CcmParameters MIC_LEN_ACCESS nonce) (encrypted : Bytes) :
    (∃ plaintext, opened (meshAesCcmDecrypt lib key nonce encrypted 4) = some plaintext ∧
      TuyaBleMesh.meshAesCcmDecrypt lib.toCipherSuite key nonce encrypted MIC_LEN_ACCESS =
        .ok plaintext) ∨
    opened (meshAesCcmDecrypt lib key nonce encrypted 4) = none ∧
      ∃ msg, TuyaBleMesh.meshAesCcmDecrypt lib.toCipherSuite key nonce encrypted MIC_LEN_ACCESS =
        .error (.cryptoError msg) := by
  by_cases validKey : key.length = _AES_BLOCK_SIZE
  · have script : meshAesCcmDecrypt lib key nonce encrypted 4 =
        .ok (lib.ccmDecrypt ⟨key, validKey⟩ MIC_LEN_ACCESS nonce encrypted) := by
      rw [meshAesCcmDecrypt, keyed_valid lib validKey]
      rfl
    rw [script]
    cases authentic : lib.ccmDecrypt ⟨key, validKey⟩ MIC_LEN_ACCESS nonce encrypted with
    | none => exact .inr ⟨rfl, _, meshAesCcmDecrypt_none _ validKey parameters authentic⟩
    | some plaintext =>
      exact .inl ⟨plaintext, rfl, meshAesCcmDecrypt_some _ validKey parameters authentic⟩
  · -- neither takes the key, and both catch what that raises
    have neither : ¬(key.length = 24 ∨ key.length = 32) := not_or.mpr plain
    have script : opened (meshAesCcmDecrypt lib key nonce encrypted 4) = none := by
      rw [meshAesCcmDecrypt, CipherLibrary.keyed, dif_neg validKey, if_neg neither]
      rfl
    cases library : TuyaBleMesh.meshAesCcmDecrypt lib.toCipherSuite key nonce encrypted
        MIC_LEN_ACCESS with
    | error error =>
      obtain ⟨msg, rfl⟩ := meshAesCcmDecrypt_error _ library
      exact .inr ⟨script, msg, rfl⟩
    | ok plaintext =>
      rw [TuyaBleMesh.meshAesCcmDecrypt, validateKey, dif_neg validKey] at library
      cases library

/-- The dictionary for a message of the library. -/
def Decoded.ofMessage (message : AccessMessage) : Option Decoded :=
  if message.seg then some (.segment message.akf message.aid message.raw)
  else message.accessPayload.map (.access message.akf message.aid)

theorem segment_bit (hdr : UInt8) : (hdr.toNat >>> 7) &&& 1 ≠ 0 ↔ hdr.toNat &&& MESH_SEG_BIT ≠ 0 := by
  have byte := hdr.toNat_lt
  have bit := Bytes.and_bit hdr.toNat 7
  rw [Nat.and_one_is_mod, Nat.shiftRight_eq_div_pow, MESH_SEG_BIT, show 0x80 = 2 ^ 7 from rfl, bit]
  omega

theorem decryptAccessPayload_agree (plain : PlainKeys keys) {src dst seq : Nat}
    (seq_lt : seq < 256 ^ 3) (src_lt : src < 256 ^ 2) (dst_lt : dst < 256 ^ 2) (hdr : UInt8)
    (encrypted : Bytes) : ∃ message,
      TuyaBleMesh.decryptAccessPayload lib.toCipherSuite keys src dst seq (hdr :: encrypted) =
        .ok message ∧
      decryptAccessPayload lib keys src dst seq (hdr :: encrypted) =
        .ok (message.bind Decoded.ofMessage) := by
  have bit := segment_bit hdr
  simp only [TuyaBleMesh.decryptAccessPayload, decryptAccessPayload, index_cons_zero, bind,
    Except.bind, pure, Except.pure]
  by_cases seg : hdr.toNat &&& MESH_SEG_BIT ≠ 0
  · refine ⟨_, if_pos seg, ?_⟩
    rw [if_pos (bit.mpr seg)]
    rfl
  · rw [if_neg seg, if_neg (mt bit.mp seg)]
    rw [show MESH_AKF_SHIFT = 6 from rfl]
    generalize hdr.toNat >>> 6 &&& 1 = akf
    cases selected : keys.accessKey akf with
    | none => exact ⟨none, rfl, rfl⟩
    | some key =>
      have seq_lt' : seq < 256 ^ 4 := Nat.lt_trans seq_lt (by decide)
      have nonce := makeAppNonce_ok akf (Nat.zero_le 1) seq_lt' src_lt dst_lt keys.ivIndex_lt
      have parameters := appNonce_parameters (.inl rfl : MIC_LEN_ACCESS = 4 ∨ MIC_LEN_ACCESS = 8)
        akf 0 seq src dst keys.ivIndex
      simp only [makeAppNonce, nonce, List.drop_succ_cons, List.drop_zero]
      have script := opened_agree lib (plain akf key selected) parameters encrypted
      generalize meshAesCcmDecrypt lib key (appNonce akf 0 seq src dst keys.ivIndex) encrypted 4 =
        result at script ⊢
      rcases script with ⟨plaintext, script, library⟩ | ⟨script, msg, library⟩
      · rw [library]
        refine ⟨_, rfl, ?_⟩
        cases result with
        | error error => cases script
        | ok authentic =>
          cases script
          rfl
      · rw [library]
        refine ⟨none, rfl, ?_⟩
        cases result with
        | error error => rfl
        | ok authentic =>
          cases script
          rfl

/-- The script reads the opcodes that the library reads, and raises where it turns a payload
away. -/
theorem parseAccessOpcode_agree (data : Bytes) :
    parseAccessOpcode data = match TuyaBleMesh.parseAccessOpcode data with
      | .ok parsed => .ok parsed
      | .error _ => .error .indexError := by
  cases data with
  | nil => rfl
  | cons b0 rest =>
    simp only [parseAccessOpcode, TuyaBleMesh.parseAccessOpcode, index_cons_zero, index_cons_succ,
      bind, Except.bind, pure, Except.pure]
    by_cases one : b0.toNat &&& 0x80 = 0
    · rw [if_pos one, show MESH_OPCODE_1BYTE_MASK = 0x80 from rfl, if_pos one]
      rfl
    · rw [if_neg one, show MESH_OPCODE_1BYTE_MASK = 0x80 from rfl, if_neg one,
        show MESH_OPCODE_2BYTE_MASK = 0xC0 from rfl, show MESH_OPCODE_2BYTE_VALUE = 0x80 from rfl]
      by_cases two : b0.toNat &&& 0xC0 = 0x80
      · rw [if_pos two, if_pos two]
        cases rest with
        | nil => rfl
        | cons b1 params => rfl
      · rw [if_neg two, if_neg two]
        match rest with
        | [] => rfl
        | [_] => rfl
        | _ :: _ :: _ => rfl

/-! ### Notifications -/

/-- `_on_notify` from the network PDU on. -/
def onNetwork (netPdu : NetworkPDU) : Except PyError (Option Response) :=
  if netPdu.ctl ≠ 0 then .ok none
  else do
    match ← decryptAccessPayload lib keys netPdu.src netPdu.dst netPdu.seq netPdu.transportPdu with
    | some (.access _ _ access) =>
      let (opcode, params) ← parseAccessOpcode access
      return some { opcode, params, msg := formatStatusResponse opcode params }
    | _ => return none

theorem onNotify_cons (first : UInt8) (payload : Bytes) :
    onNotify lib keys (first :: payload) =
      if first.toNat &&& 0x3F ≠ 0 then .ok none
      else
        decryptNetworkPdu lib keys.encKey keys.privKey keys.nid payload keys.ivIndex >>= fun
          | none => .ok none
          | some netPdu => onNetwork lib keys netPdu := by
  rw [onNotify, parseProxyPdu]
  simp only [index_cons_zero, bind, Except.bind, pure, Except.pure, List.drop_succ_cons,
    List.drop_zero]
  split
  · rfl
  · split
    · rfl
    · next result _ =>
      cases result with
      | none => rfl
      | some netPdu =>
        simp only [onNetwork]
        split <;> rfl

/-- The library decrypts an access payload from the PDU and finds no opcode in it, or there is
not even a header. -/
def Headless (suite : CipherSuite) (netPdu : NetworkPDU) : Prop :=
  netPdu.transportPdu = [] ∨ ∃ message access error,
    TuyaBleMesh.decryptAccessPayload suite keys netPdu.src netPdu.dst netPdu.seq
      netPdu.transportPdu = .ok (some message) ∧
    message.seg = false ∧ message.accessPayload = some access ∧
    TuyaBleMesh.parseAccessOpcode access = .error error

theorem receiveSegment_ne_access (src dst : Nat) (transportPdu : Bytes) (sender opcode : Nat)
    (params : Bytes) : receiveSegment src dst transportPdu ≠ .access sender opcode params := by
  unfold receiveSegment
  intro access
  split at access <;> cases access

section Network

variable {netPdu : NetworkPDU} (plain : PlainKeys keys) (seq_lt : netPdu.seq < 256 ^ 3)
  (src_lt : netPdu.src < 256 ^ 2) (dst_lt : netPdu.dst < 256 ^ 2)

include plain seq_lt src_lt dst_lt

/-- What both make of an access PDU: a message without an access payload, one with an opcode or
one without. -/
theorem onNetwork_access (access : netPdu.ctl = 0) :
    (onNetwork lib keys netPdu = .ok none ∧ ¬Headless keys lib.toCipherSuite netPdu ∧
      ∀ src opcode params,
        receiveNetwork lib.toCipherSuite keys netPdu ≠ .access src opcode params) ∨
    (∃ opcode params,
      onNetwork lib keys netPdu =
        .ok (some { opcode, params, msg := formatStatusResponse opcode params }) ∧
      ¬Headless keys lib.toCipherSuite netPdu ∧
      receiveNetwork lib.toCipherSuite keys netPdu = .access netPdu.src opcode params) ∨
    (onNetwork lib keys netPdu = .error .indexError ∧ Headless keys lib.toCipherSuite netPdu ∧
      ∀ src opcode params,
        receiveNetwork lib.toCipherSuite keys netPdu ≠ .access src opcode params) := by
  rw [onNetwork, if_neg (not_not.mpr access)]
  cases lower : netPdu.transportPdu with
  | nil =>
    rw [receiveNetwork, lower]
    exact .inr (.inr ⟨rfl, .inl lower, fun _ _ _ received => by cases received⟩)
  | cons hdr encrypted =>
    obtain ⟨message, library, script⟩ :=
      decryptAccessPayload_agree lib keys plain seq_lt src_lt dst_lt hdr encrypted
    have headless : Headless keys lib.toCipherSuite netPdu ↔
        ∃ found access error, message = some found ∧ found.seg = false ∧
          found.accessPayload = some access ∧
          TuyaBleMesh.parseAccessOpcode access = .error error := by
      rw [Headless, lower, library]
      constructor
      · rintro (empty | ⟨found, access, error, same, rest⟩)
        · cases empty
        · exact ⟨found, access, error, Except.ok.inj same, rest⟩
      · rintro ⟨found, access, error, rfl, rest⟩
        exact .inr ⟨found, access, error, rfl, rest⟩
    rw [headless, receiveNetwork, lower, library, script]
    cases message with
    | none => exact .inl ⟨rfl, by rintro ⟨_, _, _, ⟨⟩, _⟩, fun _ _ _ received => by cases received⟩
    | some message =>
      obtain ⟨seg, akf, aid, accessPayload, raw⟩ := message
      cases seg with
      | true =>
        refine .inl ⟨rfl, ?_, fun src opcode params => ?_⟩
        · rintro ⟨_, _, _, ⟨⟩, unsegmented, _⟩
          cases unsegmented
        · exact receiveSegment_ne_access _ _ _ _ _ _
      | false =>
        cases accessPayload with
        | none =>
          refine .inl ⟨rfl, ?_, fun _ _ _ received => by cases received⟩
          rintro ⟨_, _, _, ⟨⟩, _, ⟨⟩, _⟩
        | some payload =>
          have agree := parseAccessOpcode_agree payload
          cases parsed : TuyaBleMesh.parseAccessOpcode payload with
          | error error =>
            rw [parsed] at agree
            obtain ⟨msg, rfl⟩ := parseAccessOpcode_error parsed
            refine .inr (.inr ⟨?_, ⟨_, payload, _, rfl, rfl, rfl, parsed⟩, ?_⟩)
            · change (parseAccessOpcode payload >>= _) = _
              rw [agree]
              rfl
            · intro src opcode params received
              change receiveAccess netPdu.src payload = _ at received
              rw [receiveAccess, parsed] at received
              cases received
          | ok result =>
            obtain ⟨opcode, params⟩ := result
            rw [parsed] at agree
            refine .inr (.inl ⟨opcode, params, ?_, ?_, ?_⟩)
            · change (parseAccessOpcode payload >>= _) = _
              rw [agree]
              rfl
            · rintro ⟨_, _, error, ⟨⟩, _, ⟨⟩, failed⟩
              cases parsed.symm.trans failed
            · change receiveAccess netPdu.src payload = _
              rw [receiveAccess, parsed]

theorem onNetwork_response (response : Response) :
    onNetwork lib keys netPdu = .ok (some response) ↔
      response.msg = formatStatusResponse response.opcode response.params ∧ netPdu.ctl = 0 ∧
        receiveNetwork lib.toCipherSuite keys netPdu =
          .access netPdu.src response.opcode response.params := by
  by_cases access : netPdu.ctl = 0
  · rcases onNetwork_access lib keys plain seq_lt src_lt dst_lt access with
      ⟨script, _, library⟩ | ⟨opcode, params, script, _, library⟩ | ⟨script, _, library⟩
    · rw [script]
      exact iff_of_false nofun fun holds => library _ _ _ holds.2.2
    · rw [script, library]
      constructor
      · rintro ⟨⟩
        exact ⟨rfl, access, rfl⟩
      · rintro ⟨text, -, same⟩
        obtain ⟨opcode', params', msg⟩ := response
        cases same
        dsimp only at text
        rw [text]
    · rw [script]
      exact iff_of_false nofun fun holds => library _ _ _ holds.2.2
  · rw [onNetwork, if_pos access]
    exact iff_of_false nofun fun holds => access holds.2.1

theorem onNetwork_error (error : PyError) :
    onNetwork lib keys netPdu = .error error ↔
      error = .indexError ∧ netPdu.ctl = 0 ∧ Headless keys lib.toCipherSuite netPdu := by
  by_cases access : netPdu.ctl = 0
  · rcases onNetwork_access lib keys plain seq_lt src_lt dst_lt access with
      ⟨script, headed, _⟩ | ⟨opcode, params, script, headed, _⟩ | ⟨script, headless, _⟩
    · rw [script]
      exact iff_of_false nofun fun holds => headed holds.2.2
    · rw [script]
      exact iff_of_false nofun fun holds => headed holds.2.2
    · rw [script]
      exact ⟨fun same => ⟨(Except.error.inj same).symm, access, headless⟩,
        fun holds => congrArg Except.error holds.1.symm⟩
  · rw [onNetwork, if_pos access]
    exact iff_of_false nofun fun holds => access holds.2.1

end Network

/-- The network PDU that the library reads from a proxy PDU, when it is one for the network
layer. -/
def Opens (suite : CipherSuite) (data : Bytes) (netPdu : NetworkPDU) : Prop :=
  ∃ first payload, data = first :: payload ∧ first.toNat &&& 0x3F = 0 ∧
    TuyaBleMesh.decryptNetworkPdu suite keys.encKey keys.privKey keys.nid payload keys.ivIndex =
      .ok (some netPdu)

theorem receive_of_opens {keys : MeshKeys} {suite : CipherSuite} {data : Bytes}
    {netPdu : NetworkPDU} (opens : Opens keys suite data netPdu) :
    receive suite keys data = receiveNetwork suite keys netPdu := by
  obtain ⟨first, payload, rfl, -, decrypted⟩ := opens
  simp only [receive, TuyaBleMesh.parseProxyPdu, decrypted]

/-- Notifications on which the script runs past the end of a part: an empty one, an empty network
PDU, a control PDU without a destination, and an access PDU without a header or an opcode. -/
def Overruns (suite : CipherSuite) (data : Bytes) : Prop :=
  data = [] ∨ (∃ first, data = [first] ∧ first.toNat &&& 0x3F = 0) ∨
  (∃ first payload, data = first :: payload ∧ first.toNat &&& 0x3F = 0 ∧
    TuyaBleMesh.decryptNetworkPdu suite keys.encKey keys.privKey keys.nid payload keys.ivIndex =
      .error .indexError) ∨
  ∃ netPdu, Opens keys suite data netPdu ∧ netPdu.ctl = 0 ∧ Headless keys suite netPdu

/-- Notifications with a network PDU for this network that does not fill the privacy block. -/
def Underruns (data : Bytes) : Prop :=
  ∃ first iviNid rest, data = first :: iviNid :: rest ∧ first.toNat &&& 0x3F = 0 ∧
    iviNid.toNat &&& 0x7F = keys.nid ∧ rest.length < 13

section Cons

variable {first : UInt8} {payload : Bytes} (network : first.toNat &&& 0x3F = 0)

include network

theorem opens_cons (netPdu : NetworkPDU) : Opens keys suite (first :: payload) netPdu ↔
    TuyaBleMesh.decryptNetworkPdu suite keys.encKey keys.privKey keys.nid payload keys.ivIndex =
      .ok (some netPdu) := by
  constructor
  · rintro ⟨_, _, ⟨⟩, -, decrypted⟩
    exact decrypted
  · intro decrypted
    exact ⟨first, payload, rfl, network, decrypted⟩

theorem overruns_cons : Overruns keys suite (first :: payload) ↔ payload = [] ∨
    TuyaBleMesh.decryptNetworkPdu suite keys.encKey keys.privKey keys.nid payload keys.ivIndex =
      .error .indexError ∨
    ∃ netPdu, TuyaBleMesh.decryptNetworkPdu suite keys.encKey keys.privKey keys.nid payload
      keys.ivIndex = .ok (some netPdu) ∧ netPdu.ctl = 0 ∧ Headless keys suite netPdu := by
  simp only [Overruns, opens_cons suite keys network]
  constructor
  · rintro (empty | ⟨first', same, -⟩ | ⟨first', payload', same, -, raised⟩ | opens)
    · cases empty
    · cases same
      exact .inl rfl
    · cases same
      exact .inr (.inl raised)
    · exact .inr (.inr opens)
  · rintro (rfl | raised | opens)
    · exact .inr (.inl ⟨first, rfl, network⟩)
    · exact .inr (.inr (.inl ⟨first, payload, rfl, network, raised⟩))
    · exact .inr (.inr (.inr opens))

end Cons

/-- Behind the header, the library runs past the end of a plaintext only. -/
theorem library_raises {pdu : Bytes} (long : 14 ≤ pdu.length) {error : PyError}
    (raised : TuyaBleMesh.decryptNetworkPdu suite keys.encKey keys.privKey keys.nid pdu
      keys.ivIndex = .error error) : error = .indexError := by
  by_cases nid : (pdu.headD 0).toNat &&& MESH_NID_MASK = keys.nid
  · have readable : 7 ≤ (pdu.drop 7).length := by
      rw [List.length_drop]
      omega
    match header : deobfuscate suite keys pdu readable,
        deobfuscate_length suite keys pdu readable with
    | [b0, b1, b2, b3, b4, b5], _ =>
      rw [TuyaBleMesh.decryptNetworkPdu_long suite keys readable nid header] at raised
      simp only [openNetworkPdu] at raised
      split at raised <;> cases raised
      rfl
  · rw [TuyaBleMesh.decryptNetworkPdu_foreign suite keys (.inr nid)] at raised
    cases raised

/-- The library does not read a PDU for the network that does not fill the privacy block: it turns
the PDU away, or AES raises its own error. -/
theorem library_unread {iviNid : UInt8} {rest : Bytes} (nid : iviNid.toNat &&& 0x7F = keys.nid)
    (short : rest.length < 13) :
    TuyaBleMesh.decryptNetworkPdu suite keys.encKey keys.privKey keys.nid (iviNid :: rest)
      keys.ivIndex ≠ .error .indexError ∧
    ∀ netPdu, TuyaBleMesh.decryptNetworkPdu suite keys.encKey keys.privKey keys.nid
      (iviNid :: rest) keys.ivIndex ≠ .ok (some netPdu) := by
  by_cases tiny : (iviNid :: rest).length < 10
  · rw [TuyaBleMesh.decryptNetworkPdu_foreign suite keys (.inl tiny)]
    exact ⟨by rintro ⟨⟩, fun _ => by rintro ⟨⟩⟩
  · have part : (iviNid :: rest).length < 14 := Nat.succ_lt_succ short
    obtain ⟨msg, raised⟩ :=
      TuyaBleMesh.decryptNetworkPdu_short suite keys (Nat.not_lt.mp tiny) part nid
    rw [raised]
    exact ⟨by rintro ⟨⟩, fun _ => by rintro ⟨⟩⟩

/-- The library receives the response as well. -/
def Responds (suite : CipherSuite) (data : Bytes) (response : Response) : Prop :=
  response.msg = formatStatusResponse response.opcode response.params ∧
    ∃ netPdu, Opens keys suite data netPdu ∧ netPdu.ctl = 0 ∧
      receive suite keys data = .access netPdu.src response.opcode response.params

/-- What accounts for a result of the script: its response, and what it raises. -/
structure Accounts (result : Except PyError (Option Response)) (responds : Response → Prop)
    (underruns overruns : Prop) : Prop where
  response : ∀ response, result = .ok (some response) ↔ responds response
  valueError : result = .error .valueError ↔ underruns
  indexError : result = .error .indexError ↔ overruns
  errors : ∀ error, result = .error error → error = .valueError ∨ error = .indexError

namespace Accounts

variable {responds : Response → Prop} {underruns overruns : Prop}

theorem nothing (silent : ∀ response, ¬responds response) (filled : ¬underruns)
    (whole : ¬overruns) : Accounts (.ok none) responds underruns overruns where
  response response := iff_of_false (by rintro ⟨⟩) (silent response)
  valueError := iff_of_false (by rintro ⟨⟩) filled
  indexError := iff_of_false (by rintro ⟨⟩) whole
  errors error := by rintro ⟨⟩

theorem underrun (silent : ∀ response, ¬responds response) (short : underruns)
    (whole : ¬overruns) : Accounts (.error .valueError) responds underruns overruns where
  response response := iff_of_false (by rintro ⟨⟩) (silent response)
  valueError := iff_of_true rfl short
  indexError := iff_of_false (by rintro ⟨⟩) whole
  errors error raised := .inl (Except.error.inj raised).symm

theorem overrun (silent : ∀ response, ¬responds response) (filled : ¬underruns)
    (part : overruns) : Accounts (.error .indexError) responds underruns overruns where
  response response := iff_of_false (by rintro ⟨⟩) (silent response)
  valueError := iff_of_false (by rintro ⟨⟩) filled
  indexError := iff_of_true rfl part
  errors error raised := .inr (Except.error.inj raised).symm

end Accounts

theorem not_responds {suite : CipherSuite} {data : Bytes}
    (unopened : ∀ netPdu, ¬Opens keys suite data netPdu) (response : Response) :
    ¬Responds keys suite data response := by
  rintro ⟨-, netPdu, opened, -⟩
  exact unopened netPdu opened

section Payload

variable {first iviNid : UInt8} {rest : Bytes} (network : first.toNat &&& 0x3F = 0)

include network

/-- There is no response, and nothing is missing, where the library opens nothing and does not run
past the end. -/
theorem unopened_cons (noIndexError : TuyaBleMesh.decryptNetworkPdu suite keys.encKey keys.privKey
      keys.nid (iviNid :: rest) keys.ivIndex ≠ .error .indexError)
    (unopened : ∀ netPdu, TuyaBleMesh.decryptNetworkPdu suite keys.encKey keys.privKey keys.nid
      (iviNid :: rest) keys.ivIndex ≠ .ok (some netPdu)) :
    (∀ response, ¬Responds keys suite (first :: iviNid :: rest) response) ∧
      ¬Overruns keys suite (first :: iviNid :: rest) := by
  constructor
  · exact not_responds keys fun netPdu opened =>
      unopened netPdu ((opens_cons suite keys network netPdu).mp opened)
  · rw [overruns_cons suite keys network]
    rintro (empty | raised | ⟨netPdu, opened, -⟩)
    · cases empty
    · exact noIndexError raised
    · exact unopened netPdu opened

/-- The network PDU that both decrypt. -/
theorem onNetwork_accounts (plain : PlainKeys keys) {netPdu : NetworkPDU}
    (library : TuyaBleMesh.decryptNetworkPdu lib.toCipherSuite keys.encKey keys.privKey keys.nid
      (iviNid :: rest) keys.ivIndex = .ok (some netPdu))
    (filled : ¬Underruns keys (first :: iviNid :: rest)) :
    Accounts (onNetwork lib keys netPdu)
      (Responds keys lib.toCipherSuite (first :: iviNid :: rest))
      (Underruns keys (first :: iviNid :: rest))
      (Overruns keys lib.toCipherSuite (first :: iviNid :: rest)) := by
  obtain ⟨seq_lt, src_lt, dst_lt⟩ := decryptNetworkPdu_inRange lib.toCipherSuite keys library
  have opens : ∀ netPdu, Opens keys lib.toCipherSuite (first :: iviNid :: rest) netPdu ↔ _ :=
    opens_cons lib.toCipherSuite keys network
  have opened := (opens netPdu).mpr library
  have only : ∀ netPdu', Opens keys lib.toCipherSuite (first :: iviNid :: rest) netPdu' →
      netPdu' = netPdu := fun netPdu' opened' =>
    Option.some.inj (Except.ok.inj (((opens netPdu').mp opened').symm.trans library))
  have errors := onNetwork_error lib keys plain seq_lt src_lt dst_lt
  constructor
  · intro response
    rw [onNetwork_response lib keys plain seq_lt src_lt dst_lt, Responds, receive_of_opens opened]
    constructor
    · rintro ⟨text, access, received⟩
      exact ⟨text, netPdu, opened, access, received⟩
    · rintro ⟨text, netPdu', opened', access, received⟩
      cases only netPdu' opened'
      exact ⟨text, access, received⟩
  · refine iff_of_false ?_ filled
    rw [errors]
    rintro ⟨⟨⟩, -⟩
  · rw [errors, overruns_cons lib.toCipherSuite keys network, library]
    constructor
    · rintro ⟨-, access, headless⟩
      exact .inr (.inr ⟨netPdu, rfl, access, headless⟩)
    · rintro (empty | raised | ⟨netPdu', same, access, headless⟩)
      · cases empty
      · cases raised
      · cases same
        exact ⟨rfl, access, headless⟩
  · exact fun error raised => .inr ((errors error).mp raised).1

/-- A network PDU that fills the privacy block. -/
theorem onLong_accounts (plain : PlainKeys keys) (nid : iviNid.toNat &&& 0x7F = keys.nid)
    (long : 13 ≤ rest.length) :
    Accounts (decryptNetworkPdu lib keys.encKey keys.privKey keys.nid (iviNid :: rest)
        keys.ivIndex >>= fun
          | none => .ok none
          | some netPdu => onNetwork lib keys netPdu)
      (Responds keys lib.toCipherSuite (first :: iviNid :: rest))
      (Underruns keys (first :: iviNid :: rest))
      (Overruns keys lib.toCipherSuite (first :: iviNid :: rest)) := by
  have filled : ¬Underruns keys (first :: iviNid :: rest) := by
    rintro ⟨_, _, _, ⟨⟩, -, -, short⟩
    exact Nat.not_lt.mpr long short
  rw [decryptNetworkPdu_agree lib keys long nid]
  cases library : TuyaBleMesh.decryptNetworkPdu lib.toCipherSuite keys.encKey keys.privKey keys.nid
      (iviNid :: rest) keys.ivIndex with
  | error error =>
    have whole : 14 ≤ (iviNid :: rest).length := Nat.succ_le_succ long
    cases library_raises lib.toCipherSuite keys whole library
    refine .overrun (not_responds keys fun netPdu opened => ?_) filled ?_
    · cases library.symm.trans ((opens_cons lib.toCipherSuite keys network netPdu).mp opened)
    · exact (overruns_cons lib.toCipherSuite keys network).mpr (.inr (.inl library))
  | ok decrypted =>
    cases decrypted with
    | none =>
      obtain ⟨silent, whole⟩ := unopened_cons lib.toCipherSuite keys network
        (by rw [library]; rintro ⟨⟩) (fun netPdu => by rw [library]; rintro ⟨⟩)
      exact .nothing silent filled whole
    | some netPdu => exact onNetwork_accounts lib keys network plain library filled

end Payload

theorem onNotify_accounts (plain : PlainKeys keys) (data : Bytes) :
    Accounts (onNotify lib keys data) (Responds keys lib.toCipherSuite data)
      (Underruns keys data) (Overruns keys lib.toCipherSuite data) := by
  cases data with
  | nil =>
    refine .overrun (not_responds keys ?_) ?_ (.inl rfl)
    · rintro netPdu ⟨_, _, ⟨⟩, -⟩
    · rintro ⟨_, _, _, ⟨⟩, -⟩
  | cons first payload =>
    rw [onNotify_cons]
    by_cases network : first.toNat &&& 0x3F = 0
    · rw [if_neg (not_not.mpr network)]
      cases payload with
      | nil =>
        have none : TuyaBleMesh.decryptNetworkPdu lib.toCipherSuite keys.encKey keys.privKey keys.nid
            [] keys.ivIndex = .ok none :=
          TuyaBleMesh.decryptNetworkPdu_foreign lib.toCipherSuite keys (.inl (by decide))
        refine .overrun (not_responds keys fun netPdu opened => ?_) ?_
          (.inr (.inl ⟨first, rfl, network⟩))
        · cases none.symm.trans ((opens_cons lib.toCipherSuite keys network netPdu).mp opened)
        · rintro ⟨_, _, _, ⟨⟩, -⟩
      | cons iviNid rest =>
        by_cases nid : iviNid.toNat &&& 0x7F = keys.nid
        · by_cases short : rest.length < 13
          · obtain ⟨noIndexError, unopened⟩ := library_unread lib.toCipherSuite keys nid short
            obtain ⟨silent, whole⟩ :=
              unopened_cons lib.toCipherSuite keys network noIndexError unopened
            rw [decryptNetworkPdu_short lib keys nid short]
            exact .underrun silent ⟨first, iviNid, rest, rfl, network, nid, short⟩ whole
          · exact onLong_accounts lib keys network plain nid (Nat.not_lt.mp short)
        · have none : TuyaBleMesh.decryptNetworkPdu lib.toCipherSuite keys.encKey keys.privKey
              keys.nid (iviNid :: rest) keys.ivIndex = .ok none :=
            TuyaBleMesh.decryptNetworkPdu_foreign lib.toCipherSuite keys (.inr nid)
          obtain ⟨silent, whole⟩ := unopened_cons lib.toCipherSuite keys network
            (by rw [none]; rintro ⟨⟩) (fun netPdu => by rw [none]; rintro ⟨⟩)
          rw [decryptNetworkPdu_foreign lib keys nid]
          refine .nothing silent ?_ whole
          rintro ⟨_, _, _, ⟨⟩, -, nid', -⟩
          exact nid nid'
    · -- the proxy PDU is of another type
      rw [if_pos network]
      refine .nothing (not_responds keys ?_) ?_ ?_
      · rintro netPdu ⟨_, _, ⟨⟩, network', -⟩
        exact network network'
      · rintro ⟨_, _, _, ⟨⟩, network', -⟩
        exact network network'
      · rintro (empty | ⟨_, ⟨⟩, network'⟩ | ⟨_, _, ⟨⟩, network', -⟩ |
          ⟨netPdu, ⟨_, _, ⟨⟩, network', -⟩, -⟩)
        · cases empty
        · exact network network'
        · exact network network'
        · exact network network'

/-- Whatever comes in: the script collects a response exactly when the library receives that
access message from an access PDU, in a proxy PDU of the network type, and raises exactly where
a part is missing. -/
theorem onNotify_agree (plain : PlainKeys keys) (data : Bytes) :
    (∀ response, onNotify lib keys data = .ok (some response) ↔
      response.msg = formatStatusResponse response.opcode response.params ∧
        ∃ netPdu, Opens keys lib.toCipherSuite data netPdu ∧ netPdu.ctl = 0 ∧
          receive lib.toCipherSuite keys data =
            .access netPdu.src response.opcode response.params) ∧
    (onNotify lib keys data = .error .valueError ↔ Underruns keys data) ∧
    (onNotify lib keys data = .error .indexError ↔ Overruns keys lib.toCipherSuite data) ∧
    ∀ error, onNotify lib keys data = .error error → error = .valueError ∨ error = .indexError := by
  have accounts := onNotify_accounts lib keys plain data
  exact ⟨accounts.response, accounts.valueError, accounts.indexError, accounts.errors⟩

def sampleLibrary : CipherLibrary where
  toCipherSuite := nonceTagSuite
  aesLong _ plaintext := plaintext
  ccmEncryptLong _ _ _ plaintext := plaintext
  ccmDecryptLong _ _ _ data := some data

instance : LawfulCcm sampleLibrary.toCipherSuite := inferInstanceAs (LawfulCcm nonceTagSuite)

theorem sampleKeys_plain : PlainKeys sampleKeys := by
  intro akf key selected
  unfold MeshKeys.accessKey at selected
  split at selected <;> cases selected <;> decide

/-- A Generic OnOff Status from the node 0xB0. -/
def sampleStatus : Bytes :=
  [0x00, 0xAA, 0x04, 0xAB, 0xCD, 0xEF, 0x00, 0xB0, 0x00, 0x01, 0x66, 0x82, 0x04, 0x01, 0xAB, 0xCD,
    0xEF, 0x00, 0xAB, 0xCD, 0xEF, 0x00]

theorem onNotify_agree_status :
    onNotify sampleLibrary sampleKeys sampleStatus =
      .ok (some ⟨0x8204, [0x01], "OnOff Status: ON"⟩) ∧
    ∃ netPdu, Opens sampleKeys nonceTagSuite sampleStatus netPdu ∧ netPdu.ctl = 0 ∧
      receive nonceTagSuite sampleKeys sampleStatus = .access netPdu.src 0x8204 [0x01] := by
  have script : onNotify sampleLibrary sampleKeys sampleStatus =
      .ok (some ⟨0x8204, [0x01], "OnOff Status: ON"⟩) := by decide +kernel
  have agree := onNotify_agree sampleLibrary sampleKeys sampleKeys_plain sampleStatus
  exact ⟨script, ((agree.1 _).mp script).2⟩

end MeshProxyCmd

end TuyaBleMesh
