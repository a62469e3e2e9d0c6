import Mathlib.Data.List.Forall2
import TuyaBleMesh.Lib.Program
import TuyaBleMesh.Mesh.SegmentLayout
import TuyaBleMesh.MeshProxyCmd.Receive

/-!
# Sending from the script

`ProxySession.send` and `next_seq`. A message takes its sequence numbers from the file
`SEQ_FILE` and writes the number behind them there before the first frame goes out.
-/

namespace TuyaBleMesh

open Bytes

namespace MeshProxyCmd

/-! ### The calls of a session -/

inductive SessionOp
  /-- `SEQ_FILE.exists()`, and `data["seq"]` if it does. -/
  | readSeq
  | writeSeq (seq : Nat)
  | startNotify
  | writeGattChar (pdu : Bytes)
  | sleep
  deriving DecidableEq

/-- `none` is a file that does not exist. -/
abbrev SessionOp.Answer : SessionOp → Type
  | .readSeq => Except PyError (Option Nat)
  | .writeSeq _ => Except PyError Unit
  | .startNotify => Except PyError Unit
  | .writeGattChar _ => Except PyError Unit
  | .sleep => Except PyError Unit

abbrev Session (α : Type) := Program SessionOp.Answer PyError α

namespace Session

def readSeq : Session (Option Nat) := .call .readSeq .done
def writeSeq (seq : Nat) : Session Unit := .call (.writeSeq seq) .done
def startNotify : Session Unit := .call .startNotify .done
def writeGattChar (pdu : Bytes) : Session Unit := .call (.writeGattChar pdu) .done
def sleep : Session Unit := .call .sleep .done

end Session

open Session

/-- `next_seq`. -/
def nextSeq (count : Nat) : Session Nat := do
  let stored ← readSeq
  let seq := stored.getD 500
  writeSeq (seq + count)
  return seq

/-! ### Messages -/

/-- The arguments of `send`. -/
structure Message where
  dst : Nat
  accessPayload : Bytes
  useDevKey : Bool
  deriving DecidableEq, Repr

section Send

variable (lib : CipherLibrary) (keys : MeshKeys) (ourAddr : Nat)

/-- The proxy PDU for a transport PDU. -/
def frame (dst : Nat) : Nat × Bytes → Except PyError Bytes
  | (seq, transportPdu) => do
    let fields : NetworkPDU := { ctl := 0, ttl := 4, seq, src := ourAddr, dst, transportPdu }
    let networkPdu ← encryptNetworkPdu lib keys.encKey keys.privKey keys.nid fields keys.ivIndex
    return makeProxyPdu networkPdu

/-- One pass of the loop over the segments. -/
def sendSegment (dst : Nat) (segment : Nat × Bytes) : Session Unit := do
  let pdu ← (frame lib keys ourAddr dst segment : Except PyError Bytes)
  writeGattChar pdu
  sleep

/-- `send`, once the script has subscribed. -/
def sendMessage (message : Message) (key : Bytes) : Session Unit := do
  let akf := if message.useDevKey then 0 else 1
  let aid := if message.useDevKey then 0 else keys.aid
  if message.accessPayload.length > MAX_UNSEG_ACCESS_PAYLOAD then
    let upperLen := message.accessPayload.length + 4
    let seq ← nextSeq ((upperLen + SEG_DATA_SIZE - 1) / SEG_DATA_SIZE)
    let segments ← (makeAccessSegmented lib key ourAddr message.dst seq keys.ivIndex
      message.accessPayload akf aid 0 : Except PyError _)
    segments.forM (sendSegment lib keys ourAddr message.dst)
  else
    let seq ← nextSeq 1
    let transportPdu ← (makeAccessUnsegmented lib key ourAddr message.dst seq keys.ivIndex
      message.accessPayload akf aid : Except PyError _)
    let pdu ← (frame lib keys ourAddr message.dst (seq, transportPdu) : Except PyError _)
    writeGattChar pdu
  -- the time in which responses are collected
  sleep

/-- `send`; `subscribed` is the attribute `_subscribed`. -/
def send (subscribed : Bool) (message : Message) : Session Unit :=
  let key := if message.useDevKey then some keys.devKey else keys.appKey
  match key with
  -- "ERROR: Required key not available"
  | none => pure ()
  | some key => do
    if subscribed then pure () else startNotify
    sendMessage lib keys ourAddr message key

/-- The messages of one run of the script; an exception ends it. -/
def sendAll : (subscribed : Bool) → List Message → Session Unit
  | _, [] => pure ()
  | subscribed, message :: rest => do
    send lib keys ourAddr subscribed message
    -- without a key nothing was subscribed to
    sendAll (subscribed || message.useDevKey || keys.appKey.isSome) rest

end Send

/-! ### The PDUs of the library -/

section Library

variable (suite : CipherSuite) (keys : MeshKeys) (ourAddr : Nat)

/-- The key that a message is sent under, if there is one. -/
def Message.key (message : Message) : Option Bytes :=
  if message.useDevKey then some keys.devKey else keys.appKey

/-- How many numbers a message takes. -/
def Message.count (message : Message) : Nat :=
  if message.accessPayload.length > MAX_UNSEG_ACCESS_PAYLOAD then
    (message.accessPayload.length + 4 + SEG_DATA_SIZE - 1) / SEG_DATA_SIZE
  else 1

/-- The transport PDUs that the library makes of a message, with their numbers. -/
def Message.transportPdus (message : Message) (key : Bytes) (seq : Nat) :
    Except PyError (List (Nat × Bytes)) :=
  let akf := if message.useDevKey then 0 else 1
  let aid := if message.useDevKey then 0 else keys.aid
  if message.accessPayload.length > MAX_UNSEG_ACCESS_PAYLOAD then
    TuyaBleMesh.makeAccessSegmented suite key ourAddr message.dst seq keys.ivIndex
      message.accessPayload akf aid 0
  else do
    let transportPdu ← TuyaBleMesh.makeAccessUnsegmented suite key ourAddr message.dst seq
      keys.ivIndex message.accessPayload akf aid
    return [(seq, transportPdu)]

/-- The proxy PDU that the library makes of a transport PDU. -/
def libraryFrame (dst : Nat) (segment : Nat × Bytes) : Except PyError Bytes := do
  let fields : NetworkPDU :=
    { ctl := 0, ttl := 4, seq := segment.1, src := ourAddr, dst, transportPdu := segment.2 }
  let networkPdu ← TuyaBleMesh.encryptNetworkPdu suite keys.encKey keys.privKey keys.nid fields
    keys.ivIndex
  return TuyaBleMesh.makeProxyPdu networkPdu

/-- What the library would write for a message whose numbers start at `seq`. -/
def Message.frames (message : Message) (seq : Nat) : List (Nat × Except PyError Bytes) :=
  match message.key keys with
  | none => []
  | some key =>
    match message.transportPdus suite keys ourAddr key seq with
    | .error _ => []
    | .ok segments => segments.map fun segment =>
        (segment.1, libraryFrame suite keys ourAddr message.dst segment)

variable {suite keys ourAddr} in
theorem Message.frames_eq {message : Message} {key : Bytes} {seq : Nat}
    {segments : List (Nat × Bytes)} (under : message.key keys = some key)
    (made : message.transportPdus suite keys ourAddr key seq = .ok segments) :
    message.frames suite keys ourAddr seq = segments.map fun segment =>
      (segment.1, libraryFrame suite keys ourAddr message.dst segment) := by
  simp only [Message.frames, under, made]

end Library

section Agreement

variable (lib : CipherLibrary) (keys : MeshKeys) (ourAddr : Nat)

theorem meshAesCcmEncrypt_agree {key : Bytes} {micLen : Nat}
    (validKey : key.length = _AES_BLOCK_SIZE) (valid : micLen = 4 ∨ micLen = 8)
    (nonce payload : Bytes) :
    meshAesCcmEncrypt lib key nonce payload micLen =
      .ok (lib.ccmEncrypt ⟨key, validKey⟩ micLen nonce payload) ∧
    TuyaBleMesh.meshAesCcmEncrypt lib.toCipherSuite key nonce payload micLen =
      .ok (lib.ccmEncrypt ⟨key, validKey⟩ micLen nonce payload) := by
  constructor
  · rw [meshAesCcmEncrypt, keyed_valid lib validKey]
    rfl
  · rw [TuyaBleMesh.meshAesCcmEncrypt, validateKey_ok validKey]
    exact if_pos valid

theorem ctlTtl_lt (ctl ttl : Nat) : ((ctl &&& 1) <<< 7) ||| (ttl &&& 0x7F) < 256 := by
  have low : ttl &&& 0x7F < 2 ^ 7 := Nat.and_lt_two_pow ttl (by decide)
  have bit : ctl &&& 1 ≤ 1 := Nat.and_le_right
  rw [Bytes.shiftLeft_or _ _ 7 low]
  omega

theorem iviNid_lt (ivIndex nid : Nat) : ((ivIndex &&& 1) <<< 7) ||| (nid &&& 0x7F) < 256 :=
  ctlTtl_lt ivIndex nid

/-- The same PDU, and the same error for a number that does not fit its field. -/
theorem encryptNetworkPdu_agree [LawfulCcm lib.toCipherSuite] {fields : NetworkPDU}
    (some : fields.transportPdu ≠ []) :
    encryptNetworkPdu lib keys.encKey keys.privKey keys.nid fields keys.ivIndex =
      TuyaBleMesh.encryptNetworkPdu lib.toCipherSuite keys.encKey keys.privKey keys.nid fields
        keys.ivIndex := by
  unfold encryptNetworkPdu TuyaBleMesh.encryptNetworkPdu
  simp only [MESH_CTL_SHIFT, MESH_TTL_MASK, MESH_IVI_SHIFT, MESH_NID_MASK, makeNetworkNonce]
  have first_lt := ctlTtl_lt fields.ctl fields.ttl
  generalize ((fields.ctl &&& 1) <<< 7) ||| (fields.ttl &&& 0x7F) = ctlTtl at first_lt ⊢
  by_cases seq_lt : fields.seq < 256 ^ 4
  · by_cases src_lt : fields.src < 256 ^ 2
    · by_cases dst_lt : fields.dst < 256 ^ 2
      · have valid : (if fields.ctl ≠ 0 then MIC_LEN_CONTROL else MIC_LEN_ACCESS) = 4 ∨
            (if fields.ctl ≠ 0 then MIC_LEN_CONTROL else MIC_LEN_ACCESS) = 8 :=
          micLen_valid fields.ctl
        have nonce := makeNetworkNonce_ok first_lt seq_lt src_lt keys.ivIndex_lt
        have agree := meshAesCcmEncrypt_agree lib keys.encKey_length valid
          (networkNonce ctlTtl fields.seq fields.src keys.ivIndex)
          (Bytes.beBytes 2 fields.dst ++ fields.transportPdu)
        have size : (lib.ccmEncrypt ⟨keys.encKey, keys.encKey_length⟩
              (if fields.ctl ≠ 0 then MIC_LEN_CONTROL else MIC_LEN_ACCESS)
              (networkNonce ctlTtl fields.seq fields.src keys.ivIndex)
              (Bytes.beBytes 2 fields.dst ++ fields.transportPdu)).length =
            (Bytes.beBytes 2 fields.dst ++ fields.transportPdu).length +
              if fields.ctl ≠ 0 then MIC_LEN_CONTROL else MIC_LEN_ACCESS :=
          LawfulCcm.encrypt_length _ _ _ _
            (networkNonce_parameters valid ctlTtl fields.seq fields.src keys.ivIndex)
        have micLen : (if fields.ctl ≠ 0 then 8 else 4) =
            if fields.ctl ≠ 0 then MIC_LEN_CONTROL else MIC_LEN_ACCESS := rfl
        generalize lib.ccmEncrypt ⟨keys.encKey, keys.encKey_length⟩ _ _ _ = encrypted at agree size
        have long : 7 ≤ encrypted.length := by
          have payload := List.length_pos_iff.mpr some
          rw [size, List.length_append, Bytes.beBytes_length]
          omega
        have whole := pecbInput_length keys.ivIndex long
        have six (iviNid : UInt8) : ((([iviNid, UInt8.ofNat ctlTtl] ++
            (Bytes.beBytes 4 fields.seq).drop 1 ++ Bytes.beBytes 2 fields.src).drop 1).take 6).length
              = 6 := rfl
        have mask (block : Block) : (block.val.take 6).length = 6 := by
          rw [List.length_take, block.property]
          rfl
        simp only [micLen, nonce, packBE_ok dst_lt, agree.1, agree.2, byteOf_ok first_lt,
          byteOf_ok (ctlTtl_lt keys.ivIndex keys.nid), packBE_ok seq_lt, packBE_ok src_lt,
          packBE_ok keys.ivIndex_lt, ecb_block lib keys.privKey_length whole,
          aesEcb_ok lib.toCipherSuite keys.privKey_length whole, xor_six (six _) (mask _), bind,
          Except.bind, pure, Except.pure]
      · have raised : packBE 2 fields.dst = .error .structError := if_neg dst_lt
        have nonce := makeNetworkNonce_ok first_lt seq_lt src_lt keys.ivIndex_lt
        simp only [nonce, raised, bind, Except.bind]
    · have raised : packBE 2 fields.src = .error .structError := if_neg src_lt
      simp only [TuyaBleMesh.makeNetworkNonce, byteOf_ok first_lt, packBE_ok seq_lt, raised, bind,
        Except.bind]
  · have raised : packBE 4 fields.seq = .error .structError := if_neg seq_lt
    simp only [TuyaBleMesh.makeNetworkNonce, byteOf_ok first_lt, raised, bind, Except.bind]

theorem makeAccessUnsegmented_agree {key : Bytes} (validKey : key.length = _AES_BLOCK_SIZE)
    (src dst seq ivIndex : Nat) {accessPayload : Bytes}
    (short : accessPayload.length ≤ MAX_UNSEG_ACCESS_PAYLOAD) (akf aid : Nat) :
    makeAccessUnsegmented lib key src dst seq ivIndex accessPayload akf aid =
      TuyaBleMesh.makeAccessUnsegmented lib.toCipherSuite key src dst seq ivIndex accessPayload akf
        aid := by
  have same (nonce : Bytes) : meshAesCcmEncrypt lib key nonce accessPayload 4 =
      TuyaBleMesh.meshAesCcmEncrypt lib.toCipherSuite key nonce accessPayload MIC_LEN_ACCESS := by
    obtain ⟨script, library⟩ := meshAesCcmEncrypt_agree lib validKey (.inl rfl) nonce accessPayload
    exact script.trans library.symm
  rw [TuyaBleMesh.makeAccessUnsegmented, if_neg (Nat.not_lt.mpr short), makeAccessUnsegmented]
  simp only [makeAppNonce, same]
  rfl

theorem makeAccessSegmented_agree {key : Bytes} (validKey : key.length = _AES_BLOCK_SIZE)
    (src dst seqStart ivIndex : Nat) (accessPayload : Bytes) (akf aid szmic : Nat) :
    makeAccessSegmented lib key src dst seqStart ivIndex accessPayload akf aid szmic =
      TuyaBleMesh.makeAccessSegmented lib.toCipherSuite key src dst seqStart ivIndex accessPayload
        akf aid szmic := by
  have valid : (if szmic ≠ 0 then MIC_LEN_CONTROL else MIC_LEN_ACCESS) = 4 ∨
      (if szmic ≠ 0 then MIC_LEN_CONTROL else MIC_LEN_ACCESS) = 8 := micLen_valid szmic
  have micLen : (if szmic ≠ 0 then 8 else 4) =
      if szmic ≠ 0 then MIC_LEN_CONTROL else MIC_LEN_ACCESS := rfl
  rw [TuyaBleMesh.makeAccessSegmented, makeAccessSegmented, micLen]
  generalize (if szmic ≠ 0 then MIC_LEN_CONTROL else MIC_LEN_ACCESS) = micLen at valid ⊢
  have same (nonce : Bytes) : meshAesCcmEncrypt lib key nonce accessPayload micLen =
      TuyaBleMesh.meshAesCcmEncrypt lib.toCipherSuite key nonce accessPayload micLen := by
    obtain ⟨script, library⟩ := meshAesCcmEncrypt_agree lib validKey valid nonce accessPayload
    exact script.trans library.symm
  simp only [makeAppNonce, makeSegment, same]

/-- The script makes the frames of the library. -/
theorem frame_agree [LawfulCcm lib.toCipherSuite] (dst : Nat) {segment : Nat × Bytes}
    (some : segment.2 ≠ []) :
    frame lib keys ourAddr dst segment = libraryFrame lib.toCipherSuite keys ourAddr dst segment := by
  let fields : NetworkPDU :=
    { ctl := 0, ttl := 4, seq := segment.1, src := ourAddr, dst, transportPdu := segment.2 }
  have same := encryptNetworkPdu_agree lib keys (show fields.transportPdu ≠ [] from some)
  simp only [frame, libraryFrame, makeProxyPdu]
  rw [same]

end Agreement

/-! ### The numbers of the PDUs -/

/-- The results of a loop, with what each of them has been computed from. -/
theorem forall₂_of_mapM {α β : Type} {f : α → Except PyError β} {xs : List α} {ys : List β}
    (mapped : xs.mapM f = .ok ys) : List.Forall₂ (fun x y => f x = .ok y) xs ys := by
  induction xs generalizing ys with
  | nil =>
    rw [List.mapM_nil] at mapped
    cases mapped
    exact .nil
  | cons x xs ih =>
    rw [List.mapM_cons] at mapped
    obtain ⟨y, first, rest⟩ := bind_eq_ok.mp mapped
    obtain ⟨ys', others, whole⟩ := bind_eq_ok.mp rest
    cases whole
    exact .cons first (ih others)

theorem makeSegment_eq_ok {upper : Bytes} {akf aid szmic seqStart segN segO : Nat}
    {segment : Nat × Bytes}
    (made : TuyaBleMesh.makeSegment upper akf aid szmic seqStart segN segO = .ok segment) :
    segment.1 = seqStart + segO ∧ segment.2 ≠ [] := by
  obtain ⟨hdr, _, made⟩ := bind_eq_ok.mp made
  obtain ⟨info, _, made⟩ := bind_eq_ok.mp made
  cases made
  exact ⟨rfl, List.cons_ne_nil _ _⟩

section Numbers

variable {suite : CipherSuite} {keys : MeshKeys} {ourAddr : Nat} {message : Message} {key : Bytes}
  {seq : Nat} {segments : List (Nat × Bytes)}

/-- The PDUs of a message have the numbers that it takes, in their order, and none is empty. -/
theorem Message.transportPdus_numbers [LawfulCcm suite]
    (made : message.transportPdus suite keys ourAddr key seq = .ok segments) :
    segments.map Prod.fst = List.range' seq message.count ∧
      ∀ segment ∈ segments, segment.2 ≠ [] := by
  unfold Message.count
  by_cases long : message.accessPayload.length > MAX_UNSEG_ACCESS_PAYLOAD
  · simp only [Message.transportPdus, if_pos long] at made
    rw [if_pos long]
    let t : Transmission := {
      key
      src := ourAddr
      dst := message.dst
      seqStart := seq
      payload := message.accessPayload
      akf := if message.useDevKey then 0 else 1
      aid := if message.useDevKey then 0 else keys.aid
      szmic := 0 }
    replace made : t.make suite keys.ivIndex = .ok segments := made
    obtain ⟨upper, encrypted⟩ := Transmission.encryptedUpper_of_make made
    rw [Transmission.make_eq encrypted, Transmission.count_eq encrypted] at made
    have related := forall₂_of_mapM made
    have count : t.segments = (message.accessPayload.length + 4 + SEG_DATA_SIZE - 1) / SEG_DATA_SIZE :=
      rfl
    constructor
    · have numbers : segments.map Prod.fst = (List.range t.segments).map fun i => seq + i := by
        refine (List.forall₂_eq_eq_eq ▸ (List.forall₂_map_left_iff.mpr
          (List.forall₂_map_right_iff.mpr ?_))).symm
        exact related.imp fun i segment made => (makeSegment_eq_ok made).1.symm
      rw [numbers, List.range_eq_range', List.map_add_range', count, Nat.add_zero]
    · have each := List.Forall₂.flip (related.imp fun i segment made =>
        And.intro (makeSegment_eq_ok made).2 made)
      exact ((List.forall₂_and_left _ _).mp each).1
  · simp only [Message.transportPdus, if_neg long] at made
    rw [if_neg long]
    obtain ⟨transportPdu, single, rest⟩ := bind_eq_ok.mp made
    cases rest
    refine ⟨rfl, fun segment member => ?_⟩
    cases List.mem_singleton.mp member
    unfold TuyaBleMesh.makeAccessUnsegmented at single
    rw [if_neg long] at single
    obtain ⟨nonce, _, single⟩ := bind_eq_ok.mp single
    obtain ⟨encrypted, _, single⟩ := bind_eq_ok.mp single
    obtain ⟨hdr, _, single⟩ := bind_eq_ok.mp single
    cases single
    exact List.cons_ne_nil _ _

end Numbers

end MeshProxyCmd

end TuyaBleMesh
