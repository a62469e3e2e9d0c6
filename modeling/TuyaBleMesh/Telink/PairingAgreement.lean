import TuyaBleMesh.Telink.Decode
import TuyaBleMesh.Telink.Pairing

/-!
# The two sides of a pairing

A device that follows `docs/PROTOCOL.md`, sections 7.2 to 7.4 and 10, behind a link on
which any call may fail, before or after it has reached the device.
-/

namespace TuyaBleMesh

namespace Telink

/-- AES with the function that decrypts. -/
class InvertibleAes (suite : CipherSuite) where
  decrypt (key : Block) (ciphertext : Block) : Block
  decrypt_aes : ∀ key plaintext, decrypt key (suite.aes key plaintext) = plaintext

section Crypto

variable (suite : CipherSuite)

/-- The inverse of `telinkAes`. -/
def telinkDecrypt [InvertibleAes suite] (key ciphertext : Block) : Block :=
  reverseBlock (InvertibleAes.decrypt suite (reverseBlock key) (reverseBlock ciphertext))

theorem reverseBlock_reverseBlock (block : Block) : reverseBlock (reverseBlock block) = block :=
  Subtype.ext (List.reverse_reverse block.val)

theorem telinkDecrypt_telinkAes [InvertibleAes suite] (key : Block) (plaintext : Bytes) :
    telinkDecrypt suite key ⟨telinkAes suite key plaintext, telinkAes_length suite key plaintext⟩ =
      ⟨padToBlock plaintext, padToBlock_length plaintext⟩ := by
  rw [telinkDecrypt]
  have whole : (⟨telinkAes suite key plaintext, telinkAes_length suite key plaintext⟩ : Block) =
      reverseBlock (suite.aes (reverseBlock key)
        (reverseBlock ⟨padToBlock plaintext, padToBlock_length plaintext⟩)) := rfl
  rw [whole, reverseBlock_reverseBlock, InvertibleAes.decrypt_aes, reverseBlock_reverseBlock]

/-- What both sides compute from a name and a password. -/
def secretBlock (meshName meshPassword : Bytes) : Block :=
  ⟨xorNamePassword meshName meshPassword, xorNamePassword_length meshName meshPassword⟩

def paddedBlock (data : Bytes) : Block := ⟨padToBlock data, padToBlock_length data⟩

end Crypto

/-! ### The device -/

structure PairingDevice where
  meshName : Bytes
  meshPassword : Bytes
  /-- 0x01 has been written to characteristic 1911. -/
  enabled : Bool := false
  sessionKey : Option Block := none
  /-- What a read of characteristic 1914 brings. -/
  response : Bytes := []
  /-- The credentials that it was sent, with their opcodes, as it decrypts them. -/
  received : List (UInt8 × Block) := []

namespace PairingDevice

def secret (d : PairingDevice) : Block := secretBlock d.meshName d.meshPassword

variable (suite : CipherSuite) [InvertibleAes suite]

/-- A write to characteristic 1914; `random` is what the device draws for a pairing. -/
def write (d : PairingDevice) (random : { random : Bytes // random.length = _SESSION_RANDOM_SIZE }) :
    Bytes → PairingDevice
  | [] => d
  | opcode :: rest =>
    if opcode = PAIR_OPCODE_REQUEST then
      let clientRandom := rest.take _SESSION_RANDOM_SIZE
      let proof := telinkAes suite (paddedBlock clientRandom) d.secret.val
      if rest.drop _SESSION_RANDOM_SIZE = proof.take _SESSION_RANDOM_SIZE then
        { d with
          sessionKey := some ⟨telinkAes suite d.secret (clientRandom ++ random.val),
            telinkAes_length suite _ _⟩
          response := PAIR_OPCODE_SUCCESS :: random.val }
      else { d with sessionKey := none, response := [PAIR_OPCODE_FAILURE] }
    else if opcode = PAIR_OPCODE_SET_NAME ∨ opcode = PAIR_OPCODE_SET_PASS then
      match d.sessionKey with
      | none => d
      | some key =>
        if whole : rest.length = _AES_BLOCK_SIZE then
          { d with
            received := d.received ++ [(opcode, telinkDecrypt suite key ⟨rest, whole⟩)]
            response := [PAIR_OPCODE_SET_OK] }
        else d
    else d

/-- What happens on the link: a call may fail with an exception of some kind, and a write that does
may have reached the device. -/
inductive Answers (kind : PyError → Bool) :
    PairingDevice → (op : PairingOp) → op.Answer → PairingDevice → Prop
  | random (d : PairingDevice) (random : PairingOp.Answer .random) : Answers kind d .random random d
  | writePairing (d : PairingDevice) (data : Bytes) (random) :
      Answers kind d (.writePairing data) (.ok ()) (d.write suite random data)
  | writePairing_lost (d : PairingDevice) (data : Bytes) {error : PyError} (is : kind error = true) :
      Answers kind d (.writePairing data) (.error error) d
  | writePairing_unanswered (d : PairingDevice) (data : Bytes) (random) {error : PyError}
      (is : kind error = true) :
      Answers kind d (.writePairing data) (.error error) (d.write suite random data)
  | writeStatus (d : PairingDevice) (data : Bytes) :
      Answers kind d (.writeStatus data) (.ok ()) { d with enabled := d.enabled || data = [0x01] }
  | writeStatus_lost (d : PairingDevice) (data : Bytes) {error : PyError} (is : kind error = true) :
      Answers kind d (.writeStatus data) (.error error) d
  | writeStatus_unanswered (d : PairingDevice) (data : Bytes) {error : PyError}
      (is : kind error = true) :
      Answers kind d (.writeStatus data) (.error error)
        { d with enabled := d.enabled || data = [0x01] }
  | readPairing (d : PairingDevice) :
      Answers kind d .readPairing (.ok (if d.enabled then d.response else [])) d
  | readPairing_lost (d : PairingDevice) {error : PyError} (is : kind error = true) :
      Answers kind d .readPairing (.error error) d

end PairingDevice

/-! ### What the controller sends -/

section Controller

variable {suite : CipherSuite}

theorem telinkAesEncrypt_ok (key : Block) (plaintext : Bytes) :
    telinkAesEncrypt suite key.val plaintext = .ok (telinkAes suite key plaintext) := by
  rw [telinkAesEncrypt, validateKey_ok key.property]
  rfl

theorem makePairPacket_ok {meshName meshPassword random : Bytes}
    (sized : random.length = _SESSION_RANDOM_SIZE) :
    makePairPacket suite meshName meshPassword random =
      .ok (0x0C :: random ++ (telinkAes suite (paddedBlock random)
        (secretBlock meshName meshPassword).val).take _SESSION_RANDOM_SIZE) := by
  rw [makePairPacket, if_neg (not_not.mpr sized)]
  simp only [show padToBlock random = (paddedBlock random).val from rfl, telinkAesEncrypt_ok]
  rfl

theorem makeSessionKey_ok {meshName meshPassword clientRandom deviceRandom : Bytes}
    (client : clientRandom.length = _SESSION_RANDOM_SIZE)
    (device : deviceRandom.length = _SESSION_RANDOM_SIZE) :
    makeSessionKey suite meshName meshPassword clientRandom deviceRandom =
      .ok (telinkAes suite (secretBlock meshName meshPassword) (clientRandom ++ deviceRandom)) := by
  rw [makeSessionKey, if_neg (not_not.mpr client), if_neg (not_not.mpr device)]
  exact telinkAesEncrypt_ok (secretBlock meshName meshPassword) _

theorem padToBlock_padToBlock (data : Bytes) : padToBlock (padToBlock data) = padToBlock data := by
  have length := padToBlock_length data
  rw [padToBlock, if_pos (Nat.le_of_eq length.symm), List.take_of_length_le (Nat.le_of_eq length)]

theorem encryptMeshCredential_ok (key : Block) (data : Bytes) :
    encryptMeshCredential suite key.val data = .ok (telinkAes suite key data) := by
  have same : telinkAes suite key (padToBlock data) = telinkAes suite key data := by
    simp only [telinkAes, padToBlock_padToBlock]
  rw [encryptMeshCredential, validateKey_ok key.property, ← same]
  exact telinkAesEncrypt_ok key _

/-- A success brings the eight bytes behind its opcode. -/
theorem parsePairResponse_success {random : Bytes} (sized : random.length = _SESSION_RANDOM_SIZE) :
    parsePairResponse (PAIR_OPCODE_SUCCESS :: random) = .ok ⟨PAIR_OPCODE_SUCCESS, random⟩ := by
  have long : ¬random.length + 1 < _PAIR_SUCCESS_SIZE := by
    rw [sized]
    decide
  have all : random.take 8 = random := List.take_of_length_le (Nat.le_of_eq sized)
  rw [parsePairResponse, if_pos rfl, if_neg long, all]

end Controller

/-! ### Every run -/

section Agreement

variable {suite : CipherSuite} [InvertibleAes suite] {kind : PyError → Bool} {d d' : PairingDevice}

/-- The credentials that are set, in their order. -/
def requestedCredentials (currentName currentPassword : Bytes) (newName newPassword : Option Bytes) :
    List (UInt8 × Block) :=
  if newName.isSome || newPassword.isSome then
    [(PAIR_OPCODE_SET_NAME, paddedBlock (newName.getD currentName)),
      (PAIR_OPCODE_SET_PASS, paddedBlock (newPassword.getD currentPassword))]
  else []

/-- What holds of the device, with its secret, whatever the controller has done so far. -/
structure Safe (secret mine : Block) (requested : List (UInt8 × Block)) (d : PairingDevice) : Prop where
  secret_eq : d.secret = secret
  refused : d.sessionKey = none → d.received = []
  agreed : secret = mine → d.received <+: requested

/-- Nothing has been sent to the device. -/
structure Untouched (secret : Block) (d : PairingDevice) : Prop where
  secret_eq : d.secret = secret
  received : d.received = []

theorem Untouched.safe {secret : Block} (untouched : Untouched secret d) (mine : Block)
    (requested : List (UInt8 × Block)) : Safe secret mine requested d where
  secret_eq := untouched.secret_eq
  refused _ := untouched.received
  agreed _ := untouched.received ▸ List.nil_prefix

/-- The device has seen the pair packet: it has accepted it, or its secret is another one. -/
structure Answered (suite : CipherSuite) (secret mine : Block) (clientRandom : Bytes)
    (d : PairingDevice) : Prop extends Untouched secret d where
  answered : (∃ random : Bytes, random.length = _SESSION_RANDOM_SIZE ∧
      d.response = PAIR_OPCODE_SUCCESS :: random ∧
      d.sessionKey = some ⟨telinkAes suite secret (clientRandom ++ random),
        telinkAes_length suite _ _⟩) ∨
    (d.response = [PAIR_OPCODE_FAILURE] ∧ secret ≠ mine)

theorem write_pairPacket {secret mine : Block} (untouched : Untouched secret d)
    {clientRandom : Bytes} (sized : clientRandom.length = _SESSION_RANDOM_SIZE)
    (random : { random : Bytes // random.length = _SESSION_RANDOM_SIZE }) :
    Answered suite secret mine clientRandom (d.write suite random
      (0x0C :: clientRandom ++ (telinkAes suite (paddedBlock clientRandom) mine.val).take
        _SESSION_RANDOM_SIZE)) := by
  obtain ⟨rfl, received⟩ := untouched
  have front (proof : Bytes) : (clientRandom ++ proof).take _SESSION_RANDOM_SIZE = clientRandom := by
    rw [← sized, List.take_left]
  have back (proof : Bytes) : (clientRandom ++ proof).drop _SESSION_RANDOM_SIZE = proof := by
    rw [← sized, List.drop_left]
  rw [List.cons_append, PairingDevice.write, if_pos (show (0x0C : UInt8) = PAIR_OPCODE_REQUEST from rfl)]
  simp only [front, back]
  split
  · exact ⟨⟨rfl, received⟩, .inl ⟨random.val, random.property, rfl, rfl⟩⟩
  · next refused =>
    exact ⟨⟨rfl, received⟩, .inr ⟨rfl, fun same => refused (by rw [same])⟩⟩

/-- How the handshake ends. -/
def Shaken (kind : PyError → Bool) (secret mine : Block) (d : PairingDevice) :
    Except PyError (Bytes × Bytes) → Prop
  | .ok (key, _) => Untouched secret d ∧ d.enabled = true ∧ ∃ block own : Block, key = block.val ∧
      d.sessionKey = some own ∧ (secret = mine → own = block)
  | .error error => Untouched secret d ∧
      (kind error = true ∨ (secret ≠ mine ∧ error.isProvisioningError = true))

theorem pairHandshake_plays {meshName meshPassword : Bytes} {secret : Block}
    (requested : List (UInt8 × Block)) (untouched : Untouched secret d) :
    (pairHandshake suite meshName meshPassword).Plays (PairingDevice.Answers suite kind)
      (Safe secret (secretBlock meshName meshPassword) requested)
      (Shaken kind secret (secretBlock meshName meshPassword)) d := by
  let mine := secretBlock meshName meshPassword
  have safe {d : PairingDevice} (untouched : Untouched secret d) : Safe secret mine requested d :=
    untouched.safe mine requested
  refine ⟨safe untouched, fun random d₁ drawn => ?_⟩
  cases drawn
  refine Program.plays_ok_bind rfl (Program.plays_ok_bind (makePairPacket_ok random.property) ?_)
  refine ⟨safe untouched, fun written d₁ answered => ?_⟩
  cases answered with
  | writePairing_lost _ is => exact ⟨untouched, .inl is⟩
  | writePairing_unanswered _ drawn is =>
    exact ⟨(write_pairPacket untouched random.property drawn).toUntouched, .inl is⟩
  | writePairing _ drawn =>
    have paired : Answered suite secret mine random.val _ :=
      write_pairPacket untouched random.property drawn
    generalize d.write suite drawn _ = d₁ at paired
    refine ⟨safe paired.toUntouched, fun enabled d₂ answered => ?_⟩
    cases answered with
    | writeStatus_lost _ is => exact ⟨paired.toUntouched, .inl is⟩
    | writeStatus_unanswered _ is => exact ⟨⟨paired.secret_eq, paired.received⟩, .inl is⟩
    | writeStatus =>
      have untouched₂ : Untouched secret { d₁ with enabled := d₁.enabled || [0x01] = [0x01] } :=
        ⟨paired.secret_eq, paired.received⟩
      refine ⟨safe untouched₂, fun read d₃ answered => ?_⟩
      cases answered with
      | readPairing_lost is => exact ⟨untouched₂, .inl is⟩
      | readPairing =>
        simp only [decide_true, Bool.or_true, if_true] at *
        rcases paired.answered with ⟨drawn, sized, response, key⟩ | ⟨response, other⟩
        · have parsed := (congrArg parsePairResponse response).trans (parsePairResponse_success sized)
          refine Program.plays_ok_bind rfl (Program.plays_ok_bind parsed ?_)
          have accepted : PAIR_OPCODE_SUCCESS ≠ PAIR_OPCODE_FAILURE := by decide
          simp only [accepted, if_false, ne_eq, not_true_eq_false]
          refine Program.plays_ok_bind (makeSessionKey_ok random.property sized) ?_
          refine ⟨untouched₂, rfl, ⟨_, telinkAes_length suite _ _⟩, _, rfl, key, fun same => ?_⟩
          rw [same]
        · have parsed : parsePairResponse d₁.response = .ok ⟨PAIR_OPCODE_FAILURE, []⟩ := by
            rw [response]
            rfl
          refine Program.plays_ok_bind rfl (Program.plays_ok_bind parsed ?_)
          exact ⟨untouched₂, .inr ⟨other, rfl⟩⟩

/-- The device after the handshake, with what it has been sent since. -/
structure Entrusted (secret mine block own : Block) (received : List (UInt8 × Block))
    (d : PairingDevice) : Prop where
  secret_eq : d.secret = secret
  enabled : d.enabled = true
  session : d.sessionKey = some own
  agreed : secret = mine → own = block
  received_eq : secret = mine → d.received = received

theorem Entrusted.safe {secret mine block own : Block} {received requested : List (UInt8 × Block)}
    (holding : Entrusted secret mine block own received d) (part : received <+: requested) :
    Safe secret mine requested d where
  secret_eq := holding.secret_eq
  refused none := by cases holding.session.symm.trans none
  agreed same := holding.received_eq same ▸ part

variable (suite) in
/-- A credential arrives as it was sent, and is confirmed. -/
theorem Entrusted.write {secret mine block own : Block} {received : List (UInt8 × Block)}
    (holding : Entrusted secret mine block own received d) {opcode : UInt8}
    (is : opcode = PAIR_OPCODE_SET_NAME ∨ opcode = PAIR_OPCODE_SET_PASS) (data : Bytes)
    (random : { random : Bytes // random.length = _SESSION_RANDOM_SIZE }) :
    Entrusted secret mine block own (received ++ [(opcode, paddedBlock data)])
      (d.write suite random ([opcode] ++ telinkAes suite block data)) ∧
    (d.write suite random ([opcode] ++ telinkAes suite block data)).response = [PAIR_OPCODE_SET_OK] := by
  have other : ¬opcode = PAIR_OPCODE_REQUEST := by rcases is with rfl | rfl <;> decide
  have whole := telinkAes_length suite block data
  simp only [List.singleton_append, PairingDevice.write, if_neg other, if_pos is, holding.session,
    dif_pos whole]
  refine ⟨⟨holding.secret_eq, holding.enabled, rfl, holding.agreed, fun same => ?_⟩, trivial⟩
  rw [holding.agreed same, telinkDecrypt_telinkAes, holding.received_eq same]
  rfl

/-- How the credentials end. -/
def Written (kind : PyError → Bool) (secret mine block own : Block)
    (requested : List (UInt8 × Block)) (d : PairingDevice) : Except PyError Unit → Prop
  | .ok _ => Entrusted secret mine block own requested d
  | .error error => Safe secret mine requested d ∧ kind error = true

theorem setMeshCredentials_plays {secret mine block own : Block}
    (holding : Entrusted secret mine block own [] d) (newName newPassword : Bytes) :
    (setMeshCredentials suite block.val newName newPassword).Plays (PairingDevice.Answers suite kind)
      (Safe secret mine
        [(PAIR_OPCODE_SET_NAME, paddedBlock newName), (PAIR_OPCODE_SET_PASS, paddedBlock newPassword)])
      (Written kind secret mine block own
        [(PAIR_OPCODE_SET_NAME, paddedBlock newName), (PAIR_OPCODE_SET_PASS, paddedBlock newPassword)])
      d := by
  have none_sent : Safe secret mine [(PAIR_OPCODE_SET_NAME, paddedBlock newName),
      (PAIR_OPCODE_SET_PASS, paddedBlock newPassword)] d := holding.safe List.nil_prefix
  refine Program.plays_ok_bind (encryptMeshCredential_ok block newName) ?_
  refine ⟨none_sent, fun written d₁ answered => ?_⟩
  have name_sent (random) := holding.write suite (.inl rfl) newName random
  cases answered with
  | writePairing_lost _ is => exact ⟨none_sent, is⟩
  | writePairing_unanswered _ drawn is =>
    exact ⟨(name_sent drawn).1.safe (List.prefix_append _ _), is⟩
  | writePairing _ drawn =>
    replace name_sent := (name_sent drawn).1
    generalize d.write suite drawn _ = d₁ at name_sent ⊢
    have one_sent := name_sent.safe
      (List.prefix_append _ [(PAIR_OPCODE_SET_PASS, paddedBlock newPassword)])
    refine Program.plays_ok_bind (encryptMeshCredential_ok block newPassword) ?_
    refine ⟨one_sent, fun written d₂ answered => ?_⟩
    have both_sent (random) := name_sent.write suite (.inr rfl) newPassword random
    cases answered with
    | writePairing_lost _ is => exact ⟨one_sent, is⟩
    | writePairing_unanswered _ drawn is => exact ⟨(both_sent drawn).1.safe (List.prefix_refl _), is⟩
    | writePairing _ drawn =>
      obtain ⟨both_sent, confirmed⟩ := both_sent drawn
      generalize d₁.write suite drawn _ = d₂ at both_sent confirmed ⊢
      refine ⟨both_sent.safe (List.prefix_refl _), fun read d₃ answered => ?_⟩
      cases answered with
      | readPairing_lost is => exact ⟨both_sent.safe (List.prefix_refl _), is⟩
      | readPairing =>
        rw [if_pos both_sent.enabled]
        have parsed : parsePairResponse d₂.response = .ok ⟨PAIR_OPCODE_SET_OK, []⟩ := by
          rw [confirmed]
          rfl
        refine Program.plays_ok_bind rfl (Program.plays_ok_bind parsed ?_)
        exact both_sent

/-- How provisioning ends. -/
def Provisioned (kind : PyError → Bool) (secret mine : Block) (requested : List (UInt8 × Block))
    (d : PairingDevice) : Except PyError Bytes → Prop
  | .ok key => ∃ own : Block, d.sessionKey = some own ∧
      (secret = mine → own.val = key ∧ d.received = requested)
  | .error error => kind error = true ∨ (secret ≠ mine ∧ error.isProvisioningError = true)

theorem provision_plays (currentName currentPassword : Bytes) (newName newPassword : Option Bytes)
    {secret : Block} (untouched : Untouched secret d) :
    (provision suite currentName currentPassword newName newPassword).Plays
      (PairingDevice.Answers suite kind)
      (Safe secret (secretBlock currentName currentPassword)
        (requestedCredentials currentName currentPassword newName newPassword))
      (fun d result => Safe secret (secretBlock currentName currentPassword)
        (requestedCredentials currentName currentPassword newName newPassword) d ∧
        Provisioned kind secret (secretBlock currentName currentPassword)
          (requestedCredentials currentName currentPassword newName newPassword) d result) d := by
  refine Program.Plays.seq (pairHandshake_plays _ untouched) ?_ ?_
  · rintro d ⟨key, random⟩ ⟨untouched, enabled, block, own, rfl, session, agreed⟩
    have holding : Entrusted secret (secretBlock currentName currentPassword) block own [] d := {
      secret_eq := untouched.secret_eq
      enabled
      session
      agreed
      received_eq := fun _ => untouched.received }
    by_cases new : (newName.isSome || newPassword.isSome) = true
    · simp only [requestedCredentials, if_pos new]
      refine Program.Plays.seq (setMeshCredentials_plays holding _ _) ?_ ?_
      · intro d _ written
        exact ⟨written.safe (List.prefix_refl _), own, written.session, fun same =>
          ⟨congrArg Subtype.val (written.agreed same), written.received_eq same⟩⟩
      · intro d error ⟨safe, is⟩
        exact ⟨safe, .inl is⟩
    · simp only [requestedCredentials, if_neg new]
      exact ⟨holding.safe (List.prefix_refl _), own, session, fun same =>
        ⟨congrArg Subtype.val (agreed same), untouched.received⟩⟩
  · intro d error ⟨untouched, is⟩
    exact ⟨untouched.safe _ _, is⟩

end Agreement

instance : InvertibleAes nonceTagSuite where
  decrypt _ ciphertext := ciphertext
  decrypt_aes _ _ := rfl

/-- A device in its delivery state: `out_of_mesh` and `123456`. -/
def sampleDevice : PairingDevice where
  meshName := [0x6F, 0x75, 0x74, 0x5F, 0x6F, 0x66, 0x5F, 0x6D, 0x65, 0x73, 0x68]
  meshPassword := [0x31, 0x32, 0x33, 0x34, 0x35, 0x36]

def sampleRandom (byte : UInt8) : { random : Bytes // random.length = _SESSION_RANDOM_SIZE } :=
  ⟨List.replicate 8 byte, rfl⟩

private theorem sampleDevice_reaches : ∃ d' key, Program.Reaches
    (PairingDevice.Answers nonceTagSuite PyError.isOsError) sampleDevice
    (provision nonceTagSuite sampleDevice.meshName sampleDevice.meshPassword (some [0x41])
      (some [0x42])) d' (.done (.ok key)) :=
  ⟨_, _, .step (.random _ (sampleRandom 0x11)) (.step (.writePairing _ _ (sampleRandom 0x22))
    (.step (.writeStatus _ _) (.step (.readPairing _) (.step (.writePairing _ _ (sampleRandom 0))
      (.step (.writePairing _ _ (sampleRandom 0)) (.step (.readPairing _) (.refl _ _)))))))⟩

end Telink

end TuyaBleMesh
