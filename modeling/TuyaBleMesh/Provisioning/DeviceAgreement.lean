import TuyaBleMesh.Provisioning.ErrorContract
import TuyaBleMesh.Provisioning.SimulatedDevice

/-!
# The two sides of the exchange

`_run_exchange` with the device behind a link that keeps the order of what it carries,
until a write does not arrive: from then on none does. What the device notifies may be
lost at any time. Both sides compute the same keys, and nothing but the link can fail.
-/

namespace TuyaBleMesh

/-! ### The link -/

structure LinkSide where
  device : DeviceState := {}
  /-- What is written still arrives. -/
  up : Bool := true
  /-- The PDU of the device that `recv_prov` has returned last, by its number. -/
  taken : Nat := 0

def BearerAction.writes {β : Type} : BearerAction β → Bool
  | .write _ _ => true
  | _ => false

/-- If it is an exception, then one of some kind. -/
def Allowed (kind : PyError → Bool) (result : Except PyError Unit) : Prop :=
  ∀ error, result = .error error → kind error = true

/-- What the calls give. A write that has raised may have arrived. -/
inductive LinkSide.Answers (suite : CipherSuite) (d : SimulatedDevice) (kind : PyError → Bool) :
    LinkSide → (call : BearerCall UInt8) → Reply call.Value → LinkSide → Prop
  | acts (l : LinkSide) {action : BearerAction UInt8} (other : action.writes = false)
      (result : Except PyError Unit) (allowed : Allowed kind result) (clock : Nat) :
    Answers suite d kind l (.act action) ⟨result, clock⟩ l
  | arrives (l : LinkSide) (up : l.up = true) (segment pdu : Bytes) (result : Except PyError Unit)
      (allowed : Allowed kind result) (clock : Nat) :
    Answers suite d kind l (.act (.write segment pdu)) ⟨result, clock⟩
      { l with device := l.device.receive suite d segment }
  | lost (l : LinkSide) (segment pdu : Bytes) (result : Except PyError Unit)
      (allowed : Allowed kind result) (clock : Nat) :
    Answers suite d kind l (.act (.write segment pdu)) ⟨result, clock⟩ { l with up := false }
  | returns (l : LinkSide) (timeout : Nat) (received : ReceivedPdu UInt8) (clock : Nat)
      (later : l.taken < received.number)
      (is : l.device.sent[received.number - 1]? = some received.pdu) :
    Answers suite d kind l (.receive timeout) ⟨.ok received, clock⟩
      { l with taken := received.number }
  | expires (l : LinkSide) (timeout clock : Nat) :
    Answers suite d kind l (.receive timeout) ⟨.error .timeoutError, clock⟩ l

/-- A link that loses nothing and raises nothing. -/
def LinkSide.cooperate (suite : CipherSuite) (d : SimulatedDevice) (l : LinkSide) :
    (call : BearerCall UInt8) → Reply call.Value × LinkSide
  | .act (.write segment _) =>
    (⟨.ok (), 0⟩,
      if l.up then { l with device := l.device.receive suite d segment } else { l with up := false })
  | .act _ => (⟨.ok (), 0⟩, l)
  | .receive _ =>
    match l.device.sent[l.taken]? with
    | some pdu => (⟨.ok ⟨l.taken + 1, pdu⟩, 0⟩, { l with taken := l.taken + 1 })
    | none => (⟨.error .timeoutError, 0⟩, l)

theorem LinkSide.cooperate_answers (suite : CipherSuite) (d : SimulatedDevice)
    (kind : PyError → Bool) (l : LinkSide) (call : BearerCall UInt8) :
    l.Answers suite d kind call (l.cooperate suite d call).1 (l.cooperate suite d call).2 := by
  have allowed : Allowed kind (.ok ()) := nofun
  cases call with
  | act action =>
    cases action with
    | write segment pdu =>
      simp only [LinkSide.cooperate]
      split
      · next up => exact .arrives l up segment pdu _ allowed 0
      · exact .lost l segment pdu _ allowed 0
    | pair => exact .acts l rfl _ allowed 0
    | startNotify => exact .acts l rfl _ allowed 0
    | sleep duration => exact .acts l rfl _ allowed 0
  | receive timeout =>
    simp only [LinkSide.cooperate]
    split
    · next pdu is => exact .returns l timeout ⟨_, pdu⟩ 0 (Nat.lt_succ_self _) is
    · exact .expires l timeout 0

/-- What `recv_prov` raises when its timer runs out. -/
def receiveTimeout (recvTimeout : Nat) (stepName : String) : PyError :=
  .provisioningError
    (s!"Timeout waiting for {stepName} (waited {recvTimeout}.0s). " ++
      "Device may be unresponsive or out of range. " ++
      "Try moving closer to the device or increasing timeout.")

/-- The exceptions that come from the link. -/
def LinkError (kind : PyError → Bool) (error : PyError) : Prop :=
  kind error = true ∨ ∃ recvTimeout stepName, error = receiveTimeout recvTimeout stepName

/-! ### What both sides compute -/

/-- Public keys of 64 bytes with the same shared secret, and fields that have their sizes. -/
structure Compatible (ecdh : Bytes → Except String Bytes) (provisioner : Provisioner UInt8)
    (d : SimulatedDevice) : Prop where
  devicePubKey : d.pubKeyBytes.length = 64
  ourPubKey : provisioner.ourPubKeyBytes.length = 64
  netKey : provisioner.netKey.length = 16
  inRange : provisioner.InRange
  secret : ∃ secret, ecdh d.pubKeyBytes = .ok secret ∧ d.ecdh provisioner.ourPubKeyBytes = .ok secret

/-- The values of an exchange. -/
structure Transcript where
  secret : Bytes
  confSalt : Bytes
  confKey : Bytes
  ourConf : Bytes
  deviceConf : Bytes
  provSalt : Bytes
  sessionKey : Bytes
  sessionNonce : Bytes
  devKey : Bytes
  provData : Bytes
  encryptedData : Bytes

/-- What the device is to be given. -/
def Provisioner.node (provisioner : Provisioner UInt8) (devKey : Bytes) : MeshNode where
  netKey := provisioner.netKey
  netKeyIndex := provisioner.netKeyIndex
  flags := provisioner.flags
  ivIndex := provisioner.ivIndex
  unicastAddr := provisioner.unicastAddr
  devKey

/-- What the exchange is to return. -/
def Provisioner.resultFor (provisioner : Provisioner UInt8) (d : SimulatedDevice) (devKey : Bytes) :
    ProvisioningResult UInt8 where
  devKey
  netKey := provisioner.netKey
  appKey := provisioner.appKey
  unicastAddr := provisioner.unicastAddr
  ivIndex := provisioner.ivIndex
  numElements := (d.capabilities.head?.map UInt8.toNat).getD 1

structure Transcript.Of (suite : CipherSuite) (ecdh : Bytes → Except String Bytes)
    (provisioner : Provisioner UInt8) (d : SimulatedDevice) (randomProvisioner : Bytes)
    (t : Transcript) : Prop where
  ourSecret : sharedSecret (codeSuite suite ecdh) d.pubKeyBytes = .ok t.secret
  deviceSecret : d.ecdh provisioner.ourPubKeyBytes = .ok t.secret
  confSalt : suite.macSuite.s1 (inviteParams ++ d.capabilities ++ startParams ++
    provisioner.ourPubKeyBytes ++ d.pubKeyBytes) = .ok t.confSalt
  confKey : suite.macSuite.k1 t.secret t.confSalt prck = .ok t.confKey
  ourConf : aesCmac suite t.confKey (randomProvisioner ++ _NO_OOB_AUTH) = .ok t.ourConf
  deviceConf : aesCmac suite t.confKey (d.random ++ _NO_OOB_AUTH) = .ok t.deviceConf
  provSalt : suite.macSuite.s1 (t.confSalt ++ randomProvisioner ++ d.random) = .ok t.provSalt
  sessionKey : suite.macSuite.k1 t.secret t.provSalt prsk = .ok t.sessionKey
  sessionNonce : suite.macSuite.k1 t.secret t.provSalt prsn = .ok t.sessionNonce
  devKey : suite.macSuite.k1 t.secret t.provSalt prdk = .ok t.devKey
  provData : provisioningData (codeSuite suite ecdh) provisioner = .ok t.provData
  encryptedData : meshAesCcmEncrypt suite t.sessionKey (t.sessionNonce.drop 3) t.provData 8 =
    .ok t.encryptedData
  opened : meshAesCcmDecrypt suite t.sessionKey (t.sessionNonce.drop 3) t.encryptedData 8 =
    .ok t.provData
  provData_length : t.provData.length = 25
  parsed : parseProvisioningData t.provData t.devKey = provisioner.node t.devKey

section Computed

variable (suite : CipherSuite) {ecdh : Bytes → Except String Bytes}
  {provisioner : Provisioner UInt8} {d : SimulatedDevice}

theorem codeSuite_lits (ecdh : Bytes → Except String Bytes) (bytes : Bytes) :
    (codeSuite suite ecdh).lits bytes = bytes := List.map_id bytes

/-- The fields come out of the provisioning data as they went in. -/
theorem provisioningData_parsed (compatible : Compatible ecdh provisioner d) (devKey : Bytes) :
    ∃ data, provisioningData (codeSuite suite ecdh) provisioner = .ok data ∧ data.length = 25 ∧
      parseProvisioningData data devKey = provisioner.node devKey := by
  have inRange := compatible.inRange
  have sixteen := compatible.netKey
  let fields := Bytes.beBytes 2 provisioner.netKeyIndex ++ [UInt8.ofNat provisioner.flags] ++
    Bytes.beBytes 4 provisioner.ivIndex ++ Bytes.beBytes 2 provisioner.unicastAddr
  refine ⟨provisioner.netKey ++ fields, ?_, ?_, ?_⟩
  · rw [provisioningData, packBE_ok inRange.netKeyIndex_lt, byteOf_ok inRange.flags_lt,
      packBE_ok inRange.ivIndex_lt, packBE_ok inRange.unicastAddr_lt]
    simp only [bind, Except.bind, pure, Except.pure, codeSuite_lits]
    rfl
  · simp [fields, sixteen]
  · have key : (provisioner.netKey ++ fields).take 16 = provisioner.netKey := by
      rw [← sixteen, List.take_left]
    have rest (n : Nat) : (provisioner.netKey ++ fields).drop (16 + n) = fields.drop n := by
      rw [← sixteen, List.drop_length_add_append]
    have netKeyIndex : Bytes.beValue ((fields.drop 0).take 2) = provisioner.netKeyIndex :=
      Bytes.beValue_beBytes inRange.netKeyIndex_lt
    have flags : Bytes.beValue ((fields.drop 2).take 1) = provisioner.flags := by
      simp [fields, Bytes.beBytes, Bytes.beValue, Nat.mod_eq_of_lt inRange.flags_lt]
    have ivIndex : Bytes.beValue ((fields.drop 3).take 4) = provisioner.ivIndex :=
      Bytes.beValue_beBytes inRange.ivIndex_lt
    have unicastAddr : Bytes.beValue (fields.drop 7) = provisioner.unicastAddr :=
      Bytes.beValue_beBytes inRange.unicastAddr_lt
    rw [parseProvisioningData, key, rest 0, rest 2, rest 3, rest 7, netKeyIndex, flags, ivIndex,
      unicastAddr]
    rfl

/-- The values are there, as both sides compute them. -/
theorem transcript_exists [LawfulCcm suite] (compatible : Compatible ecdh provisioner d)
    (randomProvisioner : Bytes) :
    ∃ t : Transcript, t.Of suite ecdh provisioner d randomProvisioner := by
  obtain ⟨secret, ours, devices⟩ := compatible.secret
  have ourSecret : sharedSecret (codeSuite suite ecdh) d.pubKeyBytes = .ok secret := by
    have valid : ¬d.pubKeyBytes.length ≠ 64 := not_not.mpr compatible.devicePubKey
    have computed : (codeSuite suite ecdh).ecdh d.pubKeyBytes = .ok secret := ours
    rw [sharedSecret, if_neg valid, computed]
  obtain ⟨confSalt, confSalt_eq, confSalt_16⟩ := confirmationSalt_ok suite ecdh provisioner
    d.capabilities d.pubKeyBytes
  obtain ⟨confKey, confKey_eq, confKey_16⟩ := k1_ok suite ecdh confSalt_16 secret prck
  obtain ⟨ourConf, ourConf_eq, -⟩ := aesCmac_ok suite confKey_16 (randomProvisioner ++ _NO_OOB_AUTH)
  obtain ⟨deviceConf, deviceConf_eq, -⟩ := aesCmac_ok suite confKey_16 (d.random ++ _NO_OOB_AUTH)
  have salted : confSalt ++ randomProvisioner ++ d.random ≠ [] := by
    intro empty
    simp only [List.append_eq_nil_iff] at empty
    rw [empty.1.1] at confSalt_16
    cases confSalt_16
  obtain ⟨provSalt, provSalt_eq, provSalt_16⟩ := s1_ok suite ecdh salted
  obtain ⟨sessionKey, sessionKey_eq, sessionKey_16⟩ := k1_ok suite ecdh provSalt_16 secret prsk
  obtain ⟨sessionNonce, sessionNonce_eq, nonce_16⟩ := k1_ok suite ecdh provSalt_16 secret prsn
  obtain ⟨devKey, devKey_eq, -⟩ := k1_ok suite ecdh provSalt_16 secret prdk
  obtain ⟨provData, provData_eq, provData_length, parsed⟩ :=
    provisioningData_parsed suite compatible devKey
  have parameters : CcmParameters 8 (sessionNonce.drop 3) := by
    refine ⟨.inr rfl, ?_⟩
    rw [List.length_drop, nonce_16]
    rfl
  rw [confirmationSalt, codeSuite_lits, codeSuite_lits] at confSalt_eq
  exact ⟨{
      secret, confSalt, confKey, ourConf, deviceConf, provSalt, sessionKey, sessionNonce, devKey
      provData
      encryptedData := suite.ccmEncrypt ⟨sessionKey, sessionKey_16⟩ 8 (sessionNonce.drop 3) provData },
    { ourSecret
      deviceSecret := devices
      confSalt := confSalt_eq
      confKey := confKey_eq
      ourConf := ourConf_eq
      deviceConf := deviceConf_eq
      provSalt := provSalt_eq
      sessionKey := sessionKey_eq
      sessionNonce := sessionNonce_eq
      devKey := devKey_eq
      provData := provData_eq
      encryptedData := meshAesCcmEncrypt_ok suite sessionKey_16 parameters
      opened := meshAesCcmDecrypt_some suite sessionKey_16 parameters
        (LawfulCcm.decrypt_encrypt _ _ _ _ parameters)
      provData_length
      parsed }⟩

end Computed

/-! ### The turns of the device -/

section Turns

variable {suite : CipherSuite} {ecdh : Bytes → Except String Bytes}
  {provisioner : Provisioner UInt8} {d : SimulatedDevice} {randomProvisioner : Bytes}
  {t : Transcript}

theorem answer_invite : d.answer suite .invite ([_PROV_INVITE] ++ inviteParams) =
    (.start inviteParams, some ([_PROV_CAPABILITIES] ++ d.capabilities)) := rfl

theorem answer_start : d.answer suite (.start inviteParams) ([_PROV_START] ++ startParams) =
    (.publicKey inviteParams startParams, none) := rfl

theorem answer_publicKey (ourPubKey : provisioner.ourPubKeyBytes.length = 64)
    (of : t.Of suite ecdh provisioner d randomProvisioner) :
    d.answer suite (.publicKey inviteParams startParams)
        ([_PROV_PUBLIC_KEY] ++ provisioner.ourPubKeyBytes) =
      (.confirmation t.secret t.confSalt, some ([_PROV_PUBLIC_KEY] ++ d.pubKeyBytes)) := by
  simp only [SimulatedDevice.answer, List.singleton_append, SimulatedDevice.react,
    SimulatedDevice.check, ourPubKey, of.deviceSecret, of.confSalt, SimulatedDevice.computed,
    decide_true, if_true, bind, Except.bind, pure, Except.pure]

theorem answer_confirmation (of : t.Of suite ecdh provisioner d randomProvisioner) (conf : Bytes) :
    d.answer suite (.confirmation t.secret t.confSalt) ([_PROV_CONFIRMATION] ++ conf) =
      (.random t.secret t.confSalt conf, some ([_PROV_CONFIRMATION] ++ t.deviceConf)) := by
  simp only [SimulatedDevice.answer, List.singleton_append, SimulatedDevice.react,
    SimulatedDevice.check, of.confKey, of.deviceConf, SimulatedDevice.computed, decide_true,
    if_true, bind, Except.bind, pure, Except.pure]

theorem answer_random (of : t.Of suite ecdh provisioner d randomProvisioner) :
    d.answer suite (.random t.secret t.confSalt t.ourConf) ([_PROV_RANDOM] ++ randomProvisioner) =
      (.data t.secret t.confSalt randomProvisioner, some ([_PROV_RANDOM] ++ d.random)) := by
  simp only [SimulatedDevice.answer, List.singleton_append, SimulatedDevice.react,
    SimulatedDevice.check, of.confKey, of.ourConf, SimulatedDevice.computed, decide_true,
    if_true, bind, Except.bind, pure, Except.pure]

theorem answer_data (of : t.Of suite ecdh provisioner d randomProvisioner) :
    d.answer suite (.data t.secret t.confSalt randomProvisioner) ([_PROV_DATA] ++ t.encryptedData) =
      (.provisioned (provisioner.node t.devKey), some [_PROV_COMPLETE]) := by
  simp only [SimulatedDevice.answer, List.singleton_append, SimulatedDevice.react,
    SimulatedDevice.check, of.provSalt, of.sessionKey, of.sessionNonce, of.devKey, of.opened,
    of.provData_length, of.parsed, SimulatedDevice.computed, decide_true, if_true, bind,
    Except.bind, pure, Except.pure]

end Turns

/-! ### A request and its answer -/

/-- The device has accepted all that it was sent, and has been given nothing or this. -/
def DevicePhase.Gives (node : MeshNode) : DevicePhase → Prop
  | .provisioned other => other = node
  | .failed => False
  | _ => True

structure LinkSide.At (phase : DevicePhase) (sent : List Bytes) (taken : Nat) (l : LinkSide) :
    Prop where
  phase_eq : l.device.phase = phase
  sent_eq : l.device.sent = sent
  taken_eq : l.taken = taken

/-- No write arrives, and all answers have been returned. -/
structure LinkSide.Behind (node : MeshNode) (l : LinkSide) : Prop where
  down : l.up = false
  taken_eq : l.taken = l.device.sent.length
  gives : l.device.phase.Gives node

/-- How a part of the exchange ends. -/
def LinkSide.Ends {α : Type} (kind : PyError → Bool) (node : MeshNode)
    (returns : LinkSide → α → Prop) (l : LinkSide) : Except PyError α → Prop
  | .ok value => returns l value
  | .error error => LinkError kind error ∧ l.device.phase.Gives node

section Requests

variable {suite : CipherSuite} {ecdh : Bytes → Except String Bytes} {d : SimulatedDevice}
  {kind : PyError → Bool} {node : MeshNode} {client : BleakClient} {l : LinkSide}
  {phase phase' : DevicePhase} {sent : List Bytes}

open LinkSide

variable (suite d kind node) in
/-- With the device behind its link, whatever happens there. -/
abbrev PlaysLink {α : Type} (exchange : Exchange UInt8 α) (returns : LinkSide → α → Prop)
    (l : LinkSide) : Prop :=
  exchange.Plays (LinkSide.Answers suite d kind) (fun l => l.device.phase.Gives node)
    (Ends kind node returns) l

theorem PlaysLink.seq {α γ : Type} {exchange : Exchange UInt8 α} {rest : α → Exchange UInt8 γ}
    {middle : LinkSide → α → Prop} {returns : LinkSide → γ → Prop}
    (first : PlaysLink suite d kind node exchange middle l)
    (second : ∀ l value, middle l value → PlaysLink suite d kind node (rest value) returns l) :
    PlaysLink suite d kind node (exchange >>= rest) returns l :=
  Program.Plays.seq first second fun _ _ failed => failed

theorem PlaysLink.mono {α : Type} {exchange : Exchange UInt8 α} {returns returns' : LinkSide → α → Prop}
    (plays : PlaysLink suite d kind node exchange returns l)
    (weaker : ∀ l value, returns l value → returns' l value) :
    PlaysLink suite d kind node exchange returns' l := by
  refine Program.Plays.mono plays fun l result ends => ?_
  cases result with
  | ok value => exact weaker l value ends
  | error error => exact ends

theorem await_playsLink {action : BearerAction UInt8} (other : action.writes = false)
    (gives : l.device.phase.Gives node) :
    PlaysLink suite d kind node (Exchange.await action) (fun l' _ => l' = l) l := by
  refine ⟨gives, fun answer l' answered => ?_⟩
  cases answered with
  | acts _ result allowed clock =>
    cases result with
    | ok value => exact rfl
    | error error => exact ⟨.inl (allowed error rfl), gives⟩
  | arrives => cases other
  | lost => cases other

/-- One segment, with the pause after it. -/
theorem writeSegment_plays (several : Prop) [Decidable several] (segment pdu : Bytes)
    (gives : l.device.phase.Gives node)
    (gives' : l.up = true → (l.device.receive suite d segment).phase.Gives node) :
    PlaysLink suite d kind node
      (do
        Exchange.await (.write segment pdu)
        if several then
          Exchange.await (.sleep _PROVISIONING_POLL_INTERVAL))
      (fun l' _ => (l.up = true ∧ l' = { l with device := l.device.receive suite d segment }) ∨
        l' = { l with up := false }) l := by
  have pause {l' : LinkSide} (gives : l'.device.phase.Gives node) : PlaysLink suite d kind node
      (if several then Exchange.await (.sleep _PROVISIONING_POLL_INTERVAL) else pure ())
      (fun l'' _ => l'' = l') l' := by
    split
    · exact await_playsLink rfl gives
    · exact rfl
  refine ⟨gives, fun answer l' answered => ?_⟩
  cases answered with
  | acts other => cases other
  | arrives up _ _ result allowed clock =>
    cases result with
    | ok value =>
      exact PlaysLink.mono (pause (gives' up)) fun _ _ same => .inl ⟨up, same⟩
    | error error => exact ⟨.inl (allowed error rfl), gives' up⟩
  | lost _ _ result allowed clock =>
    cases result with
    | ok value => exact PlaysLink.mono (pause gives) fun _ _ same => .inr same
    | error error => exact ⟨.inl (allowed error rfl), gives⟩

/-- The loop of `send_prov`. -/
def writePieces (several : Prop) [Decidable several] (pdu : Bytes) (segments : List Bytes) :
    Exchange UInt8 Unit :=
  segments.forM fun segment => do
    Exchange.await (.write segment pdu)
    if several then
      Exchange.await (.sleep _PROVISIONING_POLL_INTERVAL)

theorem writePieces_behind (several : Prop) [Decidable several] (pdu : Bytes)
    (segments : List Bytes) (behind : l.Behind node) :
    PlaysLink suite d kind node (writePieces several pdu segments) (fun l' _ => l'.Behind node)
      l := by
  induction segments generalizing l with
  | nil => exact behind
  | cons segment segments ih =>
    have down : l.up ≠ true := by
      rw [behind.down]
      decide
    refine (writeSegment_plays several segment pdu behind.gives fun up => absurd up down).seq ?_
    rintro l' _ (⟨up, -⟩ | rfl)
    · exact absurd up down
    · exact ih ⟨rfl, behind.taken_eq, behind.gives⟩

/-- The segments of a PDU that the device answers. -/
theorem writePieces_plays (several : Prop) [Decidable several] {buffer pdu : Bytes}
    {segments : List Bytes} {reply : Option Bytes} (name : Bytes)
    (yields : Yields buffer segments pdu) (answers : d.answer suite phase pdu = (phase', reply))
    (gives : phase.Gives node) (gives' : phase'.Gives node) (at_phase : l.At phase sent sent.length)
    (begun : l.device.sarBuffer = buffer) :
    PlaysLink suite d kind node (writePieces several name segments)
      (fun l' _ => l'.At phase' (sent ++ reply.toList) sent.length ∨ l'.Behind node) l := by
  obtain ⟨rfl, rfl, taken⟩ := at_phase
  have lost : { l with up := false }.Behind node := ⟨rfl, taken, gives⟩
  induction yields generalizing l with
  | @last buffer buffer' segment pdu brings =>
    subst begun
    have received : l.device.receive suite d segment =
        { l.device with
          sarBuffer := buffer', phase := phase', sent := l.device.sent ++ reply.toList } := by
      rw [DeviceState.receive, brings]
      dsimp only
      rw [DeviceState.handle, answers]
    have gives' : (l.device.receive suite d segment).phase.Gives node := by
      rw [received]
      exact gives'
    refine (writeSegment_plays several segment name gives fun _ => gives').seq ?_
    rintro l' _ (⟨-, rfl⟩ | rfl)
    · rw [received]
      exact .inl ⟨rfl, rfl, taken⟩
    · exact .inr lost
  | @more buffer buffer' segment pdu segments keeps _ ih =>
    subst begun
    have received : l.device.receive suite d segment = { l.device with sarBuffer := buffer' } := by
      rw [DeviceState.receive, keeps]
    have gives' : (l.device.receive suite d segment).phase.Gives node := by
      rw [received]
      exact gives
    refine (writeSegment_plays several segment name gives fun _ => gives').seq ?_
    rintro l' _ (⟨-, rfl⟩ | rfl)
    · rw [received]
      exact ih (l := { l with device := { l.device with sarBuffer := buffer' } }) rfl answers gives
        taken ⟨rfl, taken, gives⟩
    · exact (writePieces_behind several name segments lost).mono fun _ _ behind => .inr behind

theorem sendProv_plays {pdu : Bytes} {reply : Option Bytes}
    (answers : d.answer suite phase pdu = (phase', reply)) (gives : phase.Gives node)
    (gives' : phase'.Gives node)
    (stands : l.At phase sent sent.length ∨ l.Behind node) :
    PlaysLink suite d kind node (sendProv (codeSuite suite ecdh) client pdu)
      (fun l' _ => l'.At phase' (sent ++ reply.toList) sent.length ∨ l'.Behind node) l := by
  rcases stands with at_phase | behind
  · exact writePieces_plays _ pdu (wrap_yields suite ecdh client.minMtu _ pdu) answers gives gives'
      at_phase rfl
  · exact (writePieces_behind _ pdu _ behind).mono fun _ _ behind => .inr behind

/-- The answer is the only PDU that can be returned. -/
theorem recvProv_plays {answer : Bytes} (recvTimeout : Nat) (stepName : String)
    (gives : phase.Gives node)
    (stands : l.At phase (sent ++ [answer]) sent.length ∨ l.Behind node) :
    PlaysLink suite d kind node (recvProv recvTimeout stepName)
      (fun l' pdu => pdu = answer ∧ l'.At phase (sent ++ [answer]) (sent ++ [answer]).length) l := by
  have gives : l.device.phase.Gives node := by
    rcases stands with at_phase | behind
    · exact at_phase.phase_eq ▸ gives
    · exact behind.gives
  refine ⟨gives, fun reply l' answered => ?_⟩
  cases answered with
  | expires => exact ⟨.inr ⟨recvTimeout, stepName, rfl⟩, gives⟩
  | returns _ received clock later is =>
    have inside := (List.getElem?_eq_some_iff.mp is).1
    rcases stands with ⟨phase_eq, sent_eq, taken_eq⟩ | behind
    · rw [sent_eq] at is inside
      rw [taken_eq] at later
      rw [List.length_append, List.length_singleton] at inside
      -- all before it have been returned
      have number : received.number = sent.length + 1 := by omega
      rw [number, Nat.add_sub_cancel, List.getElem?_concat_length] at is
      refine ⟨(Option.some.inj is).symm, phase_eq, sent_eq, ?_⟩
      rw [List.length_append]
      exact number
    · rw [behind.taken_eq] at later
      omega

/-- The answer passes its check, and what follows goes on with it. -/
theorem received_plays {α : Type} {answer : Bytes} {recvTimeout : Nat} {stepName : String}
    {check : Bytes → Except PyError Unit} {rest : Bytes → Exchange UInt8 α}
    {returns : LinkSide → α → Prop} (gives : phase.Gives node)
    (stands : l.At phase (sent ++ [answer]) sent.length ∨ l.Behind node)
    (checked : check answer = .ok ())
    (continues : ∀ l' : LinkSide, l'.At phase (sent ++ [answer]) (sent ++ [answer]).length →
      PlaysLink suite d kind node (rest answer) returns l') :
    PlaysLink suite d kind node
      (do
        let pdu ← recvProv recvTimeout stepName
        check pdu
        rest pdu) returns l := by
  refine (recvProv_plays recvTimeout stepName gives stands).seq ?_
  rintro l' _ ⟨rfl, at_phase⟩
  exact Program.plays_ok_bind checked (continues l' at_phase)

theorem checkPdu_ok {type : UInt8} (fine : type ≠ _PROV_FAILED) (params : Bytes) (stepName : String) :
    checkPdu (codeSuite suite ecdh) ([type] ++ params) type stepName = .ok () := by
  have value : (codeSuite suite ecdh).value type = type := rfl
  rw [List.singleton_append, checkPdu, value, if_neg fine]
  exact if_neg (not_not.mpr rfl)

end Requests

/-! ### The exchange -/

section Exchange

variable {suite : CipherSuite} {ecdh : Bytes → Except String Bytes}
  {provisioner : Provisioner UInt8} {d : SimulatedDevice} {randomProvisioner : Bytes}
  {t : Transcript} {kind : PyError → Bool} {client : BleakClient} {l : LinkSide}

theorem subscribe_plays {node : MeshNode} (gives : l.device.phase.Gives node) :
    PlaysLink suite d kind node (subscribe client) (fun l' _ => l' = l) l := by
  have notified : PlaysLink suite d kind node (Exchange.await .startNotify) (fun l' _ => l' = l) l :=
    await_playsLink rfl gives
  rw [subscribe]
  split
  · refine ⟨gives, fun reply l' answered => ?_⟩
    cases answered with
    | acts _ result allowed clock =>
      cases result with
      | ok value => exact notified
      | error error =>
        -- the two that pairing may fail with are passed over
        cases error with
        | timeoutError => exact notified
        | osError => exact notified
        | _ => exact ⟨.inl (allowed _ rfl), gives⟩
  · exact notified

theorem exchangeInvite_plays {node : MeshNode} (at_phase : l.At .invite [] 0) :
    PlaysLink suite d kind node (exchangeInvite (codeSuite suite ecdh) client)
      (fun l' pdu => pdu = [_PROV_CAPABILITIES] ++ d.capabilities ∧
        l'.At (.start inviteParams) [[_PROV_CAPABILITIES] ++ d.capabilities] 1) l := by
  refine (sendProv_plays answer_invite (by trivial) (by trivial)
    (.inl at_phase)).seq fun l' _ stands => ?_
  exact received_plays (by trivial) stands (checkPdu_ok (by decide) _ _)
    fun l'' at_phase => ⟨rfl, at_phase⟩

variable (of : t.Of suite ecdh provisioner d randomProvisioner)
include of

theorem exchangePublicKeys_plays (compatible : Compatible ecdh provisioner d) {caps : Bytes}
    (at_phase : l.At (.start inviteParams) [caps] 1) :
    PlaysLink suite d kind (provisioner.node t.devKey)
      (exchangePublicKeys (codeSuite suite ecdh) provisioner client)
      (fun l' devicePubKeyBytes => devicePubKeyBytes = d.pubKeyBytes ∧
        l'.At (.confirmation t.secret t.confSalt) [caps, [_PROV_PUBLIC_KEY] ++ d.pubKeyBytes] 2) l := by
  refine (sendProv_plays answer_start (by trivial) (by trivial)
    (.inl at_phase)).seq fun l' _ stands => ?_
  have gives : l'.device.phase.Gives (provisioner.node t.devKey) := by
    rcases stands with at_phase | behind
    · exact at_phase.phase_eq ▸ trivial
    · exact behind.gives
  refine (await_playsLink rfl gives).seq ?_
  rintro _ _ rfl
  refine (sendProv_plays (answer_publicKey compatible.ourPubKey of) (by trivial)
    (by trivial) stands).seq fun l' _ stands => ?_
  exact received_plays (by trivial) stands (checkPdu_ok (by decide) _ _)
    fun l'' at_phase => ⟨rfl, at_phase⟩

theorem exchangeConfirmations_plays {caps pubKey : Bytes}
    (at_phase : l.At (.confirmation t.secret t.confSalt) [caps, pubKey] 2) :
    PlaysLink suite d kind (provisioner.node t.devKey)
      (exchangeConfirmations (codeSuite suite ecdh) client t.confKey randomProvisioner)
      (fun l' randomDevice => randomDevice = d.random ∧
        l'.At (.data t.secret t.confSalt randomProvisioner)
          [caps, pubKey, [_PROV_CONFIRMATION] ++ t.deviceConf, [_PROV_RANDOM] ++ d.random] 4) l := by
  have ourConf : confirmation (codeSuite suite ecdh) t.confKey randomProvisioner = .ok t.ourConf := by
    rw [confirmation, codeSuite_lits]
    exact of.ourConf
  have verified : verifyConfirmation (codeSuite suite ecdh) t.confKey d.random t.deviceConf =
      .ok () := by
    rw [verifyConfirmation_ok, confirmation, codeSuite_lits]
    exact of.deviceConf
  refine Program.plays_ok_bind ourConf ?_
  refine (sendProv_plays (answer_confirmation of t.ourConf) (by trivial)
    (by trivial) (.inl at_phase)).seq fun l' _ stands => ?_
  refine received_plays (by trivial) stands (checkPdu_ok (by decide) _ _) ?_
  intro l' at_phase
  refine (sendProv_plays (answer_random of) (by trivial) (by trivial)
    (.inl at_phase)).seq fun l' _ stands => ?_
  refine received_plays (by trivial) stands (checkPdu_ok (by decide) _ _) ?_
  intro l' at_phase
  exact Program.plays_ok_bind verified ⟨rfl, at_phase⟩

theorem exchangeData_plays {sent : List Bytes} (four : sent.length = 4)
    (at_phase : l.At (.data t.secret t.confSalt randomProvisioner) sent 4) :
    PlaysLink suite d kind (provisioner.node t.devKey)
      (exchangeData (codeSuite suite ecdh) provisioner client t.secret t.confSalt randomProvisioner
        d.random)
      (fun l' devKey => devKey = t.devKey ∧
        l'.device.phase = .provisioned (provisioner.node t.devKey)) l := by
  have provisioned : (DevicePhase.provisioned (provisioner.node t.devKey)).Gives
      (provisioner.node t.devKey) := rfl
  have sessionKey : (codeSuite suite ecdh).k1 t.secret t.provSalt ((codeSuite suite ecdh).lits prsk) =
      .ok t.sessionKey := of.sessionKey
  have sessionNonce : (codeSuite suite ecdh).k1 t.secret t.provSalt
      ((codeSuite suite ecdh).lits prsn) = .ok t.sessionNonce := of.sessionNonce
  have devKey : (codeSuite suite ecdh).k1 t.secret t.provSalt ((codeSuite suite ecdh).lits prdk) =
      .ok t.devKey := of.devKey
  refine Program.plays_ok_bind of.provSalt (Program.plays_ok_bind sessionKey
    (Program.plays_ok_bind sessionNonce (Program.plays_ok_bind devKey
      (Program.plays_ok_bind of.provData (Program.plays_ok_bind of.encryptedData ?_)))))
  refine (sendProv_plays (answer_data of) (by trivial) provisioned
    (.inl (four ▸ at_phase))).seq fun l' _ stands => ?_
  refine received_plays provisioned stands rfl ?_
  exact fun l'' at_phase => ⟨rfl, at_phase.phase_eq⟩

/-- The exchange with a device that has not been given anything. -/
theorem runExchange_plays (compatible : Compatible ecdh provisioner d) (at_phase : l.At .invite [] 0) :
    PlaysLink suite d kind (provisioner.node t.devKey)
      (runExchange (codeSuite suite ecdh) provisioner client randomProvisioner)
      (fun l' result => l'.device.phase = .provisioned (provisioner.node t.devKey) ∧
        result = provisioner.resultFor d t.devKey) l := by
  have waiting : l.device.phase.Gives (provisioner.node t.devKey) :=
    at_phase.phase_eq ▸ trivial
  have confSalt : confirmationSalt (codeSuite suite ecdh) provisioner d.capabilities d.pubKeyBytes =
      .ok t.confSalt := by
    rw [confirmationSalt, codeSuite_lits, codeSuite_lits]
    exact of.confSalt
  have confKey : (codeSuite suite ecdh).k1 t.secret t.confSalt ((codeSuite suite ecdh).lits prck) =
      .ok t.confKey := of.confKey
  refine (subscribe_plays waiting).seq ?_
  rintro l _ rfl
  refine (exchangeInvite_plays at_phase).seq ?_
  rintro l _ ⟨rfl, at_phase⟩
  refine (exchangePublicKeys_plays of compatible at_phase).seq ?_
  rintro l _ ⟨rfl, at_phase⟩
  refine Program.plays_ok_bind of.ourSecret (Program.plays_ok_bind confSalt
    (Program.plays_ok_bind confKey ?_))
  refine (exchangeConfirmations_plays of at_phase).seq ?_
  rintro l _ ⟨rfl, at_phase⟩
  refine (exchangeData_plays of rfl at_phase).seq ?_
  rintro l _ ⟨rfl, provisioned⟩
  have gives : l.device.phase.Gives (provisioner.node t.devKey) := provisioned ▸ rfl
  refine (await_playsLink rfl gives).seq ?_
  rintro l _ rfl
  refine ⟨provisioned, ?_⟩
  rw [Provisioner.resultFor]
  cases d.capabilities with
  | nil => rfl
  | cons elements rest => rfl

end Exchange

end TuyaBleMesh
