import TuyaBleMesh.Provisioning.KeyRelease

/-!
# Reflected confirmations

The exchange over symbolic bytes: the bytes of a MAC are terms, equal to those of the
same MAC only. A device that makes no MAC under the confirmation key passes the check
with the Confirmation and Random PDUs of the provisioner itself, and with no others.
-/

namespace TuyaBleMesh

/-! ### Symbolic bytes -/

inductive SymByte
  | lit (byte : UInt8)
  /-- A byte of the random value of the provisioner. -/
  | random (i : Nat)
  /-- A byte of the secret that is shared with the owner of the public key. -/
  | secret (publicKey : List SymByte) (i : Nat)
  | mac (key msg : List SymByte) (i : Nat)
  | cipher (key nonce plaintext : List SymByte) (i : Nat)

/-- Terms are compared as terms. -/
noncomputable instance : DecidableEq SymByte := Classical.decEq _

/-- The cryptography of the exchange on terms; `reading` says which bytes they stand for. -/
def symbolicSuite (reading : SymByte → UInt8) (onCurve : List SymByte → Bool) :
    ProvisionerSuite SymByte where
  lit := .lit
  value
    | .lit byte => byte
    | term => reading term
  value_lit _ := rfl
  aesCmac key msg := do
    MacSuite.checkKey key
    return (List.range _AES_BLOCK_SIZE).map (.mac key msg)
  ecdh publicKey :=
    if onCurve publicKey then .ok ((List.range 32).map (.secret publicKey))
    else .error "The given point is not on the curve"
  meshAesCcmEncrypt key nonce plaintext micLen := do
    MacSuite.checkKey key
    return (List.range (plaintext.length + micLen)).map (.cipher key nonce plaintext)

/-- The attributes of the provisioner are plain bytes. -/
def Provisioner.symbolic (provisioner : Provisioner UInt8) : Provisioner SymByte where
  ourPubKeyBytes := provisioner.ourPubKeyBytes.map .lit
  netKey := provisioner.netKey.map .lit
  appKey := provisioner.appKey.map .lit
  netKeyIndex := provisioner.netKeyIndex
  ivIndex := provisioner.ivIndex
  flags := provisioner.flags
  unicastAddr := provisioner.unicastAddr

/-- `random_provisioner`. -/
def symbolicRandom : List SymByte := (List.range 16).map .random

/-- What the confirmation of the provisioner is a MAC of. -/
def ownMessage : List SymByte := symbolicRandom ++ _NO_OOB_AUTH.map .lit

/-- If the byte is one of a MAC under the key, then it is one of the provisioner's own. -/
def OwnMac (key : List SymByte) (byte : SymByte) : Prop :=
  ∀ msg i, byte = .mac key msg i → msg = ownMessage

/-! ### What the device has got -/

section Sent

variable {β : Type}

def BearerCall.segment : BearerCall β → List β
  | .act (.write segment _) => segment
  | _ => []

def Exchange.segment {α : Type} : Exchange β α → List β
  | .call call _ => call.segment
  | .done _ => []

theorem Exchange.mem_segment {α : Type} {exchange : Exchange β α} {byte : β}
    (member : byte ∈ exchange.segment) : ∃ segment pdu next,
      exchange = .call (.act (.write segment pdu)) next ∧ byte ∈ segment := by
  rcases exchange with result | ⟨⟨⟨⟩ | ⟨⟩ | ⟨segment, pdu⟩ | ⟨⟩⟩ | timeout, next⟩
  · cases member
  · cases member
  · cases member
  · exact ⟨segment, pdu, next, rfl, member⟩
  · cases member
  · cases member

/-- The bytes that have been written, or are being written. -/
def Session.sent (s : Session β) : List β :=
  s.history.flatMap (fun entry => entry.1.segment) ++ s.exchange.segment

end Sent

/-- The device makes no MAC under the key: it sends only those that it has got. -/
def Session.Unforged (key : List SymByte) (s : Session SymByte) : SessionEvent SymByte → Prop
  | .notify data => ∀ msg i, .mac key msg i ∈ data → .mac key msg i ∈ s.sent
  | _ => True

section Symbolic

variable (reading : SymByte → UInt8) (onCurve : List SymByte → Bool)
  (provisioner : Provisioner UInt8) (client : BleakClient) (key : List SymByte)

theorem confirmation_symbolic {confKey random conf : List SymByte}
    (own : confirmation (symbolicSuite reading onCurve) confKey random = .ok conf) :
    conf = (List.range _AES_BLOCK_SIZE).map
      (.mac confKey (random ++ _NO_OOB_AUTH.map .lit)) := by
  simp only [confirmation, symbolicSuite, MacSuite.checkKey, bind, Except.bind, pure,
    Except.pure] at own
  split at own
  · cases own
  · cases own
    rfl

theorem ownMac_of_lits (bytes : Bytes) : ∀ byte ∈ bytes.map SymByte.lit, OwnMac key byte := by
  intro byte member msg i isMac
  obtain ⟨value, _, rfl⟩ := List.mem_map.mp member
  cases isMac

/-- What the provisioner sends has no MACs but the one of its confirmation. -/
theorem ownMac_of_sends {pdus : List (List SymByte)} {pdu : List SymByte}
    (sends : Sends (symbolicSuite reading onCurve) provisioner.symbolic symbolicRandom pdus pdu) :
    ∀ byte ∈ pdu, OwnMac key byte := by
  have header : ∀ type : UInt8, ∀ byte ∈ (symbolicSuite reading onCurve).lits [type],
      OwnMac key byte := fun type => ownMac_of_lits key [type]
  intro byte member
  cases sends with
  | invite => exact ownMac_of_lits key _ byte member
  | start => exact ownMac_of_lits key _ byte member
  | publicKey =>
    rcases List.mem_append.mp member with type | rest
    · exact header _ byte type
    · exact ownMac_of_lits key _ byte rest
  | confirmation capsPdu devPubPdu confKey conf derived own =>
    rcases List.mem_append.mp member with type | rest
    · exact header _ byte type
    · -- the bytes of the confirmation are those of its MAC
      rw [confirmation_symbolic reading onCurve own] at rest
      obtain ⟨j, _, rfl⟩ := List.mem_map.mp rest
      rintro msg i ⟨⟩
      rfl
  | random =>
    rcases List.mem_append.mp member with type | rest
    · exact header _ byte type
    · obtain ⟨j, _, rfl⟩ := List.mem_map.mp rest
      rintro msg i ⟨⟩
  | data _ _ _ _ verified sessionKey sessionNonce provData encryptedData encrypts =>
    rcases List.mem_append.mp member with type | rest
    · exact header _ byte type
    · -- a ciphertext is no MAC under any key
      simp only [symbolicSuite, MacSuite.checkKey, bind, Except.bind, pure, Except.pure] at encrypts
      split at encrypts
      · cases encrypts
      · cases encrypts
        obtain ⟨j, _, rfl⟩ := List.mem_map.mp rest
        rintro msg i ⟨⟩

/-- A segment adds a header to a part of the PDU. -/
theorem mem_segment {β : Type} {suite : ProvisionerSuite β} {pdu segment : List β} {mtu : Nat}
    (member : segment ∈ wrapProvisioningPdu suite pdu mtu) :
    ∀ byte ∈ segment, (∃ header, byte = suite.lit header) ∨ byte ∈ pdu := by
  unfold wrapProvisioningPdu at member
  dsimp only at member
  intro byte inside
  split at member
  · rw [List.mem_singleton.mp member] at inside
    rcases List.mem_cons.mp inside with rfl | rest
    · exact .inl ⟨_, rfl⟩
    · exact .inr rest
  · obtain ⟨i, _, rfl⟩ := List.mem_map.mp member
    rcases List.mem_cons.mp inside with rfl | rest
    · exact .inl ⟨_, rfl⟩
    · exact .inr (List.mem_of_mem_drop (List.mem_of_mem_take rest))

end Symbolic

/-! ### Runs -/

namespace Session

noncomputable def symbolicStart (reading : SymByte → UInt8) (onCurve : List SymByte → Bool)
    (provisioner : Provisioner UInt8) (client : BleakClient) : Session SymByte :=
  .start (symbolicSuite reading onCurve) provisioner.symbolic client symbolicRandom

/-- All MACs under the key are the provisioner's own, wherever they are. -/
structure OwnMacs (key : List SymByte) (s : Session SymByte) : Prop where
  sent : ∀ byte ∈ s.sent, OwnMac key byte
  tasks : ∀ data ∈ s.notifyTasks, ∀ byte ∈ data, OwnMac key byte
  fragments : ∀ byte ∈ s.rxSarBuffer, OwnMac key byte
  slot : ∀ byte ∈ s.rxBuffer.pdu, OwnMac key byte
  received : ∀ pdu ∈ ExchangeHistory.pdus s.history, ∀ byte ∈ pdu, OwnMac key byte

section Runs

variable {reading : SymByte → UInt8} {onCurve : List SymByte → Bool}
  {provisioner : Provisioner UInt8} {client : BleakClient} {key : List SymByte}
  {s s' : Session SymByte} {event : SessionEvent SymByte}

/-- What the coroutine is writing has no MACs but its own. -/
theorem ownMac_of_bound
    (bound : s.Bound (symbolicSuite reading onCurve) provisioner.symbolic client symbolicRandom) :
    ∀ byte ∈ s.exchange.segment, OwnMac key byte := by
  intro byte member
  obtain ⟨segment, pdu, next, writes, inside⟩ := Exchange.mem_segment member
  have keeps := bound.keeps
  rw [writes] at keeps
  obtain ⟨sends, isSegment⟩ := keeps.1
  rcases mem_segment isSegment byte inside with ⟨header, rfl⟩ | inPdu
  · exact nofun
  · exact ownMac_of_sends reading onCurve provisioner key sends byte inPdu

/-- When the coroutine goes on, it starts to write what it may send. -/
theorem OwnMacs.resume {call : BearerCall SymByte} {result : Except PyError call.Value}
    {next : Reply call.Value → Exchange SymByte (ProvisioningResult SymByte)}
    (own : s.OwnMacs key) (awaits : s.exchange = .call call next)
    (bound : (s.resume call result next).Bound (symbolicSuite reading onCurve)
      provisioner.symbolic client symbolicRandom)
    (answer : ∀ received, received? ⟨call, ⟨result, s.clock⟩⟩ = some received →
      ∀ byte ∈ received.pdu, OwnMac key byte) : (s.resume call result next).OwnMacs key := by
  have sent : (s.resume call result next).sent =
      s.sent ++ (s.resume call result next).exchange.segment := by
    rw [Session.sent, Session.sent, awaits, Session.resume]
    simp only [List.flatMap_append, List.flatMap_cons, List.flatMap_nil, List.append_nil]
    rfl
  refine ⟨?_, own.tasks, own.fragments, own.slot, ?_⟩
  · intro byte member
    rw [sent] at member
    -- what is written anew is what the coroutine may send
    rcases List.mem_append.mp member with before | new
    · exact own.sent byte before
    · exact ownMac_of_bound bound byte new
  · intro pdu member
    rw [ExchangeHistory.pdus, ExchangeHistory.received, Session.resume, List.filterMap_append,
      List.map_append] at member
    rcases List.mem_append.mp member with before | new
    · exact own.received pdu before
    · obtain ⟨received, last, rfl⟩ := List.mem_map.mp new
      obtain ⟨entry, same, isReceived⟩ := List.mem_filterMap.mp last
      rw [List.mem_singleton.mp same] at isReceived
      exact answer received isReceived

/-- A device that makes no MAC under the key brings in only the provisioner's own. -/
theorem OwnMacs.step (own : s.OwnMacs key) (unforged : s.Unforged key event)
    (bound : s'.Bound (symbolicSuite reading onCurve) provisioner.symbolic client symbolicRandom)
    (stepped : s.step (symbolicSuite reading onCurve) event = some s') : s'.OwnMacs key := by
  cases step_cases stepped with
  | notified data =>
    unfold onNotify
    split
    · exact own
    · refine ⟨own.sent, ?_, own.fragments, own.slot, own.received⟩
      intro task member byte inside
      rcases List.mem_append.mp member with before | new
      · exact own.tasks task before byte inside
      · rw [List.mem_singleton.mp new] at inside
        -- a MAC under the key that is notified has been sent before
        rintro msg i rfl
        exact own.sent _ (unforged msg i inside) msg i rfl
  | collects data tasks oldest partially rxSarBuffer bytes =>
    have ofData := own.tasks data (by rw [oldest]; exact List.mem_cons_self)
    refine ⟨own.sent, ?_, ?_, own.slot, own.received⟩
    · exact fun task member => own.tasks task (by rw [oldest]; exact List.mem_cons_of_mem _ member)
    · exact fun byte member => (bytes byte member).elim (own.fragments byte) (ofData byte)
  | arrives data tasks oldest complete pdu rxSarBuffer bytes left =>
    have ofData := own.tasks data (by rw [oldest]; exact List.mem_cons_self)
    refine ⟨own.sent, ?_, ?_, ?_, own.received⟩
    · exact fun task member => own.tasks task (by rw [oldest]; exact List.mem_cons_of_mem _ member)
    · exact fun byte member => own.fragments byte (left byte member)
    · exact fun byte member => (bytes byte member).elim (own.fragments byte) (ofData byte)
  | proceeds action next awaits result => exact own.resume awaits bound nofun
  | wakes timeout next awaits set =>
    have resumed : (s.resume (.receive timeout) (.ok s.rxBuffer) next).OwnMacs key := by
      apply own.resume awaits ⟨bound.keeps, bound.past, bound.slot⟩
      intro received isReceived
      cases isReceived
      exact own.slot
    exact ⟨resumed.sent, resumed.tasks, resumed.fragments, resumed.slot, resumed.received⟩
  | expires timeout next awaits => exact own.resume awaits bound nofun
  | cancels awaits =>
    refine ⟨?_, own.tasks, own.fragments, own.slot, own.received⟩
    intro byte member
    rcases List.mem_append.mp member with before | current
    · exact own.sent byte (List.mem_append_left _ before)
    · cases current

theorem ownMacs_run {events : List (SessionEvent SymByte)}
    (ran : (sessionSystem (symbolicSuite reading onCurve)).exec
      (symbolicStart reading onCurve provisioner client) events = some s)
    (unforged : (sessionSystem (symbolicSuite reading onCurve)).Guarded (Unforged key)
      (symbolicStart reading onCurve provisioner client) events) : s.OwnMacs key := by
  let suite := symbolicSuite reading onCurve
  let new := symbolicStart reading onCurve provisioner client
  have bound : new.Bound suite provisioner.symbolic client symbolicRandom :=
    bound_run suite provisioner.symbolic client symbolicRandom (EventSystem.exec_nil _ new)
  have own : new.OwnMacs key := by
    refine ⟨?_, nofun, nofun, nofun, nofun⟩
    exact fun byte member => ownMac_of_bound bound byte member
  have both : s.Bound suite provisioner.symbolic client symbolicRandom ∧ s.OwnMacs key := by
    apply (sessionSystem suite).exec_invariant (fun s =>
      s.Bound suite provisioner.symbolic client symbolicRandom ∧ s.OwnMacs key) _ ⟨bound, own⟩
      unforged ran
    rintro m event m' ⟨bound, own⟩ unforged stepped
    have bound' := bound.step stepped
    exact ⟨bound', own.step unforged bound' stepped⟩
  exact both.2

/-- The PDUs have the values of the Confirmation and the Random PDU of the provisioner itself. -/
def Reflects {β : Type} (suite : ProvisionerSuite β) (confKey random : List β)
    (devConfPdu devRandomPdu : List β) : Prop :=
  confirmation suite confKey random = .ok (devConfPdu.drop 1) ∧ devRandomPdu.drop 1 = random

/-- In every run with a device that makes no MAC under the confirmation key of the run, the check
of its confirmation succeeds if and only if the device has sent back both the Confirmation and the
Random PDU of the provisioner; so the data is written to no other such device. -/
theorem verified_iff_reflects {events : List (SessionEvent SymByte)}
    (ran : (sessionSystem (symbolicSuite reading onCurve)).exec
      (symbolicStart reading onCurve provisioner client) events = some s)
    (unforged : (sessionSystem (symbolicSuite reading onCurve)).Guarded (Unforged key)
      (symbolicStart reading onCurve provisioner client) events)
    {capsPdu devPubPdu devConfPdu devRandomPdu : List SymByte} {later : List (List SymByte)}
    (received : ExchangeHistory.pdus s.history =
      capsPdu :: devPubPdu :: devConfPdu :: devRandomPdu :: later)
    (ownKey : confirmationKey (symbolicSuite reading onCurve) provisioner.symbolic capsPdu
      devPubPdu = .ok key) :
    (verifyConfirmation (symbolicSuite reading onCurve) key (devRandomPdu.drop 1)
        (devConfPdu.drop 1) = .ok () ↔
      Reflects (symbolicSuite reading onCurve) key symbolicRandom devConfPdu devRandomPdu) ∧
    ∀ pdu, s.exchange.writing? = some pdu →
      pduType (symbolicSuite reading onCurve) pdu = some _PROV_DATA →
        Reflects (symbolicSuite reading onCurve) key symbolicRandom devConfPdu devRandomPdu := by
  have own := ownMacs_run ran unforged
  have reflects : confirmation (symbolicSuite reading onCurve) key (devRandomPdu.drop 1) =
      .ok (devConfPdu.drop 1) →
      Reflects (symbolicSuite reading onCurve) key symbolicRandom devConfPdu devRandomPdu := by
    intro confirmed
    -- the first byte of the confirmation is one of a MAC of the received random value
    have bytes := confirmation_symbolic reading onCurve confirmed
    have first : .mac key (devRandomPdu.drop 1 ++ _NO_OOB_AUTH.map .lit) 0 ∈ devConfPdu.drop 1 := by
      rw [bytes]
      exact List.mem_map_of_mem (List.mem_range.mpr (by decide))
    have isOwn := own.received devConfPdu (by rw [received]; simp) _ (List.mem_of_mem_drop first)
    have same : devRandomPdu.drop 1 = symbolicRandom :=
      List.append_cancel_right (isOwn _ 0 rfl)
    rw [same] at confirmed
    exact ⟨confirmed, same⟩
  refine ⟨⟨fun verified => reflects (verifyConfirmation_ok.mp verified), ?_⟩, ?_⟩
  · rintro ⟨confirmed, same⟩
    rw [same]
    exact verifyConfirmation_ok.mpr confirmed
  · intro pdu writing isData
    have sends := sends_of_writing _ _ _ _ ran writing
    rw [received] at sends
    cases sends with
    | data _ _ _ _ verified =>
      obtain ⟨confKey, derived, confirmed⟩ := verified.confirmed
      cases ownKey.symm.trans derived
      exact reflects confirmed

end Runs

/-! ### A device that reflects -/

section Reflecting

/-- Every public key is on the curve. -/
def reflectingSuite : ProvisionerSuite SymByte := symbolicSuite (fun _ => 0) fun _ => true

noncomputable def reflectingStart : Session SymByte :=
  symbolicStart (fun _ => 0) (fun _ => true) sampleProvisioner sampleClient

def reflectedSecret : List SymByte :=
  (List.range 32).map (.secret ((samplePublicKey.drop 1).map .lit))

def reflectedSalt : List SymByte :=
  (confirmationSalt reflectingSuite sampleProvisioner.symbolic
    ((sampleCapabilities.drop 1).map .lit) ((samplePublicKey.drop 1).map .lit)).toOption.getD []

/-- The confirmation key for the sample Capabilities and public key. -/
def reflectedKey : List SymByte :=
  (reflectingSuite.k1 reflectedSecret reflectedSalt (prck.map .lit)).toOption.getD []

/-- The confirmation of the provisioner. -/
def reflectedConfirmation : List SymByte :=
  (List.range _AES_BLOCK_SIZE).map (.mac reflectedKey ownMessage)

/-- The Confirmation of the provisioner has been written. -/
def confirmationWritten : List (SessionEvent SymByte) :=
  keysExchanged reflectingSuite ++ [.proceed (.ok ())]

/-- The device sends it back, and then the Random PDU. -/
def reflections : List (SessionEvent SymByte) :=
  [.notify (.lit 0x03 :: .lit _PROV_CONFIRMATION :: reflectedConfirmation), .process, .wake,
    .proceed (.ok ()), .notify (.lit 0x03 :: .lit _PROV_RANDOM :: symbolicRandom), .process]

theorem confirmationWritten_sent : ∃ s pdu reply,
    (sessionSystem reflectingSuite).exec reflectingStart confirmationWritten = some s ∧
      s.history.getLast? =
        some ⟨.act (.write (.lit 0x03 :: .lit _PROV_CONFIRMATION :: reflectedConfirmation) pdu),
          reply⟩ :=
  ⟨_, _, _, rfl, rfl⟩

theorem reflections_received : ∃ s rest,
    (sessionSystem reflectingSuite).exec reflectingStart (confirmationWritten ++ reflections) =
      some s ∧
    s.rxEvent = true ∧ s.rxBuffer = ⟨4, .lit _PROV_RANDOM :: symbolicRandom⟩ ∧
    ExchangeHistory.pdus s.history = [sampleCapabilities.map .lit, samplePublicKey.map .lit,
      .lit _PROV_CONFIRMATION :: reflectedConfirmation] ∧
    s.exchange = (receiveRandom reflectingSuite reflectedKey reflectedConfirmation).bind
      fun randomDevice =>
        (exchangeData reflectingSuite sampleProvisioner.symbolic sampleClient reflectedSecret
          reflectedSalt symbolicRandom randomDevice).bind rest :=
  ⟨_, _, rfl, rfl, rfl, rfl, rfl⟩

/-- `recv_prov` returns the Random PDU, and the check of the confirmation succeeds. -/
theorem receiveRandom_returns {β : Type} [DecidableEq β] {suite : ProvisionerSuite β}
    {confKey devConfirmation : List β} (received : ReceivedPdu β)
    (isRandom : checkPdu suite received.pdu _PROV_RANDOM "Random" = .ok ())
    (verified : verifyConfirmation suite confKey (received.pdu.drop 1) devConfirmation = .ok ()) :
    ∃ next, receiveRandom suite confKey devConfirmation =
        .call (.receive PROVISIONING_RANDOM_TIMEOUT) next ∧
      ∀ clock, next ⟨.ok received, clock⟩ = .done (.ok (received.pdu.drop 1)) := by
  refine ⟨_, rfl, fun clock => ?_⟩
  change Program.bind (.done (checkPdu suite received.pdu _PROV_RANDOM "Random")) _ = _
  rw [isRandom]
  change Program.bind (.done (verifyConfirmation suite confKey _ devConfirmation)) _ = _
  rw [verified]
  rfl

/-- The whole run, up to the reading of the Random PDU. -/
def reflectingRun : List (SessionEvent SymByte) := confirmationWritten ++ reflections ++ [.wake]

/-- The check succeeds, and the exchange writes the data. -/
theorem reflectingRun_writes : ∃ s pdu,
    (sessionSystem reflectingSuite).exec reflectingStart reflectingRun = some s ∧
    ExchangeHistory.pdus s.history = [sampleCapabilities.map .lit, samplePublicKey.map .lit,
      .lit _PROV_CONFIRMATION :: reflectedConfirmation, .lit _PROV_RANDOM :: symbolicRandom] ∧
    s.exchange.writing? = some pdu ∧ pduType reflectingSuite pdu = some _PROV_DATA := by
  obtain ⟨s, rest, ran, set, slot, received, exchange⟩ := reflections_received
  have verified : verifyConfirmation reflectingSuite reflectedKey symbolicRandom
      reflectedConfirmation = .ok () := verifyConfirmation_ok.mpr rfl
  obtain ⟨next, receives, returns⟩ :=
    receiveRandom_returns ⟨4, .lit _PROV_RANDOM :: symbolicRandom⟩ rfl verified
  rw [receives] at exchange
  obtain ⟨s', woken, goesOn, history⟩ := step_wake reflectingSuite exchange set
  rw [slot, returns] at goesOn
  have ran' : (sessionSystem reflectingSuite).exec reflectingStart reflectingRun = some s' := by
    apply (EventSystem.exec_append_iff _ _ _ _ _).mpr
    exact ⟨s, ran, (EventSystem.exec_cons_iff _ _ _ _ _).mpr ⟨s', woken, rfl⟩⟩
  refine ⟨s', _, ran', ?_, by rw [goesOn]; rfl, rfl⟩
  rw [ExchangeHistory.pdus, history, received_receive, List.map_append, slot]
  exact congrArg (· ++ [_]) received

/-- What has been written in full has been sent. -/
theorem sent_of_history {β : Type} {s : Session β} {segment pdu : List β} {reply : Reply Unit}
    (written : s.history.getLast? = some ⟨.act (.write segment pdu), reply⟩) :
    segment ⊆ s.sent := by
  intro byte inside
  apply List.mem_append_left
  exact List.mem_flatMap.mpr ⟨_, List.mem_of_getLast? written, inside⟩

/-- The device makes no MAC: all that it sends it has got, or it is plain. -/
theorem reflectingRun_unforged :
    (sessionSystem reflectingSuite).Guarded (Unforged reflectedKey) reflectingStart
      reflectingRun := by
  have plain : ∀ bytes : Bytes, ∀ msg i, .mac reflectedKey msg i ∉ bytes.map SymByte.lit := by
    intro bytes msg i member
    obtain ⟨byte, _, same⟩ := List.mem_map.mp member
    cases same
  have first : (sessionSystem reflectingSuite).Guarded (Unforged reflectedKey) reflectingStart
      confirmationWritten := by
    apply EventSystem.guarded_of_all
    intro event member s
    cases event with
    | notify data =>
      simp only [confirmationWritten, keysExchanged, answered, List.cons_append, List.nil_append,
        List.mem_cons, reduceCtorEq, false_or, SessionEvent.notify.injEq, List.not_mem_nil,
        or_false] at member
      rcases member with rfl | rfl
      · exact fun msg i inside => absurd inside (plain (0x03 :: sampleCapabilities) msg i)
      · exact fun msg i inside => absurd inside (plain (0x03 :: samplePublicKey) msg i)
    | _ => trivial
  -- after the Confirmation of the device, only the Random PDU follows
  have second : ∀ s, Session.Unforged reflectedKey s
      (.notify (.lit 0x03 :: .lit _PROV_RANDOM :: symbolicRandom)) := by
    intro s msg i inside
    simp only [List.mem_cons, reduceCtorEq, false_or] at inside
    obtain ⟨j, _, same⟩ := List.mem_map.mp inside
    cases same
  rw [reflectingRun, List.append_assoc]
  apply EventSystem.Guarded.append _ first
  intro s reached
  obtain ⟨s', pdu, reply, ran, written⟩ := confirmationWritten_sent
  cases ran.symm.trans reached
  refine ⟨fun msg i inside => sent_of_history written inside, fun t _ => ?_⟩
  apply EventSystem.guarded_of_all
  intro event member m
  cases event with
  | notify data =>
    have member : SessionEvent.notify data ∈ [.process, .wake, .proceed (.ok ()),
      .notify (.lit 0x03 :: .lit _PROV_RANDOM :: symbolicRandom), .process, .wake] := member
    simp only [List.mem_cons, reduceCtorEq, false_or, SessionEvent.notify.injEq, List.not_mem_nil,
      or_false] at member
    rw [member]
    exact second m
  | _ => trivial

/-- The witness of the equivalence. -/
theorem reflectingRun_verifies : ∃ s, (sessionSystem reflectingSuite).exec reflectingStart
    reflectingRun = some s ∧ Reflects reflectingSuite reflectedKey symbolicRandom
      (.lit _PROV_CONFIRMATION :: reflectedConfirmation) (.lit _PROV_RANDOM :: symbolicRandom) := by
  obtain ⟨s, pdu, ran, received, writing, isData⟩ := reflectingRun_writes
  have reflects := verified_iff_reflects ran reflectingRun_unforged received rfl
  exact ⟨s, ran, reflects.2 pdu writing isData⟩

/-- A device that has made no MAC under the key of the run gets the data: it has sent back the
Confirmation and the Random PDU of the provisioner. -/
theorem reflection_verified : ∃ s capsPdu devPubPdu later pdu,
    (sessionSystem reflectingSuite).exec reflectingStart reflectingRun = some s ∧
      ExchangeHistory.pdus s.history = capsPdu :: devPubPdu :: later ∧
      confirmationKey reflectingSuite sampleProvisioner.symbolic capsPdu devPubPdu =
        .ok reflectedKey ∧
      (sessionSystem reflectingSuite).Guarded (Unforged reflectedKey) reflectingStart
        reflectingRun ∧
      s.exchange.writing? = some pdu ∧ pduType reflectingSuite pdu = some _PROV_DATA := by
  obtain ⟨s, pdu, ran, received, writing, isData⟩ := reflectingRun_writes
  exact ⟨s, _, _, _, pdu, ran, received, rfl, reflectingRun_unforged, writing, isData⟩

end Reflecting

end Session

end TuyaBleMesh
