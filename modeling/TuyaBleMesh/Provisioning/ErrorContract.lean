import TuyaBleMesh.Provisioning.KeyRelease

/-!
# How the exchange fails

Whatever a device notifies over a link that works, the exchange ends with a result or
with a `ProvisioningError`, as long as the answer to the provisioning data is not an
empty PDU: that is the one PDU whose first byte is read without a check.
-/

namespace TuyaBleMesh

/-- The fields that go into the provisioning data have the sizes they have there. -/
structure Provisioner.InRange {β : Type} (provisioner : Provisioner β) : Prop where
  netKeyIndex_lt : provisioner.netKeyIndex < 256 ^ 2
  flags_lt : provisioner.flags < 256
  ivIndex_lt : provisioner.ivIndex < 256 ^ 4
  unicastAddr_lt : provisioner.unicastAddr < 256 ^ 2

/-! ### A working link -/

namespace Exchange

variable {β α : Type}

def pairs : Exchange β α → Bool
  | .call (.act .pair) _ => true
  | _ => false

end Exchange

/-- What is awaited returns; pairing may also fail in the ways that are caught. -/
def BearerAction.Works {β : Type} : BearerAction β → Except PyError Unit → Prop
  | .pair, result => result = .ok () ∨ result = .error .timeoutError ∨ result = .error .osError
  | _, result => result = .ok ()

/-- `recv_prov` has a PDU or its timer has run out. -/
def workingLink {β : Type} : (call : BearerCall β) → Reply call.Value → Prop
  | .act action, reply => action.Works reply.result
  | .receive _, reply => (∃ received, reply.result = .ok received) ∨ reply.result = .error .timeoutError

/-! ### What the pure steps raise -/

section Steps

variable (suite : CipherSuite) (ecdh : Bytes → Except String Bytes)

theorem checkPdu_errors (pdu : Bytes) (expectedType : UInt8) (stepName : String) :
    OnlyRaises PyError.isProvisioningError
      (checkPdu (codeSuite suite ecdh) pdu expectedType stepName) := by
  cases pdu with
  | nil => exact .error rfl
  | cons first rest =>
    exact .ite (fun _ => .error rfl) fun _ => .ite (fun _ => .error rfl) fun _ => .ok _

/-- The last check, of a PDU that is not empty. -/
theorem checkComplete_errors {pdu : Bytes} (present : pdu ≠ []) :
    OnlyRaises PyError.isProvisioningError (checkComplete (codeSuite suite ecdh) pdu) := by
  cases pdu with
  | nil => exact absurd rfl present
  | cons first rest =>
    exact .ite (fun _ => .error rfl) fun _ => .ite (fun _ => .error rfl) fun _ => .ok _

theorem sharedSecret_errors (devicePubKeyBytes : Bytes) :
    OnlyRaises PyError.isProvisioningError (sharedSecret (codeSuite suite ecdh) devicePubKeyBytes) := by
  refine .ite (fun _ => .error rfl) fun _ => ?_
  split
  · exact .ok _
  · exact .error rfl

theorem s1_ok {m : Bytes} (present : m ≠ []) :
    ∃ salt, (codeSuite suite ecdh).s1 m = .ok salt ∧ salt.length = _AES_BLOCK_SIZE := by
  have filled : ¬(m.isEmpty = true) := fun empty => present (List.isEmpty_iff.mp empty)
  rw [MacSuite.s1, if_neg filled]
  exact aesCmac_ok suite rfl m

theorem k1_ok {salt : Bytes} (valid : salt.length = _AES_BLOCK_SIZE) (n p : Bytes) :
    ∃ key, (codeSuite suite ecdh).k1 n salt p = .ok key ∧ key.length = _AES_BLOCK_SIZE := by
  obtain ⟨t, first, length⟩ := aesCmac_ok suite valid n
  obtain ⟨key, second, length'⟩ := aesCmac_ok suite length p
  refine ⟨key, ?_, length'⟩
  rw [MacSuite.k1, MacSuite.checkKey, if_pos valid]
  change (aesCmac suite salt n >>= fun t => aesCmac suite t p) = _
  rw [first]
  exact second

theorem confirmationSalt_ok (self : Provisioner UInt8) (deviceCaps devicePubKeyBytes : Bytes) :
    ∃ salt, confirmationSalt (codeSuite suite ecdh) self deviceCaps devicePubKeyBytes = .ok salt ∧
      salt.length = _AES_BLOCK_SIZE := by
  apply s1_ok
  intro empty
  simp [MacSuite.lits, inviteParams] at empty

theorem verifyConfirmation_errors {confKey : Bytes} (valid : confKey.length = _AES_BLOCK_SIZE)
    (randomDevice devConfirmation : Bytes) :
    OnlyRaises PyError.isProvisioningError
      (verifyConfirmation (codeSuite suite ecdh) confKey randomDevice devConfirmation) := by
  obtain ⟨mac, computed, _⟩ := aesCmac_ok suite valid
    (randomDevice ++ (codeSuite suite ecdh).lits _NO_OOB_AUTH)
  have expected : confirmation (codeSuite suite ecdh) confKey randomDevice = .ok mac := computed
  unfold verifyConfirmation
  rw [expected]
  exact .ite (fun _ => .error rfl) fun _ => .ok _

theorem provisioningData_ok {self : Provisioner UInt8} (inRange : self.InRange) :
    ∃ data, provisioningData (codeSuite suite ecdh) self = .ok data := by
  rw [provisioningData, packBE_ok inRange.netKeyIndex_lt, byteOf_ok inRange.flags_lt,
    packBE_ok inRange.ivIndex_lt, packBE_ok inRange.unicastAddr_lt]
  exact ⟨_, rfl⟩

end Steps

/-! ### The parts of the exchange -/

/-- The fifth PDU is there and empty. -/
def ExchangeHistory.EmptyAnswer {β : Type} (history : ExchangeHistory β) : Prop :=
  history.pdus[4]? = some []

/-- The exception is a `ProvisioningError`, unless the fifth PDU is empty. -/
def FailsWell (history : ExchangeHistory UInt8) (error : PyError) : Prop :=
  error.isProvisioningError = true ↔ ¬history.EmptyAnswer

/-- So many PDUs have been received. -/
def HasReceived (n : Nat) (history : ExchangeHistory UInt8) : Prop := history.received.length = n

theorem HasReceived.no_answer {n : Nat} {history : ExchangeHistory UInt8} (few : n ≤ 4)
    (received : HasReceived n history) : ¬history.EmptyAnswer := by
  intro empty
  have inside := (List.getElem?_eq_some_iff.mp empty).1
  rw [ExchangeHistory.pdus, List.length_map, received] at inside
  omega

theorem HasReceived.failsWell {n : Nat} {history : ExchangeHistory UInt8} {error : PyError} (few : n ≤ 4)
    (received : HasReceived n history) (provisioning : error.isProvisioningError = true) :
    FailsWell history error :=
  ⟨fun _ => received.no_answer few, fun _ => provisioning⟩

section Parts

variable {suite : CipherSuite} {ecdh : Bytes → Except String Bytes} {provisioner : Provisioner UInt8}
  {client : BleakClient} {history : ExchangeHistory UInt8} {n : Nat}

theorem await_ends {action : BearerAction UInt8}
    (always : ∀ result, action.Works result → result = .ok ()) (received : HasReceived n history) :
    (Exchange.await action).Ensures workingLink (fun after _ => HasReceived n after) FailsWell
      history := by
  rintro ⟨result, clock⟩ works
  rw [always result works]
  exact (congrArg List.length (received_act history action _)).trans received

theorem sendProv_ends {pdu : Bytes} (received : HasReceived n history) :
    (sendProv (codeSuite suite ecdh) client pdu).Ensures workingLink
      (fun after _ => HasReceived n after) FailsWell history := by
  apply Program.ensures_forM (HasReceived n) _ received
  intro segment before kept
  apply Program.ensures_seq (await_ends (by intro _ works; exact works) kept)
  intro written _ kept
  split
  · exact await_ends (by intro _ works; exact works) kept
  · exact kept

theorem recvProv_ends (recvTimeout : Nat) (stepName : String) (few : n ≤ 4)
    (received : HasReceived n history) :
    (recvProv recvTimeout stepName : Exchange UInt8 Bytes).Ensures workingLink
      (fun (after : ExchangeHistory UInt8) pdu => HasReceived (n + 1) after ∧
        after.received.getLast?.map ReceivedPdu.pdu = some pdu)
      FailsWell history := by
  rintro ⟨result, clock⟩ (⟨⟨number, pdu⟩, rfl⟩ | timedOut)
  · have one := received_receive history recvTimeout ⟨number, pdu⟩ clock
    refine ⟨?_, ?_⟩
    · rw [HasReceived, one, List.length_append, received]
      rfl
    · rw [one, List.getLast?_concat]
      rfl
  · cases timedOut
    have none : ExchangeHistory.received
        (history ++ [⟨.receive recvTimeout, ⟨.error .timeoutError, clock⟩⟩]) = history.received := by
      rw [ExchangeHistory.received, List.filterMap_append]
      exact List.append_nil _
    exact HasReceived.failsWell few ((congrArg List.length none).trans received) rfl

/-- A PDU is received and checked. -/
theorem recvChecked_ends {β : Type} {recvTimeout : Nat} {stepName : String} {type : UInt8}
    {rest : Bytes → Exchange UInt8 β} {returns : ExchangeHistory UInt8 → β → Prop} (few : n < 4)
    (received : HasReceived n history)
    (next : ∀ after pdu, HasReceived (n + 1) after →
      (rest pdu).Ensures workingLink returns FailsWell after) :
    (recvProv recvTimeout stepName >>= fun pdu =>
      (liftM (checkPdu (codeSuite suite ecdh) pdu type stepName) : Exchange UInt8 Unit) >>= fun _ =>
        rest pdu).Ensures workingLink returns FailsWell history := by
  apply Program.ensures_seq (recvProv_ends _ _ (Nat.le_of_lt few) received)
  rintro after pdu ⟨one, _⟩
  apply Program.ensures_lift_bind
  · exact fun _ _ => next after pdu one
  · exact fun error raised => one.failsWell few (checkPdu_errors suite ecdh _ _ _ error raised)

theorem subscribe_ends (new : HasReceived 0 history) :
    (subscribe client).Ensures workingLink (fun after _ => HasReceived 0 after) FailsWell history := by
  have subscribed (before : ExchangeHistory UInt8) (kept : HasReceived 0 before) :
      (Exchange.await .startNotify).Ensures workingLink (fun after _ => HasReceived 0 after) FailsWell
        before :=
    await_ends (by intro _ works; exact works) kept
  unfold subscribe
  split
  · intro reply works
    have kept : HasReceived 0 (history ++ [⟨.act .pair, reply⟩]) :=
      (congrArg List.length (received_act history .pair reply)).trans new
    obtain ⟨result, clock⟩ := reply
    rcases works with rfl | rfl | rfl
    · exact subscribed _ kept
    · exact subscribed _ kept
    · exact subscribed _ kept
  · exact subscribed history new

theorem exchangeInvite_ends (new : HasReceived 0 history) :
    (exchangeInvite (codeSuite suite ecdh) client).Ensures workingLink
      (fun after _ => HasReceived 1 after) FailsWell history := by
  apply Program.ensures_seq (sendProv_ends new)
  intro sent _ kept
  exact recvChecked_ends (by decide) kept fun _ _ one => one

theorem exchangePublicKeys_ends (one : HasReceived 1 history) :
    (exchangePublicKeys (codeSuite suite ecdh) provisioner client).Ensures workingLink
      (fun after _ => HasReceived 2 after) FailsWell history := by
  apply Program.ensures_seq (sendProv_ends one)
  intro started _ kept
  apply Program.ensures_seq (await_ends (by intro _ works; exact works) kept)
  intro slept _ kept
  apply Program.ensures_seq (sendProv_ends kept)
  intro sent _ kept
  exact recvChecked_ends (by decide) kept fun _ _ two => two

variable {randomProvisioner : Bytes}

theorem exchangeConfirmations_ends {confKey : Bytes} (valid : confKey.length = _AES_BLOCK_SIZE)
    (two : HasReceived 2 history) :
    (exchangeConfirmations (codeSuite suite ecdh) client confKey randomProvisioner).Ensures workingLink
      (fun after _ => HasReceived 4 after) FailsWell history := by
  obtain ⟨conf, computed, _⟩ := aesCmac_ok suite valid
    (randomProvisioner ++ (codeSuite suite ecdh).lits _NO_OOB_AUTH)
  have own : confirmation (codeSuite suite ecdh) confKey randomProvisioner = .ok conf := computed
  apply Program.ensures_lift_bind
  · intro _ _
    -- what is sent is answered twice, and then the two values are compared
    apply Program.ensures_seq (sendProv_ends two)
    intro sent _ kept
    apply recvChecked_ends (by decide) kept
    intro confirmed devConfPdu three
    apply Program.ensures_seq (sendProv_ends three)
    intro sent' _ kept
    apply recvChecked_ends (by decide) kept
    intro after devRandomPdu four
    apply Program.ensures_lift_bind
    · exact fun _ _ => four
    · intro error raised
      exact four.failsWell (by decide) (verifyConfirmation_errors suite ecdh valid _ _ error raised)
  · intro error raised
    cases own.symm.trans raised

/-- The answer to the provisioning data is the fifth PDU. -/
theorem answer_of_received {after : ExchangeHistory UInt8} {pdu : Bytes} (five : HasReceived 5 after)
    (last : after.received.getLast?.map ReceivedPdu.pdu = some pdu) : after.pdus[4]? = some pdu := by
  rw [List.getLast?_eq_getElem?, show after.received.length = 5 from five] at last
  rw [ExchangeHistory.pdus, List.getElem?_map]
  exact last

theorem exchangeData_ends {secret confSalt randomDevice : Bytes} (inRange : provisioner.InRange)
    (valid : confSalt.length = _AES_BLOCK_SIZE) (four : HasReceived 4 history) :
    (exchangeData (codeSuite suite ecdh) provisioner client secret confSalt randomProvisioner
      randomDevice).Ensures workingLink (fun after _ => ¬ExchangeHistory.EmptyAnswer after) FailsWell
        history := by
  have present : confSalt ++ randomProvisioner ++ randomDevice ≠ [] := by
    intro empty
    simp only [List.append_eq_nil_iff] at empty
    rw [empty.1.1] at valid
    cases valid
  obtain ⟨provSalt, salted, length⟩ := s1_ok suite ecdh present
  obtain ⟨sessionKey, keyed, keyLength⟩ :=
    k1_ok suite ecdh length secret ((codeSuite suite ecdh).lits prsk)
  obtain ⟨sessionNonce, nonced, nonceLength⟩ :=
    k1_ok suite ecdh length secret ((codeSuite suite ecdh).lits prsn)
  obtain ⟨devKey, derived, _⟩ := k1_ok suite ecdh length secret ((codeSuite suite ecdh).lits prdk)
  obtain ⟨provData, packed⟩ := provisioningData_ok suite ecdh inRange
  have parameters : CcmParameters 8 (sessionNonce.drop 3) := by
    refine ⟨.inr rfl, ?_⟩
    rw [List.length_drop, nonceLength]
    rfl
  have encrypted : (codeSuite suite ecdh).meshAesCcmEncrypt sessionKey (sessionNonce.drop 3) provData 8 =
      .ok _ :=
    meshAesCcmEncrypt_ok suite keyLength parameters
  -- the steps before the sending raise nothing
  apply Program.ensures_ok_bind salted
  apply Program.ensures_ok_bind keyed
  apply Program.ensures_ok_bind nonced
  apply Program.ensures_ok_bind derived
  apply Program.ensures_ok_bind packed
  apply Program.ensures_ok_bind encrypted
  apply Program.ensures_seq (sendProv_ends four)
  intro sent _ kept
  apply Program.ensures_seq (recvProv_ends _ _ (by decide) kept)
  rintro after resultPdu ⟨five, last⟩
  have answer := answer_of_received five last
  have emptyAnswer : ExchangeHistory.EmptyAnswer after ↔ resultPdu = [] := by
    rw [ExchangeHistory.EmptyAnswer, answer, Option.some.injEq]
  apply Program.ensures_lift_bind
  · intro _ checked empty
    rw [emptyAnswer.mp empty] at checked
    cases checked
  · intro error raised
    by_cases empty : resultPdu = []
    · rw [empty] at raised
      cases raised
      exact ⟨nofun, fun present => absurd (emptyAnswer.mpr empty) present⟩
    · have provisioning := checkComplete_errors suite ecdh empty error raised
      exact ⟨fun _ isEmpty => empty (emptyAnswer.mp isEmpty), fun _ => provisioning⟩

theorem runExchange_ends (inRange : provisioner.InRange) :
    (runExchange (codeSuite suite ecdh) provisioner client randomProvisioner).Ensures workingLink
      (fun after _ => ¬ExchangeHistory.EmptyAnswer after) FailsWell [] := by
  have new : HasReceived 0 [] := rfl
  apply Program.ensures_seq (subscribe_ends new)
  intro subscribed _ none
  apply Program.ensures_seq (exchangeInvite_ends none)
  intro invited capsPdu one
  apply Program.ensures_seq (exchangePublicKeys_ends one)
  intro exchanged devicePubKeyBytes two
  apply Program.ensures_lift_bind
  · intro secret _
    -- neither the salt nor the key can fail, as their inputs have the right lengths
    obtain ⟨confSalt, salted, length⟩ :=
      confirmationSalt_ok suite ecdh provisioner (capsPdu.drop 1) devicePubKeyBytes
    obtain ⟨confKey, derived, keyLength⟩ :=
      k1_ok suite ecdh length secret ((codeSuite suite ecdh).lits prck)
    apply Program.ensures_ok_bind salted
    apply Program.ensures_ok_bind derived
    apply Program.ensures_seq (exchangeConfirmations_ends keyLength two)
    intro confirmed randomDevice four
    apply Program.ensures_seq (exchangeData_ends inRange length four)
    intro sent devKey answered
    -- only the sleep before the return is left
    rintro ⟨result, clock⟩ slept
    cases (slept : result = .ok ())
    intro empty
    apply answered
    rwa [ExchangeHistory.EmptyAnswer, ExchangeHistory.pdus, received_act] at empty
  · exact fun error raised => two.failsWell (by decide) (sharedSecret_errors suite ecdh _ error raised)

end Parts

/-! ### Every run -/

/-- It is a result, or a `ProvisioningError` is raised. -/
def KeepsContract (result : Except PyError (ProvisioningResult UInt8)) : Prop :=
  ∀ error, result = .error error → error.isProvisioningError = true

namespace Session

/-- The link works: what is awaited returns, pairing may fail in the ways that are caught, and
nobody cancels the exchange. The device may notify anything at any time. -/
def WorkingLink (s : Session UInt8) : SessionEvent UInt8 → Prop
  | .proceed result => result = .ok () ∨
      s.exchange.pairs = true ∧ (result = .error .timeoutError ∨ result = .error .osError)
  | .cancel => False
  | _ => True

instance (s : Session UInt8) : ∀ event, Decidable (s.WorkingLink event)
  | .proceed _ => inferInstanceAs (Decidable (_ ∨ _))
  | .cancel => isFalse not_false
  | .notify _ | .process | .wake | .expire => isTrue trivial

/-- However the coroutine goes on, it ends as it should. -/
def Contracted (s : Session UInt8) : Prop :=
  s.exchange.Ensures workingLink (fun after _ => ¬ExchangeHistory.EmptyAnswer after) FailsWell s.history

section Run

variable {suite : CipherSuite} {ecdh : Bytes → Except String Bytes} {s s' : Session UInt8}
  {event : SessionEvent UInt8}

theorem Contracted.resume {call : BearerCall UInt8} {result : Except PyError call.Value}
    {next : Reply call.Value → Exchange UInt8 (ProvisioningResult UInt8)} (contracted : s.Contracted)
    (awaits : s.exchange = .call call next) (granted : workingLink call ⟨result, s.clock⟩) :
    (s.resume call result next).Contracted := by
  rw [Contracted, awaits] at contracted
  exact contracted _ granted

theorem Contracted.step (contracted : s.Contracted) (works : s.WorkingLink event)
    (stepped : s.step (codeSuite suite ecdh) event = some s') : s'.Contracted := by
  cases step_cases stepped with
  | notified data =>
    unfold onNotify
    split
    · exact contracted
    · exact contracted
  | collects data tasks oldest partially rxSarBuffer bytes => exact contracted
  | arrives data tasks oldest complete pdu rxSarBuffer bytes left => exact contracted
  | proceeds action next awaits result =>
    apply contracted.resume awaits
    -- a working link answers everything but pairing with success
    rcases works with rfl | ⟨pairs, failed⟩
    · cases action with
      | pair => exact .inl rfl
      | _ => rfl
    · rw [awaits] at pairs
      cases action with
      | pair => exact .inr failed
      | _ => cases pairs
  | wakes timeout next awaits set => exact contracted.resume awaits (.inl ⟨s.rxBuffer, rfl⟩)
  | expires timeout next awaits => exact contracted.resume awaits (.inr rfl)
  | cancels awaits => exact absurd works not_false

/-- While the exchange has not ended, it can go on. -/
theorem goes_on (suite : ProvisionerSuite UInt8) (unfinished : s.exchange.result? = none) :
    ∃ event s', s.WorkingLink event ∧ s.step suite event = some s' := by
  rcases awaits : s.exchange with result | ⟨action | timeout, next⟩
  · rw [awaits] at unfinished
    cases unfinished
  · have gives : action.gives (.ok ()) = true := by
      cases action with
      | _ => rfl
    refine ⟨.proceed (.ok ()), s.resume (.act action) (.ok ()) next, .inl rfl, ?_⟩
    rw [step, awaits]
    exact if_pos gives
  · refine ⟨.expire, s.resume (.receive timeout) (.error .timeoutError) next, trivial, ?_⟩
    rw [step, awaits]

end Run

/-- Whatever the device notifies and when, over a working link the exchange goes on until it
ends, and it ends with a result or a `ProvisioningError` exactly when the PDU that answers the
provisioning data, if there is one, is not empty. -/
theorem error_contract (suite : CipherSuite) (ecdh : Bytes → Except String Bytes)
    (provisioner : Provisioner UInt8) (inRange : provisioner.InRange) (client : BleakClient)
    (randomProvisioner : Bytes) {events : List (SessionEvent UInt8)} {s : Session UInt8}
    (works : (sessionSystem (codeSuite suite ecdh)).Guarded WorkingLink
      (start (codeSuite suite ecdh) provisioner client randomProvisioner) events)
    (ran : (sessionSystem (codeSuite suite ecdh)).exec
      (start (codeSuite suite ecdh) provisioner client randomProvisioner) events = some s) :
    (s.exchange.result? = none →
      ∃ event s', s.WorkingLink event ∧ s.step (codeSuite suite ecdh) event = some s') ∧
    ∀ result, s.exchange.result? = some result →
      (KeepsContract result ↔ ∀ pdu, (ExchangeHistory.pdus s.history)[4]? = some pdu → pdu ≠ []) := by
  refine ⟨goes_on _, ?_⟩
  intro result ended
  have initial : (start (codeSuite suite ecdh) provisioner client randomProvisioner).Contracted :=
    runExchange_ends inRange
  have contracted : s.Contracted :=
    (sessionSystem _).exec_invariant Contracted
      (fun _ _ _ contracted works stepped => contracted.step works stepped) initial works ran
  have answered : (∀ pdu, (ExchangeHistory.pdus s.history)[4]? = some pdu → pdu ≠ []) ↔
      ¬ExchangeHistory.EmptyAnswer s.history := by
    constructor
    · exact fun all empty => all [] empty rfl
    · rintro present pdu answer rfl
      exact present answer
  -- the contract of the coroutine that has ended is what is asked for
  rw [answered]
  rcases exchange : s.exchange with (error | value) | ⟨call, next⟩
  all_goals
    rw [exchange] at ended
    rw [Contracted, exchange] at contracted
    cases ended
  · have fails : error.isProvisioningError = true ↔ ¬ExchangeHistory.EmptyAnswer s.history := contracted
    rw [← fails]
    constructor
    · exact fun well => well error rfl
    · rintro provisioning _ ⟨⟩
      exact provisioning
  · exact ⟨fun _ => contracted, fun _ => nofun⟩

/-- The exchange up to the sending of the provisioning data. -/
def dataSent : List (SessionEvent UInt8) :=
  let devRandom := List.replicate 16 0x05
  keysExchanged sampleSuite ++
    answered sampleSuite ([_PROV_CONFIRMATION] ++ sampleConfirmation devRandom) ++
    answered sampleSuite ([_PROV_RANDOM] ++ devRandom)

/-- The device answers with a Failed PDU. -/
def rejectedRun : List (SessionEvent UInt8) :=
  dataSent ++ answered sampleSuite [_PROV_FAILED, 0x05]

theorem rejectedRun_contract :
    ∃ s ∈ (sessionSystem sampleSuite).exec sampleStart rejectedRun,
      ∀ result, s.exchange.result? = some result →
        (KeepsContract result ↔ ∀ pdu, (ExchangeHistory.pdus s.history)[4]? = some pdu → pdu ≠ []) := by
  have works : (sessionSystem sampleSuite).Guarded WorkingLink sampleStart rejectedRun := by
    decide +kernel
  have inRange : sampleProvisioner.InRange := ⟨by decide, by decide, by decide, by decide⟩
  cases ran : (sessionSystem sampleSuite).exec sampleStart rejectedRun with
  | none =>
    have finishes : ((sessionSystem sampleSuite).exec sampleStart rejectedRun).isSome := by
      decide +kernel
    rw [ran] at finishes
    cases finishes
  | some s =>
    exact ⟨s, rfl, (error_contract nonceTagSuite (fun _ => .ok (List.replicate 32 0x2A))
      sampleProvisioner inRange sampleClient sampleRandom works ran).2⟩

/-- The device answers with a segment that carries nothing. -/
theorem emptyAnswer_escapes :
    (sessionSystem sampleSuite).Guarded WorkingLink sampleStart
      (dataSent ++ answered sampleSuite []) ∧
    ∃ s ∈ (sessionSystem sampleSuite).exec sampleStart (dataSent ++ answered sampleSuite []),
      s.exchange.result? = some (.error .indexError) ∧ ¬KeepsContract (.error .indexError) := by
  have escapes : ¬KeepsContract (.error .indexError) := fun well => absurd (well _ rfl) (by decide)
  have ran : ∃ s ∈ (sessionSystem sampleSuite).exec sampleStart (dataSent ++ answered sampleSuite []),
      s.exchange.result? = some (.error .indexError) := by decide +kernel
  obtain ⟨s, ran, ended⟩ := ran
  exact ⟨by decide +kernel, s, ran, ended, escapes⟩

end Session

end TuyaBleMesh
