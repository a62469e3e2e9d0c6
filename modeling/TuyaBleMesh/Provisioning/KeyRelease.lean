import TuyaBleMesh.Provisioning.Session

/-!
# Key release order

What the exchange sends is a function of what it has received: each PDU is sent after
as many PDUs, and the data only after the check of the last two. The contract of the
exchange says so for every write; the session keeps it whatever is notified and when.
-/

namespace TuyaBleMesh

variable {β : Type}

/-! ### What has been received -/

/-- The PDU that a call has returned. -/
def received? : ((call : BearerCall β) × Reply call.Value) → Option (ReceivedPdu β)
  | ⟨.receive _, reply⟩ => reply.result.toOption
  | ⟨.act _, _⟩ => none

abbrev ExchangeHistory (β : Type) := Program.History fun call : BearerCall β => Reply call.Value

def ExchangeHistory.received (history : ExchangeHistory β) : List (ReceivedPdu β) :=
  history.filterMap received?

def ExchangeHistory.pdus (history : ExchangeHistory β) : List (List β) :=
  history.received.map ReceivedPdu.pdu

section Received

variable (history : ExchangeHistory β)

theorem received_act (action : BearerAction β) (reply : Reply Unit) :
    ExchangeHistory.received (history ++ [⟨.act action, reply⟩]) = history.received := by
  rw [ExchangeHistory.received, List.filterMap_append]
  exact List.append_nil _

theorem received_receive (timeout : Nat) (received : ReceivedPdu β) (clock : Nat) :
    ExchangeHistory.received (history ++ [⟨.receive timeout, ⟨.ok received, clock⟩⟩]) =
      history.received ++ [received] := by
  rw [ExchangeHistory.received, List.filterMap_append]
  rfl

end Received

def pduType (suite : ProvisionerSuite β) (pdu : List β) : Option UInt8 :=
  pdu.head?.map suite.value

section Types

variable {suite : ProvisionerSuite β} {pdu : List β} {type : UInt8}

theorem pduType_lit (rest : List β) : pduType suite (suite.lits [type] ++ rest) = some type :=
  congrArg some (suite.value_lit type)

theorem pduType_ne {other : UInt8} (rest : List β) (differs : type ≠ other) :
    pduType suite (suite.lits [type] ++ rest) ≠ some other := by
  rw [pduType_lit]
  exact fun same => differs (Option.some.inj same)

theorem pduType_of_check {stepName : String} (checked : checkPdu suite pdu type stepName = .ok ()) :
    pduType suite pdu = some type := by
  cases pdu with
  | nil => cases checked
  | cons first rest =>
    simp only [checkPdu] at checked
    split at checked
    · cases checked
    · split at checked
      · cases checked
      · next same => exact congrArg some (not_not.mp same)

theorem pduType_of_checkComplete (checked : checkComplete suite pdu = .ok ()) :
    pduType suite pdu = some _PROV_COMPLETE := by
  cases pdu with
  | nil => cases checked
  | cons first rest =>
    simp only [checkComplete] at checked
    split at checked
    · cases checked
    · split at checked
      · cases checked
      · next same => exact congrArg some (not_not.mp same)

end Types

theorem verifyConfirmation_ok {suite : ProvisionerSuite β} [DecidableEq β]
    {confKey randomDevice devConfirmation : List β} :
    verifyConfirmation suite confKey randomDevice devConfirmation = .ok () ↔
      confirmation suite confKey randomDevice = .ok devConfirmation := by
  unfold verifyConfirmation
  cases confirmation suite confKey randomDevice with
  | error error => exact ⟨nofun, nofun⟩
  | ok expectedConf =>
    simp only [bind, Except.bind]
    split
    · next differs => exact ⟨nofun, fun same => absurd (Except.ok.inj same) differs⟩
    · next same => exact ⟨fun _ => congrArg _ (not_not.mp same), fun _ => rfl⟩

/-! ### What may be sent -/

section Contract

variable (suite : ProvisionerSuite β) (provisioner : Provisioner β) (client : BleakClient)
  (randomProvisioner : List β)

/-- `conf_key` for the Capabilities and the public key that have been received. -/
def confirmationKey (capsPdu devPubPdu : List β) : Except PyError (List β) := do
  let secret ← sharedSecret suite (devPubPdu.drop 1)
  let confSalt ← confirmationSalt suite provisioner (capsPdu.drop 1) (devPubPdu.drop 1)
  suite.k1 secret confSalt (suite.lits prck)

/-- The Random PDU is the one that the Confirmation PDU has confirmed, under the key of the
exchange. -/
structure Verified (capsPdu devPubPdu devConfPdu devRandomPdu : List β) : Prop where
  isConfirmation : pduType suite devConfPdu = some _PROV_CONFIRMATION
  isRandom : pduType suite devRandomPdu = some _PROV_RANDOM
  confirmed : ∃ confKey, confirmationKey suite provisioner capsPdu devPubPdu = .ok confKey ∧
    confirmation suite confKey (devRandomPdu.drop 1) = .ok (devConfPdu.drop 1)

/-- The PDU that is sent after the PDUs that have been received. -/
inductive Sends : List (List β) → List β → Prop
  | invite : Sends [] (suite.lits ([_PROV_INVITE] ++ inviteParams))
  | start (capsPdu : List β) : Sends [capsPdu] (suite.lits ([_PROV_START] ++ startParams))
  | publicKey (capsPdu : List β) :
    Sends [capsPdu] (suite.lits [_PROV_PUBLIC_KEY] ++ provisioner.ourPubKeyBytes)
  | confirmation (capsPdu devPubPdu confKey conf : List β)
      (key : confirmationKey suite provisioner capsPdu devPubPdu = .ok confKey)
      (own : TuyaBleMesh.confirmation suite confKey randomProvisioner = .ok conf) :
    Sends [capsPdu, devPubPdu] (suite.lits [_PROV_CONFIRMATION] ++ conf)
  | random (capsPdu devPubPdu devConfPdu : List β)
      (isConfirmation : pduType suite devConfPdu = some _PROV_CONFIRMATION) :
    Sends [capsPdu, devPubPdu, devConfPdu] (suite.lits [_PROV_RANDOM] ++ randomProvisioner)
  | data (capsPdu devPubPdu devConfPdu devRandomPdu : List β)
      (verified : Verified suite provisioner capsPdu devPubPdu devConfPdu devRandomPdu)
      (sessionKey sessionNonce provData encryptedData : List β)
      (encrypts : suite.meshAesCcmEncrypt sessionKey sessionNonce provData 8 =
        .ok encryptedData) :
    Sends [capsPdu, devPubPdu, devConfPdu, devRandomPdu]
      (suite.lits [_PROV_DATA] ++ encryptedData)

/-- Every write is of a segment of a PDU that may be sent, if what `recv_prov` returns has arrived
after all that was done before. -/
def exchangeContract : Program.Contract fun call : BearerCall β => Reply call.Value where
  permits history
    | .act (.write segment pdu) =>
      Sends suite provisioner randomProvisioner (ExchangeHistory.pdus history) pdu ∧
        segment ∈ wrapProvisioningPdu suite pdu client.mtuSize
    | _ => True
  grants history
    | .receive _, reply => ∀ received, reply.result = .ok received →
      ∀ entry ∈ history, entry.2.clock < received.number
    | .act _, _ => True

/-- All segments of the PDU have been written before the PDU `number` arrived. -/
def SentBefore (history : ExchangeHistory β) (pdu : List β) (number : Nat) : Prop :=
  ∀ segment ∈ wrapProvisioningPdu suite pdu client.mtuSize, ∃ clock < number,
    ⟨.act (.write segment pdu), ⟨.ok (), clock⟩⟩ ∈ history

/-- What has happened when the exchange returns. -/
def Provisioned (history : ExchangeHistory β) : Prop :=
  ∃ caps devPub devConf devRandom complete data,
    history.received = [caps, devPub, devConf, devRandom, complete] ∧
      Verified suite provisioner caps.pdu devPub.pdu devConf.pdu devRandom.pdu ∧
      pduType suite data = some _PROV_DATA ∧ SentBefore suite client history data complete.number ∧
      pduType suite complete.pdu = some _PROV_COMPLETE

end Contract

/-! ### What the parts of the exchange do -/

section Parts

variable {suite : ProvisionerSuite β} {provisioner : Provisioner β} {client : BleakClient}
  {randomProvisioner : List β} {history : ExchangeHistory β}

theorem await_wp {action : BearerAction β}
    (permitted : (exchangeContract suite provisioner client randomProvisioner).permits history
      (.act action)) {post : ExchangeHistory β → Unit → Prop}
    (then_ : ∀ clock, post (history ++ [⟨.act action, ⟨.ok (), clock⟩⟩]) ()) :
    (Exchange.await action).wp (exchangeContract suite provisioner client randomProvisioner) post
      history := by
  refine ⟨permitted, fun reply _ => ?_⟩
  rcases reply with ⟨error | ⟨⟩, clock⟩
  · trivial
  · exact then_ clock

theorem sleep_wp (duration : Nat) :
    (Exchange.await (.sleep duration)).wp
      (exchangeContract suite provisioner client randomProvisioner)
      (fun (after : ExchangeHistory β) _ =>
        after.received = history.received ∧ history <+: after) history := by
  apply await_wp
  · trivial
  · exact fun clock => ⟨received_act _ _ _, List.prefix_append _ _⟩

theorem recvProv_wp (recvTimeout : Nat) (stepName : String) :
    (recvProv recvTimeout stepName).wp (exchangeContract suite provisioner client randomProvisioner)
      (fun (after : ExchangeHistory β) pdu => ∃ number,
        after.received = history.received ++ [⟨number, pdu⟩] ∧
          history <+: after ∧ ∀ entry ∈ history, entry.2.clock < number) history := by
  refine ⟨trivial, fun reply granted => ?_⟩
  rcases reply with ⟨error | received, clock⟩
  · cases error <;> trivial
  · exact ⟨received.number, received_receive history recvTimeout received clock,
      List.prefix_append _ _, granted received rfl⟩

/-- All segments are written, when the PDU may be sent. -/
theorem sendProv_wp {pdu : List β}
    (sends : Sends suite provisioner randomProvisioner history.pdus pdu) :
    (sendProv suite client pdu).wp (exchangeContract suite provisioner client randomProvisioner)
      (fun (after : ExchangeHistory β) _ => after.received = history.received ∧
        ∀ segment ∈ wrapProvisioningPdu suite pdu client.mtuSize, ∃ clock,
          ⟨.act (.write segment pdu), ⟨.ok (), clock⟩⟩ ∈ after) history := by
  let segments := wrapProvisioningPdu suite pdu client.mtuSize
  -- the segments that are left are the only ones that have not been written
  let invariant (left : List (List β)) (after : ExchangeHistory β) : Prop :=
    after.received = history.received ∧ left ⊆ segments ∧
      ∀ segment ∈ segments, segment ∈ left ∨ ∃ clock,
        ⟨.act (.write segment pdu), ⟨.ok (), clock⟩⟩ ∈ after
  have initial : invariant segments history :=
    ⟨rfl, List.Subset.refl _, fun segment member => .inl member⟩
  refine Program.wp_mono ?_ (Program.wp_forM invariant ?_ initial)
  · rintro after _ ⟨received, _, written⟩
    refine ⟨received, fun segment member => ?_⟩
    exact (written segment member).resolve_left List.not_mem_nil
  · rintro seg rest after ⟨received, left, written⟩
    have permitted : (exchangeContract suite provisioner client randomProvisioner).permits after
        (.act (.write seg pdu)) := by
      refine ⟨?_, left List.mem_cons_self⟩
      rw [ExchangeHistory.pdus, received]
      exact sends
    apply Program.wp_bind
    apply await_wp permitted
    intro clock
    have kept : invariant rest (after ++ [⟨.act (.write seg pdu), ⟨.ok (), clock⟩⟩]) := by
      refine ⟨(received_act _ _ _).trans received, ?_, ?_⟩
      · exact fun segment member => left (List.mem_cons_of_mem _ member)
      · intro segment member
        rcases written segment member with left | ⟨clock', before⟩
        · rcases List.mem_cons.mp left with rfl | later
          · exact .inr ⟨clock, List.mem_append_right _ List.mem_cons_self⟩
          · exact .inl later
        · exact .inr ⟨clock', List.mem_append_left _ before⟩
    split
    · refine Program.wp_mono ?_ (sleep_wp _)
      rintro slept _ ⟨received, earlier⟩
      refine ⟨received.trans kept.1, kept.2.1, fun segment member => ?_⟩
      rcases kept.2.2 segment member with left | ⟨clock', before⟩
      · exact .inl left
      · exact .inr ⟨clock', earlier.subset before⟩
    · exact kept

theorem subscribe_wp :
    (subscribe client).wp (exchangeContract suite provisioner client randomProvisioner)
      (fun (after : ExchangeHistory β) _ => after.received = history.received) history := by
  have subscribed : ∀ before : ExchangeHistory β, before.received = history.received →
      (Exchange.await .startNotify).wp (exchangeContract suite provisioner client randomProvisioner)
        (fun (after : ExchangeHistory β) _ => after.received = history.received) before := by
    intro before received
    apply await_wp
    · trivial
    · exact fun clock => (received_act _ _ _).trans received
  unfold subscribe
  split
  · apply Program.wp_bind
    refine ⟨trivial, fun reply _ => ?_⟩
    have received := received_act history .pair reply
    rcases reply with ⟨error | ⟨⟩, clock⟩
    · -- only a timeout and an `OSError` are caught
      cases error with
      | timeoutError => exact subscribed _ received
      | osError => exact subscribed _ received
      | _ => trivial
    · exact subscribed _ received
  · exact subscribed history rfl

theorem exchangeInvite_wp (new : history.received = []) :
    (exchangeInvite suite client).wp (exchangeContract suite provisioner client randomProvisioner)
      (fun (after : ExchangeHistory β) capsPdu => ∃ number, after.received = [⟨number, capsPdu⟩])
      history := by
  have sends : Sends suite provisioner randomProvisioner history.pdus
      (suite.lits ([_PROV_INVITE] ++ inviteParams)) := by
    rw [ExchangeHistory.pdus, new]
    exact .invite
  apply Program.wp_seq (sendProv_wp sends)
  rintro sent _ ⟨received, _⟩
  apply Program.wp_seq (recvProv_wp _ _)
  rintro after capsPdu ⟨number, answered, _⟩
  apply Program.wp_lift_bind
  intro _ _
  rw [received, new] at answered
  exact ⟨number, answered⟩

theorem exchangePublicKeys_wp {caps : ReceivedPdu β} (before : history.received = [caps]) :
    (exchangePublicKeys suite provisioner client).wp
      (exchangeContract suite provisioner client randomProvisioner)
      (fun (after : ExchangeHistory β) key => ∃ devPub : ReceivedPdu β,
        after.received = [caps, devPub] ∧ key = devPub.pdu.drop 1) history := by
  have sends : ∀ pdu, Sends suite provisioner randomProvisioner [caps.pdu] pdu →
      ∀ after : ExchangeHistory β, after.received = [caps] →
        Sends suite provisioner randomProvisioner after.pdus pdu := by
    intro pdu sends after received
    rw [ExchangeHistory.pdus, received]
    exact sends
  apply Program.wp_seq (sendProv_wp (sends _ (.start _) history before))
  rintro started _ ⟨received, _⟩
  apply Program.wp_seq (sleep_wp _)
  rintro slept _ ⟨kept, _⟩
  have waited := kept.trans (received.trans before)
  apply Program.wp_seq (sendProv_wp (sends _ (.publicKey _) _ waited))
  rintro sent _ ⟨received, _⟩
  apply Program.wp_seq (recvProv_wp _ _)
  rintro after devPubPdu ⟨number, answered, _⟩
  apply Program.wp_lift_bind
  intro _ _
  -- the answer is the only PDU that has come after the capabilities
  rw [received, waited] at answered
  exact ⟨⟨number, devPubPdu⟩, answered, rfl⟩

theorem exchangeConfirmations_wp [DecidableEq β] {caps devPub : ReceivedPdu β} {confKey : List β}
    (before : history.received = [caps, devPub])
    (key : confirmationKey suite provisioner caps.pdu devPub.pdu = .ok confKey) :
    (exchangeConfirmations suite client confKey randomProvisioner).wp
      (exchangeContract suite provisioner client randomProvisioner)
      (fun (after : ExchangeHistory β) _ => ∃ devConf devRandom : ReceivedPdu β,
        after.received = [caps, devPub, devConf, devRandom] ∧
          Verified suite provisioner caps.pdu devPub.pdu devConf.pdu devRandom.pdu) history := by
  apply Program.wp_lift_bind
  intro conf own
  have sendsConf : Sends suite provisioner randomProvisioner history.pdus
      (suite.lits [_PROV_CONFIRMATION] ++ conf) := by
    rw [ExchangeHistory.pdus, before]
    exact .confirmation _ _ _ _ key own
  apply Program.wp_seq (sendProv_wp sendsConf)
  rintro sent _ ⟨received, _⟩
  apply Program.wp_seq (recvProv_wp _ _)
  rintro confirmed devConfPdu ⟨number, answered, _⟩
  rw [received, before] at answered
  apply Program.wp_lift_bind
  intro _ checked
  -- from here on the third PDU is known to be a Confirmation
  have isConfirmation := pduType_of_check checked
  have sendsRandom : Sends suite provisioner randomProvisioner (ExchangeHistory.pdus confirmed)
      (suite.lits [_PROV_RANDOM] ++ randomProvisioner) := by
    rw [ExchangeHistory.pdus, answered]
    exact .random _ _ _ isConfirmation
  apply Program.wp_seq (sendProv_wp sendsRandom)
  rintro sent' _ ⟨received', _⟩
  unfold receiveRandom
  apply Program.wp_seq (recvProv_wp _ _)
  rintro after devRandomPdu ⟨number', answered', _⟩
  rw [received', answered] at answered'
  apply Program.wp_lift_bind
  intro _ checked'
  apply Program.wp_lift_bind
  intro _ verified
  refine ⟨⟨number, devConfPdu⟩, ⟨number', devRandomPdu⟩, answered', isConfirmation,
    pduType_of_check checked', confKey, key, ?_⟩
  exact verifyConfirmation_ok.mp verified

/-- `mesh_aes_ccm_encrypt` is called and its output sent, once the confirmation is verified. -/
theorem exchangeData_wp {caps devPub devConf devRandom : ReceivedPdu β}
    {secret confSalt randomDevice : List β}
    (before : history.received = [caps, devPub, devConf, devRandom])
    (verified : Verified suite provisioner caps.pdu devPub.pdu devConf.pdu devRandom.pdu) :
    (exchangeData suite provisioner client secret confSalt randomProvisioner randomDevice).wp
      (exchangeContract suite provisioner client randomProvisioner)
      (fun after _ => Provisioned suite provisioner client after) history := by
  apply Program.wp_lift_bind
  intro provSalt _
  apply Program.wp_lift_bind
  intro sessionKey _
  apply Program.wp_lift_bind
  intro sessionNonce _
  apply Program.wp_lift_bind
  intro devKey _
  apply Program.wp_lift_bind
  intro provData _
  apply Program.wp_lift_bind
  intro encryptedData encrypts
  have sends : Sends suite provisioner randomProvisioner history.pdus
      (suite.lits [_PROV_DATA] ++ encryptedData) := by
    rw [ExchangeHistory.pdus, before]
    exact .data _ _ _ _ verified _ _ _ _ encrypts
  apply Program.wp_seq (sendProv_wp sends)
  rintro sent _ ⟨received, written⟩
  apply Program.wp_seq (recvProv_wp _ _)
  rintro after resultPdu ⟨number, answered, earlier, later⟩
  rw [received, before] at answered
  apply Program.wp_lift_bind
  intro _ checked
  refine ⟨caps, devPub, devConf, devRandom, ⟨number, resultPdu⟩, _, answered, verified,
    pduType_lit encryptedData, ?_, pduType_of_checkComplete checked⟩
  -- every segment was written before the call that has returned the PDU
  intro segment member
  obtain ⟨clock, entry⟩ := written segment member
  exact ⟨clock, later _ entry, earlier.subset entry⟩

theorem Provisioned.append {entries : ExchangeHistory β} {action : BearerAction β}
    {reply : Reply Unit} (provisioned : Provisioned suite provisioner client history)
    (after : entries = history ++ [⟨.act action, reply⟩]) :
    Provisioned suite provisioner client entries := by
  subst after
  obtain ⟨caps, devPub, devConf, devRandom, complete, data, received, verified, isData, sent,
    isComplete⟩ := provisioned
  refine ⟨caps, devPub, devConf, devRandom, complete, data, ?_, verified, isData, ?_, isComplete⟩
  · exact (received_act _ _ _).trans received
  · intro segment member
    obtain ⟨clock, before, entry⟩ := sent segment member
    exact ⟨clock, before, List.mem_append_left _ entry⟩

/-- The exchange keeps its contract. -/
theorem runExchange_wp [DecidableEq β] :
    (runExchange suite provisioner client randomProvisioner).wp
      (exchangeContract suite provisioner client randomProvisioner)
      (fun after _ => Provisioned suite provisioner client after) [] := by
  apply Program.wp_seq subscribe_wp
  rintro subscribed _ new
  apply Program.wp_seq (exchangeInvite_wp new)
  rintro invited capsPdu ⟨number, capabilities⟩
  apply Program.wp_seq (exchangePublicKeys_wp capabilities)
  rintro exchanged _ ⟨devPub, keys, rfl⟩
  apply Program.wp_lift_bind
  intro secret shared
  apply Program.wp_lift_bind
  intro confSalt salted
  apply Program.wp_lift_bind
  intro confKey derived
  -- the three steps together are the key that the contract speaks of
  have key : confirmationKey suite provisioner capsPdu devPub.pdu = .ok confKey := by
    rw [confirmationKey, shared]
    simp only [bind, Except.bind]
    rw [salted]
    exact derived
  apply Program.wp_seq (exchangeConfirmations_wp keys key)
  rintro confirmed randomDevice ⟨devConf, devRandom, randoms, verified⟩
  apply Program.wp_seq (exchangeData_wp randoms verified)
  rintro sent _ provisioned
  apply Program.wp_bind
  apply await_wp
  · trivial
  · exact fun clock => provisioned.append rfl

end Parts

/-! ### The session keeps the contract -/

namespace Session

/-- What the coroutine may still do, and that the slot is newer than all it has done when
`recv_prov` is about to read it. -/
structure Bound (suite : ProvisionerSuite β) (provisioner : Provisioner β) (client : BleakClient)
    (randomProvisioner : List β) (s : Session β) : Prop where
  keeps : s.exchange.wp (exchangeContract suite provisioner client randomProvisioner)
    (fun after _ => Provisioned suite provisioner client after) s.history
  past : ∀ entry ∈ s.history, entry.2.clock ≤ s.clock
  slot : s.exchange.receives = true → s.rxEvent = true →
    ∀ entry ∈ s.history, entry.2.clock < s.rxBuffer.number

section Bound

variable {suite : ProvisionerSuite β} {provisioner : Provisioner β} {client : BleakClient}
  {randomProvisioner : List β} {s s' : Session β} {event : SessionEvent β}

/-- The coroutine goes on with an answer that it may count on. -/
theorem Bound.resume {call : BearerCall β} {result : Except PyError call.Value}
    {next : Reply call.Value → Exchange β (ProvisioningResult β)}
    (bound : s.Bound suite provisioner client randomProvisioner)
    (awaits : s.exchange = .call call next)
    (granted : (exchangeContract suite provisioner client randomProvisioner).grants s.history call
      ⟨result, s.clock⟩) :
    (s.resume call result next).Bound suite provisioner client randomProvisioner := by
  have keeps := bound.keeps
  rw [awaits] at keeps
  refine ⟨keeps.2 _ granted, ?_, ?_⟩
  · intro entry member
    rcases List.mem_append.mp member with before | last
    · exact bound.past entry before
    · rw [List.mem_singleton.mp last]
      exact le_refl _
  · -- a new event is not set
    intro receives set
    simp only [Session.resume, Bool.and_eq_true] at receives set
    rw [receives] at set
    cases set.2

theorem Bound.step (bound : s.Bound suite provisioner client randomProvisioner)
    (stepped : s.step suite event = some s') :
    s'.Bound suite provisioner client randomProvisioner := by
  cases step_cases stepped with
  | notified data =>
    unfold onNotify
    split
    · exact bound
    · exact ⟨bound.keeps, bound.past, bound.slot⟩
  | collects data tasks oldest partially rxSarBuffer bytes =>
    exact ⟨bound.keeps, bound.past, bound.slot⟩
  | arrives data tasks oldest complete pdu rxSarBuffer bytes left =>
    refine ⟨bound.keeps, ?_, fun _ _ => ?_⟩
    · exact fun entry member => Nat.le_succ_of_le (bound.past entry member)
    · exact fun entry member => Nat.lt_succ_of_le (bound.past entry member)
  | proceeds action next awaits result => exact bound.resume awaits trivial
  -- the PDU in the slot has come before, and what is returned is that one
  | wakes timeout next awaits set =>
    have resumed : (s.resume (.receive timeout) (.ok s.rxBuffer) next).Bound suite provisioner
        client randomProvisioner := by
      apply bound.resume awaits
      intro received ok
      cases ok
      exact bound.slot (by rw [awaits]; rfl) set
    exact ⟨resumed.keeps, resumed.past, resumed.slot⟩
  | expires timeout next awaits => exact bound.resume awaits nofun
  | cancels awaits => exact ⟨trivial, bound.past, nofun⟩

end Bound

section Start

variable [DecidableEq β] (suite : ProvisionerSuite β) (provisioner : Provisioner β)
  (client : BleakClient) (randomProvisioner : List β)

theorem bound_run {events : List (SessionEvent β)} {s : Session β}
    (ran : (sessionSystem suite).exec (start suite provisioner client randomProvisioner) events =
      some s) :
    s.Bound suite provisioner client randomProvisioner := by
  have new : (start suite provisioner client randomProvisioner).Bound suite provisioner client
      randomProvisioner := ⟨runExchange_wp, nofun, nofun⟩
  apply (sessionSystem suite).exec_invariant_of_step _ _ new ran
  exact fun m event m' bound stepped => bound.step stepped

/-- What is being written may be sent after what has been received. -/
theorem sends_of_writing {events : List (SessionEvent β)} {s : Session β}
    (ran : (sessionSystem suite).exec (start suite provisioner client randomProvisioner) events =
      some s)
    {pdu : List β} (writing : s.exchange.writing? = some pdu) :
    Sends suite provisioner randomProvisioner (ExchangeHistory.pdus s.history) pdu := by
  have keeps := (bound_run suite provisioner client randomProvisioner ran).keeps
  rcases exchange : s.exchange with result | ⟨⟨⟨⟩ | ⟨⟩ | ⟨segment, pdu'⟩ | ⟨⟩⟩ | timeout, next⟩
  all_goals
    rw [exchange] at writing keeps
    cases writing
  exact keeps.1.1

/-- In every run, the random value of the provisioner is written only when a Confirmation PDU has
been received as the third PDU, the provisioning data only when four PDUs have been received and
the fourth is the Random PDU that the third has confirmed, and a result is returned only when a
fifth PDU, a Complete PDU, has arrived after all of the provisioning data had been written. -/
theorem key_release_order {events : List (SessionEvent β)} {s : Session β}
    (ran : (sessionSystem suite).exec (start suite provisioner client randomProvisioner) events =
      some s) :
    (∀ pdu, s.exchange.writing? = some pdu → pduType suite pdu = some _PROV_RANDOM →
      ∃ capsPdu devPubPdu devConfPdu,
        ExchangeHistory.pdus s.history = [capsPdu, devPubPdu, devConfPdu] ∧
          pduType suite devConfPdu = some _PROV_CONFIRMATION) ∧
    (∀ pdu, s.exchange.writing? = some pdu → pduType suite pdu = some _PROV_DATA →
      ∃ capsPdu devPubPdu devConfPdu devRandomPdu,
        ExchangeHistory.pdus s.history = [capsPdu, devPubPdu, devConfPdu, devRandomPdu] ∧
          Verified suite provisioner capsPdu devPubPdu devConfPdu devRandomPdu) ∧
    ∀ result, s.exchange.result? = some (.ok result) →
      Provisioned suite provisioner client s.history := by
  refine ⟨?_, ?_, ?_⟩
  · intro pdu writing isRandom
    have sends := sends_of_writing suite provisioner client randomProvisioner ran writing
    generalize ExchangeHistory.pdus s.history = pdus at sends
    cases sends with
    -- of the PDUs that may be sent, one has the type, and says what was received
    | random capsPdu devPubPdu devConfPdu isConfirmation =>
      exact ⟨capsPdu, devPubPdu, devConfPdu, rfl, isConfirmation⟩
    | _ => exact absurd isRandom (pduType_ne _ (by decide))
  · intro pdu writing isData
    have sends := sends_of_writing suite provisioner client randomProvisioner ran writing
    generalize ExchangeHistory.pdus s.history = pdus at sends
    cases sends with
    | data capsPdu devPubPdu devConfPdu devRandomPdu verified =>
      exact ⟨capsPdu, devPubPdu, devConfPdu, devRandomPdu, rfl, verified⟩
    | _ => exact absurd isData (pduType_ne _ (by decide))
  · intro result returned
    have keeps := (bound_run suite provisioner client randomProvisioner ran).keeps
    rcases exchange : s.exchange with (error | value) | ⟨call, next⟩
    all_goals
      rw [exchange] at returned keeps
      cases returned
    exact keeps

end Start

/-- What a device answers that has drawn the random value. -/
def sampleConfirmation (random : Bytes) : Bytes :=
  let conf := do
    let confKey ← confirmationKey sampleSuite sampleProvisioner sampleCapabilities samplePublicKey
    confirmation sampleSuite confKey random
  conf.toOption.getD []

/-- The exchange with a device that follows the protocol. -/
def provisioningRun : List (SessionEvent UInt8) :=
  let devRandom := List.replicate 16 0x05
  keysExchanged sampleSuite ++
    answered sampleSuite ([_PROV_CONFIRMATION] ++ sampleConfirmation devRandom) ++
    answered sampleSuite ([_PROV_RANDOM] ++ devRandom) ++
    answered sampleSuite [_PROV_COMPLETE] ++ [.proceed (.ok ())]

theorem provisioningRun_provisions :
    ∃ s ∈ (sessionSystem sampleSuite).exec sampleStart provisioningRun,
      Provisioned sampleSuite sampleProvisioner sampleClient s.history := by
  have ran : ∃ s ∈ (sessionSystem sampleSuite).exec sampleStart provisioningRun,
      s.exchange.result?.map Except.isOk = some true := by decide +kernel
  obtain ⟨s, ran, finished⟩ := ran
  obtain ⟨result, returned, ok⟩ := Option.map_eq_some_iff.mp finished
  cases result with
  | error error => cases ok
  | ok result =>
    have order := key_release_order sampleSuite sampleProvisioner sampleClient sampleRandom ran
    exact ⟨s, ran, order.2.2 result returned⟩

end Session

end TuyaBleMesh
