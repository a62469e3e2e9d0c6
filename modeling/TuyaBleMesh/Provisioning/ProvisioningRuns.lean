import TuyaBleMesh.Provisioning.DeviceAgreement

/-!
# Runs of both sides

The session and the device, with the notifications that are under way between them. The
coroutine, the tasks of the notifications, the timers and the link take their steps in
any order. Each of them is one that the device behind its link can answer, or none.
-/

namespace TuyaBleMesh

structure ProvisioningWorld where
  session : Session UInt8
  side : LinkSide := {}
  /-- The segments that the device has notified and that have not been delivered. -/
  notifications : List Bytes := []

inductive ProvisioningEvent
  /-- The write that is awaited returns or raises, and has arrived or is lost. -/
  | write (arrives : Bool) (result : Except PyError Unit)
  /-- Something else that is awaited returns or raises. -/
  | proceed (result : Except PyError Unit)
  /-- The oldest notification is delivered. -/
  | deliver
  | process
  | wake
  | expire
  | cancel

/-- The exceptions are of some kind. -/
def ProvisioningEvent.Allowed (kind : PyError → Bool) : ProvisioningEvent → Prop
  | .write _ result => TuyaBleMesh.Allowed kind result
  | .proceed result => TuyaBleMesh.Allowed kind result
  | _ => True

namespace ProvisioningWorld

section Step

variable (suite : CipherSuite) (ecdh : Bytes → Except String Bytes) (d : SimulatedDevice)

/-- A segment reaches the device, which notifies its answer. -/
def arrive (w : ProvisioningWorld) (segment : Bytes) : ProvisioningWorld :=
  let device := w.side.device.receive suite d segment
  let answers := device.sent.drop w.side.device.sent.length
  { w with
    side := { w.side with device }
    notifications := w.notifications ++
      answers.flatMap fun pdu => wrapProvisioningPdu (codeSuite suite ecdh) pdu d.mtu }

def lose (w : ProvisioningWorld) : ProvisioningWorld := { w with side := { w.side with up := false } }

/-- A step of the session. -/
def advance (w : ProvisioningWorld) (event : SessionEvent UInt8) : Option ProvisioningWorld :=
  (w.session.step (codeSuite suite ecdh) event).map fun session => { w with session }

def step (w : ProvisioningWorld) : ProvisioningEvent → Option ProvisioningWorld
  | .write arrives result =>
    match w.session.exchange with
    | .call (.act (.write segment _)) _ =>
      if arrives then
        if w.side.up then (w.arrive suite ecdh d segment).advance suite ecdh (.proceed result)
        else none
      else w.lose.advance suite ecdh (.proceed result)
    | _ => none
  | .proceed result =>
    match w.session.exchange with
    | .call (.act (.write _ _)) _ => none
    | _ => w.advance suite ecdh (.proceed result)
  | .deliver =>
    match w.notifications with
    | [] => none
    | segment :: notifications =>
      { w with notifications }.advance suite ecdh (.notify segment)
  | .process => w.advance suite ecdh .process
  | .wake =>
    { w with side := { w.side with taken := w.session.rxBuffer.number } }.advance suite ecdh .wake
  | .expire => w.advance suite ecdh .expire
  | .cancel => w.advance suite ecdh .cancel

end Step

end ProvisioningWorld

def provisioningSystem (suite : CipherSuite) (ecdh : Bytes → Except String Bytes)
    (d : SimulatedDevice) : EventSystem ProvisioningWorld ProvisioningEvent where
  step := ProvisioningWorld.step suite ecdh d

/-- `_run_exchange` is called, with a device that waits for an Invite. -/
def ProvisioningWorld.start (suite : CipherSuite) (ecdh : Bytes → Except String Bytes)
    (provisioner : Provisioner UInt8) (client : BleakClient) (randomProvisioner : Bytes) :
    ProvisioningWorld where
  session := .start (codeSuite suite ecdh) provisioner client randomProvisioner

/-! ### What arrives -/

section Streams

variable {suite : CipherSuite} {ecdh : Bytes → Except String Bytes} {d : SimulatedDevice}

/-- The device sends what it has sent, and more. -/
theorem receive_sent (suite : CipherSuite) (d : SimulatedDevice) (s : DeviceState) (segment : Bytes) :
    ∃ answers, (s.receive suite d segment).sent = s.sent ++ answers := by
  unfold DeviceState.receive
  split
  · exact ⟨[], (List.append_nil _).symm⟩
  · exact ⟨_, rfl⟩

/-- The PDUs that are notified after others. -/
theorem assembled_flatMap (room : 4 < d.mtu) (buffer : Bytes) (before pdus : List Bytes) :
    assembled buffer (before ++
        pdus.flatMap fun pdu => wrapProvisioningPdu (codeSuite suite ecdh) pdu d.mtu) =
      assembled buffer before ++ pdus := by
  induction pdus generalizing before with
  | nil => rw [List.flatMap_nil, List.append_nil, List.append_nil]
  | cons pdu pdus ih =>
    rw [List.flatMap_cons, ← List.append_assoc, ih,
      assembled_append fun buffer => wrap_yields suite ecdh room buffer pdu, List.append_assoc]
    rfl

/-- An empty notification brings nothing. -/
theorem assembled_empty (buffer : Bytes) (before after : List Bytes) :
    assembled buffer (before ++ [] :: after) = assembled buffer (before ++ after) := by
  induction before generalizing buffer with
  | nil => rfl
  | cons segment before ih =>
    rw [List.cons_append, List.cons_append, assembled, assembled]
    exact congrArg _ (ih _)

end Streams

/-- What the session has of the device's PDUs, by their numbers. -/
structure LinkSide.Streams (session : Session UInt8) (notifications : List Bytes) (l : LinkSide) :
    Prop where
  clock_le : session.clock ≤ l.device.sent.length
  /-- What is under way brings the PDUs that have not arrived. -/
  pending : assembled session.rxSarBuffer (session.notifyTasks ++ notifications) =
    l.device.sent.drop session.clock
  taken_le : l.taken ≤ session.clock
  /-- A set event means a PDU that has not been returned. -/
  slot : session.exchange.receives = true → session.rxEvent = true →
    l.taken < session.rxBuffer.number ∧
      l.device.sent[session.rxBuffer.number - 1]? = some session.rxBuffer.pdu
  number_le : session.rxBuffer.number ≤ session.clock

/-- How the exchange ends. -/
def LinkSide.Finishes (kind : PyError → Bool) (node : MeshNode)
    (returns : LinkSide → ProvisioningResult UInt8 → Prop) (l : LinkSide) :
    Except PyError (ProvisioningResult UInt8) → Prop
  | .ok result => returns l result
  | .error error => (LinkError kind error ∨ error = .cancelledError) ∧ l.device.phase.Gives node

/-- What the exchange has still to do goes well with the device behind its link. -/
structure ProvisioningWorld.Agrees (suite : CipherSuite) (d : SimulatedDevice)
    (kind : PyError → Bool) (node : MeshNode)
    (returns : LinkSide → ProvisioningResult UInt8 → Prop) (w : ProvisioningWorld) : Prop where
  plays : w.session.exchange.Plays (LinkSide.Answers suite d kind)
    (fun l => l.device.phase.Gives node) (LinkSide.Finishes kind node returns) w.side
  streams : w.side.Streams w.session w.notifications

section Steps

variable {suite : CipherSuite} {ecdh : Bytes → Except String Bytes} {d : SimulatedDevice}
  {session session' : Session UInt8} {notifications : List Bytes} {l : LinkSide}

/-- The coroutine goes on. -/
theorem LinkSide.Streams.resume (streams : l.Streams session notifications)
    (call : BearerCall UInt8) (result : Except PyError call.Value)
    (next : Reply call.Value → Exchange UInt8 (ProvisioningResult UInt8)) (returned : List Nat)
    {taken : Nat} (taken_le : taken ≤ session.clock) :
    { l with taken }.Streams { session.resume call result next with returned } notifications where
  clock_le := streams.clock_le
  pending := streams.pending
  taken_le := taken_le
  slot receives set := by
    -- a `recv_prov` that begins installs a new event
    have receives : (next ⟨result, session.clock⟩).receives = true := receives
    have set : (session.rxEvent && !(next ⟨result, session.clock⟩).receives) = true := set
    rw [receives, Bool.not_true, Bool.and_false] at set
    cases set
  number_le := streams.number_le

/-- The oldest task brings the PDU that is due, or none. -/
theorem LinkSide.Streams.process (streams : l.Streams session notifications)
    (stepped : session.step (codeSuite suite ecdh) .process = some session') :
    l.Streams session' notifications ∧ session'.exchange = session.exchange := by
  simp only [Session.step] at stepped
  split at stepped
  · cases stepped
  · next data tasks oldest =>
    cases stepped
    have pending := streams.pending
    rw [oldest, List.cons_append, assembled] at pending
    rw [Session.processNotify_eq]
    cases brings : assemble session.rxSarBuffer data with
    | mk rxSarBuffer pdu =>
      rw [brings] at pending
      cases pdu with
      | none => exact ⟨{ streams with pending := pending }, rfl⟩
      | some pdu =>
        have due : l.device.sent[session.clock]? = some pdu := by
          rw [← List.head?_drop, ← pending]
          rfl
        have inside := (List.getElem?_eq_some_iff.mp due).1
        refine ⟨{
          clock_le := inside
          pending := ?_
          taken_le := Nat.le_succ_of_le streams.taken_le
          slot := fun _ _ => ⟨Nat.lt_succ_of_le streams.taken_le, due⟩
          number_le := Nat.le_refl _ }, rfl⟩
        calc assembled rxSarBuffer (tasks ++ notifications)
            = (l.device.sent.drop session.clock).drop 1 := by rw [← pending]; rfl
          _ = l.device.sent.drop (session.clock + 1) := List.drop_drop

/-- A notification becomes a task. -/
theorem LinkSide.Streams.deliver {segment : Bytes}
    (streams : l.Streams session (segment :: notifications))
    (stepped : session.step (codeSuite suite ecdh) (.notify segment) = some session') :
    l.Streams session' notifications ∧ session'.exchange = session.exchange := by
  simp only [Session.step] at stepped
  split at stepped
  · cases stepped
    unfold Session.onNotify
    have pending := streams.pending
    split
    · next empty =>
      rw [List.isEmpty_iff] at empty
      rw [empty, assembled_empty] at pending
      exact ⟨{ streams with pending := pending }, rfl⟩
    · rw [← List.singleton_append, ← List.append_assoc] at pending
      exact ⟨{ streams with pending := pending }, rfl⟩
  · cases stepped

/-- A segment reaches the device. -/
theorem LinkSide.Streams.arrive (room : 4 < d.mtu) {w : ProvisioningWorld}
    (streams : w.side.Streams w.session w.notifications) (segment : Bytes) :
    (w.arrive suite ecdh d segment).side.Streams w.session
      (w.arrive suite ecdh d segment).notifications := by
  obtain ⟨answers, sent⟩ := receive_sent suite d w.side.device segment
  have inside := streams.clock_le
  have new : (w.side.device.receive suite d segment).sent.drop w.side.device.sent.length = answers := by
    rw [sent, List.drop_left]
  refine ⟨?_, ?_, streams.taken_le, fun receives set => ?_, streams.number_le⟩
  · change _ ≤ (w.side.device.receive suite d segment).sent.length
    rw [sent, List.length_append]
    exact Nat.le_add_right_of_le inside
  · change assembled _ (_ ++ (_ ++ _)) = (w.side.device.receive suite d segment).sent.drop _
    rw [new, ← List.append_assoc, assembled_flatMap room, streams.pending, sent,
      List.drop_append_of_le_length inside]
  · obtain ⟨later, is⟩ := streams.slot receives set
    refine ⟨later, ?_⟩
    change (w.side.device.receive suite d segment).sent[_]? = _
    rw [sent]
    exact List.getElem?_append_left (List.getElem?_eq_some_iff.mp is).1 ▸ is

end Steps

namespace ProvisioningWorld

section Agreement

variable {suite : CipherSuite} {ecdh : Bytes → Except String Bytes} {d : SimulatedDevice}
  {kind : PyError → Bool} {node : MeshNode}
  {returns : LinkSide → ProvisioningResult UInt8 → Prop} {w w' : ProvisioningWorld}

/-- A call that returns or raises is one that the device behind its link can answer. -/
theorem Agrees.proceed (agrees : w.Agrees suite d kind node returns)
    {v : ProvisioningWorld} (same : v.session = w.session)
    (streams : v.side.Streams v.session v.notifications) {result : Except PyError Unit}
    (answers : ∀ (action : BearerAction UInt8) next, w.session.exchange = .call (.act action) next →
      LinkSide.Answers suite d kind w.side (.act action) ⟨result, w.session.clock⟩ v.side)
    (stepped : v.advance suite ecdh (.proceed result) = some w') :
    w'.Agrees suite d kind node returns := by
  obtain ⟨session', advanced, rfl⟩ := Option.map_eq_some_iff.mp stepped
  rw [same] at advanced
  cases Session.step_cases advanced with
  | proceeds action next awaits =>
    have plays := agrees.plays
    rw [awaits] at plays
    have resumed := streams.resume (.act action) result next w.session.returned streams.taken_le
    rw [same] at resumed
    exact ⟨plays.2 _ _ (answers action next awaits), resumed⟩

/-- The step changes neither the exchange nor the side of the device. -/
theorem Agrees.stutter (agrees : w.Agrees suite d kind node returns) {session : Session UInt8}
    {notifications : List Bytes}
    (kept : w.side.Streams session notifications ∧ session.exchange = w.session.exchange) :
    ({ w with session, notifications } : ProvisioningWorld).Agrees suite d kind node returns where
  plays := kept.2 ▸ agrees.plays
  streams := kept.1

theorem Agrees.step (room : 4 < d.mtu) (agrees : w.Agrees suite d kind node returns)
    {event : ProvisioningEvent} (allowed : event.Allowed kind)
    (stepped : w.step suite ecdh d event = some w') : w'.Agrees suite d kind node returns := by
  cases event with
  | write arrives result =>
    simp only [ProvisioningWorld.step] at stepped
    split at stepped
    · next segment pdu next awaits =>
      split at stepped
      · split at stepped
        · next up =>
          refine agrees.proceed (v := w.arrive suite ecdh d segment) rfl
            (agrees.streams.arrive room segment) ?_ stepped
          intro action next' awaits'
          cases awaits.symm.trans awaits'
          exact .arrives _ up segment pdu result allowed _
        · cases stepped
      · refine agrees.proceed (v := w.lose) rfl ⟨agrees.streams.clock_le, agrees.streams.pending,
          agrees.streams.taken_le, agrees.streams.slot, agrees.streams.number_le⟩ ?_ stepped
        intro action next' awaits'
        cases awaits.symm.trans awaits'
        exact .lost _ segment pdu result allowed _
    · cases stepped
  | proceed result =>
    simp only [ProvisioningWorld.step] at stepped
    split at stepped
    · cases stepped
    · next other =>
      refine agrees.proceed rfl agrees.streams ?_ stepped
      intro action next awaits
      refine .acts _ ?_ result allowed _
      cases action with
      | write segment pdu => exact absurd awaits (other segment pdu next)
      | _ => rfl
  | deliver =>
    simp only [ProvisioningWorld.step] at stepped
    split at stepped
    · cases stepped
    · next segment notifications oldest =>
      obtain ⟨session', advanced, rfl⟩ := Option.map_eq_some_iff.mp stepped
      exact agrees.stutter ((oldest ▸ agrees.streams).deliver advanced)
  | process =>
    obtain ⟨session', advanced, rfl⟩ := Option.map_eq_some_iff.mp stepped
    exact agrees.stutter (agrees.streams.process advanced)
  | wake =>
    obtain ⟨session', advanced, rfl⟩ := Option.map_eq_some_iff.mp stepped
    cases Session.step_cases advanced with
    | wakes timeout next awaits set =>
      have plays := agrees.plays
      have receives : w.session.exchange.receives = true := by
        rw [awaits]
        rfl
      obtain ⟨later, is⟩ := agrees.streams.slot receives set
      rw [awaits] at plays
      exact ⟨plays.2 _ _ (.returns _ timeout w.session.rxBuffer w.session.clock later is),
        agrees.streams.resume _ _ _ _ agrees.streams.number_le⟩
  | expire =>
    obtain ⟨session', advanced, rfl⟩ := Option.map_eq_some_iff.mp stepped
    cases Session.step_cases advanced with
    | expires timeout next awaits =>
      have plays := agrees.plays
      rw [awaits] at plays
      exact ⟨plays.2 _ _ (.expires _ timeout w.session.clock),
        agrees.streams.resume _ _ _ _ agrees.streams.taken_le⟩
  | cancel =>
    obtain ⟨session', advanced, rfl⟩ := Option.map_eq_some_iff.mp stepped
    cases Session.step_cases advanced with
    | cancels awaits =>
      have gives : w.side.device.phase.Gives node := by
        have plays := agrees.plays
        cases exchange : w.session.exchange with
        | done result =>
          rw [exchange] at awaits
          cases awaits
        | call call next =>
          rw [exchange] at plays
          exact plays.waits
      exact ⟨⟨.inr rfl, gives⟩, { agrees.streams with slot := nofun }⟩

end Agreement

end ProvisioningWorld

/-- In every run of a session with its device, over a link that keeps the order: the device accepts
all that reaches it and is given what it is meant to have, with one and the same device key in
all of them. When the exchange returns, the device has been provisioned, and its key is in the
result; it raises only what the link raises, a timeout or the cancellation. -/
theorem provisioning_agrees (suite : CipherSuite) [LawfulCcm suite]
    (ecdh : Bytes → Except String Bytes) {provisioner : Provisioner UInt8} {d : SimulatedDevice}
    (compatible : Compatible ecdh provisioner d) (room : 4 < d.mtu) (client : BleakClient)
    (randomProvisioner : Bytes) (kind : PyError → Bool) :
    ∃ devKey, ∀ {events : List ProvisioningEvent} {w : ProvisioningWorld},
      (provisioningSystem suite ecdh d).exec
        (.start suite ecdh provisioner client randomProvisioner) events = some w →
      (provisioningSystem suite ecdh d).Guarded (fun _ event => event.Allowed kind)
        (.start suite ecdh provisioner client randomProvisioner) events →
      w.side.device.phase.Gives (provisioner.node devKey) ∧
      ∀ result, w.session.exchange.result? = some result →
        w.side.Finishes kind (provisioner.node devKey) (fun l returned =>
          l.device.phase = .provisioned (provisioner.node devKey) ∧
            returned = provisioner.resultFor d devKey) result := by
  obtain ⟨t, of⟩ := transcript_exists suite compatible randomProvisioner
  refine ⟨t.devKey, fun {events w} ran guarded => ?_⟩
  have start : (ProvisioningWorld.start suite ecdh provisioner client randomProvisioner).Agrees suite
      d kind (provisioner.node t.devKey) (fun l returned =>
        l.device.phase = .provisioned (provisioner.node t.devKey) ∧
          returned = provisioner.resultFor d t.devKey) := by
    constructor
    · have waiting : ({} : LinkSide).At .invite [] 0 := ⟨rfl, rfl, rfl⟩
      refine Program.Plays.mono (runExchange_plays of compatible waiting) fun l result ends => ?_
      cases result with
      | ok returned => exact ends
      | error error => exact ⟨.inl ends.1, ends.2⟩
    · exact ⟨Nat.le_refl _, rfl, Nat.le_refl _, nofun, Nat.le_refl _⟩
  have agrees := (provisioningSystem suite ecdh d).exec_invariant _
    (fun m event m' agrees allowed stepped => ProvisioningWorld.Agrees.step room agrees allowed stepped)
    start guarded ran
  have plays := agrees.plays
  cases exchange : w.session.exchange with
  | call call next =>
    rw [exchange] at plays
    exact ⟨plays.waits, nofun⟩
  | done result =>
    rw [exchange] at plays
    have finishes : w.side.Finishes _ _ _ result := plays
    refine ⟨?_, fun result' same => Option.some.inj same ▸ finishes⟩
    cases result with
    | ok returned => exact finishes.1 ▸ rfl
    | error error => exact finishes.2

/-! ### A sample run -/

/-- It has the secret of `sampleSuite`, and cuts its public key into four segments. -/
def sampleUnit : SimulatedDevice where
  capabilities := 0x02 :: List.replicate 10 0x00
  pubKeyBytes := List.replicate 64 0x06
  ecdh _ := .ok (List.replicate 32 0x2A)
  random := List.replicate 16 0x09
  mtu := 23

def sampleEcdh : Bytes → Except String Bytes := fun _ => .ok (List.replicate 32 0x2A)

/-- A write arrives, and its answer comes in so many segments. -/
def exchanged (segments : Nat) : List ProvisioningEvent :=
  [.write true (.ok ())] ++ List.replicate segments .deliver ++ List.replicate segments .process ++
    [.wake]

def sampleProvisioning : List ProvisioningEvent :=
  [.proceed (.ok ())] ++ exchanged 1 ++ [.write true (.ok ()), .proceed (.ok ())] ++ exchanged 4 ++
    exchanged 1 ++ exchanged 1 ++ exchanged 1 ++ [.proceed (.ok ())]

theorem sampleUnit_compatible : Compatible sampleEcdh sampleProvisioner sampleUnit where
  devicePubKey := rfl
  ourPubKey := rfl
  netKey := rfl
  inRange := ⟨by decide, by decide, by decide, by decide⟩
  secret := ⟨_, rfl, rfl⟩

theorem provisioning_agrees_sample : ∃ w devKey,
    (provisioningSystem nonceTagSuite sampleEcdh sampleUnit).exec
      (.start nonceTagSuite sampleEcdh sampleProvisioner sampleClient sampleRandom)
      sampleProvisioning = some w ∧
    w.side.device.phase = .provisioned (sampleProvisioner.node devKey) ∧
    w.session.exchange.result? = some (.ok (sampleProvisioner.resultFor sampleUnit devKey)) := by
  have ran : ∃ w ∈ (provisioningSystem nonceTagSuite sampleEcdh sampleUnit).exec
      (.start nonceTagSuite sampleEcdh sampleProvisioner sampleClient sampleRandom)
      sampleProvisioning, (w.session.exchange.result?.map Except.isOk) = some true := by
    decide +kernel
  obtain ⟨w, ran, ended⟩ := ran
  obtain ⟨devKey, agrees⟩ := provisioning_agrees nonceTagSuite sampleEcdh sampleUnit_compatible
    (by decide) sampleClient sampleRandom fun _ => true
  have allowed (event : ProvisioningEvent) : event.Allowed fun _ => true := by
    cases event with
    | write arrives result => exact fun _ _ => rfl
    | proceed result => exact fun _ _ => rfl
    | _ => trivial
  have finishes := (agrees ran (EventSystem.guarded_of_all _ (fun event _ _ => allowed event) _)).2
  cases ends : w.session.exchange.result? with
  | none =>
    rw [ends] at ended
    cases ended
  | some result =>
    cases result with
    | error error =>
      rw [ends] at ended
      cases ended
    | ok returned =>
      obtain ⟨provisioned, rfl⟩ := finishes _ ends
      exact ⟨w, devKey, ran, provisioned, ends⟩

end TuyaBleMesh
