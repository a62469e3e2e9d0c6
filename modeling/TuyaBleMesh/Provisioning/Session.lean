import TuyaBleMesh.Lib.EventSystem
import TuyaBleMesh.Provisioning.Exchange

/-!
# The exchange and its notifications

`_run_exchange` is one coroutine, and each notification is a task of its own that runs
`_process_notify` in one go: the lock is never held while anything waits. The tasks
start in the order of their notifications, at any time between two steps of the
coroutine. What is awaited may take any time, fail, or be cancelled.
-/

namespace TuyaBleMesh

variable {β α : Type}

namespace Exchange

def receives : Exchange β α → Bool
  | .call (.receive _) _ => true
  | _ => false

/-- Notifications are on, or are being turned on. -/
def listens : Exchange β α → Bool
  | .call (.act .pair) _ => false
  | _ => true

/-- Nothing but sleeping is left before the next `recv_prov`. -/
def onlySleeps : Exchange β α → Bool
  | .call (.act (.sleep _)) next => onlySleeps (next ⟨.ok (), 0⟩)
  | .call (.receive _) _ => true
  | _ => false

/-- The request of the next `recv_prov` is written, up to the return of the last write. -/
def requested : Exchange β α → Bool
  | .call (.act (.write _ _)) next => onlySleeps (next ⟨.ok (), 0⟩)
  | exchange => exchange.onlySleeps

/-- The PDU that is being written. -/
def writing? : Exchange β α → Option (List β)
  | .call (.act (.write _ pdu)) _ => some pdu
  | _ => none

def result? : Exchange β α → Option (Except PyError α)
  | .done result => some result
  | _ => none

end Exchange

def BearerAction.gives : BearerAction β → Except PyError Unit → Bool
  | .sleep _, result => result.isOk
  | _, _ => true

/-- A PDU that has arrived after its request had been written. -/
structure Arrival where
  /-- How many PDUs `recv_prov` had returned before. -/
  calls : Nat
  number : Nat
  deriving DecidableEq

structure Session (β : Type) where
  /-- What the coroutine has still to do. -/
  exchange : Exchange β (ProvisioningResult β)
  history : Program.History fun call : BearerCall β => Reply call.Value := []
  /-- Whether the event that was installed last is set. -/
  rxEvent : Bool := false
  rxBuffer : ReceivedPdu β := ⟨0, []⟩
  rxSarBuffer : List β := []
  notifyTasks : List (List β) := []
  /-- How many PDUs have arrived. -/
  clock : Nat := 0
  arrived : List Arrival := []
  /-- The PDUs that `recv_prov` has returned. -/
  returned : List Nat := []

inductive SessionEvent (β : Type)
  /-- `_on_notify` is called. -/
  | notify (data : List β)
  /-- The oldest task runs. -/
  | process
  /-- What the coroutine awaits, other than `rx_event`, returns or raises. -/
  | proceed (result : Except PyError Unit)
  /-- The coroutine goes on after `rx_event` was set. -/
  | wake
  /-- The timer of `recv_prov` runs out. -/
  | expire
  | cancel

namespace Session

/-- The coroutine goes on; `recv_prov` installs a new event. -/
def resume (s : Session β) (call : BearerCall β) (result : Except PyError call.Value)
    (next : Reply call.Value → Exchange β (ProvisioningResult β)) : Session β :=
  let reply : Reply call.Value := ⟨result, s.clock⟩
  let exchange := next reply
  { s with
    exchange
    history := s.history ++ [⟨call, reply⟩]
    rxEvent := s.rxEvent && !exchange.receives }

/-- A PDU has arrived: `rx_buffer` is replaced and the event is set. -/
def receive (s : Session β) (pdu : List β) : Session β :=
  let number := s.clock + 1
  { s with
    rxBuffer := ⟨number, pdu⟩
    rxEvent := true
    clock := number
    arrived :=
      if s.exchange.requested then s.arrived ++ [⟨s.returned.length, number⟩] else s.arrived }

def onNotify (s : Session β) (data : List β) : Session β :=
  if data.isEmpty then s else { s with notifyTasks := s.notifyTasks ++ [data] }

section Step

variable (suite : ProvisionerSuite β)

/-- `(data[0] >> 6) & 0x03`. -/
def sarOf (header : β) : UInt8 := (suite.value header >>> 6) &&& 0x03

def processNotify (s : Session β) (data : List β) : Session β :=
  match data with
  | [] => s
  | header :: payload =>
    let sar := sarOf suite header
    if sar = _SAR_COMPLETE then s.receive payload
    else if sar = _SAR_FIRST then { s with rxSarBuffer := payload }
    else if sar = _SAR_CONTINUATION then { s with rxSarBuffer := s.rxSarBuffer ++ payload }
    else if sar = _SAR_LAST then { s.receive (s.rxSarBuffer ++ payload) with rxSarBuffer := [] }
    else s

def step (s : Session β) : SessionEvent β → Option (Session β)
  | .notify data => if s.exchange.listens then some (s.onNotify data) else none
  | .process =>
    match s.notifyTasks with
    | [] => none
    | data :: tasks => some (processNotify suite { s with notifyTasks := tasks } data)
  | .proceed result =>
    match s.exchange with
    | .call (.act action) next =>
      if action.gives result then some (s.resume (.act action) result next) else none
    | _ => none
  | .wake =>
    match s.exchange with
    | .call (.receive timeout) next =>
      if s.rxEvent then
        some { s.resume (.receive timeout) (.ok s.rxBuffer) next with
          returned := s.returned ++ [s.rxBuffer.number] }
      else none
    | _ => none
  | .expire =>
    match s.exchange with
    | .call (.receive timeout) next =>
      some (s.resume (.receive timeout) (.error .timeoutError) next)
    | _ => none
  | .cancel =>
    match s.exchange with
    | .call _ _ => some { s with exchange := .done (.error .cancelledError) }
    | .done _ => none

end Step

/-- `_run_exchange` is called. -/
def start [DecidableEq β] (suite : ProvisionerSuite β) (self : Provisioner β)
    (client : BleakClient) (randomProvisioner : List β) : Session β where
  exchange := runExchange suite self client randomProvisioner

end Session

def sessionSystem (suite : ProvisionerSuite β) : EventSystem (Session β) (SessionEvent β) where
  step := Session.step suite

/-! ### What a step does -/

/-- A task that completes a PDU. -/
def completes (suite : ProvisionerSuite β) : List β → Bool
  | [] => false
  | header :: _ =>
    Session.sarOf suite header = _SAR_COMPLETE || Session.sarOf suite header = _SAR_LAST

inductive SessionStep (suite : ProvisionerSuite β) (s : Session β) :
    SessionEvent β → Session β → Prop
  | notified (data : List β) : SessionStep suite s (.notify data) (s.onNotify data)
  /-- A fragment is kept or ignored. -/
  | collects (data : List β) (tasks : List (List β)) (oldest : s.notifyTasks = data :: tasks)
      (partially : completes suite data = false) (rxSarBuffer : List β)
      (bytes : ∀ byte ∈ rxSarBuffer, byte ∈ s.rxSarBuffer ∨ byte ∈ data) :
    SessionStep suite s .process { s with notifyTasks := tasks, rxSarBuffer }
  /-- The last fragment of a PDU. -/
  | arrives (data : List β) (tasks : List (List β)) (oldest : s.notifyTasks = data :: tasks)
      (complete : completes suite data = true) (pdu rxSarBuffer : List β)
      (bytes : ∀ byte ∈ pdu, byte ∈ s.rxSarBuffer ∨ byte ∈ data)
      (left : ∀ byte ∈ rxSarBuffer, byte ∈ s.rxSarBuffer) :
    SessionStep suite s .process
      { ({ s with notifyTasks := tasks } : Session β).receive pdu with rxSarBuffer }
  | proceeds (action : BearerAction β) (next : Reply Unit → Exchange β (ProvisioningResult β))
      (awaits : s.exchange = .call (.act action) next) (result : Except PyError Unit) :
    SessionStep suite s (.proceed result) (s.resume (.act action) result next)
  | wakes (timeout : Nat) (next : Reply (ReceivedPdu β) → Exchange β (ProvisioningResult β))
      (awaits : s.exchange = .call (.receive timeout) next) (set : s.rxEvent = true) :
    SessionStep suite s .wake
      { s.resume (.receive timeout) (.ok s.rxBuffer) next with
        returned := s.returned ++ [s.rxBuffer.number] }
  | expires (timeout : Nat) (next : Reply (ReceivedPdu β) → Exchange β (ProvisioningResult β))
      (awaits : s.exchange = .call (.receive timeout) next) :
    SessionStep suite s .expire (s.resume (.receive timeout) (.error .timeoutError) next)
  | cancels (awaits : s.exchange.result? = none) :
    SessionStep suite s .cancel { s with exchange := .done (.error .cancelledError) }

/-- A task keeps a fragment or brings in a PDU. -/
private theorem Session.process_cases {suite : ProvisionerSuite β} {s : Session β} {data : List β}
    {tasks : List (List β)} (oldest : s.notifyTasks = data :: tasks) :
    SessionStep suite s .process (processNotify suite { s with notifyTasks := tasks } data) := by
  cases data with
  | nil => exact .collects [] tasks oldest rfl s.rxSarBuffer fun byte member => .inl member
  | cons header payload =>
    unfold processNotify
    dsimp only
    split
    · next complete =>
      -- a PDU in one piece, whatever is in the partial buffer
      refine .arrives _ tasks oldest (by simp [completes, complete]) payload s.rxSarBuffer ?_ ?_
      · exact fun byte member => .inr (List.mem_cons_of_mem _ member)
      · exact fun byte member => member
    · next notComplete =>
      have partially (other : sarOf suite header ≠ _SAR_LAST) :
          completes suite (header :: payload) = false := by
        simp [completes, notComplete, other]
      split
      · next first =>
        -- the partial buffer begins anew
        refine .collects _ tasks oldest (partially (by rw [first]; decide)) payload ?_
        exact fun byte member => .inr (List.mem_cons_of_mem _ member)
      · split
        · next continuation =>
          refine .collects _ tasks oldest (partially (by rw [continuation]; decide)) _ ?_
          intro byte member
          rcases List.mem_append.mp member with old | new
          · exact .inl old
          · exact .inr (List.mem_cons_of_mem _ new)
        · split
          · next last =>
            refine .arrives _ tasks oldest (by simp [completes, last]) _ [] ?_ nofun
            intro byte member
            rcases List.mem_append.mp member with old | new
            · exact .inl old
            · exact .inr (List.mem_cons_of_mem _ new)
          · next other =>
            exact .collects _ tasks oldest (partially other) s.rxSarBuffer
              fun byte member => .inl member

/-- Every step is one of these. -/
theorem Session.step_cases {suite : ProvisionerSuite β} {s s' : Session β}
    {event : SessionEvent β} (stepped : s.step suite event = some s') :
    SessionStep suite s event s' := by
  cases event with
  | notify data =>
    simp only [step] at stepped
    split at stepped <;> cases stepped
    exact .notified data
  | process =>
    simp only [step] at stepped
    split at stepped <;> cases stepped
    next data tasks oldest => exact process_cases oldest
  | proceed result =>
    simp only [step] at stepped
    split at stepped
    · next action next awaits =>
      split at stepped <;> cases stepped
      exact .proceeds action next awaits result
    · cases stepped
  | wake =>
    simp only [step] at stepped
    split at stepped
    · next timeout next awaits =>
      split at stepped <;> cases stepped
      next set => exact .wakes timeout next awaits set
    · cases stepped
  | expire =>
    simp only [step] at stepped
    split at stepped <;> cases stepped
    next timeout next awaits => exact .expires timeout next awaits
  | cancel =>
    simp only [step] at stepped
    split at stepped <;> cases stepped
    next call next awaits => exact .cancels (by rw [awaits]; rfl)

/-- `recv_prov` returns what is in the slot. -/
theorem Session.step_wake (suite : ProvisionerSuite β) {s : Session β} {timeout : Nat}
    {next : Reply (ReceivedPdu β) → Exchange β (ProvisioningResult β)}
    (awaits : s.exchange = .call (.receive timeout) next) (set : s.rxEvent = true) :
    ∃ s', s.step suite .wake = some s' ∧ s'.exchange = next ⟨.ok s.rxBuffer, s.clock⟩ ∧
      s'.history = s.history ++ [⟨.receive timeout, ⟨.ok s.rxBuffer, s.clock⟩⟩] := by
  simp only [step, awaits, set, if_true]
  exact ⟨_, rfl, rfl, rfl⟩

/-! ### A sample exchange -/

/-- The primitives of `nonceTagSuite`, and the same secret for every public key. -/
def sampleSuite : ProvisionerSuite UInt8 :=
  codeSuite nonceTagSuite fun _ => .ok (List.replicate 32 0x2A)

def sampleProvisioner : Provisioner UInt8 where
  ourPubKeyBytes := List.replicate 64 0x01
  netKey := List.replicate 16 0x02
  appKey := List.replicate 16 0x03
  netKeyIndex := 0
  ivIndex := 0
  flags := 0
  unicastAddr := 0xB0

/-- A client that does not pair and writes every PDU in one segment. -/
def sampleClient : BleakClient := ⟨100, false, by decide⟩

def sampleRandom : Bytes := List.replicate 16 0x04

def sampleStart : Session UInt8 :=
  .start sampleSuite sampleProvisioner sampleClient sampleRandom

/-- A Capabilities PDU for one element. -/
def sampleCapabilities : Bytes := [_PROV_CAPABILITIES, 0x01] ++ List.replicate 10 0x00

def samplePublicKey : Bytes := [_PROV_PUBLIC_KEY] ++ List.replicate 64 0x06

/-- The last segment is written, and the device answers while `recv_prov` waits. -/
def answered (suite : ProvisionerSuite β) (pdu : List β) : List (SessionEvent β) :=
  [.proceed (.ok ()), .notify (suite.lit 0x03 :: pdu), .process, .wake]

/-- The exchange up to the answer with the public key. -/
def keysExchanged (suite : ProvisionerSuite β) : List (SessionEvent β) :=
  [.proceed (.ok ())] ++ answered suite (suite.lits sampleCapabilities) ++
    [.proceed (.ok ()), .proceed (.ok ())] ++ answered suite (suite.lits samplePublicKey)

end TuyaBleMesh
