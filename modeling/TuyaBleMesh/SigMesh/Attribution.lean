import TuyaBleMesh.SigMesh.Rules

/-!
# Which status completes which request

A status completes the oldest pending request of its opcode, whatever it is about and
whatever it answers. So a configuration call succeeds by a status of its own only where
no other status of the opcode comes before it.
-/

namespace TuyaBleMesh

/-- The parameters of a status report success for what the call asked for: AppKey Status
repeats the key indexes, Model App Status the element address and the model. -/
def ConfigCall.confirmedBy (call : ConfigCall) (params : Bytes) : Bool :=
  params.head? = some 0x00 &&
    match call with
    | .appkeyAdd _ netIdx appIdx => (params.drop 1).take 3 = packKeyIndexes netIdx appIdx
    | .modelAppBind elementAddr _ modelId =>
      (params.drop 1).take 2 = packLE16 elementAddr && (params.drop 5).take 2 = packLE16 modelId

/-- The device has reported success for what the call asked for. -/
def Confirmed (c : SigConfig) (history : List SigMoment) (call : ConfigCall) : Prop :=
  ∃ params, .delivered c.targetAddr call.request.statusOpcode params ∈ history ∧
    call.confirmedBy params = true

/-- A call returns `True` when the device has reported its success, and no status for a request
that has timed out completes another one. -/
structure Attributed (c : SigConfig) (history : List SigMoment) : Prop where
  confirmed : ∀ key call, .returned key call true ∈ history → Confirmed c history call
  fresh : ∀ before key params answered after,
    history = before ++ .resolved key params (some answered) :: after → .timedOut answered ∉ before

/-- The call that registered the key, if the moment is one. -/
def SigMoment.registeredCall? (key : ResponseKey) : SigMoment → Option ConfigCall
  | .registered other call => if other = key then some call else none
  | _ => none

/-- The calls that registered the key. -/
def registeredCalls (key : ResponseKey) (history : List SigMoment) : List ConfigCall :=
  history.filterMap (SigMoment.registeredCall? key)

/-- A message from the device at the address that finds a pending request of its opcode comes
for no request that has timed out, and if it reports a success, then of that request. -/
def Notification.Fits (c : SigConfig) (notification : Notification) (s : SigMeshDevice) : Prop :=
  ∀ message ∈ s.device.delivers c.suite notification.clock notification.data,
    ∀ key ∈ s.device.matchedKey message.2.1,
      (∀ answered ∈ notification.answersTo, .timedOut answered ∉ s.history) ∧
        (message.2.2.head? = some 0x00 → message.1 = c.targetAddr ∧
          ∀ call ∈ registeredCalls key s.history, call.confirmedBy message.2.2 = true)

/-- Each notification fits. -/
def statusesFit (c : SigConfig) : LoopGuard sigSignature where
  starts code s :=
    match code with
    | .processNotify notification => notification.Fits c s
    | _ => True

namespace Attributed

open SigMesh

variable {c : SigConfig} {me : TaskId} {s s' : SigMeshDevice} {history : List SigMoment}

theorem mem_registeredCalls {key : ResponseKey} {call : ConfigCall} :
    call ∈ registeredCalls key history ↔ .registered key call ∈ history := by
  constructor
  · intro member
    obtain ⟨moment, member, found⟩ := List.mem_filterMap.mp member
    cases moment with
    | registered other call' =>
      simp only [SigMoment.registeredCall?] at found
      -- a request of another key is passed over
      split at found
      · next same =>
        cases found
        exact same ▸ member
      · cases found
    | _ => cases found
  · intro member
    exact List.mem_filterMap.mpr ⟨_, member, if_pos rfl⟩

theorem confirmed_mono {history' : List SigMoment} {call : ConfigCall}
    (grows : ∀ moment ∈ history, moment ∈ history') (confirmed : Confirmed c history call) :
    Confirmed c history' call := by
  obtain ⟨params, delivered, reports⟩ := confirmed
  exact ⟨params, grows _ delivered, reports⟩

/-! ### What a notification does to the responses -/

section Notify

variable (d : Device) (answers : Answers) (clock : Clock) (data : Bytes)

theorem responses_observed (outcome : Outcome) :
    outcome.responses = outcome.observed.effects.filterMap Effect.resolved? := by
  rw [Outcome.responses, Outcome.observed, List.filterMap_filter]
  congr 1
  funext effect
  cases effect <;> rfl

/-- What dispatching does to the responses: nothing, or the first of its opcode is completed. -/
structure Completes (d : Device) (message : Option (Nat × Nat × Bytes)) (outcome : Outcome) :
    Prop where
  correlationId : outcome.device.correlationId = d.correlationId
  pending : ∀ key ∈ outcome.device.pendingResponses.keys, key ∈ d.pendingResponses.keys
  responses : ∀ response ∈ outcome.responses, ∃ src opcode, message = some (src, opcode, response.2) ∧
    d.matchedKey opcode = some response.1

theorem dispatch_completes (src opcode : Nat) (params : Bytes) :
    Completes d (some (src, opcode, params))
      (d.dispatchAccessPayloadUnlocked answers src opcode params) := by
  have done := dispatched d answers src opcode params
  have effects := done.effect
  generalize d.dispatchAccessPayloadUnlocked answers src opcode params = outcome at done effects
  have responses : ∀ response ∈ outcome.responses, ∃ src' opcode',
      some (src, opcode, params) = some (src', opcode', response.2) ∧
        d.matchedKey opcode' = some response.1 := by
    intro response member
    obtain ⟨effect, member, found⟩ := List.mem_filterMap.mp member
    rcases effects effect member with callback | ⟨key, matched, rfl⟩
    · cases effect with
      | resolved _ _ => cases callback
      | _ => cases found
    · cases found
      exact ⟨src, opcode, rfl, matched⟩
  -- a status is consumed by its future, anything else goes to the callbacks
  cases done with
  | consumed key effects matched resolved =>
    exact ⟨rfl, fun other member => (OrderedDict.mem_keys_erase.mp member).2, responses⟩
  | called composition firmwareVersion calls unmatched callbacks =>
    exact ⟨rfl, fun _ member => member, responses⟩

theorem processNotify_completes (suite : CipherSuite) :
    Completes d (d.delivers suite clock data) (d.processNotify suite answers clock data) := by
  -- what does not come out of the crypto as a whole message changes no response
  cases delivers : d.delivers suite clock data with
  | none =>
    have unaffected : d.Unaffected (d.processNotify suite answers clock data).observed :=
      unaffected_of_delivers_none suite delivers
    obtain ⟨device, effects⟩ := unaffected
    refine ⟨(congrArg Device.correlationId device :), ?_, ?_⟩
    · rw [show (d.processNotify suite answers clock data).device.pendingResponses =
        d.pendingResponses from (congrArg Device.pendingResponses device :)]
      exact fun _ member => member
    · rw [responses_observed, effects]
      intro response member
      cases member
  | some message =>
    obtain ⟨sender, opcode, params⟩ := message
    have same : (d.processNotify suite answers clock data).observed = _ :=
      processNotify_observed suite delivers sender
    obtain ⟨correlationId, pending, responses⟩ := dispatch_completes d answers sender opcode params
    have device := congrArg Observation.device same
    refine ⟨(congrArg Device.correlationId device :).trans correlationId, ?_, ?_⟩
    · rw [show (d.processNotify suite answers clock data).device.pendingResponses = _ from
        (congrArg Device.pendingResponses device :)]
      exact pending
    · rw [responses_observed, same, ← responses_observed]
      exact responses

end Notify

/-- A matched key has the opcode. -/
theorem key_opcode {d : Device} {opcode : Nat} {key : ResponseKey}
    (matched : d.matchedKey opcode = some key) : key.1 = opcode := by
  unfold Device.matchedKey at matched
  exact of_decide_eq_true (List.find?_some matched :)

/-! ### The invariant -/

structure Inv (c : SigConfig) (s : SigMeshDevice) : Prop where
  attributed : Attributed c s.history
  /-- Keys are made of the opcode and a number that is not used again. -/
  registered : ∀ key call, .registered key call ∈ s.history →
    key.1 = call.request.statusOpcode ∧ key.2 < s.device.correlationId
  pending : ∀ key ∈ s.device.pendingResponses.keys, key.2 < s.device.correlationId
  numbered : ∀ response ∈ s.results, response.1.2 < s.device.correlationId
  results : ∀ response ∈ s.results, response.2.head? = some 0x00 →
    ∀ call, .registered response.1 call ∈ s.history → Confirmed c s.history call

def outline (c : SigConfig) : Discipline sigSignature where
  toLoopGuard := statusesFit c
  inv := Inv c
  rely _ s s' := s.history <+: s'.history
  pre _ code s :=
    match code with
    | .responded call key _ => .registered key call ∈ s.history
    | .processNotify notification => notification.Fits c s
    | _ => True
  rely_refl _ s := List.prefix_refl s.history
  rely_trans first second := first.trans second

/-- A moment after which the statuses are attributed as before. -/
theorem snoc {moment : SigMoment} (attributed : Attributed c history)
    (returned : ∀ key call, moment = .returned key call true → Confirmed c history call)
    (resolved : ∀ key params answered, moment = .resolved key params (some answered) →
      .timedOut answered ∉ history) : Attributed c (history ++ [moment]) where
  confirmed key call member := by
    apply confirmed_mono fun _ => List.mem_append_left [moment]
    rcases List.mem_append.mp member with member | member
    · exact attributed.confirmed key call member
    · exact returned key call (List.mem_singleton.mp member).symm
  fresh before key params answered after split := by
    rcases List.eq_nil_or_concat after with rfl | ⟨init, last, rfl⟩
    -- the new moment is the resolution itself
    · obtain ⟨rfl, same⟩ := List.append_inj' split rfl
      exact resolved key params answered (List.singleton_inj.mp same)
    · have regrouped :
          history ++ [moment] = (before ++ .resolved key params (some answered) :: init) ++ [last] := by
        simpa using split
      obtain ⟨rfl, _⟩ := List.append_inj' regrouped rfl
      exact attributed.fresh before key params answered init rfl

/-- Moments that neither return a success nor time a request out; the statuses among them are
fresh. -/
theorem append_statuses {moments : List SigMoment} (attributed : Attributed c history)
    (unreturned : ∀ key call, .returned key call true ∉ moments)
    (running : ∀ key, .timedOut key ∉ moments)
    (fresh : ∀ key params answered, .resolved key params (some answered) ∈ moments →
      .timedOut answered ∉ history) : Attributed c (history ++ moments) := by
  -- each moment is judged by the history up to it
  induction moments generalizing history with
  | nil => rwa [List.append_nil]
  | cons moment moments ih =>
    rw [← List.singleton_append, ← List.append_assoc]
    refine ih (attributed.snoc ?_ ?_) ?_ ?_ ?_
    · rintro key call rfl
      exact absurd List.mem_cons_self (unreturned key call)
    · rintro key params answered rfl
      exact fresh key params answered List.mem_cons_self
    · exact fun key call member => unreturned key call (List.mem_cons_of_mem _ member)
    · exact fun key member => running key (List.mem_cons_of_mem _ member)
    -- its request may not have timed out before, nor in these moments
    · intro key params answered member late
      rcases List.mem_append.mp late with late | late
      · exact fresh key params answered (List.mem_cons_of_mem _ member) late
      · exact running answered (List.mem_singleton.mp late ▸ List.mem_cons_self)

/-- What is written down about other things than keys. -/
theorem Inv.note {moment : SigMoment} (inv : Inv c s)
    (returned : ∀ key call, moment = .returned key call true → Confirmed c s.history call)
    (unresolved : ∀ key params answered, moment ≠ .resolved key params answered)
    (unregistered : ∀ key call, moment ≠ .registered key call) :
    Inv c { s with history := s.history ++ [moment] } := by
  have before : ∀ key call, .registered key call ∈ s.history ++ [moment] →
      .registered key call ∈ s.history := by
    intro key call member
    rcases List.mem_append.mp member with member | member
    · exact member
    · exact absurd (List.mem_singleton.mp member).symm (unregistered key call)
  refine ⟨?_, ?_, inv.pending, inv.numbered, ?_⟩
  · refine inv.attributed.snoc returned fun key params answered same => ?_
    exact absurd same (unresolved key params (some answered))
  · exact fun key call member => inv.registered key call (before key call member)
  · intro response member success call registered
    apply confirmed_mono fun _ => List.mem_append_left [moment]
    exact inv.results response member success call (before _ call registered)

/-- A new request has a key that no other had. -/
theorem Inv.register (inv : Inv c s) (call : ConfigCall) :
    Inv c { s with
      device := s.device.expectStatus call.request
      history := s.history ++
        [.registered (call.request.statusOpcode, s.device.correlationId) call] } := by
  refine ⟨?_, ?_, ?_, ?_, ?_⟩
  · refine inv.attributed.snoc ?_ ?_
    · rintro _ _ ⟨⟩
    · rintro _ _ _ ⟨⟩
  · intro key other member
    rcases List.mem_append.mp member with member | member
    · obtain ⟨opcode, below⟩ := inv.registered key other member
      exact ⟨opcode, Nat.lt_succ_of_lt below⟩
    · cases List.mem_singleton.mp member
      exact ⟨rfl, Nat.lt_succ_self _⟩
  · intro key member
    rcases OrderedDict.mem_keys_set.mp member with rfl | member
    · exact Nat.lt_succ_self _
    · exact Nat.lt_succ_of_lt (inv.pending key member)
  · exact fun response member => Nat.lt_succ_of_lt (inv.numbered response member)
  -- the key of the new request has no result yet: its number was not used
  · intro response member success other registered
    apply confirmed_mono fun _ => List.mem_append_left _
    rcases List.mem_append.mp registered with registered | registered
    · exact inv.results response member success other registered
    · have same := congrArg Prod.snd (SigMoment.registered.inj (List.mem_singleton.mp registered)).1
      exact absurd same (Nat.ne_of_lt (inv.numbered response member))

/-- A status that fits completes its own request. -/
theorem Inv.processed {notification : Notification} (inv : Inv c s)
    (fits : notification.Fits c s) : Inv c (SigMesh.processed c s notification) := by
  obtain ⟨correlationId, pending, responses⟩ := processNotify_completes s.device
    notification.answers notification.clock notification.data c.suite
  -- a notification delivers its message and completes at most the matched future
  have outcomes : ∀ moment ∈ notifyMoments c s.device notification,
      (∃ src opcode params, moment = .delivered src opcode params) ∨
        ∃ response ∈ (s.device.processNotify c.suite notification.answers notification.clock
          notification.data).responses, moment = .resolved response.1 response.2
            notification.answersTo := by
    intro moment member
    rcases List.mem_append.mp member with member | member
    · obtain ⟨message, _, rfl⟩ := List.mem_map.mp member
      exact .inl ⟨_, _, _, rfl⟩
    · obtain ⟨response, resolved, rfl⟩ := List.mem_map.mp member
      exact .inr ⟨response, resolved, rfl⟩
  have before : ∀ key call,
      .registered key call ∈ s.history ++ notifyMoments c s.device notification →
        .registered key call ∈ s.history := by
    intro key call member
    rcases List.mem_append.mp member with member | member
    · exact member
    · rcases outcomes _ member with ⟨_, _, _, same⟩ | ⟨_, _, same⟩
      · cases same
      · cases same
  refine ⟨?_, ?_, ?_, ?_, ?_⟩
  · apply inv.attributed.append_statuses
    · intro key call member
      rcases outcomes _ member with ⟨_, _, _, same⟩ | ⟨_, _, same⟩
      · cases same
      · cases same
    · intro key member
      rcases outcomes _ member with ⟨_, _, _, same⟩ | ⟨_, _, same⟩
      · cases same
      · cases same
    · intro key params answered member
      rcases outcomes _ member with ⟨_, _, _, same⟩ | ⟨response, response_mem, same⟩
      · cases same
      · obtain ⟨src, opcode, message, matched⟩ := responses response response_mem
        -- the status does not answer a request that has timed out
        exact (fits _ message _ matched).1 answered (SigMoment.resolved.inj same).2.2.symm
  · intro key call member
    rw [SigMesh.processed, correlationId]
    exact inv.registered key call (before key call member)
  · intro key member
    rw [SigMesh.processed, correlationId]
    exact inv.pending key (pending key member)
  · intro response member
    rw [SigMesh.processed, correlationId]
    rcases List.mem_append.mp member with member | member
    · exact inv.numbered response member
    · obtain ⟨_, opcode, _, matched⟩ := responses response member
      exact inv.pending response.1 (List.mem_of_find?_eq_some matched)
  · intro response member success call registered
    have registered := before response.1 call registered
    rcases List.mem_append.mp member with member | member
    · apply confirmed_mono fun _ => List.mem_append_left _
      exact inv.results response member success call registered
    · obtain ⟨src, opcode, message, matched⟩ := responses response member
      -- the status of the key reports on what was asked for under it
      obtain ⟨target, reports⟩ := (fits _ message _ matched).2 success
      refine ⟨response.2, List.mem_append_right _ (List.mem_append_left _ ?_), ?_⟩
      -- the key was registered with the opcode of the status
      · have same : opcode = call.request.statusOpcode := by
          rw [← (inv.registered response.1 call registered).1]
          exact (key_opcode matched).symm
        refine List.mem_map.mpr ⟨_, Option.mem_toList.mpr message, ?_⟩
        rw [← same, ← target]
      · exact reports call (mem_registeredCalls.mpr registered)

/-! ### The calls -/

section Calls

variable {fact : SigMeshDevice → Prop}

/-- A step that keeps the invariant and only adds to the history keeps what a task counts on. -/
theorem keeps_step (stable : (outline c).Stable me fact) {f : SigMeshDevice → SigMeshDevice}
    (step : ∀ s, Inv c s → Inv c (f s) ∧ s.history <+: (f s).history) :
    (update f).Keeps (outline c) me fact := by
  refine Coroutine.keeps_modify fun s holds => ?_
  obtain ⟨inv, grows⟩ := step s (stable.inv s holds)
  exact ⟨fun _ _ => grows, stable.later s (f s) holds inv grows⟩

theorem aside (aside : SigAside s s') (inv : Inv c s) : Inv c s' ∧ s.history <+: s'.history := by
  -- none of the fields that the invariant is about has changed
  obtain ⟨history, results, pending, correlationId⟩ := aside
  constructor
  · obtain ⟨attributed, registered, pendings, numbered, confirmed⟩ := inv
    rw [← history, ← correlationId] at registered
    rw [← pending, ← correlationId] at pendings
    rw [← results, ← correlationId] at numbered
    rw [← results, ← history] at confirmed
    exact ⟨history ▸ attributed, registered, pendings, numbered, confirmed⟩
  · rw [history]

theorem keeps_aside (stable : (outline c).Stable me fact) {f : SigMeshDevice → SigMeshDevice}
    (still : ∀ s, SigAside s (f s)) : (update f).Keeps (outline c) me fact :=
  keeps_step stable fun s inv => aside (still s) inv

/-- Moments that are about no key. -/
def IsKeyless : SigMoment → Prop
  | .wrote _ _ => True
  | .ended _ _ _ => True
  | .timedOut _ => True
  | _ => False

theorem keeps_note (stable : (outline c).Stable me fact) (moment : SigMoment)
    (keyless : IsKeyless moment) : (SigMesh.note moment).Keeps (outline c) me fact := by
  refine keeps_step stable fun s inv => ⟨inv.note ?_ ?_ ?_, List.prefix_append _ _⟩
  · rintro _ _ rfl
    cases keyless
  · rintro _ _ _ rfl
    cases keyless
  · rintro _ _ rfl
    cases keyless

variable (stable : (outline c).Stable me fact)

include stable

theorem drawSeqs (draw : Draw) : (SigMesh.drawSeqs draw).Keeps (outline c) me fact := by
  intro s holds
  refine wp_drawSeqs (fun range seqStore _ => ?_) holds
  exact keeps_aside stable (fun s => (⟨rfl, rfl, rfl, rfl⟩ : SigAside s { s with seqStore })) s holds

theorem writeGattChar (call : SigCall) (pdu : Bytes) :
    (SigMesh.writeGattChar call pdu).Keeps (outline c) me fact := by
  intro s holds
  refine wp_writeGattChar (stable.inv s holds) (fun _ => holds) ?_ ?_
  · intro client s' inv' rely
    exact keeps_note stable (.wrote me client) trivial s' (stable.later s s' holds inv' rely)
  · exact fun _ _ s' inv' rely _ => stable.later s s' holds inv' rely

theorem unsegmentedPdu (appKey : Option Bytes) (dst : Nat) (accessPayload : Bytes) :
    (SigMesh.unsegmentedPdu c appKey dst accessPayload).Keeps (outline c) me fact := by
  refine Coroutine.Keeps.bind (drawSeqs stable .one) fun seq => ?_
  refine Coroutine.Keeps.bind ?_ fun keys => keeps_fromAnswer _
  exact fun s holds => wp_loadedKeys (fun _ _ => holds) fun _ => holds

theorem sendUnsegmented (call : SigCall) (appKey : Option Bytes) (dst : Nat)
    (accessPayload : Except PyError Bytes) :
    (SigMesh.sendUnsegmented c call appKey dst accessPayload).Keeps (outline c) me fact := by
  refine Coroutine.Keeps.bind (keeps_fromAnswer accessPayload) fun payload => ?_
  exact Coroutine.Keeps.bind (unsegmentedPdu stable appKey dst payload) fun pdu =>
    writeGattChar stable call pdu

theorem sendRetrying {once : SigMesh Unit} (keeps : once.Keeps (outline c) me fact)
    (call : SigCall) (maxRetries left : Nat) (backoff : Rat) :
    (SigMesh.sendRetrying c call once maxRetries left backoff).Keeps (outline c) me fact := by
  -- on the attempts that are left; the pause is the only await of its own
  induction left generalizing backoff with
  | zero => exact Coroutine.keeps_raise _
  | succ left ih =>
    refine Coroutine.Keeps.bind (Coroutine.Keeps.onError ?_ fun error => ?_) fun sent => ?_
    · exact Coroutine.Keeps.bind keeps fun _ => Coroutine.keeps_pure _
    · split
      · split
        · exact Coroutine.keeps_pure _
        · exact Coroutine.Keeps.bind (Coroutine.keeps_call stable _) fun _ => Coroutine.keeps_pure _
      · exact Coroutine.keeps_raise _
    · split
      · exact Coroutine.keeps_pure _
      · exact ih _

omit stable in
theorem checkConnected : SigMesh.checkConnected.Keeps (outline c) me fact :=
  fun _ holds => wp_checkConnected (fun _ _ _ => holds) holds

omit stable in
theorem applicationKey (keys : MeshKeys) :
    (SigMesh.applicationKey keys).Keeps (outline c) me fact :=
  fun _ holds => wp_applicationKey (fun _ => holds) holds

theorem sendCommand (call : SigCall) (dst maxRetries : Nat)
    (accessPayload : Nat → Except PyError Bytes) :
    (SigMesh.sendCommand c call dst maxRetries accessPayload).Keeps (outline c) me fact := by
  refine Coroutine.Keeps.bind checkConnected fun keys => ?_
  refine Coroutine.Keeps.bind (applicationKey keys) fun appKey => ?_
  refine Coroutine.Keeps.bind ?_ fun tid => ?_
  · apply Coroutine.keeps_read_bind
    intro s holds
    refine Coroutine.Keeps.bind (keeps_aside stable ?_) (fun _ => Coroutine.keeps_pure _) s holds
    exact fun _ => ⟨rfl, rfl, rfl, rfl⟩
  · exact sendRetrying stable (sendUnsegmented stable call _ dst _) call maxRetries maxRetries _

theorem writeSegments (call : ConfigCall) (segments : List (Nat × Bytes)) :
    (SigMesh.writeSegments c call segments).Keeps (outline c) me fact := by
  induction segments with
  | nil => exact Coroutine.keeps_pure _
  | cons segment rest ih =>
    refine Coroutine.Keeps.bind ?_ fun keys => ?_
    · exact fun s holds => wp_loadedKeys (fun _ _ => holds) fun _ => holds
    · refine Coroutine.Keeps.bind (keeps_fromAnswer _) fun pdu => ?_
      refine Coroutine.Keeps.bind (writeGattChar stable _ pdu) fun _ => ?_
      exact Coroutine.Keeps.bind (Coroutine.keeps_call stable _) fun _ => ih

end Calls

/-! ### Requests -/

section Requests

variable {key : ResponseKey} {call : ConfigCall}

/-- What a call counts on after it has registered its request. -/
def Registered (c : SigConfig) (key : ResponseKey) (call : ConfigCall) (s : SigMeshDevice) : Prop :=
  Inv c s ∧ .registered key call ∈ s.history

theorem registered_stable : (outline c).Stable me (Registered c key call) where
  inv _ holds := holds.1
  later _ _ holds inv grows := ⟨inv, grows.subset holds.2⟩

/-- What the wait for a response reaches. -/
def Responded (c : SigConfig) (key : ResponseKey) (call : ConfigCall) :
    Except PyError Bytes → SigMeshDevice → Prop
  | .ok params, s => Registered c key call s ∧
      (params.head? = some 0x00 → Confirmed c s.history call)
  | .error _, s => Registered c key call s

theorem wp_register {post : Except PyError ResponseKey → SigMeshDevice → Prop} (inv : Inv c s)
    (registered : ∀ key s', Registered c key call s' → post (.ok key) s') :
    (register call).wp (outline c) me post s := by
  unfold register
  rw [Coroutine.wp_read_bind, Coroutine.wp_modify_bind]
  refine ⟨fun _ _ => List.prefix_append _ _, registered _ _ ⟨inv.register call, ?_⟩⟩
  exact List.mem_append_right _ List.mem_cons_self

/-- `params[0] if params else 0xFF`. -/
theorem head_of_success {params : Bytes} (success : params.headD 0xFF = 0x00) :
    params.head? = some 0x00 := by
  cases params with
  | nil => cases success
  | cons status rest => exact congrArg some success

/-- The request is withdrawn in any case. -/
theorem wp_sendConfig {body : SigMesh Bytes}
    (responds : body.wp (outline c) me (Responded c key call) s) :
    (sendConfig call key body).wp (outline c) me (fun _ s => Inv c s) s := by
  -- `self._pending_responses.pop(key, None)`
  have withdraw : ∀ s, Inv c s → Inv c { s with
      device := { s.device with pendingResponses := s.device.pendingResponses.erase key } } := by
    intro s inv
    refine ⟨inv.attributed, inv.registered, fun other member => ?_, inv.numbered, inv.results⟩
    exact inv.pending other (OrderedDict.mem_keys_erase.mp member).2
  unfold sendConfig responseScope
  apply Coroutine.wp_bind
  apply Coroutine.wp_ensuring
  apply Coroutine.wp_onError
  refine Coroutine.wp_mono (fun result s₁ responded => ?_) responds
  cases result with
  | ok params =>
    obtain ⟨⟨inv, registered⟩, confirmed⟩ := responded
    rw [Coroutine.wpHandler_ok]
    refine ⟨fun _ _ => List.prefix_refl _, fun _ _ => List.prefix_append _ _, ?_⟩
    -- only a success is attributed to the request
    refine (withdraw s₁ inv).note ?_ (by rintro _ _ _ ⟨⟩) (by rintro _ _ ⟨⟩)
    intro key' call' same
    obtain ⟨_, rfl, success⟩ := SigMoment.returned.inj same
    exact confirmed (head_of_success (of_decide_eq_true success))
  | error error =>
    obtain ⟨inv, _⟩ := responded
    rw [Coroutine.wpHandler_error]
    split
    · have noted := keeps_note ((outline c).stable_inv me) (.timedOut key) trivial s₁ inv
      exact ⟨noted.1, fun _ _ => List.prefix_refl _, withdraw _ noted.2⟩
    · exact ⟨fun _ _ => List.prefix_refl _, withdraw s₁ inv⟩

theorem awaitResponse (holds : Registered c key call s) :
    (SigMesh.awaitResponse call key).wp (outline c) me (Responded c key call) s :=
  -- the registration stays in the history whatever others do
  ⟨holds.1, fun _ _ _ grows _ => grows.subset holds.2⟩

theorem mem_of_lookup {entries : List (ResponseKey × Bytes)} {params : Bytes}
    (found : entries.lookup key = some params) : (key, params) ∈ entries := by
  obtain ⟨before, after, rfl, _⟩ := List.lookup_eq_some_iff.mp found
  exact List.mem_append_right _ List.mem_cons_self

/-- The result of the future confirms the request that it was registered for. -/
theorem responseResult (answer : Except PyError Unit) (holds : Registered c key call s) :
    (SigMesh.responseResult call key answer).wp (outline c) me (Responded c key call) s := by
  cases answer with
  | error error => exact holds
  | ok _ =>
    unfold SigMesh.responseResult
    rw [Coroutine.wp_read_bind]
    -- no result, so the future is still waited for
    split
    · exact awaitResponse holds
    · next params found =>
      refine ⟨holds, fun success => ?_⟩
      exact holds.1.results (key, params) (mem_of_lookup found) success call holds.2

/-- The sending, and then the wait. -/
theorem sendsAndAwaits {sends : SigMesh Unit}
    (keeps : sends.Keeps (outline c) me (Registered c key call)) (holds : Registered c key call s) :
    (do sends; SigMesh.awaitResponse call key : SigMesh Bytes).wp (outline c) me
      (Responded c key call) s := by
  apply Coroutine.wp_bind
  refine keeps.wp holds fun result s₁ holds₁ => ?_
  cases result with
  | ok _ => exact awaitResponse holds₁
  | error error => exact holds₁

theorem sendConfigAppkeyAdd (appKey : Bytes) (netIdx appIdx : Int) :
    (SigMesh.sendConfigAppkeyAdd c appKey netIdx appIdx).Keeps (outline c) me (Inv c) := by
  have stable := (outline c).stable_inv me
  refine Coroutine.Keeps.bind checkConnected fun _ => ?_
  refine Coroutine.Keeps.bind (keeps_fromAnswer _) fun accessPayload => ?_
  refine Coroutine.Keeps.bind (drawSeqs stable _) fun seqStart => ?_
  refine Coroutine.Keeps.bind ?_ fun keys => ?_
  · exact fun s inv => wp_loadedKeys (fun _ _ => inv) fun _ => inv
  · refine Coroutine.Keeps.bind (keeps_fromAnswer _) fun segments s inv => ?_
    apply Coroutine.wp_bind
    refine wp_register inv fun key s₁ holds => wp_sendConfig ?_
    exact sendsAndAwaits (writeSegments registered_stable _ segments) holds

theorem sendConfigModelAppBind (elementAddr appIdx modelId : Int) :
    (SigMesh.sendConfigModelAppBind c elementAddr appIdx modelId).Keeps (outline c) me (Inv c) := by
  have stable := (outline c).stable_inv me
  refine Coroutine.Keeps.bind checkConnected fun _ => ?_
  refine Coroutine.Keeps.bind (keeps_fromAnswer _) fun accessPayload => ?_
  refine Coroutine.Keeps.bind (unsegmentedPdu stable none _ _) fun pdu s inv => ?_
  apply Coroutine.wp_bind
  refine wp_register inv fun key s₁ holds => wp_sendConfig ?_
  exact sendsAndAwaits (writeGattChar registered_stable _ pdu) holds

end Requests

/-! ### Runs -/

theorem recordEnd (call : SigCall) {body : SigMesh Unit} (keeps : body.wp (outline c) me
    (fun _ s => Inv c s) s) : (SigMesh.recordEnd call body).wp (outline c) me (fun _ s => Inv c s)
      s := by
  have noted : ∀ result, (SigMesh.note (.ended me call result)).Keeps (outline c) me (Inv c) :=
    fun _ => keeps_note ((outline c).stable_inv me) _ trivial
  unfold SigMesh.recordEnd
  rw [Coroutine.wp_currentTask_bind]
  apply Coroutine.wp_bind
  apply Coroutine.wp_onError
  refine Coroutine.wp_mono (fun result s₁ inv₁ => ?_) keeps
  cases result with
  | ok _ => exact noted _ s₁ inv₁
  | error error => exact noted _ s₁ inv₁

theorem runCall (call : SigCall) : (SigMesh.runCall c call).Keeps (outline c) me (Inv c) := by
  intro s inv
  apply recordEnd
  have stable := (outline c).stable_inv me
  cases call with
  | sendPower on maxRetries => exact sendCommand stable _ _ _ _ s inv
  | sendLevel level maxRetries => exact sendCommand stable _ _ _ _ s inv
  | sendVendorCommand accessPayload =>
    refine Coroutine.Keeps.bind checkConnected (fun keys => ?_) s inv
    exact Coroutine.Keeps.bind (applicationKey keys) fun _ => sendUnsegmented stable _ _ _ _
  | requestCompositionData =>
    exact Coroutine.Keeps.bind checkConnected (fun _ => sendUnsegmented stable _ _ _ _) s inv
  | sendConfig call =>
    cases call with
    | appkeyAdd appKey netIdx appIdx => exact sendConfigAppkeyAdd appKey netIdx appIdx s inv
    | modelAppBind elementAddr appIdx modelId =>
      exact sendConfigModelAppBind elementAddr appIdx modelId s inv

theorem sigOutline (c : SigConfig) : SigOutline (outline c) c where
  aside me s s' still inv := by
    obtain ⟨inv', grows⟩ := aside still inv
    exact ⟨fun _ _ => grows, inv'⟩
  composition _ := runCall .requestCompositionData
  notified _ _ _ _ fits := fits

theorem verifies (c : SigConfig) : (outline c).Verifies (sigProgram c) where
  body code me s inv pre := by
    cases code with
    | call call => exact runCall call s inv
    | responded call key answer =>
      exact recordEnd _ (wp_sendConfig (responseResult answer ⟨inv, pre⟩))
    | connect maxRetries => exact (sigOutline c).connect maxRetries s inv
    | disconnect => exact (sigOutline c).disconnect s inv
    | onBleDisconnect => exact (sigOutline c).onBleDisconnect s inv
    | onNotify notification => exact (sigOutline c).onNotify notification s inv
    | processNotify notification =>
      show (processNotify c notification).wp (outline c) me _ s
      unfold processNotify
      rw [Coroutine.wp_read_bind, Coroutine.wp_currentTask_bind, Coroutine.wp_modify_bind]
      have processed := inv.processed pre
      have still : SigAside (SigMesh.processed c s notification)
          { SigMesh.processed c s notification with notifyTasks := s.notifyTasks.erase me } :=
        ⟨rfl, rfl, rfl, rfl⟩
      have inv' := (aside still processed).1
      refine ⟨fun _ _ => List.prefix_append _ _, ?_⟩
      dsimp only
      split
      · exact inv'
      · exact inv'
  entry code _ _ isEntry _ _ := by
    cases code with
    | responded _ _ _ => cases isEntry
    | processNotify _ => cases isEntry
    | _ => trivial
  environment event s s' inv happens := (sigOutline c).outside event s s' inv happens

theorem inv_idle (c : SigConfig) : (outline c).inv (SigMeshDevice.idle c).shared where
  attributed := by
    refine ⟨fun _ _ member => ?_, fun before _ _ _ _ split => ?_⟩
    · cases member
    · cases before <;> cases split
  registered _ _ member := by cases member
  pending _ member := by cases member
  numbered _ member := by cases member
  results _ member := by cases member

end Attributed

/-- The moment is the report that confirms the call. -/
def SigMoment.confirms (c : SigConfig) (call : ConfigCall) : SigMoment → Bool
  | .delivered src opcode params =>
    src = c.targetAddr && opcode = call.request.statusOpcode && call.confirmedBy params
  | _ => false

theorem confirmed_iff {c : SigConfig} {history : List SigMoment} {call : ConfigCall} :
    Confirmed c history call ↔ ∃ moment ∈ history, moment.confirms c call = true := by
  constructor
  · rintro ⟨params, delivered, reports⟩
    exact ⟨_, delivered, by simp [SigMoment.confirms, reports]⟩
  · rintro ⟨moment, member, confirms⟩
    cases moment with
    | delivered src opcode params =>
      simp only [SigMoment.confirms, Bool.and_eq_true, decide_eq_true_eq] at confirms
      obtain ⟨⟨rfl, rfl⟩, reports⟩ := confirms
      exact ⟨params, member, reports⟩
    | _ => cases confirms

instance (c : SigConfig) (history : List SigMoment) (call : ConfigCall) :
    Decidable (Confirmed c history call) := decidable_of_iff _ confirmed_iff.symm

instance (c : SigConfig) (notification : Notification) (s : SigMeshDevice) :
    Decidable (notification.Fits c s) :=
  inferInstanceAs (Decidable (∀ message ∈ s.device.delivers c.suite notification.clock
    notification.data, ∀ key ∈ s.device.matchedKey message.2.1, _ ∧ (_ → _ ∧ _)))

instance (c : SigConfig) (code : SigCode) (s : SigMeshDevice) :
    Decidable ((statusesFit c).starts code s) :=
  match code with
  | .processNotify notification => inferInstanceAs (Decidable (notification.Fits c s))
  | .call _ => isTrue trivial
  | .responded _ _ _ => isTrue trivial
  | .connect _ => isTrue trivial
  | .disconnect => isTrue trivial
  | .onBleDisconnect => isTrue trivial
  | .onNotify _ => isTrue trivial

instance (c : SigConfig) (op : SigOp) (answer : Except PyError op.Answer) (s : SigMeshDevice) :
    Decidable ((statusesFit c).answers op answer s) := isTrue trivial

instance (c : SigConfig) (site : Empty) (result : Except PyError Unit) (s : SigMeshDevice) :
    Decidable ((statusesFit c).joins site result s) := isTrue trivial

namespace SigMeshDevice

/-- In every run in which no status comes for a request that has timed out, and a status of
success that finds a pending request is for the oldest of its opcode, a call returns `True` only
when the device has reported success for what the call asked for. -/
theorem statuses_attributed {c : SigConfig} {events : List (LoopEvent sigSignature SigOutside)}
    {w : EventLoop sigSignature}
    (guarded : (sigSystem c).Guarded (statusesFit c).Permits (idle c) events)
    (ran : (sigSystem c).exec (idle c) events = some w) : Attributed c w.shared.history :=
  ((Attributed.verifies c).exec (Attributed.inv_idle c) guarded ran).attributed

/-- A status that the sample device sends, and the request that it answers. -/
def sampleStatus (seq : Nat) (accessPayload : Bytes) (answersTo : Option ResponseKey) :
    Notification :=
  let made : Except PyError Bytes := do
    let transportPdu ← makeAccessUnsegmented nonceTagSuite sampleKeys.devKey 0xB0 1 seq
      sampleKeys.ivIndex accessPayload 0 0
    let fields : NetworkPDU := { ctl := 0, ttl := 5, seq, src := 0xB0, dst := 1, transportPdu }
    let networkPdu ← encryptNetworkPdu nonceTagSuite sampleKeys.encKey sampleKeys.privKey
      sampleKeys.nid fields sampleKeys.ivIndex
    return makeProxyPdu networkPdu
  { data := made.toOption.getD [], answers := fun _ => none, clock := ⟨0, 0⟩, answersTo }

/-- The binding of an element to the first key, up to the wait for the status. -/
def bindEvents (task : TaskId) (elementAddr : Int) (seq : Nat) :
    List (LoopEvent sigSignature SigOutside) :=
  let call : SigCall := .sendConfig (.modelAppBind elementAddr 0 0x1000)
  let accessPayload := (configModelAppBind elementAddr 0 0x1000).toOption.getD []
  [.enter (.call call), .start task,
    .answer task (.write call 7 (sampleMessage none seq accessPayload)) (.ok ())]

/-- Success for the first element. -/
def boundStatus : Bytes := [0x80, 0x3E, 0x00, 0xB0, 0x00, 0x00, 0x00, 0x00, 0x10]

def boundRun : List (LoopEvent sigSignature SigOutside) :=
  connectEvents 0 7 0 ++ bindEvents 1 0xB0 1 ++
    [.enter (.onNotify (sampleStatus 9 boundStatus (some (0x803E, 0)))), .start 2, .start 3,
      .answer 1 (.response (.modelAppBind 0xB0 0 0x1000) (0x803E, 0)) (.ok ())]

theorem boundRun_attributed :
    ∃ w ∈ (sigSystem sampleSig).exec (idle sampleSig) boundRun,
      .returned (0x803E, 0) (.modelAppBind 0xB0 0 0x1000) true ∈ w.shared.history ∧
        Attributed sampleSig w.shared.history := by
  have runs : ∃ w ∈ (sigSystem sampleSig).exec (idle sampleSig) boundRun,
      .returned (0x803E, 0) (.modelAppBind 0xB0 0 0x1000) true ∈ w.shared.history := by
    decide +kernel
  obtain ⟨w, ran, returned⟩ := runs
  exact ⟨w, ran, returned, statuses_attributed (by decide +kernel) ran⟩

/-- The binding of the first element times out, and its status comes during that of the
second. -/
def lateStatusRun : List (LoopEvent sigSignature SigOutside) :=
  connectEvents 0 7 0 ++ bindEvents 1 0xB0 1 ++
    [.answer 1 (.response (.modelAppBind 0xB0 0 0x1000) (0x803E, 0)) (.error .timeoutError)] ++
    bindEvents 2 0xB1 2 ++
    [.enter (.onNotify (sampleStatus 9 boundStatus (some (0x803E, 0)))), .start 3, .start 4,
      .answer 2 (.response (.modelAppBind 0xB1 0 0x1000) (0x803E, 1)) (.ok ())]

/-- The second binding returns `True`, and the device has never reported on its element. -/
theorem lateStatus_attributed_to_other :
    ∃ w ∈ (sigSystem sampleSig).exec (idle sampleSig) lateStatusRun,
      .returned (0x803E, 1) (.modelAppBind 0xB1 0 0x1000) true ∈ w.shared.history ∧
        ¬Confirmed sampleSig w.shared.history (.modelAppBind 0xB1 0 0x1000) ∧
          ¬Attributed sampleSig w.shared.history := by
  have runs : ∃ w ∈ (sigSystem sampleSig).exec (idle sampleSig) lateStatusRun,
      .returned (0x803E, 1) (.modelAppBind 0xB1 0 0x1000) true ∈ w.shared.history ∧
        ¬Confirmed sampleSig w.shared.history (.modelAppBind 0xB1 0 0x1000) := by
    decide +kernel
  obtain ⟨w, ran, returned, unconfirmed⟩ := runs
  exact ⟨w, ran, returned, unconfirmed, fun attributed =>
    unconfirmed (attributed.confirmed _ _ returned)⟩

end SigMeshDevice

end TuyaBleMesh
