import TuyaBleMesh.Device.Isolation

/-!
# Notifications received again

The receive path keeps no sequence numbers, so that a PDU received again is
processed like the first time. What changes in between are the listeners, and a
response future listens only once.
-/

namespace TuyaBleMesh

/-! ### Runs that record the resolved futures -/

def Effect.resolvedKey? : Effect → Option (Nat × Nat)
  | .resolved key _ => some key
  | _ => none

/-- The response futures resolved during a call. -/
def Outcome.resolved (outcome : Outcome) : List (Nat × Nat) :=
  outcome.effects.filterMap Effect.resolvedKey?

/-- A device and the response futures it resolved so far, latest first. -/
structure Life where
  device : Device
  resolved : List (Nat × Nat) := []

def Life.start (targetAddr : Nat) (levelTargetAddr : Option Nat) : Life where
  device := Device.new targetAddr levelTargetAddr

def lifeSystem (suite : CipherSuite) : EventSystem Life DeviceEvent where
  step life event :=
    some {
      device := life.device.after suite event
      resolved :=
        match event with
        | .notify answers clock data =>
          (life.device.processNotify suite answers clock data).resolved ++ life.resolved
        | _ => life.resolved }

/-! ### A response future is resolved once -/

/-- No two futures have the same correlation id, and a resolved one is no longer pending. -/
structure Life.Once (life : Life) : Prop where
  nodup : life.resolved.Nodup
  resolved : ∀ key ∈ life.resolved, key.2 < life.device.correlationId ∧
    key ∉ life.device.pendingResponses.keys
  pending : ∀ key ∈ life.device.pendingResponses.keys, key.2 < life.device.correlationId

section Once

variable {suite : CipherSuite} {answers : Answers} {clock : Clock} {data : Bytes}

/-- Handing a buffer over resolves nothing. -/
private theorem resolved_eq_observed (outcome : Outcome) :
    outcome.resolved = outcome.observed.effects.filterMap Effect.resolvedKey? := by
  rw [Outcome.resolved, Outcome.observed, List.filterMap_filter]
  congr 1
  funext effect
  cases effect <;> rfl

/-- What a call does to the futures: nothing, or it consumes one, resolved or not. -/
private structure Futures (d : Device) (outcome : Outcome) : Prop where
  correlationId : outcome.device.correlationId = d.correlationId
  consumed : outcome.resolved = [] ∧ outcome.device.pendingResponses = d.pendingResponses ∨
    ∃ key ∈ d.pendingResponses.keys, (outcome.resolved = [] ∨ outcome.resolved = [key]) ∧
      outcome.device.pendingResponses = d.pendingResponses.erase key

private theorem dispatch_futures (d : Device) (src opcode : Nat) (params : Bytes) :
    Futures d (d.dispatchAccessPayloadUnlocked answers src opcode params) := by
  have done := dispatched d answers src opcode params
  generalize d.dispatchAccessPayloadUnlocked answers src opcode params = outcome at done
  cases done with
  | consumed key effects matched resolved =>
    have pending : key ∈ d.pendingResponses.keys := List.mem_of_find?_eq_some matched
    refine ⟨rfl, .inr ⟨key, pending, ?_, rfl⟩⟩
    rcases resolved with rfl | rfl
    · exact .inl rfl
    · exact .inr rfl
  | called composition firmwareVersion calls unmatched callbacks =>
    refine ⟨rfl, .inl ⟨?_, rfl⟩⟩
    apply List.filterMap_eq_nil_iff.mpr
    intro effect member
    have callback := callbacks effect ((callAll_spec answers calls).1.subset member)
    cases effect <;> first | rfl | cases callback

private theorem futures_of_observed {d : Device} {outcome outcome' : Outcome}
    (same : outcome.observed = outcome'.observed) (futures : Futures d outcome') :
    Futures d outcome := by
  have device : outcome.device.withoutBuffers = outcome'.device.withoutBuffers :=
    congrArg Observation.device same
  have correlationId : outcome.device.correlationId = outcome'.device.correlationId :=
    (congrArg Device.correlationId device :)
  have pending : outcome.device.pendingResponses = outcome'.device.pendingResponses :=
    (congrArg Device.pendingResponses device :)
  have resolved : outcome.resolved = outcome'.resolved := by
    rw [resolved_eq_observed, resolved_eq_observed, same]
  obtain ⟨sameId, consumed⟩ := futures
  rw [← pending, ← resolved] at consumed
  exact ⟨correlationId.trans sameId, consumed⟩

private theorem processNotify_futures (d : Device) :
    Futures d (d.processNotify suite answers clock data) := by
  cases delivers : d.delivers suite clock data with
  | none =>
    have unaffected : d.Unaffected (d.processNotify suite answers clock data).observed :=
      unaffected_of_delivers_none suite delivers
    obtain ⟨device, effects⟩ := unaffected
    have quiet : (d.processNotify suite answers clock data).resolved = [] := by
      rw [resolved_eq_observed, effects, List.filterMap_nil]
    exact ⟨(congrArg Device.correlationId device :),
      .inl ⟨quiet, (congrArg Device.pendingResponses device :)⟩⟩
  | some message =>
    obtain ⟨sender, opcode, params⟩ := message
    apply futures_of_observed (processNotify_observed suite delivers sender)
    exact dispatch_futures d sender opcode params

private theorem Life.Once.futures {life : Life} {outcome : Outcome} (once : life.Once)
    (futures : Futures life.device outcome) :
    Life.Once { device := outcome.device, resolved := outcome.resolved ++ life.resolved } := by
  obtain ⟨nodup, resolved, pending⟩ := once
  obtain ⟨sameId, ⟨quiet, same⟩ | ⟨key, member, fired, erased⟩⟩ := futures
  · refine ⟨?_, ?_, ?_⟩
    · rw [quiet]
      exact nodup
    · rw [quiet, sameId, same]
      exact resolved
    · rw [sameId, same]
      exact pending
  · -- a key that leaves the pending futures was resolved never before
    have new : key ∉ life.resolved := fun before => (resolved key before).2 member
    have gone : ∀ k, k ∉ life.device.pendingResponses.keys ∨ k = key →
        k ∉ outcome.device.pendingResponses.keys := by
      rw [erased]
      intro k absent present
      obtain ⟨other, before⟩ := OrderedDict.mem_keys_erase.mp present
      rcases absent with absent | same
      · exact absent before
      · exact other same
    refine ⟨?_, ?_, ?_⟩
    · rcases fired with none | one
      · rw [none]
        exact nodup
      · rw [one]
        exact List.nodup_cons.mpr ⟨new, nodup⟩
    · rw [sameId]
      have before : ∀ k ∈ life.resolved, k.2 < life.device.correlationId ∧
          k ∉ outcome.device.pendingResponses.keys :=
        fun k old => ⟨(resolved k old).1, gone k (.inl (resolved k old).2)⟩
      rcases fired with none | one
      · rw [none]
        exact before
      · rw [one]
        intro k old
        rcases List.mem_cons.mp old with rfl | old
        · exact ⟨pending k member, gone k (.inr rfl)⟩
        · exact before k old
    · rw [sameId, erased]
      intro k present
      exact pending k (OrderedDict.mem_keys_erase.mp present).2

/-- A new request takes a correlation id that no future had before. -/
private theorem Life.Once.expectStatus {life : Life} (once : life.Once) (request : ConfigRequest) :
    Life.Once { life with device := life.device.expectStatus request } := by
  obtain ⟨nodup, resolved, pending⟩ := once
  refine ⟨nodup, ?_, ?_⟩
  · intro key old
    obtain ⟨below, absent⟩ := resolved key old
    refine ⟨Nat.lt_succ_of_lt below, fun present => ?_⟩
    rcases OrderedDict.mem_keys_set.mp present with rfl | before
    · exact absurd below (Nat.lt_irrefl _)
    · exact absent before
  · intro key present
    rcases OrderedDict.mem_keys_set.mp present with rfl | before
    · exact Nat.lt_succ_self _
    · exact Nat.lt_succ_of_lt (pending key before)

theorem Life.Once.step {life life' : Life} {event : DeviceEvent} (once : life.Once)
    (stepped : (lifeSystem suite).step life event = some life') : life'.Once := by
  cases stepped
  cases event with
  | notify answers clock data => exact once.futures (processNotify_futures life.device)
  | expectStatus request => exact once.expectStatus request
  | withdraw key =>
    obtain ⟨nodup, resolved, pending⟩ := once
    refine ⟨nodup, fun k old => ⟨(resolved k old).1, fun present => ?_⟩, fun k present => ?_⟩
    · exact (resolved k old).2 (OrderedDict.mem_keys_erase.mp present).2
    · exact pending k (OrderedDict.mem_keys_erase.mp present).2
  | register kind callback =>
    obtain ⟨nodup, resolved, pending⟩ := once
    cases kind <;> exact ⟨nodup, resolved, pending⟩
  | unregister kind callback =>
    obtain ⟨nodup, resolved, pending⟩ := once
    cases kind <;> exact ⟨nodup, resolved, pending⟩
  | loadKeys keys =>
    obtain ⟨nodup, resolved, pending⟩ := once
    exact ⟨nodup, resolved, pending⟩
  | disconnect =>
    obtain ⟨nodup, resolved, pending⟩ := once
    exact ⟨nodup, resolved, pending⟩

/-- In every run a response future is resolved at most once. -/
theorem resolved_nodup {targetAddr : Nat} {levelTargetAddr : Option Nat}
    {events : List DeviceEvent} {life : Life}
    (ran : (lifeSystem suite).exec (.start targetAddr levelTargetAddr) events = some life) :
    life.resolved.Nodup := by
  have once : life.Once := by
    apply (lifeSystem suite).exec_invariant_of_step Life.Once _ _ ran
    · intro life event life' once stepped
      exact once.step stepped
    · refine ⟨List.nodup_nil, fun key member => ?_, fun key member => ?_⟩
      · cases member
      · cases member
  exact once.nodup

end Once

/-! ### The same message again -/

/-- Both devices have the same callbacks, and no future waits for the opcode. -/
structure SameListeners (d d' : Device) (opcode : Nat) : Prop where
  unmatched : d.matchedKey opcode = none
  unmatched' : d'.matchedKey opcode = none
  onoff : d'.onoffCallbacks = d.onoffCallbacks
  level : d'.levelCallbacks = d.levelCallbacks
  vendor : d'.vendorCallbacks = d.vendorCallbacks
  composition : d'.compositionCallbacks = d.compositionCallbacks

/-- What the callbacks are called with depends on nothing else. -/
theorem dispatch_effects_eq {d d' : Device} {opcode : Nat} (same : SameListeners d d' opcode)
    (answers : Answers) (src : Nat) (params : Bytes) :
    (d'.dispatchAccessPayloadUnlocked answers src opcode params).effects =
      (d.dispatchAccessPayloadUnlocked answers src opcode params).effects := by
  obtain ⟨unmatched, unmatched', onoff, level, vendor, composition⟩ := same
  unfold Device.dispatchAccessPayloadUnlocked Device.handleCompositionData Device.callback
  simp only [unmatched, unmatched', onoff, level, vendor, composition]
  split
  · rfl
  · split
    · rfl
    · split
      · rfl
      · split
        · split <;> rfl
        · split <;> rfl

/-- There is no receive-side sequence number. After a PDU was processed in a run, any PDU,
whatever its source and sequence number, affects the device exactly when somebody listens to
the message it delivers; the same PDU calls the same callbacks again, and a segment is
collected again. But no response future is resolved twice. -/
theorem replay_dispatched_again (suite : CipherSuite) {targetAddr : Nat}
    {levelTargetAddr : Option Nat} {before between : List DeviceEvent} {earlier life : Life}
    {answers : Answers} {clock : Clock} {data : Bytes}
    (reached : (lifeSystem suite).exec (.start targetAddr levelTargetAddr) before = some earlier)
    (ran : (lifeSystem suite).exec earlier (.notify answers clock data :: between) = some life) :
    life.resolved.Nodup ∧
    (∀ answers' clock' data',
      life.device.Unaffected (life.device.processNotify suite answers' clock' data').observed ↔
        ∀ sender opcode params,
          life.device.delivers suite clock' data' = some (sender, opcode, params) →
            life.device.Inert opcode params) ∧
    ∀ keys clock', earlier.device.keys = some keys → life.device.keys = some keys →
      (∀ src opcode params, receive suite keys data = .access src opcode params →
        SameListeners earlier.device life.device opcode →
          (life.device.processNotify suite answers clock' data).effects =
            (earlier.device.processNotify suite answers clock data).effects) ∧
      ∀ src dst header, receive suite keys data = .segment src dst header →
        life.device.processNotify suite answers clock' data =
          life.device.collectSegment suite answers clock' src dst header := by
  -- the two parts of the run are one run
  have whole : (lifeSystem suite).exec (.start targetAddr levelTargetAddr)
      (before ++ .notify answers clock data :: between) = some life :=
    ((lifeSystem suite).exec_append_iff _ _ _ _).mpr ⟨earlier, reached, ran⟩
  refine ⟨resolved_nodup whole, fun _ _ _ => processNotify_unaffected_iff suite, ?_⟩
  intro keys clock' loaded loaded'
  constructor
  · intro src opcode params access same
    rw [processNotify_eq suite life.device answers clock' loaded',
      processNotify_eq suite earlier.device answers clock loaded, access]
    exact dispatch_effects_eq same answers src params
  · intro src dst header segment
    rw [processNotify_eq suite life.device answers clock' loaded', segment, Device.act]

/-- A connected device with an on/off callback. -/
def listeningRun : List DeviceEvent := [.loadKeys sampleKeys, .register .onoff 0]

theorem replayedStatus_again : ∃ earlier life,
    (lifeSystem nonceTagSuite).exec (.start 0xB0 none) listeningRun = some earlier ∧
      (lifeSystem nonceTagSuite).exec earlier
        [.notify (fun _ => none) ⟨0, 0⟩ (onoffStatusFrom 0xB0)] = some life ∧
      life.resolved.Nodup ∧
      (life.device.processNotify nonceTagSuite (fun _ => none) ⟨5, 5⟩
          (onoffStatusFrom 0xB0)).effects =
        (earlier.device.processNotify nonceTagSuite (fun _ => none) ⟨0, 0⟩
          (onoffStatusFrom 0xB0)).effects := by
  refine ⟨_, _, rfl, rfl, ?_⟩
  have replay := replay_dispatched_again nonceTagSuite
    (show (lifeSystem nonceTagSuite).exec (.start 0xB0 none) listeningRun = some _ from rfl)
    (show (lifeSystem nonceTagSuite).exec _ [.notify (fun _ => none) ⟨0, 0⟩ (onoffStatusFrom 0xB0)] =
      some _ from rfl)
  refine ⟨replay.1, (replay.2.2 sampleKeys ⟨5, 5⟩ rfl rfl).1 0xB0 0x8204 [0x01] (by decide) ?_⟩
  exact ⟨rfl, rfl, rfl, rfl, rfl, rfl⟩

/-- The status with sequence number 1, delivered twice, calls the callback twice. -/
theorem replayedStatus_fires : ∃ earlier life,
    (lifeSystem nonceTagSuite).exec (.start 0xB0 none) listeningRun = some earlier ∧
      (lifeSystem nonceTagSuite).exec earlier
        [.notify (fun _ => none) ⟨0, 0⟩ (onoffStatusFrom 0xB0)] = some life ∧
      (∃ transportPdu, decryptNetworkPdu nonceTagSuite sampleKeys.encKey sampleKeys.privKey
        sampleKeys.nid ((onoffStatusFrom 0xB0).drop 1) sampleKeys.ivIndex =
          .ok (some ⟨0, 5, 1, 0xB0, 1, transportPdu⟩)) ∧
      (earlier.device.processNotify nonceTagSuite (fun _ => none) ⟨0, 0⟩
        (onoffStatusFrom 0xB0)).effects = [.onoffCallback 0 true] ∧
      (life.device.processNotify nonceTagSuite (fun _ => none) ⟨5, 5⟩
        (onoffStatusFrom 0xB0)).effects = [.onoffCallback 0 true] :=
  ⟨_, _, rfl, rfl, ⟨_, rfl⟩, by decide, by decide⟩

end TuyaBleMesh
