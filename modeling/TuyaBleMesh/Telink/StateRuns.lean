import TuyaBleMesh.Telink.StateInvariant

/-!
# The state of the connection over whole runs

The half of the outline that connects, the calls of the device over it, and what
follows for every run in which connecting and cleaning up do not overlap.
-/

namespace TuyaBleMesh

namespace LinkOrder

variable {me task : TaskId} {s s' : MeshDevice}

/-- A task that connects has the four fields to itself. -/
structure Connecting (me : TaskId) (s : MeshDevice) : Prop where
  inv : Inv s
  mine : s.phase.opening = some me
  timer : s.keepAliveTask = none

/-- What is left of a call that raises. -/
structure Fails (me : TaskId) (s : MeshDevice) : Prop where
  inv : Inv s
  emptied : s.phase.opening = some me → s.state = .disconnected →
    s.client = none ∧ s.sessionKey = none ∧ s.keepAliveTask = none

namespace Connecting

theorem calm (connecting : Connecting me s) : s.phase.closing = [] ∧ s.state ≠ .ready :=
  connecting.inv.opening (by rw [connecting.mine]; exact Option.some_ne_none me)

/-- The others leave the fields alone. -/
theorem later (connecting : Connecting me s) (inv : Inv s') (rely : Rely me s s') :
    Connecting me s' ∧ s'.state = s.state ∧ s'.client = s.client ∧
      s'.sessionKey = s.sessionKey := by
  obtain ⟨mine, state, client, key, timer⟩ := rely.reserved connecting.mine
  exact ⟨⟨inv, mine, timer.trans connecting.timer⟩, state, client, key⟩

/-- The task may change the fields, as long as a key is one that the device gave. -/
theorem change (connecting : Connecting me s) (history : s'.history = s.history)
    (timer : s'.keepAliveTask = s.keepAliveTask) (notReady : s'.state ≠ .ready)
    (key : ∀ key, s'.sessionKey = some key → key ∈ s'.keys) :
    outline.Guarantees me s s' ∧ Connecting me s' := by
  obtain ⟨closing, before⟩ := connecting.calm
  have phase : s'.phase = s.phase := phase_of_history history
  refine ⟨guarantees_opening connecting.mine closing before history, ?_, ?_, ?_⟩
  · exact
      { ready := fun ready => absurd ready notReady
        disconnected := by
          intro _ opening
          -- a `connect` is running, which is this one
          rw [phase, connecting.mine] at opening
          cases opening
        returns := by
          rw [history]
          exact connecting.inv.returns
        key := key
        opening := by
          rw [phase]
          exact fun _ => ⟨closing, notReady⟩
        closing := fun _ => notReady }
  · rw [phase]
    exact connecting.mine
  · exact timer.trans connecting.timer

theorem fails (connecting : Connecting me s) (state : s.state ≠ .disconnected) : Fails me s :=
  ⟨connecting.inv, fun _ disconnected => absurd disconnected state⟩

/-- The client may be replaced. -/
theorem changeClient (connecting : Connecting me s) (client : Option Client) :
    outline.Guarantees me s { s with client } ∧ Connecting me { s with client } :=
  connecting.change rfl rfl connecting.calm.2 connecting.inv.key

end Connecting

/-! ### The attempts -/

/-- The attempts run before a key is agreed on. -/
structure Attempting (me : TaskId) (s : MeshDevice) : Prop extends Connecting me s where
  begun : s.state = .connecting
  keyless : s.sessionKey = none

theorem Attempting.later (attempting : Attempting me s) (inv : Inv s') (rely : Rely me s s') :
    Attempting me s' ∧ s'.client = s.client := by
  obtain ⟨connecting, state, client, key⟩ := attempting.toConnecting.later inv rely
  exact ⟨⟨connecting, state.trans attempting.begun, key.trans attempting.keyless⟩, client⟩

/-- The client may be replaced. -/
theorem Attempting.changeClient (attempting : Attempting me s) (client : Option Client) :
    outline.Guarantees me s { s with client } ∧ Attempting me { s with client } := by
  have changed : outline.Guarantees me s { s with client } ∧ Connecting me { s with client } :=
    attempting.change rfl rfl attempting.calm.2 attempting.inv.key
  exact ⟨changed.1, changed.2, attempting.begun, attempting.keyless⟩

theorem wp_connectAttempt {c : TelinkConfig} {post : Except PyError Unit → MeshDevice → Prop}
    (attempting : Attempting me s) (connects : ∀ s', Attempting me s' → post (.ok ()) s')
    (fails : ∀ error s', Attempting me s' → post (.error error) s') :
    (Telink.connectAttempt c).wp outline me post s := by
  unfold Telink.connectAttempt
  apply Coroutine.wp_bind
  refine Coroutine.wp_call.mpr ⟨attempting.inv, fun found s₁ inv₁ rely₁ _ => ?_⟩
  have attempting₁ := (attempting.later inv₁ rely₁).1
  cases found with
  | error error => exact fails error s₁ attempting₁
  | ok found =>
    rw [Coroutine.wpRest_ok]
    split
    · exact fails _ s₁ attempting₁
    · apply Coroutine.wp_bind
      refine Coroutine.wp_call.mpr ⟨inv₁, fun client s₂ inv₂ rely₂ _ => ?_⟩
      have attempting₂ := (attempting₁.later inv₂ rely₂).1
      cases client with
      | error error => exact fails error s₂ attempting₂
      | ok client =>
        -- the client is set once it is connected
        obtain ⟨guarantees, attempting₃⟩ := attempting₂.changeClient (some client)
        exact ⟨guarantees, connects _ attempting₃⟩

/-- The attempts end with a client, or with an error that leaves none where `connect` takes the
state back. -/
theorem wp_connectWithRetry {c : TelinkConfig} {maxRetries left : Nat}
    {post : Except PyError Unit → MeshDevice → Prop} (attempting : Attempting me s)
    (clear : left = 0 → s.client = none) (connects : ∀ s', Attempting me s' → post (.ok ()) s')
    (fails : ∀ error s', Attempting me s' →
      ((error.isOsError || error.isMeshConnectionError) = true → s'.client = none) →
        post (.error error) s') :
    (Telink.connectWithRetry c maxRetries left).wp outline me post s := by
  induction left generalizing s with
  -- by induction on the attempts that are left
  | zero => exact fails _ s attempting fun _ => clear rfl
  | succ left ih =>
    unfold Telink.connectWithRetry
    apply Coroutine.wp_bind
    apply Coroutine.wp_onError
    apply Coroutine.wp_bind
    refine wp_connectAttempt attempting (fun s' attempting' => connects s' attempting') ?_
    intro error s₁ attempting₁
    obtain ⟨guarantees, attempting₂⟩ := attempting₁.changeClient none
    rw [Coroutine.wpRest_error, Coroutine.wpHandler_error]
    split
    · exact ⟨guarantees, fails error _ attempting₂ fun _ => rfl⟩
    · split
      · refine ⟨guarantees, attempting₂.inv, fun paused s₃ inv₃ rely₃ _ => ?_⟩
        obtain ⟨attempting₃, client₃⟩ := attempting₂.later inv₃ rely₃
        cases paused with
        | error error => exact fails error s₃ attempting₃ fun _ => client₃
        | ok _ => exact ih attempting₃ fun _ => client₃
      · next notMesh notRetried =>
        refine fails error s₁ attempting₁ fun kind => ?_
        simp_all [Telink.isRetried]

/-! ### Pairing -/

/-- Cleaning up after a failed pairing: there is no keep-alive task to wait for. -/
theorem wp_cleanup_provisioning {post : Except PyError Unit → MeshDevice → Prop}
    (connecting : Connecting me s) (state : s.state = .pairing)
    (ends : ∀ result s', Fails me s' → post result s') :
    (Telink.cleanup .provisioning).wp outline me post s := by
  -- the last step, when nothing is left
  have finishes : ∀ s' : MeshDevice, Connecting me s' → s'.client = none → s'.sessionKey = none →
      (Telink.update fun s => { s with state := .disconnected }).wp outline me post s' := by
    intro s' connecting' client key
    have changed : outline.Guarantees me s' { s' with state := .disconnected } ∧
        Connecting me { s' with state := .disconnected } :=
      connecting'.change rfl rfl (by rintro ⟨⟩) connecting'.inv.key
    exact ⟨changed.1, ends _ _ ⟨changed.2.inv, fun _ _ => ⟨client, key, connecting'.timer⟩⟩⟩
  unfold Telink.cleanup
  apply Coroutine.wp_bind
  refine Telink.wp_stopKeepAlive (fun _ => ?_) (fun present => absurd connecting.timer present)
    (fun present => absurd connecting.timer present)
    (fun present => absurd connecting.timer present)
  have quiet : outline.Guarantees me s { s with notifyActive := false } ∧
      Connecting me { s with notifyActive := false } :=
    connecting.change rfl rfl connecting.calm.2 connecting.inv.key
  have cleared : outline.Guarantees me s { s with notifyActive := false, sessionKey := none } ∧
      Connecting me { s with notifyActive := false, sessionKey := none } :=
    connecting.change rfl rfl connecting.calm.2 (by rintro _ ⟨⟩)
  obtain ⟨closing, notReady⟩ := connecting.calm
  unfold Telink.clearSessionKey
  rw [Coroutine.wpRest_ok, Coroutine.wp_modify_bind]
  refine ⟨quiet.1, Coroutine.wp_bind ?_⟩
  rw [Coroutine.wp_modify_bind, Coroutine.wp_modify]
  refine ⟨guarantees_opening connecting.mine closing notReady rfl,
    guarantees_opening connecting.mine closing notReady rfl, ?_⟩
  rw [Coroutine.wpRest_ok]
  apply Coroutine.wp_bind
  refine Telink.wp_dropClient (fun absent => finishes _ cleared.2 absent rfl)
    (fun _ => cleared.2.inv) ?_ ?_
  · intro _ _ s₁ inv₁ rely₁ _ _
    obtain ⟨connecting₁, _, _, key₁⟩ := cleared.2.later inv₁ rely₁
    obtain ⟨guarantees, connecting₂⟩ := connecting₁.changeClient none
    exact ⟨guarantees, finishes _ connecting₂ rfl key₁⟩
  · intro error s₁ inv₁ rely₁
    obtain ⟨connecting₁, state₁, _, _⟩ := cleared.2.later inv₁ rely₁
    refine ends _ s₁ (connecting₁.fails ?_)
    rw [state₁]
    exact state ▸ by rintro ⟨⟩

/-- Pairing sets the key. -/
theorem wp_pair {c : TelinkConfig} {client : Client}
    {post : Except PyError Unit → MeshDevice → Prop} (connecting : Connecting me s)
    (state : s.state = .pairing) (present : s.client.isSome = true)
    (pairs : ∀ s', Connecting me s' → s'.state = .pairing → s'.client.isSome = true →
      s'.sessionKey.isSome = true → post (.ok ()) s')
    (fails : ∀ error s', Fails me s' → post (.error error) s') :
    (Telink.pair c client).wp outline me post s := by
  unfold Telink.pair
  apply Coroutine.wp_onError
  apply Coroutine.wp_bind
  refine Coroutine.wp_call.mpr ⟨connecting.inv, fun key s₁ inv₁ rely₁ _ => ?_⟩
  obtain ⟨connecting₁, state₁, client₁, _⟩ := connecting.later inv₁ rely₁
  have pairing₁ := state₁.trans state
  cases key with
  | ok key =>
    -- the key is noted as one that the device gave
    have changed : outline.Guarantees me s₁
          { s₁ with sessionKey := some key, keys := s₁.keys ++ [key] } ∧
        Connecting me { s₁ with sessionKey := some key, keys := s₁.keys ++ [key] } := by
      refine connecting₁.change rfl rfl connecting₁.calm.2 ?_
      rintro _ ⟨⟩
      exact List.mem_append_right _ (List.mem_singleton_self key)
    refine ⟨changed.1, pairs _ changed.2 pairing₁ ?_ rfl⟩
    show s₁.client.isSome = true
    rw [client₁]
    exact present
  | error error =>
    rw [Coroutine.wpRest_error, Coroutine.wpHandler_error]
    split
    · apply Coroutine.wp_bind
      refine wp_cleanup_provisioning connecting₁ pairing₁ fun result s₂ failed => ?_
      cases result with
      | ok _ => exact fails _ s₂ failed
      | error error => exact fails _ s₂ failed
    · exact fails _ s₁ (connecting₁.fails (by rw [pairing₁]; rintro ⟨⟩))

theorem wp_readFirmwareVersion {post : Except PyError Unit → MeshDevice → Prop}
    (connecting : Connecting me s)
    (ends : ∀ result s', Connecting me s' → s'.state = s.state → s'.client = s.client →
      s'.sessionKey = s.sessionKey → post result s') :
    Telink.readFirmwareVersion.wp outline me post s := by
  unfold Telink.readFirmwareVersion
  rw [Coroutine.wp_read_bind]
  split
  · exact ends _ s connecting rfl rfl rfl
  · apply Coroutine.wp_onError
    refine Coroutine.wp_call.mpr ⟨connecting.inv, fun result s₁ inv₁ rely₁ _ => ?_⟩
    obtain ⟨connecting₁, state₁, client₁, key₁⟩ := connecting.later inv₁ rely₁
    have left : ∀ result, post result s₁ := fun result =>
      ends result s₁ connecting₁ state₁ client₁ key₁
    cases result with
    | ok _ => exact left _
    | error error =>
      rw [Coroutine.wpHandler_error]
      split
      · exact left _
      · exact left _

/-! ### READY -/

/-- A task that has connected becomes READY. -/
theorem becomes_ready (connecting : Connecting me s) (client : s.client.isSome = true)
    (key : s.sessionKey.isSome = true) :
    outline.Guarantees me s
        { s with state := .ready, history := s.history ++ [.becomesReady me s.state] } ∧
      Inv { s with state := .ready, history := s.history ++ [.becomesReady me s.state] } := by
  obtain ⟨closing, notReady⟩ := connecting.calm
  obtain ⟨key, known⟩ := Option.isSome_iff_exists.mp key
  have phase : ({ s with state := .ready, history := s.history ++ [.becomesReady me s.state] } :
      MeshDevice).phase = { s.phase with opening := none } := by
    rw [phase_append _ rfl]
    rfl
  refine ⟨fun task other => ⟨⟨[_], rfl, fun _ => .inl rfl⟩, ?_, ?_, ?_⟩, ?_⟩
  · -- no other task has opened the link, and no disconnect is under way
    intro reserved
    rw [connecting.mine] at reserved
    exact absurd (Option.some.inj reserved).symm other
  · intro _
    rw [phase]
    rintro ⟨⟩
  · intro member
    rw [closing] at member
    cases member
  · exact
      { ready := fun _ => ⟨client, key, connecting.inv.key key known, known⟩
        disconnected := by rintro ⟨⟩
        returns := returnsReady_append connecting.inv.returns (by rintro _ _ ⟨⟩)
        key := connecting.inv.key
        opening := by
          rw [phase]
          exact fun taken => absurd rfl taken
        closing := by
          rw [phase]
          exact fun taken => absurd closing taken }

/-- What has been READY, as far as the call of `connect` goes. -/
structure Connected (me : TaskId) (s : MeshDevice) : Prop where
  inv : Inv s
  apart : s.phase.opening ≠ some me
  since : ∃ past earlier since, s.history = past ++ .becomesReady me earlier :: since ∧
    (s.state = .ready ∨ ∃ moment ∈ since, moment.isDrop = true)

theorem Connected.later (connected : Connected me s) (inv : Inv s') (stays : Stays s s')
    (apart : Apart me s s') : Connected me s' := by
  obtain ⟨past, earlier, since, history, ready⟩ := connected.since
  obtain ⟨more, history', kept⟩ := stays
  refine ⟨inv, apart connected.apart, past, earlier, since ++ more, ?_, ?_⟩
  · rw [history', history, List.append_assoc, List.cons_append]
  · rcases ready with ready | ⟨moment, member, drop⟩
    · rcases kept ready with still | ⟨moment, member, drop⟩
      · exact .inl still
      · exact .inr ⟨moment, List.mem_append_right _ member, drop⟩
    · exact .inr ⟨moment, List.mem_append_left _ member, drop⟩

theorem Connected.fails (connected : Connected me s) : Fails me s :=
  ⟨connected.inv, fun opening => absurd opening connected.apart⟩

theorem wp_startNotifySafe {post : Except PyError Unit → MeshDevice → Prop}
    (connected : Connected me s) (ends : ∀ result s', Connected me s' → post result s') :
    Telink.startNotifySafe.wp outline me post s := by
  have noted : ∀ (s' : MeshDevice) (active : Bool), Connected me s' →
      outline.Guarantees me s' { s' with notifyActive := active } ∧
        Connected me { s' with notifyActive := active } := by
    intro s' active connected'
    -- whether notifications are on matters to no other task
    have alike : Alike s' { s' with notifyActive := active } :=
      ⟨rfl, rfl, rfl, rfl, rfl, .inl rfl⟩
    have own : Rely me s' { s' with notifyActive := active } := alike.rely
    exact ⟨fun _ _ => alike.rely, connected'.later (alike.inv connected'.inv) own.stays own.apart⟩
  unfold Telink.startNotifySafe
  rw [Coroutine.wp_read_bind]
  split
  · exact ends _ s connected
  · apply Coroutine.wp_onError
    apply Coroutine.wp_bind
    refine Coroutine.wp_call.mpr ⟨connected.inv, fun result s₁ inv₁ rely₁ _ => ?_⟩
    have connected₁ := connected.later inv₁ rely₁.stays rely₁.apart
    cases result with
    | ok _ =>
      obtain ⟨guarantees, connected₂⟩ := noted s₁ true connected₁
      exact ⟨guarantees, ends _ _ connected₂⟩
    | error error =>
      rw [Coroutine.wpRest_error, Coroutine.wpHandler_error]
      split
      · obtain ⟨guarantees, connected₂⟩ := noted s₁ false connected₁
        exact ⟨guarantees, ends _ _ connected₂⟩
      · exact ends _ s₁ connected₁

/-! ### `connect` -/

theorem wp_establish {c : TelinkConfig} {maxRetries : Nat}
    {post : Except PyError Unit → MeshDevice → Prop} (attempting : Attempting me s)
    (clear : maxRetries = 0 → s.client = none)
    (connects : ∀ s', Connected me s' → post (.ok ()) s')
    (fails : ∀ error s', Fails me s' → post (.error error) s') :
    (Telink.establish c me maxRetries).wp outline me post s := by
  -- the state goes back with nothing left
  have withdraws : ∀ s' : MeshDevice, Attempting me s' → s'.client = none →
      outline.Guarantees me s' { s' with state := .disconnected } ∧
        Fails me { s' with state := .disconnected } := by
    intro s' attempting' client
    have changed : outline.Guarantees me s' { s' with state := .disconnected } ∧
        Connecting me { s' with state := .disconnected } :=
      attempting'.change rfl rfl (by rintro ⟨⟩) attempting'.inv.key
    exact ⟨changed.1, changed.2.inv, fun _ _ => ⟨client, attempting'.keyless, attempting'.timer⟩⟩
  unfold Telink.establish
  apply Coroutine.wp_bind
  apply Coroutine.wp_onError
  refine wp_connectWithRetry attempting clear (fun s₁ attempting₁ => ?_) ?_
  · rw [Coroutine.wpHandler_ok, Coroutine.wpRest_ok, Coroutine.wp_read_bind]
    split
    · next absent =>
      obtain ⟨guarantees, failed⟩ := withdraws s₁ attempting₁ absent
      exact ⟨guarantees, fails _ _ failed⟩
    · next client present =>
      have changed : outline.Guarantees me s₁ { s₁ with state := .pairing } ∧
          Connecting me { s₁ with state := .pairing } :=
        attempting₁.change rfl rfl (by rintro ⟨⟩) attempting₁.inv.key
      have present' : s₁.client.isSome = true := by
        rw [present]
        rfl
      rw [Coroutine.wp_modify_bind]
      refine ⟨changed.1, Coroutine.wp_bind (wp_pair changed.2 rfl present' ?_ fails)⟩
      intro s₂ connecting₂ pairing₂ client₂ key₂
      rw [Coroutine.wpRest_ok]
      apply Coroutine.wp_bind
      refine wp_readFirmwareVersion connecting₂ fun result s₃ connecting₃ state₃ client₃ key₃ => ?_
      cases result with
      | error error =>
        refine fails error s₃ (connecting₃.fails ?_)
        rw [state₃, pairing₂]
        rintro ⟨⟩
      | ok _ =>
        obtain ⟨guarantees, inv₄⟩ := becomes_ready connecting₃ (client₃ ▸ client₂) (key₃ ▸ key₂)
        have connected : Connected me
            { s₃ with state := .ready, history := s₃.history ++ [.becomesReady me s₃.state] } := by
          refine ⟨inv₄, ?_, s₃.history, s₃.state, [], rfl, .inl rfl⟩
          rw [phase_append _ rfl]
          rintro ⟨⟩
        rw [Coroutine.wpRest_ok, Coroutine.wp_modify_bind]
        refine ⟨guarantees, Coroutine.wp_bind ?_⟩
        refine wp_startKeepAlive inv₄ rfl (.inl connecting₃.timer) ?_
        intro started s₅ inv₅ stays₅ apart₅
        have connected₅ := connected.later inv₅ stays₅ apart₅
        cases started with
        | error error => exact fails error s₅ connected₅.fails
        | ok _ =>
          refine wp_startNotifySafe connected₅ fun notified s₆ connected₆ => ?_
          cases notified with
          | ok _ => exact connects s₆ connected₆
          | error error => exact fails error s₆ connected₆.fails
  · intro error s₁ attempting₁ clear₁
    rw [Coroutine.wpHandler_error]
    split
    · next kind =>
      obtain ⟨guarantees, failed⟩ := withdraws s₁ attempting₁ (clear₁ kind)
      exact ⟨guarantees, fails _ _ failed⟩
    · refine fails _ s₁ (attempting₁.fails ?_)
      rw [attempting₁.begun]
      rintro ⟨⟩

/-- `connect` begins. -/
theorem begins_connect (inv : Inv s) (notReady : s.state ≠ .ready)
    (opening : s.phase.opening = none) (closing : s.phase.closing = [])
    (key : s.sessionKey = none) (timer : s.keepAliveTask = none) :
    outline.Guarantees me s
        { s with state := .connecting, history := s.history ++ [.connectBegins me] } ∧
      Attempting me { s with state := .connecting, history := s.history ++ [.connectBegins me] } := by
  have phase : ({ s with state := .connecting, history := s.history ++ [.connectBegins me] } :
      MeshDevice).phase = { s.phase with opening := some me } := by
    rw [phase_append _ rfl]
    rfl
  refine ⟨fun task other => ⟨⟨[_], rfl, fun ready => ?_⟩, ?_, ?_, ?_⟩, ⟨⟨?_, ?_, timer⟩, rfl, key⟩⟩
  · -- the moment may not come while the state is READY
    exact absurd ready notReady
  · intro reserved
    rw [opening] at reserved
    cases reserved
  · intro _
    rw [phase]
    exact fun taken => other (Option.some.inj taken).symm
  · intro member
    rw [closing] at member
    cases member
  · exact
      { ready := by rintro ⟨⟩
        disconnected := by rintro ⟨⟩
        returns := returnsReady_append inv.returns (by rintro _ _ ⟨⟩)
        key := inv.key
        opening := fun _ => ⟨by rw [phase]; exact closing, by rintro ⟨⟩⟩
        closing := fun _ => by rintro ⟨⟩ }
  · rw [phase]

/-- `connect` returns: the state is READY, or a disconnect has come after it was. -/
theorem returns_connect {state : ConnectionState} (inv : Inv s)
    (last : state = .ready ∨ ∃ past earlier since,
      s.history = past ++ .becomesReady me earlier :: since ∧
      ∃ moment ∈ since, moment.isDrop = true) :
    outline.Guarantees me s { s with history := s.history ++ [.connectReturns me state] } ∧
      Inv { s with history := s.history ++ [.connectReturns me state] } := by
  have phase : ({ s with history := s.history ++ [.connectReturns me state] } :
      MeshDevice).phase = s.phase := by
    rw [phase_append _ rfl]
    rfl
  refine ⟨fun task other => ⟨⟨[_], rfl, .inl⟩, ?_, ?_, ?_⟩, ?_⟩
  · -- nothing of the phase changes when the call returns
    intro reserved
    rw [phase]
    exact ⟨reserved, rfl, rfl, rfl, rfl⟩
  · unfold Apart
    rw [phase]
    exact id
  · intro member
    rw [phase]
    exact ⟨member, id, id⟩
  · exact
      { ready := inv.ready
        disconnected := by
          unfold MeshDevice.DisconnectedHolds
          rw [phase]
          exact inv.disconnected
        returns := by
          refine returnsReady_append inv.returns ?_
          rintro _ _ ⟨⟩
          exact last
        key := inv.key
        opening := by
          rw [phase]
          exact inv.opening
        closing := by
          rw [phase]
          exact inv.closing }

/-- `connect` raises. -/
theorem raises_connect (failed : Fails me s) :
    outline.Guarantees me s { s with history := s.history ++ [.connectRaises me] } ∧
      Inv { s with history := s.history ++ [.connectRaises me] } := by
  obtain ⟨inv, emptied⟩ := failed
  by_cases mine : s.phase.opening = some me
  · have phase : ({ s with history := s.history ++ [.connectRaises me] } : MeshDevice).phase =
        { s.phase with opening := none } := by
      rw [phase_append _ rfl, LinkPhase.after, if_pos mine]
    have ⟨closing, notReady⟩ := inv.opening (by rw [mine]; exact Option.some_ne_none me)
    refine ⟨fun task other => ⟨⟨[_], rfl, .inl⟩, ?_, ?_, ?_⟩, ?_⟩
    · intro reserved
      rw [mine] at reserved
      exact absurd (Option.some.inj reserved).symm other
    · intro _
      rw [phase]
      rintro ⟨⟩
    · intro member
      rw [closing] at member
      cases member
    · exact
        { ready := inv.ready
          disconnected := fun disconnected _ => emptied mine disconnected
          returns := returnsReady_append inv.returns (by rintro _ _ ⟨⟩)
          key := inv.key
          opening := fun _ => ⟨by rw [phase]; exact closing, notReady⟩
          closing := fun _ => notReady }
  · -- the state has been READY, so the end of the call opens nothing
    have alike : Alike s { s with history := s.history ++ [.connectRaises me] } := by
      refine ⟨rfl, rfl, rfl, rfl, rfl, .inr ⟨_, rfl, ?_, by rintro _ _ ⟨⟩⟩⟩
      rw [LinkPhase.after, if_neg mine]
    exact ⟨fun _ _ => alike.rely, alike.inv inv⟩

/-- `connect`, when no other call is connecting or cleaning up. -/
theorem wp_linkConnect {c : TelinkConfig} {maxRetries : Nat} (inv : Inv s)
    (free : s.state = .ready ∨ s.Vacant maxRetries) :
    (Telink.linkConnect c maxRetries).wp outline me (fun _ s => Inv s) s := by
  unfold Telink.linkConnect
  rw [Coroutine.wp_read_bind, Coroutine.wp_currentTask_bind]
  split
  · next ready => exact returns_connect inv (.inl ready)
  · next notReady =>
    obtain ⟨opening, closing, key, timer, client⟩ := free.resolve_left notReady
    obtain ⟨guarantees, attempting⟩ := begins_connect inv notReady opening closing key timer
    rw [Coroutine.wp_modify_bind]
    refine ⟨guarantees, Coroutine.wp_bind (Coroutine.wp_onError ?_)⟩
    refine wp_establish attempting client (fun s₁ connected => ?_) fun error s₁ failed => ?_
    · obtain ⟨past, earlier, since, history, ready⟩ := connected.since
      refine returns_connect connected.inv (ready.imp_right fun dropped => ?_)
      exact ⟨past, earlier, since, history, dropped⟩
    · exact raises_connect failed

/-! ### The calls of the device -/

theorem wp_connect {c : TelinkConfig} {maxRetries : Nat} (inv : Inv s)
    (free : s.state = .ready ∨ s.Vacant maxRetries) :
    (Telink.connect c maxRetries).wp outline me (fun _ s => Inv s) s := by
  unfold Telink.connect
  apply Coroutine.wp_bind
  refine Coroutine.wp_mono ?_ (wp_linkConnect inv free)
  intro result s₁ inv₁
  cases result with
  | error error => exact inv₁
  | ok _ =>
    have sets : (Telink.update fun s => { s with connectedEvent := true }).Keeps outline me Inv :=
      keeps_update fun _ => ⟨rfl, rfl, rfl, rfl, rfl, .inl rfl⟩
    refine sets.bind (fun _ s₂ inv₂ => linkOutline.wp_start inv₂ fun _ => ?_) s₁ inv₁
    have alike : Alike s₂ { s₂ with running := true } := ⟨rfl, rfl, rfl, rfl, rfl, .inl rfl⟩
    exact ⟨fun _ _ => alike.rely, alike.inv inv₂⟩

theorem wp_disconnect (inv : Inv s) (free : s.state = .disconnected ∨ s.phase.opening = none) :
    Telink.disconnect.wp outline me (fun _ s => Inv s) s := by
  unfold Telink.disconnect
  apply Coroutine.wp_bind
  refine linkOutline.wp_stop inv (fun _ => ?_) (fun _ => ?_) ?_ fun error s' inv' => inv'
  · exact wp_linkDisconnect inv free
  · have alike : Alike s { s with running := false, queue := [] } :=
      ⟨rfl, rfl, rfl, rfl, rfl, .inl rfl⟩
    exact wp_linkDisconnect (alike.inv inv) free
  · intro _ s' inv' free'
    have alike : Alike s' { s' with queue := [] } := ⟨rfl, rfl, rfl, rfl, rfl, .inl rfl⟩
    exact wp_linkDisconnect (alike.inv inv') free'

theorem verifies (c : TelinkConfig) (entries : TelinkCode → Bool) :
    outline.Verifies (telinkProgram c entries) where
  body code me s inv pre := by
    cases code with
    | linkConnect maxRetries => exact wp_linkConnect inv pre
    | linkDisconnect => exact wp_linkDisconnect inv pre
    | linkWrite packet => exact keeps_writeCommand s inv
    | connect maxRetries => exact wp_connect inv pre
    | disconnect => exact wp_disconnect inv pre
    | sendCommand opcode params destId => exact linkOutline.enqueue c opcode params destId s inv
    | keepAliveLoop => exact linkOutline.keepAlive.keepAliveLoop s inv
    | keepAliveAwake answer => exact linkOutline.keepAlive.keepAliveAwake c answer s inv
    | worker => exact linkOutline.workerHead s inv
    | workerGot answer => exact linkOutline.workerGot c answer s inv
    | workerWaited command answer => exact linkOutline.workerWaited c command answer s inv
    | workerRested answer => exact linkOutline.workerRested answer s inv
  entry _ _ _ _ _ starts := starts
  environment duration s s' inv happens := by
    obtain ⟨_, rfl⟩ : 0 ≤ duration ∧ { s with now := s.now + duration } = s' := by
      simpa [telinkProgram, Telink.elapse] using happens
    have alike : Alike s { s with now := s.now + duration } :=
      ⟨rfl, rfl, rfl, rfl, rfl, .inl rfl⟩
    exact ⟨alike.inv inv, fun _ => alike.rely⟩

theorem inv_idle : Inv {} where
  ready := by rintro ⟨⟩
  disconnected := fun _ _ => ⟨rfl, rfl, rfl⟩
  returns := by
    intro before task state after split
    cases before <;> cases split
  key := by rintro _ ⟨⟩
  opening := fun opening => absurd rfl opening
  closing := fun closing => absurd rfl closing

end LinkOrder

/-! ### Runs -/

instance (code : TelinkCode) (s : MeshDevice) : Decidable (separateCalls.starts code s) :=
  match code with
  | .linkConnect _ => inferInstanceAs (Decidable (_ ∨ _))
  | .linkDisconnect => inferInstanceAs (Decidable (_ ∨ _))
  | .linkWrite _ => isTrue trivial
  | .connect _ => inferInstanceAs (Decidable (_ ∨ _))
  | .disconnect => inferInstanceAs (Decidable (_ ∨ _))
  | .sendCommand _ _ _ => isTrue trivial
  | .keepAliveLoop => isTrue trivial
  | .keepAliveAwake _ => isTrue trivial
  | .worker => isTrue trivial
  | .workerGot _ => isTrue trivial
  | .workerWaited _ _ => isTrue trivial
  | .workerRested _ => isTrue trivial

instance (op : TelinkOp) (answer : Except PyError op.Answer) (s : MeshDevice) :
    Decidable (separateCalls.answers op answer s) :=
  match op, answer with
  | .writeCommand _ _, .error _ => inferInstanceAs (Decidable (_ = true → _))
  | .writeKeepAlive _ _, .error _ => inferInstanceAs (Decidable (_ = true → _))
  | .writeCommand _ _, .ok _ => isTrue trivial
  | .writeKeepAlive _ _, .ok _ => isTrue trivial
  | .findDevice, _ => isTrue trivial
  | .establishConnection, _ => isTrue trivial
  | .connectPause _ _, _ => isTrue trivial
  | .provision _, _ => isTrue trivial
  | .readFirmware _, _ => isTrue trivial
  | .startNotify _, _ => isTrue trivial
  | .disconnectClient _ _, _ => isTrue trivial
  | .keepAliveSleep, _ => isTrue trivial
  | .queueGet, _ => isTrue trivial
  | .connectedWait _, _ => isTrue trivial
  | .retrySleep _ _, _ => isTrue trivial
  | .errorSleep, _ => isTrue trivial

instance (site : CallSite) (result : Except PyError Unit) (s : MeshDevice) :
    Decidable (separateCalls.joins site result s) :=
  match site with
  | .disconnect => isTrue trivial
  | .loss => isTrue trivial
  | .provisioning => isTrue trivial
  | .connect => isTrue trivial
  | .restart => inferInstanceAs (Decidable (_ = _))
  | .stop => inferInstanceAs (Decidable (_ ∨ _))

namespace MeshDevice

/-- In every run in which connecting and cleaning up do not overlap, the fields of the connection
are in order in each state that is reached. -/
theorem inOrder {c : TelinkConfig} {events : List (LoopEvent telinkSignature Rat)}
    {w : EventLoop telinkSignature}
    (guarded : (telinkLinkSystem c).Guarded separateCalls.Permits idle events)
    (ran : (telinkLinkSystem c).exec idle events = some w) : w.shared.InOrder :=
  ((LinkOrder.verifies c _).exec LinkOrder.inv_idle guarded ran).toInOrder

/-- Connect, send a command, and disconnect. -/
def commandRun : List (LoopEvent telinkSignature Rat) :=
  [.enter (.connect 5), .start 0] ++ connectAnswers 0 7 ++
    [.answer 0 (.startNotify 7) (.ok ()), .start 1, .start 2,
      .enter (.sendCommand 0xD0 [0x01] 5), .start 3, .answer 2 .queueGet (.ok ()),
      .answer 2 (.writeCommand 7 (samplePacket 0 0xD0 [0x01] 5)) (.ok ()),
      .answer 1 .keepAliveSleep (.error .cancelledError), .joined 2, .enter .disconnect, .start 5,
      .answer 2 .queueGet (.error .cancelledError), .joined 5, .start 4, .joined 5,
      .answer 5 (.disconnectClient 7 .disconnect) (.ok ())]

theorem commandRun_inOrder :
    ∃ w ∈ (telinkLinkSystem sampleTelink).exec idle commandRun, w.shared.InOrder := by
  have runs : ((telinkLinkSystem sampleTelink).exec idle commandRun).isSome = true := by
    decide +kernel
  obtain ⟨w, ran⟩ := Option.isSome_iff_exists.mp runs
  exact ⟨w, ran, inOrder (by decide +kernel) ran⟩

/-- A write fails while the state is READY. -/
def lostWriteRun : List (LoopEvent telinkSignature Rat) :=
  [.enter (.connect 5), .start 0] ++ connectAnswers 0 7 ++
    [.answer 0 (.startNotify 7) (.ok ()), .start 1, .start 2,
      .enter (.sendCommand 0xD0 [0x01] 5), .start 3, .answer 2 .queueGet (.ok ()),
      .answer 2 (.writeCommand 7 (samplePacket 0 0xD0 [0x01] 5)) (.error .osError),
      .answer 1 .keepAliveSleep (.error .cancelledError), .joined 2]

/-- `disconnect` overlaps `connect`. -/
def overlappingRun : List (LoopEvent telinkSignature Rat) :=
  [.enter (.linkConnect 5), .start 0, .answer 0 .findDevice (.ok true),
    .answer 0 .establishConnection (.ok (7 : Nat)), .enter .linkDisconnect, .start 1,
    .answer 0 (.provision 7) (.ok sampleSessionKey), .answer 0 (.readFirmware 7) (.ok ()),
    .answer 1 (.disconnectClient 7 .disconnect) (.ok ()), .answer 0 (.startNotify 7) (.ok ())]

/-- The key is gone before the client is disconnected, and the state says READY all the time. And
where `disconnect` overlaps `connect`, the state is DISCONNECTED in the end with a key, and
`connect` returns in it. -/
theorem lostWrite_notInOrder :
    (∃ w ∈ (telinkLinkSystem sampleTelink).exec idle lostWriteRun,
      w.shared.state = .ready ∧ w.shared.sessionKey = none ∧ ¬w.shared.ReadyHolds) ∧
    ∃ w ∈ (telinkLinkSystem sampleTelink).exec idle overlappingRun,
      w.shared.history = [.connectBegins 0, .disconnectBegins 1 .pairing,
          .becomesReady 0 .disconnecting, .disconnectEnds 1, .connectReturns 0 .disconnected] ∧
        ¬w.shared.DisconnectedHolds ∧ ¬ReturnsReady w.shared.history := by
  constructor
  · have lost : ∃ w ∈ (telinkLinkSystem sampleTelink).exec idle lostWriteRun,
        w.shared.state = .ready ∧ w.shared.sessionKey = none := by
      decide +kernel
    obtain ⟨w, ran, ready, keyless⟩ := lost
    refine ⟨w, ran, ready, keyless, fun holds => ?_⟩
    obtain ⟨_, key, _, present⟩ := holds ready
    rw [keyless] at present
    cases present
  · have left : ∃ w ∈ (telinkLinkSystem sampleTelink).exec idle overlappingRun,
        w.shared.history = [.connectBegins 0, .disconnectBegins 1 .pairing,
            .becomesReady 0 .disconnecting, .disconnectEnds 1,
            .connectReturns 0 .disconnected] ∧
          w.shared.state = .disconnected ∧ w.shared.phase.opening = none ∧
            w.shared.sessionKey.isSome = true := by
      decide +kernel
    obtain ⟨w, ran, history, state, opening, key⟩ := left
    refine ⟨w, ran, history, fun holds => ?_, fun returns => ?_⟩
    · rw [(holds state opening).2.1] at key
      cases key
    · rcases returns [_, _, _, _] 0 .disconnected [] history with
        ready | ⟨past, _, since, split, dropped⟩
      · cases ready
      · -- the only moment after READY is the end of a disconnect
        obtain ⟨moment, member, drop⟩ := dropped
        rcases past with _ | ⟨_, _ | ⟨_, _ | ⟨_, _ | ⟨_, past⟩⟩⟩⟩ <;> simp at split
        rw [← split.2.2.2] at member
        rw [List.mem_singleton.mp member] at drop
        cases drop

end MeshDevice

end TuyaBleMesh
