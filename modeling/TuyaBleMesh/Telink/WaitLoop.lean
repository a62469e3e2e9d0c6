import TuyaBleMesh.Telink.Rules

/-!
# The wait loop of the worker

The worker waits for the connection on an event, which is set when `connect` returns and
cleared when the loss of the connection is reported. A wait on an event that is set does
not suspend, so the event must not be set while the worker waits.
-/

namespace TuyaBleMesh

namespace MeshDevice

/-- The dispatcher runs, and takes the device for connected. -/
def Signalled (s : MeshDevice) : Prop := s.connectedEvent = true ∧ s.running = true

instance (s : MeshDevice) : Decidable s.Signalled := inferInstanceAs (Decidable (_ ∧ _))

/-- Whenever the worker has gone to wait for the connection, the event was cleared. -/
def WaitsSuspend (history : List Moment) : Prop :=
  ∀ event, .waits event ∈ history → event = false

end MeshDevice

/-! ### The condition -/

/-- A call of `connect` or `disconnect` takes the state away from READY only while the dispatcher
does not take the device for connected; and the last wait of `connect` ends in READY. -/
def steadyEvent : LoopGuard telinkSignature where
  answers
    -- the attempts fail, or go on to PAIRING
    | .findDevice, .ok found, s => found = false → ¬s.Signalled
    | .findDevice, .error error, s => error.isMeshConnectionError = true → ¬s.Signalled
    | .establishConnection, .ok _, s => ¬s.Signalled
    | .establishConnection, .error error, s => error.isMeshConnectionError = true → ¬s.Signalled
    | .connectPause _ left, .ok _, s => left = 0 → ¬s.Signalled
    | .connectPause _ _, .error error, s =>
      (error.isOsError || error.isMeshConnectionError) = true → ¬s.Signalled
    -- `_cleanup` goes through without another await
    | .provision _, .error error, s =>
      error.isException = true → s.keepAliveTask = none → s.client = none → ¬s.Signalled
    | .disconnectClient _ .disconnect, result, s =>
      Telink.dropsClient result = true → ¬s.Signalled
    | .disconnectClient _ .provisioning, result, s =>
      Telink.dropsClient result = true → ¬s.Signalled
    -- `connect` returns
    | .startNotify _, .ok _, s => s.state = .ready
    | .startNotify _, .error error, s =>
      (error.isOsError || error = .bleakError || error = .eofError) = true → s.state = .ready
    | _, _, _ => True
  joins
    | .disconnect, _, s => s.client = none → ¬s.Signalled
    | .provisioning, _, s => s.client = none → ¬s.Signalled
    | .connect, _, s => s.client = none → s.state = .ready
    | .stop, _, s => ¬s.Signalled
    | _, _, _ => True

namespace SteadyEvent

structure Inv (s : MeshDevice) : Prop where
  steady : s.Signalled → s.state = .ready
  suspends : MeshDevice.WaitsSuspend s.history

def outline : Discipline telinkSignature where
  toLoopGuard := steadyEvent
  inv := Inv
  pre _ code _ := code.isLinkCall = false

variable {me : TaskId} {s s' : MeshDevice}

theorem free (me : TaskId) (s s' : MeshDevice) : outline.Guarantees me s s' := fun _ _ => trivial

/-! ### Changes -/

/-- What keeps the state and the event, and does not start the dispatcher. -/
theorem Inv.quiet (inv : Inv s) (state : s'.state = s.state)
    (event : s'.connectedEvent = s.connectedEvent) (running : s'.running = true → s.running = true)
    (history : s'.history = s.history ∨ ∃ moment, s'.history = s.history ++ [moment] ∧
      ∀ event, moment ≠ .waits event) : Inv s' where
  steady signalled := by
    rw [state]
    exact inv.steady ⟨event ▸ signalled.1, running signalled.2⟩
  suspends event' member := by
    rcases history with same | ⟨moment, grown, other⟩
    · rw [same] at member
      exact inv.suspends event' member
    · rw [grown] at member
      rcases List.mem_append.mp member with member | member
      · exact inv.suspends event' member
      · exact absurd (List.mem_singleton.mp member).symm (other event')

theorem aside (change : Telink.Aside s s') (inv : Inv s) : Inv s' := by
  refine inv.quiet change.state change.connectedEvent change.running ?_
  refine change.history.imp_right fun ⟨moment, grown, beside⟩ => ⟨moment, grown, ?_⟩
  rintro event rfl
  cases beside

/-- The state may be left when the dispatcher does not take the device for connected. -/
theorem Inv.leave (inv : Inv s) (clear : ¬s.Signalled) (state : ConnectionState) :
    Inv { s with state } := ⟨fun signalled => absurd signalled clear, inv.suspends⟩

/-- The worker goes to wait: the device is not connected, so the event is cleared. -/
theorem Inv.waits (inv : Inv s) (running : s.running = true) (apart : s.state ≠ .ready) :
    Inv { s with history := s.history ++ [.waits s.connectedEvent] } := by
  refine ⟨inv.steady, fun event member => ?_⟩
  rcases List.mem_append.mp member with member | member
  · exact inv.suspends event member
  · cases List.mem_singleton.mp member
    by_contra set
    exact apart (inv.steady ⟨Bool.eq_true_of_not_eq_false set, running⟩)

/-! ### Cleaning up -/

/-- A call may set the state: the event is cleared right after, or the dispatcher does not
take the device for connected. -/
def Leaves (site : CallSite) (s : MeshDevice) : Prop := site = .loss ∨ ¬s.Signalled

/-- Where `_cleanup` is called. -/
def Cleans (site : CallSite) : Prop := site = .disconnect ∨ site = .loss ∨ site = .provisioning

theorem leaves_of_joins {site : CallSite} {result : Except PyError Unit} (cleans : Cleans site)
    (joins : outline.joins site result s)
    (absent : s.client = none) : Leaves site s := by
  rcases cleans with rfl | rfl | rfl
  · exact .inr (joins absent)
  · exact .inl rfl
  · exact .inr (joins absent)

theorem leaves_of_answers {site : CallSite} {client : Client} {result : Except PyError Unit}
    (cleans : Cleans site) (answers : outline.answers (.disconnectClient client site) result s)
    (drops : Telink.dropsClient result = true) : Leaves site s := by
  rcases cleans with rfl | rfl | rfl
  · exact .inr (answers drops)
  · exact .inl rfl
  · exact .inr (answers drops)

/-- `_cleanup` sets the state when it has gone through. -/
theorem wp_cleanup {site : CallSite} {post : Except PyError Unit → MeshDevice → Prop}
    (cleans : Cleans site) (inv : Inv s)
    (direct : s.keepAliveTask = none → s.client = none → Leaves site s)
    (ends : ∀ s', Inv s' → Leaves site s' → post (.ok ()) { s' with state := .disconnected })
    (fails : ∀ error s', Inv s' → post (.error error) s') :
    (Telink.cleanup site).wp outline me post s := by
  unfold Telink.cleanup
  apply Coroutine.wp_bind
  -- what follows once the timer is stopped
  have goesOn : ∀ s' : MeshDevice, Inv s' → (s'.client = none → Leaves site s') →
      (do
        Telink.update fun s => { s with notifyActive := false }
        Telink.clearSessionKey
        Telink.dropClient site
        Telink.update fun s => { s with state := .disconnected } : Telink Unit).wp outline me post
          s' := by
    intro s₁ inv₁ direct₁
    unfold Telink.clearSessionKey
    rw [Coroutine.wp_modify_bind]
    refine ⟨free me _ _, Coroutine.wp_bind ?_⟩
    rw [Coroutine.wp_modify_bind, Coroutine.wp_modify]
    refine ⟨free me _ _, free me _ _, Coroutine.wp_bind ?_⟩
    have inv₂ : Inv { s₁ with notifyActive := false, sessionKey := none } :=
      inv₁.quiet rfl rfl id (.inl rfl)
    refine Telink.wp_dropClient (fun absent => ⟨free me _ _, ?_⟩) (fun _ => inv₂) ?_ ?_
    · exact ends _ inv₂ (direct₁ absent)
    · intro client result s₃ inv₃ _ answers drops
      have inv₄ : Inv { s₃ with client := none } := Inv.quiet inv₃ rfl rfl id (.inl rfl)
      have leaves : Leaves site s₃ := leaves_of_answers cleans answers drops
      exact ⟨free me _ _, free me _ _, ends _ inv₄ leaves⟩
    · intro error s₃ inv₃ _
      exact fails error s₃ inv₃
  refine Telink.wp_stopKeepAlive (fun absent => ?_) (fun _ => inv) ?_ ?_
  · exact goesOn s inv (direct absent)
  · intro _ _ s₁ inv₁ _ joins
    have inv₂ : Inv { s₁ with keepAliveTask := none } := Inv.quiet inv₁ rfl rfl id (.inl rfl)
    have leaves : s₁.client = none → Leaves site s₁ := leaves_of_joins cleans joins
    exact ⟨free me _ _, goesOn _ inv₂ leaves⟩
  · intro _ error s₁ inv₁ _ _
    exact fails error s₁ inv₁

/-- `_handle_disconnect` clears the event at once when it sets the state. -/
theorem keeps_handleDisconnect : Telink.handleDisconnect.Keeps outline me Inv := by
  apply Coroutine.keeps_read_bind
  intro s inv
  split
  · exact inv
  · rw [Coroutine.wp_currentTask_bind, Coroutine.wp_modify_bind]
    have ends : ∀ (result : Except PyError Unit) (s' : MeshDevice), Inv s' →
        (Telink.note (.lossEnds me)).wp outline me
          (Coroutine.wpFinal (fun _ s => Inv s) result) s' :=
      fun _ _ inv' => ⟨free me _ _, inv'.quiet rfl rfl id (.inr ⟨_, rfl, by rintro _ ⟨⟩⟩)⟩
    refine ⟨free me _ _, Coroutine.wp_ensuring (Coroutine.wp_bind ?_)⟩
    have begun : Inv { s with history := s.history ++ [.lossBegins me s.state] } :=
      inv.quiet rfl rfl id (.inr ⟨_, rfl, by rintro _ ⟨⟩⟩)
    refine wp_cleanup (.inr (.inl rfl)) begun (fun _ _ => .inl rfl) (fun s₁ inv₁ _ => ?_) ?_
    · refine ⟨free me _ _, free me _ _, ends _ _ ⟨?_, ?_⟩⟩
      · rintro ⟨⟨⟩, _⟩
      · intro event member
        rcases List.mem_append.mp member with member | member
        · exact inv₁.suspends event member
        · cases List.mem_singleton.mp member
    · exact fun error s₁ inv₁ => ends _ s₁ inv₁

theorem wp_linkDisconnect (inv : Inv s) (free' : s.state = .disconnected ∨ ¬s.Signalled) :
    Telink.linkDisconnect.wp outline me (fun _ s => Inv s) s := by
  unfold Telink.linkDisconnect
  rw [Coroutine.wp_read_bind]
  split
  · exact inv
  · next connected =>
    have clear := free'.resolve_left connected
    have ends : ∀ (result : Except PyError Unit) (s' : MeshDevice), Inv s' →
        (Telink.note (.disconnectEnds me)).wp outline me
          (Coroutine.wpFinal (fun _ s => Inv s) result) s' :=
      fun _ _ inv' => ⟨free me _ _, inv'.quiet rfl rfl id (.inr ⟨_, rfl, by rintro _ ⟨⟩⟩)⟩
    have begun : Inv { s with state := .disconnecting,
                              history := s.history ++ [.disconnectBegins me s.state] } :=
      (inv.leave clear .disconnecting).quiet rfl rfl id (.inr ⟨_, rfl, by rintro _ ⟨⟩⟩)
    rw [Coroutine.wp_currentTask_bind, Coroutine.wp_modify_bind]
    refine ⟨free me _ _, Coroutine.wp_ensuring ?_⟩
    refine wp_cleanup (.inl rfl) begun (fun _ _ => .inr clear) (fun s₁ inv₁ leaves => ?_) ?_
    · exact ends _ _ (inv₁.leave (leaves.resolve_left (by rintro ⟨⟩)) .disconnected)
    · exact fun error s₁ inv₁ => ends _ s₁ inv₁

/-! ### The keep-alive timer and writes -/

/-- A new timer is started; the state is as before, or as the guard of the wait says. -/
theorem wp_startKeepAlive {site : CallSite} {post : Except PyError Unit → MeshDevice → Prop}
    (inv : Inv s)
    (starts : ∀ s', Inv s' → (s'.state = s.state ∨ ∃ result, outline.joins site result s') →
      ∀ task, post (.ok ()) { s' with keepAliveTask := some task })
    (fails : ∀ error s', Inv s' → post (.error error) s') :
    (Telink.startKeepAlive site).wp outline me post s := by
  unfold Telink.startKeepAlive
  apply Coroutine.wp_bind
  refine Telink.wp_stopKeepAlive (fun _ => ?_) (fun _ => inv) ?_ ?_
  · exact fun task _ => ⟨fun _ _ _ _ => rfl, free me _ _, starts s inv (.inl rfl) task⟩
  · intro _ _ s₁ inv₁ _ joins
    have inv₂ : Inv { s₁ with keepAliveTask := none } := Inv.quiet inv₁ rfl rfl id (.inl rfl)
    refine ⟨free me _ _, fun task _ => ⟨fun _ _ _ _ => rfl, free me _ _, ?_⟩⟩
    exact starts s₁ inv₁ (.inr ⟨_, joins⟩) task
  · intro _ error s₁ inv₁ _ _
    exact fails error s₁ inv₁

theorem keeps_restartKeepAlive : Telink.restartKeepAlive.Keeps outline me Inv := by
  apply Coroutine.keeps_read_bind
  intro s inv
  split
  · refine wp_startKeepAlive inv (fun s' inv' _ task => ?_) fun _ _ inv' => inv'
    exact inv'.quiet rfl rfl id (.inl rfl)
  · exact inv

theorem keeps_writeCommand {c : TelinkConfig} {command : Option QueuedCommand} {packet : Bytes} :
    (Telink.writeCommand c command packet).Keeps outline me Inv := by
  apply Coroutine.keeps_read_bind
  intro s inv
  split
  · have noted : (Telink.noteWritten command).Keeps outline me Inv := by
      cases command with
      | none => exact Coroutine.keeps_pure _
      | some command =>
        refine Coroutine.keeps_modify fun _ inv => ⟨free me _ _, ?_⟩
        exact inv.quiet rfl rfl id (.inr ⟨_, rfl, by rintro _ ⟨⟩⟩)
    refine Coroutine.Keeps.bind ?_ (fun _ => noted.bind fun _ => keeps_restartKeepAlive) s inv
    refine Coroutine.Keeps.onError (Coroutine.keeps_call (outline.stable_inv me) _) fun error => ?_
    split
    · exact keeps_handleDisconnect.bind fun _ => Coroutine.keeps_raise _
    · exact Coroutine.keeps_raise _
  · exact inv

theorem linkOutline : Telink.LinkOutline outline where
  aside me s s' change inv := ⟨free me s s', aside change inv⟩
  waits me _ inv running apart := ⟨free me _ _, inv.waits running apart⟩
  loops _ _ _ link _ := link
  write _ _ _ _ := keeps_writeCommand
  loss _ _ _ _ s inv _ _ := keeps_handleDisconnect s inv

/-! ### Connecting -/

theorem wp_connectAttempt {c : TelinkConfig} {post : Except PyError Unit → MeshDevice → Prop}
    (inv : Inv s) (connects : ∀ s', Inv s' → ¬s'.Signalled → post (.ok ()) s')
    (fails : ∀ error s', Inv s' → (error.isMeshConnectionError = true → ¬s'.Signalled) →
      post (.error error) s') : (Telink.connectAttempt c).wp outline me post s := by
  unfold Telink.connectAttempt
  apply Coroutine.wp_bind
  refine Coroutine.wp_call.mpr ⟨inv, fun found s₁ inv₁ _ answers => ?_⟩
  cases found with
  | error error => exact fails error s₁ inv₁ answers
  | ok found =>
    rw [Coroutine.wpRest_ok]
    split
    · next missing => exact fails _ s₁ inv₁ fun _ => answers missing
    · apply Coroutine.wp_bind
      refine Coroutine.wp_call.mpr ⟨inv₁, fun client s₂ inv₂ _ answers => ?_⟩
      cases client with
      | error error => exact fails error s₂ inv₂ answers
      | ok client =>
        have inv₃ : Inv { s₂ with client := some client } := Inv.quiet inv₂ rfl rfl id (.inl rfl)
        exact ⟨free me _ _, connects _ inv₃ answers⟩

/-- The attempts end where the state may be left, or with an error that does not set it. -/
theorem wp_connectWithRetry {c : TelinkConfig} {maxRetries left : Nat}
    {post : Except PyError Unit → MeshDevice → Prop} (inv : Inv s)
    (clear : left = 0 → ¬s.Signalled) (connects : ∀ s', Inv s' → ¬s'.Signalled → post (.ok ()) s')
    (fails : ∀ error s', Inv s' →
      ((error.isOsError || error.isMeshConnectionError) = true → ¬s'.Signalled) →
        post (.error error) s') :
    (Telink.connectWithRetry c maxRetries left).wp outline me post s := by
  induction left generalizing s with
  | zero => exact fails _ s inv fun _ => clear rfl
  | succ left ih =>
    unfold Telink.connectWithRetry
    apply Coroutine.wp_bind
    apply Coroutine.wp_onError
    apply Coroutine.wp_bind
    refine wp_connectAttempt inv connects fun error s₁ inv₁ clear₁ => ?_
    -- the client is dropped, which the event has nothing to do with
    have inv₂ : Inv { s₁ with client := none } := Inv.quiet inv₁ rfl rfl id (.inl rfl)
    rw [Coroutine.wpRest_error, Coroutine.wpHandler_error]
    split
    · next mesh => exact ⟨free me _ _, fails error _ inv₂ fun _ => clear₁ mesh⟩
    · split
      · refine ⟨free me _ _, inv₂, fun paused s₃ inv₃ _ answers => ?_⟩
        cases paused with
        | error error => exact fails error s₃ inv₃ answers
        | ok _ => exact ih inv₃ answers
      · next notMesh notRetried =>
        refine fails error s₁ inv₁ fun kind => ?_
        simp_all [Telink.isRetried]

theorem keeps_pair {c : TelinkConfig} {client : Client} :
    (Telink.pair c client).Keeps outline me Inv := by
  intro s inv
  unfold Telink.pair
  apply Coroutine.wp_onError
  apply Coroutine.wp_bind
  refine Coroutine.wp_call.mpr ⟨inv, fun key s₁ inv₁ _ answers => ?_⟩
  cases key with
  | ok key => exact ⟨free me _ _, Inv.quiet inv₁ rfl rfl id (.inl rfl)⟩
  | error error =>
    rw [Coroutine.wpRest_error, Coroutine.wpHandler_error]
    split
    · next caught =>
      have direct : s₁.keepAliveTask = none → s₁.client = none → Leaves .provisioning s₁ :=
        fun timer client => .inr (answers caught timer client)
      apply Coroutine.wp_bind
      refine wp_cleanup (.inr (.inr rfl)) inv₁ direct (fun s₂ inv₂ leaves => ?_) ?_
      · exact inv₂.leave (leaves.resolve_left (by rintro ⟨⟩)) .disconnected
      · exact fun _ _ inv₂ => inv₂
    · exact inv₁

theorem keeps_readFirmwareVersion : Telink.readFirmwareVersion.Keeps outline me Inv := by
  apply Coroutine.keeps_read_bind
  intro s inv
  split
  · exact inv
  · refine Coroutine.Keeps.onError (Coroutine.keeps_call (outline.stable_inv me) _)
      (fun error => ?_) s inv
    split
    · exact Coroutine.keeps_pure _
    · exact Coroutine.keeps_raise _

/-- The last wait of `connect` ends in READY, or there is none. -/
theorem wp_startNotifySafe {post : Except PyError Unit → MeshDevice → Prop} (inv : Inv s)
    (ready : s.client = none → s.state = .ready)
    (ends : ∀ s', Inv s' → s'.state = .ready → post (.ok ()) s')
    (fails : ∀ error s', Inv s' → post (.error error) s') :
    Telink.startNotifySafe.wp outline me post s := by
  unfold Telink.startNotifySafe
  rw [Coroutine.wp_read_bind]
  split
  · next absent => exact ends s inv (ready absent)
  · apply Coroutine.wp_onError
    apply Coroutine.wp_bind
    refine Coroutine.wp_call.mpr ⟨inv, fun result s₁ inv₁ _ answers => ?_⟩
    have noted : ∀ active, Inv { s₁ with notifyActive := active } :=
      fun _ => Inv.quiet inv₁ rfl rfl id (.inl rfl)
    cases result with
    | ok _ => exact ⟨free me _ _, ends _ (noted true) answers⟩
    | error error =>
      rw [Coroutine.wpRest_error, Coroutine.wpHandler_error]
      split
      · next caught => exact ⟨free me _ _, ends _ (noted false) (answers caught)⟩
      · exact fails error s₁ inv₁

/-- `connect` returns in READY. -/
theorem wp_establish {c : TelinkConfig} {maxRetries : Nat}
    {post : Except PyError Unit → MeshDevice → Prop} (inv : Inv s) (clear : ¬s.Signalled)
    (ends : ∀ s', Inv s' → s'.state = .ready → post (.ok ()) s')
    (fails : ∀ error s', Inv s' → post (.error error) s') :
    (Telink.establish c me maxRetries).wp outline me post s := by
  unfold Telink.establish
  apply Coroutine.wp_bind
  apply Coroutine.wp_onError
  refine wp_connectWithRetry inv (fun _ => clear) (fun s₁ inv₁ clear₁ => ?_) ?_
  · rw [Coroutine.wpHandler_ok, Coroutine.wpRest_ok, Coroutine.wp_read_bind]
    split
    · exact ⟨free me _ _, fails _ _ (inv₁.leave clear₁ .disconnected)⟩
    · rw [Coroutine.wp_modify_bind]
      refine ⟨free me _ _, Coroutine.wp_bind ?_⟩
      refine keeps_pair.wp (inv₁.leave clear₁ .pairing) fun paired s₂ inv₂ => ?_
      cases paired with
      | error error => exact fails error s₂ inv₂
      | ok _ =>
        rw [Coroutine.wpRest_ok]
        apply Coroutine.wp_bind
        refine keeps_readFirmwareVersion.wp inv₂ fun read s₃ inv₃ => ?_
        cases read with
        | error error => exact fails error s₃ inv₃
        | ok _ =>
          -- READY is where the event may be set
          have inv₄ : Inv { s₃ with state := .ready,
                                    history := s₃.history ++ [.becomesReady me s₃.state] } := by
            refine ⟨fun _ => rfl, fun event member => ?_⟩
            rcases List.mem_append.mp member with member | member
            · exact inv₃.suspends event member
            · cases List.mem_singleton.mp member
          rw [Coroutine.wpRest_ok, Coroutine.wp_modify_bind]
          refine ⟨free me _ _, Coroutine.wp_bind ?_⟩
          refine wp_startKeepAlive inv₄ (fun s₅ inv₅ ready task => ?_) fails
          have inv₆ : Inv { s₅ with keepAliveTask := some task } :=
            inv₅.quiet rfl rfl id (.inl rfl)
          refine wp_startNotifySafe inv₆ (fun absent => ?_) ends fails
          rcases ready with same | ⟨_, joins⟩
          · exact same
          · exact joins absent
  · intro error s₁ inv₁ clear₁
    rw [Coroutine.wpHandler_error]
    split
    · next kind => exact ⟨free me _ _, fails _ _ (inv₁.leave (clear₁ kind) .disconnected)⟩
    · exact fails error s₁ inv₁

theorem wp_linkConnect {c : TelinkConfig} {maxRetries : Nat}
    {post : Except PyError Unit → MeshDevice → Prop} (inv : Inv s)
    (ends : ∀ s', Inv s' → s'.state = .ready → post (.ok ()) s')
    (fails : ∀ error s', Inv s' → post (.error error) s') :
    (Telink.linkConnect c maxRetries).wp outline me post s := by
  have noted : ∀ (s' : MeshDevice) (moment : Moment), Inv s' → (∀ event, moment ≠ .waits event) →
      Inv { s' with history := s'.history ++ [moment] } :=
    fun _ moment inv' other => inv'.quiet rfl rfl id (.inr ⟨moment, rfl, other⟩)
  unfold Telink.linkConnect
  rw [Coroutine.wp_read_bind, Coroutine.wp_currentTask_bind]
  split
  · next ready => exact ⟨free me _ _, ends _ (noted s _ inv (by rintro _ ⟨⟩)) ready⟩
  · next apart =>
    have clear : ¬s.Signalled := fun signalled => apart (inv.steady signalled)
    have begun : Inv { s with state := .connecting, history := s.history ++ [.connectBegins me] } :=
      noted _ _ (inv.leave clear .connecting) (by rintro _ ⟨⟩)
    rw [Coroutine.wp_modify_bind]
    refine ⟨free me _ _, Coroutine.wp_bind (Coroutine.wp_onError ?_)⟩
    refine wp_establish begun clear (fun s₁ inv₁ ready₁ => ?_) fun error s₁ inv₁ => ?_
    · exact ⟨free me _ _, ends _ (noted s₁ _ inv₁ (by rintro _ ⟨⟩)) ready₁⟩
    · exact ⟨free me _ _, fails error _ (noted s₁ _ inv₁ (by rintro _ ⟨⟩))⟩

/-! ### The calls of the device -/

/-- The event is set in READY. -/
theorem keeps_connect {c : TelinkConfig} {maxRetries : Nat} :
    (Telink.connect c maxRetries).Keeps outline me Inv := by
  intro s inv
  unfold Telink.connect
  apply Coroutine.wp_bind
  refine wp_linkConnect inv (fun s₁ inv₁ ready₁ => ?_) fun _ _ inv₁ => inv₁
  have inv₂ : Inv { s₁ with connectedEvent := true } := ⟨fun _ => ready₁, inv₁.suspends⟩
  rw [Coroutine.wpRest_ok, Coroutine.wp_modify_bind]
  refine ⟨free me _ _, linkOutline.wp_start inv₂ fun _ => ⟨free me _ _, ?_⟩⟩
  exact ⟨fun _ => ready₁, inv₁.suspends⟩

theorem keeps_disconnect : Telink.disconnect.Keeps outline me Inv := by
  intro s inv
  unfold Telink.disconnect
  apply Coroutine.wp_bind
  have stopped : ∀ s' : MeshDevice, s'.running = false → ¬s'.Signalled := by
    rintro s' still ⟨_, running⟩
    rw [still] at running
    cases running
  refine linkOutline.wp_stop inv (fun still => ?_) (fun _ => ?_) ?_ fun _ _ inv' => inv'
  · exact wp_linkDisconnect inv (.inr (stopped s still))
  · have inv₁ : Inv { s with running := false, queue := [] } :=
      inv.quiet rfl rfl (by rintro ⟨⟩) (.inl rfl)
    exact wp_linkDisconnect inv₁ (.inr (stopped _ rfl))
  · intro _ s₁ inv₁ clear
    have inv₂ : Inv { s₁ with queue := [] } := Inv.quiet inv₁ rfl rfl id (.inl rfl)
    exact wp_linkDisconnect inv₂ (.inr clear)

/-! ### Runs -/

theorem verifies (c : TelinkConfig) :
    outline.Verifies (telinkProgram c TelinkCode.isDeviceCall) where
  body code me s inv pre := by
    cases code with
    | linkConnect maxRetries => cases pre
    | linkDisconnect => cases pre
    | linkWrite packet => cases pre
    | connect maxRetries => exact keeps_connect s inv
    | disconnect => exact keeps_disconnect s inv
    | sendCommand opcode params destId => exact linkOutline.enqueue c opcode params destId s inv
    | keepAliveLoop => exact linkOutline.keepAlive.keepAliveLoop s inv
    | keepAliveAwake answer => exact linkOutline.keepAlive.keepAliveAwake c answer s inv
    | worker => exact linkOutline.workerHead s inv
    | workerGot answer => exact linkOutline.workerGot c answer s inv
    | workerWaited command answer => exact linkOutline.workerWaited c command answer s inv
    | workerRested answer => exact linkOutline.workerRested answer s inv
  entry code _ _ device _ _ := by
    cases code <;> first | rfl | cases device
  environment duration s s' inv happens := by
    obtain ⟨_, rfl⟩ : 0 ≤ duration ∧ { s with now := s.now + duration } = s' := by
      simpa [telinkProgram, Telink.elapse] using happens
    exact ⟨inv.quiet rfl rfl id (.inl rfl), fun _ => trivial⟩

theorem inv_idle : Inv {} where
  steady := by rintro ⟨⟨⟩, _⟩
  suspends := by rintro _ ⟨⟩

end SteadyEvent

instance (op : TelinkOp) (answer : Except PyError op.Answer) (s : MeshDevice) :
    Decidable (steadyEvent.answers op answer s) :=
  match op, answer with
  | .findDevice, .ok _ => inferInstanceAs (Decidable (_ → _))
  | .findDevice, .error _ => inferInstanceAs (Decidable (_ → _))
  | .establishConnection, .ok _ => inferInstanceAs (Decidable (¬_))
  | .establishConnection, .error _ => inferInstanceAs (Decidable (_ → _))
  | .connectPause _ _, .ok _ => inferInstanceAs (Decidable (_ → _))
  | .connectPause _ _, .error _ => inferInstanceAs (Decidable (_ → _))
  | .provision _, .ok _ => isTrue trivial
  | .provision _, .error _ => inferInstanceAs (Decidable (_ → _ → _ → _))
  | .readFirmware _, _ => isTrue trivial
  | .startNotify _, .ok _ => inferInstanceAs (Decidable (_ = _))
  | .startNotify _, .error _ => inferInstanceAs (Decidable (_ → _))
  | .disconnectClient _ .disconnect, _ => inferInstanceAs (Decidable (_ → _))
  | .disconnectClient _ .provisioning, _ => inferInstanceAs (Decidable (_ → _))
  | .disconnectClient _ .loss, _ => isTrue trivial
  | .disconnectClient _ .connect, _ => isTrue trivial
  | .disconnectClient _ .restart, _ => isTrue trivial
  | .disconnectClient _ .stop, _ => isTrue trivial
  | .writeCommand _ _, _ => isTrue trivial
  | .writeKeepAlive _ _, _ => isTrue trivial
  | .keepAliveSleep, _ => isTrue trivial
  | .queueGet, _ => isTrue trivial
  | .connectedWait _, _ => isTrue trivial
  | .retrySleep _ _, _ => isTrue trivial
  | .errorSleep, _ => isTrue trivial

instance (site : CallSite) (result : Except PyError Unit) (s : MeshDevice) :
    Decidable (steadyEvent.joins site result s) :=
  match site with
  | .disconnect => inferInstanceAs (Decidable (_ → _))
  | .loss => isTrue trivial
  | .provisioning => inferInstanceAs (Decidable (_ → _))
  | .connect => inferInstanceAs (Decidable (_ → _))
  | .restart => isTrue trivial
  | .stop => inferInstanceAs (Decidable (¬_))

instance (code : TelinkCode) (s : MeshDevice) : Decidable (steadyEvent.starts code s) :=
  isTrue trivial

namespace MeshDevice

/-- In every run in which `connect` returns in READY, and READY is left by the loss of the
connection or with the dispatcher stopped, the worker never waits on an event that is set. -/
theorem waitsSuspend {c : TelinkConfig} {events : List (LoopEvent telinkSignature Rat)}
    {w : EventLoop telinkSignature}
    (guarded : (telinkSystem c).Guarded steadyEvent.Permits idle events)
    (ran : (telinkSystem c).exec idle events = some w) : WaitsSuspend w.shared.history :=
  ((SteadyEvent.verifies c).exec SteadyEvent.inv_idle guarded ran).suspends

/-- The connection is lost by a command, and the worker waits with the next one. -/
def lossRun : List (LoopEvent telinkSignature Rat) :=
  [.enter (.connect 5), .start 0] ++ connectAnswers 0 7 ++
    [.answer 0 (.startNotify 7) (.ok ()), .start 1, .start 2,
      .enter (.sendCommand 0xD0 [0x01] 5), .enter (.sendCommand 0xD0 [0x00] 5), .start 3, .start 4,
      .answer 2 .queueGet (.ok ()),
      .answer 2 (.writeCommand 7 (samplePacket 0 0xD0 [0x01] 5)) (.error .osError),
      .answer 1 .keepAliveSleep (.error .cancelledError), .joined 2,
      .answer 2 (.disconnectClient 7 .loss) (.ok ()),
      .answer 2 (.retrySleep (1 / 2) (sampleSwitch 0 0x01)) (.ok ()), .answer 2 .queueGet (.ok ())]

theorem lossRun_suspends :
    ∃ w ∈ (telinkSystem sampleTelink).exec idle lossRun,
      .waits false ∈ w.shared.history ∧ WaitsSuspend w.shared.history := by
  have runs : ∃ w ∈ (telinkSystem sampleTelink).exec idle lossRun,
      .waits false ∈ w.shared.history := by
    decide +kernel
  obtain ⟨w, ran, waits⟩ := runs
  exact ⟨w, ran, waits, waitsSuspend (by decide +kernel) ran⟩

/-- The connection is lost while `connect` waits for the notifications to start. -/
def lossInConnectRun : List (LoopEvent telinkSignature Rat) :=
  [.enter (.connect 5), .start 0] ++ connectAnswers 0 7 ++
    [.start 1, .answer 1 .keepAliveSleep (.ok ()),
      .answer 1 (.writeKeepAlive 7 (samplePacket 0 0xDA [0x10] 0xFFFF)) (.error .osError),
      .joined 1, .answer 1 (.disconnectClient 7 .loss) (.ok ()),
      .answer 0 (.startNotify 7) (.ok ()), .start 2, .enter (.sendCommand 0xD0 [0x01] 5), .start 3,
      .answer 2 .queueGet (.ok ()), .answer 2 (.connectedWait (sampleSwitch 0 0x01)) (.ok ())]

/-- The event is set after the loss has been reported, and the worker waits on it again and
again. -/
theorem lossInConnect_spins :
    ∃ w ∈ (telinkSystem sampleTelink).exec idle lossInConnectRun,
      w.shared.state = .disconnected ∧ w.shared.history.count (.waits true) = 2 ∧
        ¬WaitsSuspend w.shared.history := by
  have runs : ∃ w ∈ (telinkSystem sampleTelink).exec idle lossInConnectRun,
      w.shared.state = .disconnected ∧ w.shared.history.count (.waits true) = 2 := by
    decide +kernel
  obtain ⟨w, ran, state, waits⟩ := runs
  refine ⟨w, ran, state, waits, fun suspends => ?_⟩
  have member : .waits true ∈ w.shared.history := by
    rw [← List.count_pos_iff, waits]
    exact Nat.zero_lt_two
  cases suspends true member

end MeshDevice

end TuyaBleMesh
