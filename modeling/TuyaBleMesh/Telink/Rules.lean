import TuyaBleMesh.Telink.Device

/-!
# Rules for the calls of a Telink device

What a proof outline of the device has to give for the functions that all calls share,
whatever it is an outline of.
-/

namespace TuyaBleMesh

/-- A moment of the queue, or of a command on its way. -/
def Moment.isAside : Moment → Bool
  | .enqueued _ => true
  | .taken _ _ => true
  | .attempted _ _ => true
  | .written _ => true
  | _ => false

namespace Telink

open Coroutine

variable {D : Discipline telinkSignature} {me : TaskId} {s : MeshDevice}
  {post : Except PyError Unit → MeshDevice → Prop}

theorem wp_suppressCancelled {body : Telink Unit}
    (holds : body.wp D me (fun result s => post result s ∧ post (.ok ()) s) s) :
    (suppressCancelled body).wp D me post s := by
  apply wp_onError
  apply wp_mono _ holds
  intro result s' ⟨kept, suppressed⟩
  cases result with
  | ok _ => exact kept
  | error error =>
    rw [wpHandler_error]
    split
    · exact suppressed
    · exact kept

/-- The timer is there or not, and waiting for its task may fail. -/
theorem wp_stopKeepAlive {site : CallSite} (absent : s.keepAliveTask = none → post (.ok ()) s)
    (inv : s.keepAliveTask ≠ none → D.inv s)
    (stops : s.keepAliveTask ≠ none → ∀ result s', D.inv s' → D.rely me s s' →
      D.joins site result s' → D.Guarantees me s' { s' with keepAliveTask := none } ∧
        post (.ok ()) { s' with keepAliveTask := none })
    (fails : s.keepAliveTask ≠ none → ∀ error s', D.inv s' → D.rely me s s' →
      D.joins site (.error error) s' → post (.error error) s') :
    (stopKeepAlive site).wp D me post s := by
  unfold stopKeepAlive
  rw [wp_read_bind]
  cases timer : s.keepAliveTask with
  | none => exact absent timer
  | some task =>
    rw [wp_cancelTask_bind]
    apply wp_bind
    apply wp_suppressCancelled
    have present : s.keepAliveTask ≠ none := by
      rw [timer]
      exact Option.some_ne_none task
    -- the wait for the cancelled task ends with its result, or is cancelled itself
    refine ⟨inv present, fun result s' inv' rely joins => ?_⟩
    cases result with
    | ok _ => exact ⟨stops present _ s' inv' rely joins, stops present _ s' inv' rely joins⟩
    | error error =>
      exact ⟨fails present error s' inv' rely joins, stops present _ s' inv' rely joins⟩

/-- The answers after which the client is given up. -/
def dropsClient : Except PyError Unit → Bool
  | .ok _ => true
  | .error error => error.isOsError

/-- The client is there or not; its errors are ignored if they are `OSError`s. -/
theorem wp_dropClient {site : CallSite} (absent : s.client = none → post (.ok ()) s)
    (inv : s.client ≠ none → D.inv s)
    (drops : ∀ client result s', D.inv s' → D.rely me s s' →
      D.answers (.disconnectClient client site) result s' → dropsClient result = true →
        D.Guarantees me s' { s' with client := none } ∧ post (.ok ()) { s' with client := none })
    (fails : ∀ error s', D.inv s' → D.rely me s s' → post (.error error) s') :
    (dropClient site).wp D me post s := by
  unfold dropClient
  rw [wp_read_bind]
  cases present : s.client with
  | none => exact absent present
  | some client =>
    apply wp_bind
    apply wp_onError
    have awaits : D.inv s := inv (by rw [present]; exact Option.some_ne_none client)
    -- `self._client.disconnect()` is the only pause
    refine wp_call.mpr ⟨awaits, fun result s' inv' rely answers => ?_⟩
    cases result with
    | ok _ => exact drops client (.ok ()) s' inv' rely answers rfl
    | error error =>
      rw [wpHandler_error]
      split
      · next os => exact drops client (.error error) s' inv' rely answers os
      · exact fails error s' inv' rely

theorem wp_stopWorker {worker : Option TaskId} (absent : worker = none → post (.ok ()) s)
    (inv : D.inv s) (ends : ∀ result s', D.inv s' → D.joins .stop result s' → post (.ok ()) s')
    (fails : ∀ error s', D.inv s' → post (.error error) s') :
    (stopWorker worker).wp D me post s := by
  cases worker with
  | none => exact absent rfl
  | some task =>
    unfold stopWorker
    rw [wp_cancelTask_bind]
    apply wp_suppressCancelled
    refine ⟨inv, fun result s' inv' _ joins => ?_⟩
    cases result with
    | ok _ => exact ⟨ends _ s' inv' joins, ends _ s' inv' joins⟩
    | error error => exact ⟨fails error s' inv', ends _ s' inv' joins⟩

/-! ### What goes on beside the connection -/

/-- Nothing of the connection changes, and the dispatcher is not started. -/
structure Aside (s s' : MeshDevice) : Prop where
  state : s'.state = s.state
  client : s'.client = s.client
  sessionKey : s'.sessionKey = s.sessionKey
  keepAliveTask : s'.keepAliveTask = s.keepAliveTask
  keys : s'.keys = s.keys
  connectedEvent : s'.connectedEvent = s.connectedEvent
  running : s'.running = true → s.running = true
  history : s'.history = s.history ∨ ∃ moment, s'.history = s.history ++ [moment] ∧
    moment.isAside = true

/-- `next_sequence` only counts. -/
theorem aside_advanced (s : MeshDevice) :
    Aside s { s with sequence := (s.sequence + 1) &&& _MAX_SEQUENCE } :=
  ⟨rfl, rfl, rfl, rfl, rfl, rfl, id, .inl rfl⟩

theorem wp_nextSequence_bind {β : Type} (rest : Nat → Telink β)
    {post : Except PyError β → MeshDevice → Prop} :
    (nextSequence >>= rest).wp D me post s ↔
      D.Guarantees me s { s with sequence := (s.sequence + 1) &&& _MAX_SEQUENCE } ∧
        (rest s.sequence).wp D me post
          { s with sequence := (s.sequence + 1) &&& _MAX_SEQUENCE } := Iff.rfl

theorem keeps_suppressCancelled {body : Telink Unit} (keeps : body.Keeps D me D.inv) :
    (suppressCancelled body).Keeps D me D.inv := by
  apply Keeps.onError keeps
  intro error
  split
  · exact keeps_pure _
  · exact keeps_raise _

theorem keeps_fromAnswer {α : Type} (answer : Except PyError α) :
    (fromAnswer answer).Keeps D me D.inv := fun _ inv => inv

/-- An outline that leaves the keep-alive loop alone. -/
structure KeepAliveOutline (D : Discipline telinkSignature) : Prop where
  advance : ∀ me s, D.inv s →
    D.Guarantees me s { s with sequence := (s.sequence + 1) &&& _MAX_SEQUENCE } ∧
      D.inv { s with sequence := (s.sequence + 1) &&& _MAX_SEQUENCE }
  loops : ∀ me code s, code.isKeepAlive = true → D.pre me code s
  loss : ∀ me client packet error s, D.inv s →
    D.answers (.writeKeepAlive client packet) (.error error) s → error.isOsError = true →
      handleDisconnect.wp D me (fun _ s => D.inv s) s

namespace KeepAliveOutline

variable (O : KeepAliveOutline D) (c : TelinkConfig)

include O

/-- What a write that failed with an `OSError` is known to be. -/
private theorem written_or_lost (result : Except PyError Unit) (inv : D.inv s) {client : Client}
    {packet : Bytes} (answers : D.answers (.writeKeepAlive client packet) result s) :
    wpHandler D me (fun error => if error.isOsError then handleDisconnect else raise error)
      (fun _ s => D.inv s) result s := by
  cases result with
  | ok _ => exact inv
  | error error =>
    rw [wpHandler_error]
    split
    · next os => exact O.loss me client packet error s inv answers os
    · exact inv

theorem sendKeepAlive : (Telink.sendKeepAlive c).Keeps D me D.inv := by
  apply keeps_read_bind
  intro s inv
  split
  · next client key _ _ _ =>
    obtain ⟨guarantees, inv₁⟩ := O.advance me s inv
    apply wp_onError
    rw [wp_nextSequence_bind]
    refine ⟨guarantees, ?_⟩
    cases encoded : encodeCommandPacket c.suite key c.macBytes s.sequence KEEP_ALIVE_DESTINATION
        TELINK_CMD_STATUS_QUERY _STATUS_QUERY_PARAM c.vendorId with
    | error error =>
      show wpHandler D me _ _ (.error error) _
      -- a packet that cannot be made is no `OSError`, so nothing is disconnected
      have kind := encodeCommandPacket_errors _ _ _ _ _ _ _ error encoded
      rw [wpHandler_error, (isPacketError.not_os kind).1]
      exact inv₁
    | ok packet =>
      refine wp_call.mpr ⟨inv₁, fun result s₂ inv₂ _ answers => ?_⟩
      exact O.written_or_lost result inv₂ answers
  · exact inv

theorem keepAliveHead : Telink.keepAliveHead.Keeps D me D.inv := by
  apply keeps_read_bind
  intro s inv
  split
  · exact keeps_park (D.stable_inv me) (fun _ s _ _ => O.loops me _ s rfl) s inv
  · exact inv

theorem keepAliveLoop : Telink.keepAliveLoop.Keeps D me D.inv :=
  keeps_suppressCancelled O.keepAliveHead

theorem keepAliveAwake (answer : Except PyError Unit) :
    (Telink.keepAliveAwake c answer).Keeps D me D.inv := by
  apply keeps_suppressCancelled
  apply Keeps.bind (keeps_fromAnswer answer)
  intro _
  apply keeps_read_bind
  intro s inv
  split
  · exact inv
  · exact Keeps.bind (O.sendKeepAlive c) (fun _ => O.keepAliveHead) s inv

end KeepAliveOutline

/-- An outline of the connection, which the queue and the worker do not disturb. -/
structure LinkOutline (D : Discipline telinkSignature) : Prop where
  aside : ∀ me s s', Aside s s' → D.inv s → D.Guarantees me s s' ∧ D.inv s'
  waits : ∀ me s, D.inv s → s.running = true → s.state ≠ .ready →
    D.Guarantees me s { s with history := s.history ++ [.waits s.connectedEvent] } ∧
      D.inv { s with history := s.history ++ [.waits s.connectedEvent] }
  loops : ∀ me code s, code.isLinkCall = false → code.isDeviceCall = false → D.pre me code s
  write : ∀ me c command packet, (writeCommand c command packet).Keeps D me D.inv
  loss : ∀ me client packet error s, D.inv s →
    D.answers (.writeKeepAlive client packet) (.error error) s → error.isOsError = true →
      handleDisconnect.wp D me (fun _ s => D.inv s) s

namespace LinkOutline

variable (O : LinkOutline D) (c : TelinkConfig)

include O

theorem keepAlive : KeepAliveOutline D where
  advance me s inv := O.aside me s _ (aside_advanced s) inv
  loops me code s loop := by
    cases code <;> first | exact O.loops me _ s rfl rfl | cases loop
  loss := O.loss

theorem update {f : MeshDevice → MeshDevice} (aside : ∀ s, Aside s (f s)) :
    (Telink.update f).Keeps D me D.inv :=
  keeps_modify fun s inv => O.aside me s (f s) (aside s) inv

theorem note {moment : Moment} (aside : moment.isAside = true) :
    (Telink.note moment).Keeps D me D.inv :=
  O.update fun _ => ⟨rfl, rfl, rfl, rfl, rfl, rfl, id, .inr ⟨moment, rfl, aside⟩⟩

theorem nextSequence : Telink.nextSequence.Keeps D me D.inv := by
  apply keeps_read_bind
  intro s inv
  exact O.aside me s _ (aside_advanced s) inv

/-! ### The queue and the worker -/

theorem sendAttempt (command : QueuedCommand) : (Telink.sendAttempt c command).Keeps D me D.inv := by
  apply keeps_read_bind
  intro s inv
  split
  · exact inv
  · next key _ =>
    refine Keeps.bind O.nextSequence (fun sequence => ?_) s inv
    apply Keeps.bind (keeps_fromAnswer _)
    intro packet
    apply keeps_read_bind
    intro s inv
    -- the attempt is noted before its write
    refine Keeps.bind (O.note rfl) (fun _ => ?_) s inv
    apply Keeps.onError
    · exact Keeps.bind (O.write me c (some command) packet) fun _ => keeps_pure _
    · intro error
      split
      · exact keeps_raise _
      · split
        · exact keeps_pure _
        · exact keeps_raise _

theorem sendAgain (command : QueuedCommand) (error : PyError) (left : Nat) (backoff : Rat) :
    (Telink.sendAgain c command error left backoff).Keeps D me D.inv := by
  -- on the attempts that are left
  induction left generalizing error backoff with
  | zero => exact keeps_raise _
  | succ left ih =>
    apply Keeps.bind (keeps_call (D.stable_inv me) _)
    intro _
    apply Keeps.bind (O.sendAttempt c command)
    intro failure
    cases failure with
    | none => exact keeps_pure _
    | some error => exact ih error _

theorem sendNow (command : QueuedCommand) : (Telink.sendNow c command).Keeps D me D.inv := by
  apply Keeps.bind (O.sendAttempt c command)
  intro failure
  cases failure with
  | none => exact keeps_pure _
  | some error => exact O.sendAgain c command error _ _

theorem workerHead : Telink.workerHead.Keeps D me D.inv := by
  apply keeps_read_bind
  intro s inv
  split
  · exact keeps_park (D.stable_inv me) (fun _ s _ _ => O.loops me _ s rfl rfl) s inv
  · exact inv

theorem workerIteration {body : Telink Unit} (keeps : body.Keeps D me D.inv) :
    (Telink.workerIteration body).Keeps D me D.inv := by
  apply Keeps.onError keeps
  intro error
  split
  · exact keeps_park (D.stable_inv me) fun _ s _ _ => O.loops me _ s rfl rfl
  · exact keeps_raise _

theorem sendTaken (command : QueuedCommand) : (Telink.sendTaken c command).Keeps D me D.inv := by
  apply keeps_read_bind
  intro s inv
  split
  · refine Keeps.bind ?_ (fun _ => O.workerHead) s inv
    apply Keeps.onError (O.sendNow c command)
    intro error
    split
    · exact keeps_pure _
    · exact keeps_raise _
  · exact inv

theorem awaitConnection (command : QueuedCommand) :
    (Telink.awaitConnection c command).Keeps D me D.inv := by
  apply keeps_read_bind
  intro s inv
  split
  -- the worker waits for the event of the connection there is now
  · next apart =>
    obtain ⟨guarantees, inv'⟩ := O.waits me s inv apart.1 apart.2
    rw [wp_modify_bind]
    refine ⟨guarantees, keeps_park (D.stable_inv me) (fun _ s _ _ => ?_) _ inv'⟩
    exact O.loops me _ s rfl rfl
  · exact O.sendTaken c command s inv

theorem takeCommand (command : QueuedCommand) : (Telink.takeCommand c command).Keeps D me D.inv := by
  apply keeps_read_bind
  intro s inv
  split
  · exact O.workerHead s inv
  · exact O.awaitConnection c command s inv

theorem workerGot (answer : Except PyError Unit) : (Telink.workerGot c answer).Keeps D me D.inv := by
  apply O.workerIteration
  cases answer with
  | error error =>
    dsimp only
    -- a timeout of `get` only goes round the loop
    split
    · exact O.workerHead
    · exact keeps_raise _
  | ok _ =>
    apply keeps_read_bind
    intro s inv
    split
    · exact keeps_park (D.stable_inv me) (fun _ s _ _ => O.loops me _ s rfl rfl) s inv
    · next command queue _ =>
      rw [wp_currentTask_bind]
      refine Keeps.bind (O.update ?_) (fun _ => O.takeCommand c command) s inv
      exact fun _ => ⟨rfl, rfl, rfl, rfl, rfl, rfl, id, .inr ⟨.taken me command, rfl, rfl⟩⟩

theorem workerWaited (command : QueuedCommand) (answer : Except PyError Unit) :
    (Telink.workerWaited c command answer).Keeps D me D.inv := by
  apply O.workerIteration
  cases answer with
  | error error =>
    dsimp only
    split
    · exact O.awaitConnection c command
    · exact keeps_raise _
  | ok _ => exact O.awaitConnection c command

theorem workerRested (answer : Except PyError Unit) : (Telink.workerRested answer).Keeps D me D.inv :=
  Keeps.bind (keeps_fromAnswer answer) fun _ => O.workerHead

/-- It is for the outline to say when the dispatcher may be started. -/
theorem wp_start (inv : D.inv s) (starts : s.running = false →
      D.Guarantees me s { s with running := true } ∧ D.inv { s with running := true }) :
    Telink.start.wp D me (fun _ s => D.inv s) s := by
  unfold Telink.start
  rw [wp_read_bind]
  split
  · exact inv
  -- the worker is created fresh, and its task is noted
  · next stopped =>
    obtain ⟨guarantees, inv'⟩ := starts (Bool.eq_false_of_not_eq_true stopped)
    rw [wp_modify_bind]
    refine ⟨guarantees, fun task _ => ⟨fun s' _ _ _ => O.loops task _ s' rfl rfl, ?_⟩⟩
    exact O.aside me _ _ ⟨rfl, rfl, rfl, rfl, rfl, rfl, id, .inl rfl⟩ inv'

theorem enqueue (opcode : Nat) (params : Bytes) (destId : Nat) :
    (Telink.enqueue c opcode params destId).Keeps D me D.inv := by
  apply keeps_read_bind
  intro s inv
  split
  · exact inv
  · refine Keeps.bind (O.update ?_) (fun _ => O.note rfl) s inv
    exact fun _ => ⟨rfl, rfl, rfl, rfl, rfl, rfl, id, .inl rfl⟩

/-- `stop` returns at once, or when the worker has ended. -/
theorem wp_stop {post : Except PyError Unit → MeshDevice → Prop} (inv : D.inv s)
    (idle : s.running = false → post (.ok ()) s)
    (unattended : s.workerTask = none → post (.ok ()) { s with running := false, queue := [] })
    (ends : ∀ result s', D.inv s' → D.joins .stop result s' → post (.ok ()) { s' with queue := [] })
    (fails : ∀ error s', D.inv s' → post (.error error) s') : Telink.stop.wp D me post s := by
  -- the queue is drained whichever way `stop` goes on
  have drains : ∀ s' : MeshDevice, D.inv s' → post (.ok ()) { s' with queue := [] } →
      (Telink.update fun s => { s with queue := [] }).wp D me post s' := by
    intro s' inv' drained
    have aside : Aside s' { s' with queue := [] } :=
      ⟨rfl, rfl, rfl, rfl, rfl, rfl, id, .inl rfl⟩
    exact ⟨(O.aside me s' _ aside inv').1, drained⟩
  obtain ⟨guarantees, inv₁⟩ := O.aside me s { s with running := false }
    ⟨rfl, rfl, rfl, rfl, rfl, rfl, by rintro ⟨⟩, .inl rfl⟩ inv
  unfold Telink.stop
  rw [wp_read_bind]
  split
  · rw [wp_modify_bind]
    refine ⟨guarantees, wp_bind (wp_stopWorker (fun absent => ?_) inv₁ ?_ ?_)⟩
    · exact drains _ inv₁ (unattended absent)
    · exact fun result s' inv' joins => drains s' inv' (ends result s' inv' joins)
    · exact fails
  · next stopped =>
    rw [Bool.not_eq_true] at stopped
    exact idle stopped

end LinkOutline

end Telink

end TuyaBleMesh
