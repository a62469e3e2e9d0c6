import TuyaBleMesh.Telink.CommandQueue

/-!
# The command queue over whole runs

The worker holds a command from taking it to writing it or giving it up; each step on
its way keeps the books of the queue.
-/

namespace TuyaBleMesh

namespace SentInTurn

variable {ttl : Rat} {me task : TaskId} {s s' : MeshDevice} {command : QueuedCommand}
  {fact : MeshDevice → Prop}

namespace QueueFact

variable (F : QueueFact ttl me fact)

include F

theorem link : Telink.LinkFact (outline ttl) me fact where
  toStable := F.toStable
  link s s' change holds := by
    have beside := Beside.of_link change
    exact ⟨beside.guarantees, F.beside s s' beside holds⟩

theorem update {f : MeshDevice → MeshDevice} (beside : ∀ s, Beside s (f s)) :
    (Telink.update f).Keeps (outline ttl) me fact :=
  Coroutine.keeps_modify fun s holds => ⟨(beside s).guarantees, F.beside s (f s) (beside s) holds⟩

theorem note {moment : Moment} (quiet : ∀ b : QueueBooks, b.after moment = b) :
    (Telink.note moment).Keeps (outline ttl) me fact :=
  F.update fun _ => ⟨rfl, rfl, .inr ⟨moment, rfl, quiet⟩⟩

theorem handleDisconnect : Telink.handleDisconnect.Keeps (outline ttl) me fact := by
  apply Coroutine.keeps_read_bind
  intro s holds
  split
  · exact holds
  · rw [Coroutine.wp_currentTask_bind]
    refine (F.note fun _ => rfl).bind (fun _ => ?_) s holds
    refine Coroutine.Keeps.ensuring (F.link.cleanup.bind fun _ => ?_) (F.note fun _ => rfl)
    refine (F.update fun _ => ?_).bind fun _ => F.note fun _ => rfl
    exact ⟨rfl, rfl, .inl rfl⟩

end QueueFact

theorem freeLink (ttl : Rat) : Telink.FreeLink (outline ttl) where
  link me s s' change inv := (inv_fact ttl me).link.link s s' change inv
  loops _ code _ loop := by
    cases code with
    | keepAliveLoop => trivial
    | keepAliveAwake _ => trivial
    | _ => cases loop
  written me _ _ _ s inv _ _ := (inv_fact ttl me).handleDisconnect s inv
  probed me _ _ _ s inv _ _ := (inv_fact ttl me).handleDisconnect s inv

/-! ### Writing -/

/-- The restart of the timer does not fail with an error after which the write is tried again. -/
theorem wp_restartKeepAlive {post : Except PyError Unit → MeshDevice → Prop} (inv : Inv ttl s)
    (ends : ∀ s', Inv ttl s' → post (.ok ()) s')
    (fails : ∀ error s', Inv ttl s' →
      (error.isOsError || error.isMeshConnectionError) = false → post (.error error) s') :
    Telink.restartKeepAlive.wp (outline ttl) me post s := by
  have timer : ∀ (s' : MeshDevice) (timer : Option TaskId), Inv ttl s' →
      (outline ttl).Guarantees me s' { s' with keepAliveTask := timer } ∧
        Inv ttl { s' with keepAliveTask := timer } := by
    intro s' timer inv'
    have beside : Beside s' { s' with keepAliveTask := timer } := ⟨rfl, rfl, .inl rfl⟩
    exact ⟨beside.guarantees, beside.inv inv'⟩
  -- the new loop may start in any state that keeps the invariant
  have starts : ∀ s' : MeshDevice, Inv ttl s' → ∀ task, task ≠ me →
      (outline ttl).Startable task .keepAliveLoop s' ∧
        (Telink.update fun s => { s with keepAliveTask := some task }).wp (outline ttl) me post
          s' := by
    intro s' inv' task _
    obtain ⟨guarantees, inv''⟩ := timer s' (some task) inv'
    exact ⟨fun _ _ _ _ => trivial, guarantees, ends _ inv''⟩
  unfold Telink.restartKeepAlive
  rw [Coroutine.wp_read_bind]
  split
  · unfold Telink.startKeepAlive
    apply Coroutine.wp_bind
    refine Telink.wp_stopKeepAlive (fun _ => starts s inv) (fun _ => inv) ?_ ?_
    · intro _ _ s' inv' _ _
      obtain ⟨guarantees, inv''⟩ := timer s' none inv'
      exact ⟨guarantees, starts _ inv''⟩
    · exact fun _ error s' inv' _ joins => fails error s' inv' joins
  · exact ends s inv

/-- A command that was written stays written. -/
theorem writes (holding : Holding ttl me command s) :
    (outline ttl).Guarantees me s { s with history := s.history ++ [.written command] } ∧
      Inv ttl { s with history := s.history ++ [.written command] } := by
  have books : ({ s with history := s.history ++ [.written command] } : MeshDevice).books =
      { s.books with written := s.books.written ++ [command] } := by
    rw [books_append _ rfl]
    rfl
  refine ⟨fun task other => ⟨⟨[], by rw [books, List.append_nil]⟩, ?_⟩, ?_⟩
  · intro mine taken unwritten
    rw [books, List.map_append, List.map_singleton]
    intro member
    rcases List.mem_append.mp member with member | member
    · exact unwritten member
    · -- the command of another task has another number
      have same := holding.inv.taken_unique taken holding.mine (List.mem_singleton.mp member)
      exact other (congrArg Prod.fst same)
  · unfold Inv
    rw [books]
    exact holding.inv.write holding.mine holding.unwritten

/-- `write_command` writes the command, or it is still to be written where it is tried again. -/
theorem wp_writeCommand {c : TelinkConfig} {packet : Bytes}
    {post : Except PyError Unit → MeshDevice → Prop} (holding : Holding ttl me command s)
    (ends : ∀ s', Inv ttl s' → post (.ok ()) s')
    (fails : ∀ error s', Inv ttl s' → (Holding ttl me command s' ∨
      (error.isOsError || error.isMeshConnectionError) = false) → post (.error error) s') :
    (Telink.writeCommand c (some command) packet).wp (outline ttl) me post s := by
  have keeps : ∀ error s', Holding ttl me command s' → post (.error error) s' :=
    fun error s' holding' => fails error s' holding'.inv (.inl holding')
  have F := holding_fact ttl me command
  unfold Telink.writeCommand
  rw [Coroutine.wp_read_bind]
  split
  · apply Coroutine.wp_bind
    apply Coroutine.wp_onError
    refine Coroutine.wp_call.mpr ⟨holding.inv, fun result s₁ inv₁ rely₁ _ => ?_⟩
    have holding₁ := F.later s s₁ holding inv₁ rely₁
    cases result with
    | ok _ =>
      -- from here on the command is written, and no error sends it again
      obtain ⟨guarantees, inv₂⟩ := writes holding₁
      refine Coroutine.wp_bind ⟨guarantees, ?_⟩
      exact wp_restartKeepAlive inv₂ ends fun error s' inv' kind => fails error s' inv' (.inr kind)
    | error error =>
      rw [Coroutine.wpHandler_error]
      split
      · apply Coroutine.wp_bind
        refine F.handleDisconnect.wp holding₁ fun handled s₂ holding₂ => ?_
        cases handled with
        | ok _ => exact keeps _ s₂ holding₂
        | error error => exact keeps error s₂ holding₂
      · exact keeps error s₁ holding₁
  · exact keeps _ s holding

theorem keeps_writeCommand {c : TelinkConfig} {packet : Bytes} :
    (Telink.writeCommand c none packet).Keeps (outline ttl) me (Inv ttl) :=
  (freeLink ttl).writeCommand c none packet (Coroutine.keeps_pure _)

/-! ### Sending -/

theorem attempts (holding : Holding ttl me command s) (may : s.MaySend ttl command) :
    (outline ttl).Guarantees me s { s with history := s.history ++ [.attempted command s.now] } ∧
      Holding ttl me command { s with history := s.history ++ [.attempted command s.now] } := by
  have books : ({ s with history := s.history ++ [.attempted command s.now] } : MeshDevice).books =
      { s.books with attempts := s.books.attempts ++ [(command, s.now)] } := by
    rw [books_append _ rfl]
    rfl
  refine ⟨fun task _ => ⟨?_, fun _ _ unwritten => ?_⟩, ⟨?_, ?_, ?_⟩⟩
  · exact ⟨[], by rw [books, List.append_nil]⟩
  · rw [books]
    exact unwritten
  · unfold Inv
    rw [books]
    exact holding.inv.attempt holding.mine may.1 may.2
  · rw [books]
    exact holding.mine
  · rw [books]
    exact holding.unwritten

/-- An attempt is made while the command is the last that was taken, and has not expired. -/
theorem wp_sendAttempt {c : TelinkConfig} {post : Except PyError (Option PyError) →
      MeshDevice → Prop} (holding : Holding ttl me command s)
    (may : s.sessionKey.isSome = true → s.MaySend ttl command)
    (sent : ∀ s', Inv ttl s' → post (.ok none) s')
    (retries : ∀ error s', Holding ttl me command s' → post (.ok (some error)) s')
    (fails : ∀ error s', Inv ttl s' → post (.error error) s') :
    (Telink.sendAttempt c command).wp (outline ttl) me post s := by
  unfold Telink.sendAttempt
  rw [Coroutine.wp_read_bind]
  split
  · exact fails _ s holding.inv
  · next key present =>
    have beside : Beside s { s with sequence := (s.sequence + 1) &&& Telink._MAX_SEQUENCE } :=
      ⟨rfl, rfl, .inl rfl⟩
    rw [Telink.wp_nextSequence_bind]
    refine ⟨beside.guarantees, Coroutine.wp_bind ?_⟩
    cases Telink.encodeCommandPacket c.suite key c.macBytes s.sequence command.destId command.opcode
        command.params c.vendorId with
    | error error => exact fails error _ (beside.inv holding.inv)
    | ok packet =>
      obtain ⟨guarantees, holding₁⟩ := attempts (beside.holding holding)
        (may (by rw [present]; rfl))
      rw [Coroutine.wp_done, Coroutine.wpRest_ok, Coroutine.wp_read_bind, Coroutine.wp_modify_bind]
      refine ⟨guarantees, Coroutine.wp_onError (Coroutine.wp_bind ?_)⟩
      refine wp_writeCommand holding₁ (fun s' inv' => sent s' inv') fun error s' inv' known => ?_
      rw [Coroutine.wpRest_error, Coroutine.wpHandler_error]
      split
      · exact fails error s' inv'
      · split
        · next retried =>
          -- what is tried again is still held; a written command is not tried again
          rcases known with holding' | final
          · exact retries error s' holding'
          · rw [Bool.or_comm] at retried
            rw [final] at retried
            cases retried
        · exact fails error s' inv'

theorem keeps_sendAgain {c : TelinkConfig} (left : Nat) (error : PyError) (backoff : Rat)
    (holding : Holding ttl me command s) :
    (Telink.sendAgain c command error left backoff).wp (outline ttl) me (fun _ s => Inv ttl s) s := by
  induction left generalizing s error backoff with
  | zero => exact holding.inv
  | succ left ih =>
    unfold Telink.sendAgain
    apply Coroutine.wp_bind
    refine Coroutine.wp_call.mpr ⟨holding.inv, fun result s₁ inv₁ rely₁ answers => ?_⟩
    have holding₁ := (holding_fact ttl me command).later s s₁ holding inv₁ rely₁
    cases result with
    | error error => exact inv₁
    | ok _ =>
      apply Coroutine.wp_bind
      refine wp_sendAttempt holding₁ answers (fun _ inv' => inv') (fun error s' holding' => ?_)
        fun _ _ inv' => inv'
      exact ih error _ holding'

theorem wp_sendNow {c : TelinkConfig} (holding : Holding ttl me command s)
    (may : s.sessionKey.isSome = true → s.MaySend ttl command) :
    (Telink.sendNow c command).wp (outline ttl) me (fun _ s => Inv ttl s) s := by
  unfold Telink.sendNow
  apply Coroutine.wp_bind
  refine wp_sendAttempt holding may (fun _ inv' => inv') (fun error s' holding' => ?_)
    fun _ _ inv' => inv'
  exact keeps_sendAgain _ error _ holding'

/-! ### The worker -/

/-- The loops of the worker go on without a command. -/
private theorem keeps_park {op : TelinkOp} {next : Except PyError op.Answer → TelinkCode}
    (free : ∀ answer s, pre ttl me (next answer) s) :
    (Coroutine.park (S := telinkSignature) (α := Unit) op next).Keeps (outline ttl) me (Inv ttl) :=
  Coroutine.keeps_park ((outline ttl).stable_inv me) fun answer s _ _ => free answer s

theorem keeps_workerHead : Telink.workerHead.Keeps (outline ttl) me (Inv ttl) := by
  apply Coroutine.keeps_read_bind
  intro s inv
  split
  · exact keeps_park (by intros; trivial) s inv
  · exact inv

theorem wp_workerIteration {body : Telink Unit}
    (keeps : body.wp (outline ttl) me (fun _ s => Inv ttl s) s) :
    (Telink.workerIteration body).wp (outline ttl) me (fun _ s => Inv ttl s) s := by
  apply Coroutine.wp_onError
  refine Coroutine.wp_mono ?_ keeps
  intro result s' inv'
  cases result with
  | ok _ => exact inv'
  | error error =>
    rw [Coroutine.wpHandler_error]
    split
    · exact keeps_park (by intros; trivial) s' inv'
    · exact inv'

theorem wp_sendTaken {c : TelinkConfig} (holding : Holding ttl me command s)
    (may : s.running = true → s.sessionKey.isSome = true → s.MaySend ttl command) :
    (Telink.sendTaken c command).wp (outline ttl) me (fun _ s => Inv ttl s) s := by
  unfold Telink.sendTaken
  rw [Coroutine.wp_read_bind]
  split
  · next running =>
    apply Coroutine.wp_bind
    apply Coroutine.wp_onError
    refine Coroutine.wp_mono ?_ (wp_sendNow holding (may running))
    intro result s' inv'
    cases result with
    | ok _ => exact keeps_workerHead s' inv'
    | error error =>
      rw [Coroutine.wpHandler_error]
      split
      · exact keeps_workerHead s' inv'
      · exact inv'
  · exact holding.inv

/-- The worker waits, or sends the command where it may. -/
theorem wp_awaitConnection {c : TelinkConfig} (holding : Holding ttl me command s)
    (may : s.Sends → s.MaySend ttl command) :
    (Telink.awaitConnection c command).wp (outline ttl) me (fun _ s => Inv ttl s) s := by
  unfold Telink.awaitConnection
  rw [Coroutine.wp_read_bind]
  split
  · have beside : Beside s { s with history := s.history ++ [.waits s.connectedEvent] } :=
      ⟨rfl, rfl, .inr ⟨_, rfl, fun _ => rfl⟩⟩
    have holding₁ := beside.holding holding
    rw [Coroutine.wp_modify_bind]
    refine ⟨beside.guarantees, holding₁.inv, fun answer s₂ inv₂ rely₂ answers => ?_⟩
    refine ⟨(holding_fact ttl me command).later _ s₂ holding₁ inv₂ rely₂, ?_⟩
    rintro (rfl | rfl)
    · exact answers
    · exact answers rfl
  · next goesOn =>
    refine wp_sendTaken holding fun running key => may ⟨running, ?_, key⟩
    by_contra apart
    exact goesOn ⟨running, apart⟩

/-- The worker takes the first command of the queue. -/
theorem takes {queue : List QueuedCommand} (inv : Inv ttl s) (first : s.queue = command :: queue) :
    (outline ttl).Guarantees me s
        { s with queue, history := s.history ++ [.taken me command] } ∧
      Holding ttl me command { s with queue, history := s.history ++ [.taken me command] } := by
  -- the command leaves the queue and enters the books at once
  have books : ({ s with queue, history := s.history ++ [.taken me command] } :
      MeshDevice).books = { s.books with taken := s.books.taken ++ [(me, command)] } := by
    rw [books_append _ rfl]
    rfl
  unfold Inv at inv
  rw [first] at inv
  refine ⟨fun task _ => ⟨?_, fun _ _ unwritten => ?_⟩, ⟨?_, ?_, ?_⟩⟩
  · rw [books]
    exact List.prefix_append _ _
  · rw [books]
    exact unwritten
  · unfold Inv
    rw [books]
    exact inv.take
  · rw [books]
    exact List.mem_append_right _ (List.mem_singleton_self _)
  · rw [books]
    exact inv.unwritten

theorem keeps_workerGot {c : TelinkConfig} (answer : Except PyError Unit) :
    (Telink.workerGot c answer).Keeps (outline c.commandTtl) me (Inv c.commandTtl) := by
  intro s inv
  apply wp_workerIteration
  cases answer with
  | error error =>
    dsimp only
    split
    · exact keeps_workerHead s inv
    · exact inv
  | ok _ =>
    rw [Coroutine.wp_read_bind]
    split
    · exact keeps_park (by intros; trivial) s inv
    · next command queue first =>
      obtain ⟨guarantees, holding⟩ := takes inv first
      rw [Coroutine.wp_currentTask_bind, Coroutine.wp_modify_bind]
      refine ⟨guarantees, ?_⟩
      unfold Telink.takeCommand
      rw [Coroutine.wp_read_bind]
      split
      · -- it has expired, and the worker goes on without it
        exact keeps_workerHead _ holding.inv
      · next young =>
        refine wp_awaitConnection holding fun _ => ⟨not_lt.mp young, ?_⟩
        rw [books_append _ rfl]
        simp [QueueBooks.after, QueueBooks.lastTaken]

theorem wp_workerWaited {c : TelinkConfig} {answer : Except PyError Unit}
    (goesOn : pre ttl me (.workerWaited command answer) s) :
    (Telink.workerWaited c command answer).wp (outline ttl) me (fun _ s => Inv ttl s) s := by
  obtain ⟨holding, may⟩ := goesOn
  apply wp_workerIteration
  cases answer with
  | ok _ => exact wp_awaitConnection holding (may (.inl rfl))
  | error error =>
    dsimp only
    split
    · next timeout =>
      subst timeout
      exact wp_awaitConnection holding (may (.inr rfl))
    · exact holding.inv

/-! ### The calls of the device -/

/-- A command is written down as enqueued when it is in the queue. -/
theorem enqueues (inv : Inv ttl s) (number : command.number = s.created)
    (queue : s'.queue = s.queue ++ [command]) (created : s'.created = s.created + 1)
    (history : s'.history = s.history) :
    (outline ttl).Guarantees me s' { s' with history := s'.history ++ [.enqueued command] } ∧
      Inv ttl { s' with history := s'.history ++ [.enqueued command] } := by
  have same : s'.books = s.books := by
    rw [MeshDevice.books, history]
    rfl
  have books : ({ s' with history := s'.history ++ [.enqueued command] } : MeshDevice).books =
      { s.books with enqueued := s.books.enqueued ++ [command] } := by
    rw [books_append _ rfl, same]
    rfl
  refine ⟨fun task _ => ⟨?_, fun _ _ unwritten => ?_⟩, ?_⟩
  · exact ⟨[], by rw [books, same, List.append_nil]⟩
  · rw [books]
    exact same ▸ unwritten
  · unfold Inv
    rw [books, queue, created]
    exact inv.enqueue number

theorem keeps_enqueue {c : TelinkConfig} (opcode : Nat) (params : Bytes) (destId : Nat) :
    (Telink.enqueue c opcode params destId).Keeps (outline ttl) me (Inv ttl) := by
  apply Coroutine.keeps_read_bind
  intro s inv
  split
  · exact inv
  · -- no task sees the command in the queue before it is written down
    refine ⟨fun _ _ => ⟨List.prefix_rfl, fun _ _ unwritten => unwritten⟩, ?_⟩
    exact enqueues inv rfl rfl rfl rfl

theorem keeps_start : Telink.start.Keeps (outline ttl) me (Inv ttl) := by
  have F := inv_fact ttl me
  apply Coroutine.keeps_read_bind
  intro s inv
  split
  · exact inv
  · refine Coroutine.Keeps.bind (F.update ?_) (fun _ => ?_) s inv
    · exact fun _ => ⟨rfl, rfl, .inl rfl⟩
    · intro s' inv' task _
      have beside : Beside s' { s' with workerTask := some task } := ⟨rfl, rfl, .inl rfl⟩
      exact ⟨fun _ _ _ _ => trivial, beside.guarantees, beside.inv inv'⟩

theorem keeps_stop : Telink.stop.Keeps (outline ttl) me (Inv ttl) := by
  have F := inv_fact ttl me
  apply Coroutine.keeps_read_bind
  intro s inv
  split
  · refine Coroutine.Keeps.bind (F.update ?_) (fun _ => Coroutine.Keeps.bind ?_ fun _ => ?_) s inv
    · exact fun _ => ⟨rfl, rfl, .inl rfl⟩
    · intro s' inv'
      exact Telink.wp_stopWorker (fun _ => inv') inv' (fun _ _ inv'' _ => inv'')
        fun _ _ inv'' => inv''
    · exact Coroutine.keeps_modify fun s' inv' =>
        ⟨fun _ _ => ⟨List.prefix_rfl, fun _ _ unwritten => unwritten⟩, inv'.drain⟩
  · exact inv

theorem keeps_linkDisconnect : Telink.linkDisconnect.Keeps (outline ttl) me (Inv ttl) := by
  intro s inv
  refine (freeLink ttl).wp_linkDisconnect inv fun _ => ?_
  have beside : Beside s { s with state := .disconnecting,
                                  history := s.history ++ [.disconnectBegins me s.state] } :=
    ⟨rfl, rfl, .inr ⟨_, rfl, fun _ => rfl⟩⟩
  exact ⟨beside.guarantees, beside.inv inv⟩

/-! ### Runs -/

theorem verifies (c : TelinkConfig) (entries : TelinkCode → Bool)
    (calls : ∀ code, entries code = true → (code.isLinkCall || code.isDeviceCall) = true) :
    (outline c.commandTtl).Verifies (telinkProgram c entries) where
  body code me s inv goesOn := by
    have L := freeLink c.commandTtl
    cases code with
    | linkConnect maxRetries => exact L.linkConnect c maxRetries s inv
    | linkDisconnect => exact keeps_linkDisconnect s inv
    | linkWrite packet => exact keeps_writeCommand s inv
    | connect maxRetries => exact L.connect c maxRetries keeps_start s inv
    | disconnect => exact keeps_stop.bind (fun _ => keeps_linkDisconnect) s inv
    | sendCommand opcode params destId => exact keeps_enqueue opcode params destId s inv
    | keepAliveLoop => exact L.keepAlive.keepAliveLoop s inv
    | keepAliveAwake answer => exact L.keepAlive.keepAliveAwake c answer s inv
    | worker => exact keeps_workerHead s inv
    | workerGot answer => exact keeps_workerGot answer s inv
    | workerWaited command answer => exact wp_workerWaited goesOn
    | workerRested answer =>
      exact (Telink.keeps_fromAnswer answer).bind (fun _ => keeps_workerHead) s inv
  entry code _ _ call _ _ := by
    have known := calls code call
    cases code with
    | workerWaited _ _ => cases known
    | _ => trivial
  environment duration s s' inv happens := by
    obtain ⟨_, rfl⟩ : 0 ≤ duration ∧ { s with now := s.now + duration } = s' := by
      simpa [telinkProgram, Telink.elapse] using happens
    exact ⟨inv, fun _ => ⟨List.prefix_rfl, fun _ _ unwritten => unwritten⟩⟩

theorem inv_idle (ttl : Rat) : Inv ttl {} where
  numbered := rfl
  known := by rintro _ ⟨⟩
  ordered := .nil
  once := .nil
  fresh := by rintro _ ⟨⟩
  created_eq := rfl
  queued := by rintro _ ⟨⟩
  takenKnown := by rintro _ ⟨⟩
  sorted := .nil
  reached := by rintro _ ⟨⟩
  writtenTaken := by rintro _ ⟨⟩

end SentInTurn

instance (ttl : Rat) (op : TelinkOp) (answer : Except PyError op.Answer) (s : MeshDevice) :
    Decidable ((sentInTurn ttl).answers op answer s) :=
  match op, answer with
  | .connectedWait _, .ok _ => inferInstanceAs (Decidable (_ → _))
  | .connectedWait _, .error _ => inferInstanceAs (Decidable (_ → _ → _))
  | .retrySleep _ _, .ok _ => inferInstanceAs (Decidable (_ → _))
  | .retrySleep _ _, .error _ => isTrue trivial
  | .findDevice, _ => isTrue trivial
  | .establishConnection, _ => isTrue trivial
  | .connectPause _ _, _ => isTrue trivial
  | .provision _, _ => isTrue trivial
  | .readFirmware _, _ => isTrue trivial
  | .startNotify _, _ => isTrue trivial
  | .disconnectClient _ _, _ => isTrue trivial
  | .writeCommand _ _, _ => isTrue trivial
  | .writeKeepAlive _ _, _ => isTrue trivial
  | .keepAliveSleep, _ => isTrue trivial
  | .queueGet, _ => isTrue trivial
  | .errorSleep, _ => isTrue trivial

instance (ttl : Rat) (site : CallSite) (result : Except PyError Unit) (s : MeshDevice) :
    Decidable ((sentInTurn ttl).joins site result s) :=
  match site, result with
  | .restart, .error _ => inferInstanceAs (Decidable (_ = false))
  | .restart, .ok _ => isTrue trivial
  | .disconnect, _ => isTrue trivial
  | .loss, _ => isTrue trivial
  | .provisioning, _ => isTrue trivial
  | .connect, _ => isTrue trivial
  | .stop, _ => isTrue trivial

instance (ttl : Rat) (code : TelinkCode) (s : MeshDevice) :
    Decidable ((sentInTurn ttl).starts code s) := isTrue trivial

namespace MeshDevice

/-- In every run in which a command that waited is sent only while it has not expired and no later
one was taken, all commands are sent in turn, at most once and before they expire. -/
theorem commands_inTurn {c : TelinkConfig} {events : List (LoopEvent telinkSignature Rat)}
    {w : EventLoop telinkSignature}
    (guarded : (telinkLinkSystem c).Guarded (sentInTurn c.commandTtl).Permits idle events)
    (ran : (telinkLinkSystem c).exec idle events = some w) :
    w.shared.books.InTurn c.commandTtl :=
  ((SentInTurn.verifies c _ fun _ => id).exec (SentInTurn.inv_idle _) guarded ran).toInTurn

/-- A command is written at the second attempt, and another one after it. -/
def retriedRun : List (LoopEvent telinkSignature Rat) :=
  [.enter (.connect 5), .start 0] ++ connectAnswers 0 7 ++
    [.answer 0 (.startNotify 7) (.ok ()), .start 1, .start 2,
      .enter (.sendCommand 0xD0 [0x01] 5), .enter (.sendCommand 0xD0 [0x00] 5), .start 3, .start 4,
      .answer 2 .queueGet (.ok ()),
      .answer 2 (.writeCommand 7 (samplePacket 0 0xD0 [0x01] 5)) (.error .osError),
      .answer 1 .keepAliveSleep (.error .cancelledError), .joined 2,
      .answer 2 (.disconnectClient 7 .loss) (.ok ()), .enter (.connect 5), .start 5] ++
    connectAnswers 5 8 ++
    [.answer 5 (.startNotify 8) (.ok ()), .start 6, .environment (1 / 2),
      .answer 2 (.retrySleep (1 / 2) (sampleSwitch 0 0x01)) (.ok ()),
      .answer 2 (.writeCommand 8 (samplePacket 1 0xD0 [0x01] 5)) (.ok ()),
      .answer 6 .keepAliveSleep (.error .cancelledError), .joined 2, .answer 2 .queueGet (.ok ()),
      .answer 2 (.writeCommand 8 (samplePacket 2 0xD0 [0x00] 5)) (.ok ())]

theorem retriedRun_inTurn :
    ∃ w ∈ (telinkLinkSystem sampleTelink).exec idle retriedRun,
      w.shared.books.written = [sampleSwitch 0 0x01, sampleSwitch 1 0x00] ∧
        w.shared.books.InTurn 60 := by
  have runs : ∃ w ∈ (telinkLinkSystem sampleTelink).exec idle retriedRun,
      w.shared.books.written = [sampleSwitch 0 0x01, sampleSwitch 1 0x00] := by
    decide +kernel
  obtain ⟨w, ran, written⟩ := runs
  exact ⟨w, ran, written, commands_inTurn (by decide +kernel) ran⟩

/-- A command waits 100 seconds for the connection. -/
def expiredRun : List (LoopEvent telinkSignature Rat) :=
  [.enter (.connect 5), .start 0] ++ connectAnswers 0 7 ++
    [.answer 0 (.startNotify 7) (.ok ()), .start 1, .start 2, .enter .linkDisconnect, .start 3,
      .answer 1 .keepAliveSleep (.error .cancelledError), .joined 3,
      .answer 3 (.disconnectClient 7 .disconnect) (.ok ()),
      .enter (.sendCommand 0xD0 [0x01] 5), .start 4, .answer 2 .queueGet (.ok ()),
      .environment 100, .enter (.connect 5), .start 5] ++ connectAnswers 5 8 ++
    [.answer 5 (.startNotify 8) (.ok ()),
      .answer 2 (.connectedWait (sampleSwitch 0 0x01)) (.ok ())]

/-- A worker outlives `disconnect`, because `_stop_keep_alive` keeps the cancellation to itself. -/
def overtakenRun : List (LoopEvent telinkSignature Rat) :=
  [.enter (.connect 5), .start 0] ++ connectAnswers 0 7 ++
    [.answer 0 (.startNotify 7) (.ok ()), .start 1, .start 2,
      .enter (.sendCommand 0xD0 [0x01] 5), .start 3, .answer 2 .queueGet (.ok ()),
      .answer 2 (.writeCommand 7 (samplePacket 0 0xD0 [0x01] 5)) (.error .osError),
      .enter .disconnect, .start 4, .answer 1 .keepAliveSleep (.error .cancelledError),
      .joined 2, .answer 2 (.disconnectClient 7 .loss) (.ok ()), .enter (.connect 5),
      .start 5] ++ connectAnswers 5 8 ++
    [.answer 5 (.startNotify 8) (.ok ()), .start 7, .enter (.sendCommand 0xD0 [0x00] 5),
      .start 8, .answer 7 .queueGet (.ok ()),
      .answer 2 (.retrySleep (1 / 2) (sampleSwitch 0 0x01)) (.ok ())]

/-- A command is sent that has expired while it waited; and one is sent again after a later one. -/
theorem expiredCommand_sent :
    (∃ w ∈ (telinkLinkSystem sampleTelink).exec idle expiredRun,
      w.shared.books.attempts = [(sampleSwitch 0 0x01, 100)] ∧ ¬w.shared.books.InTurn 60) ∧
    ∃ w ∈ (telinkLinkSystem sampleTelink).exec idle overtakenRun,
      w.shared.books.attempts = [(sampleSwitch 0 0x01, 0), (sampleSwitch 1 0x00, 0),
          (sampleSwitch 0 0x01, 0)] ∧ ¬w.shared.books.InTurn 60 := by
  constructor
  · have late : ∃ w ∈ (telinkLinkSystem sampleTelink).exec idle expiredRun,
        w.shared.books.attempts = [(sampleSwitch 0 0x01, 100)] := by
      decide +kernel
    obtain ⟨w, ran, attempts⟩ := late
    refine ⟨w, ran, attempts, fun inTurn => ?_⟩
    have fresh := inTurn.fresh (sampleSwitch 0 0x01, 100) (by rw [attempts]; simp)
    revert fresh
    decide +kernel
  · have overtaken : ∃ w ∈ (telinkLinkSystem sampleTelink).exec idle overtakenRun,
        w.shared.books.attempts = [(sampleSwitch 0 0x01, 0), (sampleSwitch 1 0x00, 0),
          (sampleSwitch 0 0x01, 0)] := by
      decide +kernel
    obtain ⟨w, ran, attempts⟩ := overtaken
    refine ⟨w, ran, attempts, fun inTurn => ?_⟩
    have ordered := inTurn.ordered
    rw [attempts] at ordered
    revert ordered
    decide

end MeshDevice

end TuyaBleMesh
