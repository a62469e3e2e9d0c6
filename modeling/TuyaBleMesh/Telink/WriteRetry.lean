import TuyaBleMesh.Lib.Hex
import TuyaBleMesh.Lib.Solo
import TuyaBleMesh.Telink.Device

/-!
# The retries of a write

`_send_now` among other tasks. A write that fails with an `OSError` makes
`write_command` tear the session down, so that the next attempt finds no session
unless somebody has connected the device again in between.
-/

namespace TuyaBleMesh

abbrev TelinkAwaited := Awaited telinkSignature

namespace Telink

open Coroutine

/-- The packet that is written, and the answer to the write. -/
def writeOf : TelinkAwaited → Option (Bytes × Except PyError Unit)
  | .call (.writeCommand _ packet) _ answer _ => some (packet, answer)
  | _ => none

/-- The state after a pause before the next attempt. -/
def pauseOf : TelinkAwaited → Option MeshDevice
  | .call (.retrySleep _ _) _ _ resumed => some resumed
  | _ => none

/-- The exception that comes out of what is awaited when a session is torn down or the keep-alive
task is replaced. -/
def raisedBy : TelinkAwaited → Option PyError
  | .call (.disconnectClient _ _) _ (.error error) _ => if error.isOsError then none else some error
  | .join _ _ _ (.error error) _ => if error = .cancelledError then none else some error
  | _ => none

/-- `_send_now` with a number of attempts. -/
def sendNowUpTo (c : TelinkConfig) (command : QueuedCommand) : (maxRetries : Nat) → Telink Unit
  | 0 => raise (.meshConnectionError
      s!"Command 0x{hexUpper 2 command.opcode} failed after 0 attempts")
  | left + 1 => do
    match ← sendAttempt c command with
    | none => pure ()
    | some error => sendAgain c command error left _COMMAND_RETRY_INITIAL_BACKOFF

theorem sendNow_eq (c : TelinkConfig) (command : QueuedCommand) :
    sendNow c command = sendNowUpTo c command DEFAULT_COMMAND_MAX_RETRIES := rfl

/-- The errors that `_send_now` answers with another attempt. -/
def isResent (error : PyError) : Bool :=
  !error.isDisconnectedError && (error.isMeshConnectionError || error.isOsError)

/-! ### What is awaited beside the writes -/

/-- The exception that has come out of what was awaited. -/
def raised (tail : List TelinkAwaited) : Option PyError := tail.findSome? raisedBy

def outcome (error : Option PyError) : Except PyError Unit :=
  match error with
  | none => .ok ()
  | some error => .error error

/-- What is awaited is of the kind, up to an exception. -/
structure IsTail (kind : TelinkAwaited → Prop) (tail : List TelinkAwaited) : Prop where
  kinds : ∀ entry ∈ tail, kind entry
  once : ∀ entry ∈ tail, ∀ error, raisedBy entry = some error → raised tail = some error

/-- The code awaits what is of the kind, and raises what comes out of that. -/
def Awaits (env : Surroundings telinkSignature) (kind : TelinkAwaited → Prop)
    (code : Telink Unit) : Prop :=
  ∀ past s, ∃ tail s',
    code.play env past s = ⟨past ++ tail, s', some (outcome (raised tail))⟩ ∧ IsTail kind tail

section Awaits

variable {env : Surroundings telinkSignature} {kind : TelinkAwaited → Prop}

theorem isTail_nil : IsTail kind [] where
  kinds entry member := by cases member
  once entry member := by cases member

theorem isTail_singleton {entry : TelinkAwaited} (is : kind entry) : IsTail kind [entry] where
  kinds other member := by
    rw [List.mem_singleton.mp member]
    exact is
  once other member error raises := by
    rw [List.mem_singleton.mp member] at raises
    rw [raised, List.findSome?_cons, raises]

theorem awaits_pure : Awaits env kind (pure ()) :=
  fun past s => ⟨[], s, by rw [List.append_nil]; rfl, isTail_nil⟩

theorem awaits_update (f : MeshDevice → MeshDevice) : Awaits env kind (update f) :=
  fun past s => ⟨[], f s, by rw [List.append_nil]; rfl, isTail_nil⟩

/-- The second part is awaited when nothing has come out of the first. -/
theorem Awaits.bind {first second : Telink Unit} (one : Awaits env kind first)
    (two : Awaits env kind second) : Awaits env kind (do first; second) := by
  intro past s
  obtain ⟨tail, s', played, isTail⟩ := one past s
  rw [play_bind, played]
  cases stops : raised tail with
  | some error => exact ⟨tail, s', by rw [stops]; rfl, isTail⟩
  | none =>
    obtain ⟨rest, s'', played', isTail'⟩ := two (past ++ tail) s'
    have last : raised (tail ++ rest) = raised rest := by
      rw [raised, List.findSome?_append, show tail.findSome? _ = none from stops, Option.none_or,
        raised]
    refine ⟨tail ++ rest, s'', ?_, ?_, ?_⟩
    · rw [last, ← List.append_assoc]
      exact played'
    · intro entry member
      rcases List.mem_append.mp member with member | member
      · exact isTail.kinds entry member
      · exact isTail'.kinds entry member
    · intro entry member error raises
      rw [last]
      rcases List.mem_append.mp member with member | member
      · have first := isTail.once entry member error raises
        rw [stops] at first
        cases first
      · exact isTail'.once entry member error raises

/-- The final part is one that awaits nothing. -/
theorem Awaits.ensuring {body : Telink Unit} (awaits : Awaits env kind body)
    (f : MeshDevice → MeshDevice) : Awaits env kind (body.ensuring (update f)) := by
  intro past s
  obtain ⟨tail, s', played, isTail⟩ := awaits past s
  refine ⟨tail, f s', ?_, isTail⟩
  rw [Coroutine.ensuring, play_bind, play_onError, played]
  cases raised tail with
  | none => rfl
  | some error => rfl

/-- The keep-alive task is cancelled and waited for, if there is one. -/
theorem awaits_stopKeepAlive {site : CallSite}
    (joins : ∀ task state result resumed, kind (.join site task state result resumed)) :
    Awaits env kind (stopKeepAlive site) := by
  intro past s
  unfold stopKeepAlive
  rw [play_read_bind]
  cases timer : s.keepAliveTask with
  | none => exact awaits_pure past s
  | some task =>
    rw [play_cancelTask_bind]
    refine Awaits.bind ?_ (awaits_update _) past s
    intro past s
    refine ⟨[.join site task s (env.joined past site task s).1 (env.joined past site task s).2],
      (env.joined past site task s).2, ?_, isTail_singleton (joins _ _ _ _)⟩
    rw [suppressCancelled, play_onError, play_joinTask]
    cases joined : (env.joined past site task s).1 with
    | ok _ => rfl
    | error error =>
      simp only [Played.orElse, raised, List.findSome?_cons, List.findSome?_nil, raisedBy]
      split
      · rfl
      · rfl

/-- The client is disconnected, if there is one. -/
theorem awaits_dropClient {site : CallSite}
    (disconnects : ∀ client state answer resumed,
      kind (.call (.disconnectClient client site) state answer resumed)) :
    Awaits env kind (dropClient site) := by
  intro past s
  unfold dropClient
  rw [play_read_bind]
  cases present : s.client with
  | none => exact awaits_pure past s
  | some client =>
    refine Awaits.bind ?_ (awaits_update _) past s
    intro past s
    refine ⟨[.call (.disconnectClient client site) s
        (env.answer past (.disconnectClient client site) s).1
        (env.answer past (.disconnectClient client site) s).2],
      (env.answer past (.disconnectClient client site) s).2, ?_,
      isTail_singleton (disconnects _ _ _ _)⟩
    rw [play_onError, play_call]
    cases answered : (env.answer past (.disconnectClient client site) s).1 with
    | ok _ => rfl
    | error error =>
      simp only [Played.orElse, raised, List.findSome?_cons, List.findSome?_nil, raisedBy]
      split
      · rfl
      · rfl

end Awaits

/-- What is awaited while a lost connection is cleaned up. -/
def InTeardown : TelinkAwaited → Prop
  | .join .loss _ _ _ _ => True
  | .call (.disconnectClient _ .loss) _ _ _ => True
  | _ => False

/-- What is awaited after a write that was accepted. -/
def InRestart : TelinkAwaited → Prop
  | .join .restart _ _ _ _ => True
  | _ => False

theorem awaits_handleDisconnect (env : Surroundings telinkSignature) :
    Awaits env InTeardown handleDisconnect := by
  intro past s
  unfold handleDisconnect
  rw [play_read_bind]
  split
  · exact awaits_pure past s
  · rw [play_currentTask_bind]
    have cleans : Awaits env InTeardown (cleanup .loss) := by
      refine (awaits_stopKeepAlive fun _ _ _ _ => trivial).bind ?_
      refine (awaits_update _).bind ?_
      refine Awaits.bind ((awaits_update _).bind (awaits_update _)) ?_
      exact (awaits_dropClient fun _ _ _ _ => trivial).bind (awaits_update _)
    have calls : Awaits env InTeardown (onDisconnect env.me) :=
      (awaits_update _).bind (awaits_update _)
    exact (awaits_update _).bind ((cleans.bind calls).ensuring _) past s

theorem awaits_restartKeepAlive (env : Surroundings telinkSignature) :
    Awaits env InRestart restartKeepAlive := by
  intro past s
  unfold restartKeepAlive
  rw [play_read_bind]
  split
  · refine Awaits.bind (awaits_stopKeepAlive fun _ _ _ _ => trivial) ?_ past s
    intro past s
    rw [play_createTask_bind]
    exact awaits_update _ past s
  · exact awaits_pure past s

/-! ### One attempt -/

variable (c : TelinkConfig) (command : QueuedCommand)

/-- The session is up, and the command has a packet in it. -/
structure CanSend (s : MeshDevice) (client : Client) (packet : Bytes) : Prop where
  state : s.state = .ready
  client : s.client = some client
  encoded : ∃ key, s.sessionKey = some key ∧ encodeCommandPacket c.suite key c.macBytes s.sequence
    command.destId command.opcode command.params c.vendorId = .ok packet

/-- What `write_command` raises, from the answer to the write and what is awaited after it. -/
def writeError (answer : Except PyError Unit) (tail : List TelinkAwaited) : Option PyError :=
  match answer with
  | .ok _ => raised tail
  | .error error =>
    if error.isOsError then
      some ((raised tail).getD (.meshConnectionError s!"Write failed to {c.address}"))
    else some error

/-- What is awaited after a write with the answer. -/
def AfterWrite : Except PyError Unit → TelinkAwaited → Prop
  | .ok _ => InRestart
  | .error _ => InTeardown

/-- How an attempt ends whose write raises the error or none. -/
def attemptResult : Option PyError → Except PyError (Option PyError)
  | none => .ok none
  | some error => if isResent error then .ok (some error) else .error error

variable {c command} {env : Surroundings telinkSignature} {past : List TelinkAwaited}
  {s : MeshDevice}

theorem attempt_handler (error : PyError) :
    (if error.isDisconnectedError then raise error
      else if error.isMeshConnectionError || error.isOsError then pure (some error)
      else raise error : Telink (Option PyError)) = .done (attemptResult (some error)) := by
  unfold attemptResult isResent
  dsimp only
  cases error.isDisconnectedError with
  | true => rfl
  | false =>
    cases error.isMeshConnectionError || error.isOsError with
    | true => rfl
    | false => rfl

/-- `write_command` in a session. -/
theorem play_writeCommand (c : TelinkConfig) (command : QueuedCommand)
    (env : Surroundings telinkSignature) (past : List TelinkAwaited) {s : MeshDevice}
    {client : Client} (packet : Bytes) (ready : s.state = .ready)
    (connected : s.client = some client) :
    ∃ tail s', (writeCommand c (some command) packet).play env past s =
        ⟨past ++ .call (.writeCommand client packet) s
            (env.answer past (.writeCommand client packet) s).1
            (env.answer past (.writeCommand client packet) s).2 :: tail, s',
          some (outcome (writeError c (env.answer past (.writeCommand client packet) s).1 tail))⟩ ∧
      IsTail (AfterWrite (env.answer past (.writeCommand client packet) s).1) tail := by
  unfold writeCommand
  rw [play_read_bind, ready, connected]
  dsimp only
  rw [play_bind, play_onError, play_call]
  generalize env.answer past (.writeCommand client packet) s = answered
  obtain ⟨answer, resumed⟩ := answered
  cases answer with
  | ok _ =>
    -- the write was accepted, and the keep-alive is started anew
    have goesOn : Awaits env InRestart (do noteWritten (some command); restartKeepAlive) :=
      (awaits_update _).bind (awaits_restartKeepAlive env)
    obtain ⟨tail, s', played, isTail⟩ := goesOn
      (past ++ [.call (.writeCommand client packet) s (.ok ()) resumed]) resumed
    refine ⟨tail, s', ?_, isTail⟩
    rw [List.append_cons past _ tail]
    exact played
  | error error =>
    -- only an `OSError` is followed by the clean-up, which may raise another error
    simp only [Played.orElse, AfterWrite, writeError]
    split
    · obtain ⟨tail, s', played, isTail⟩ := awaits_handleDisconnect env
        (past ++ [.call (.writeCommand client packet) s (.error error) resumed]) resumed
      refine ⟨tail, s', ?_, isTail⟩
      rw [play_bind, played, List.append_cons past _ tail]
      cases raised tail with
      | none => rfl
      | some error => rfl
    · exact ⟨[], resumed, rfl, isTail_nil⟩

theorem play_nextSequence_bind {β : Type} (rest : Nat → Telink β) :
    (nextSequence >>= rest).play env past s = (rest s.sequence).play env past
      { s with sequence := (s.sequence + 1) &&& _MAX_SEQUENCE } := rfl

/-- An attempt in a session writes the packet. -/
theorem play_attempt (env : Surroundings telinkSignature) (past : List TelinkAwaited)
    {client : Client} {packet : Bytes} (can : CanSend c command s client packet) :
    ∃ answer state resumed tail s', (sendAttempt c command).play env past s =
        ⟨past ++ .call (.writeCommand client packet) state answer resumed :: tail, s',
          some (attemptResult (writeError c answer tail))⟩ ∧
      answer = (env.answer past (.writeCommand client packet) state).1 ∧
      IsTail (AfterWrite answer) tail := by
  obtain ⟨ready, connected, key, session, encoded⟩ := can
  -- the number has been drawn, and the attempt written down
  let state : MeshDevice := { s with
    sequence := (s.sequence + 1) &&& _MAX_SEQUENCE
    history := s.history ++ [.attempted command s.now] }
  obtain ⟨tail, s', played, isTail⟩ := play_writeCommand c command env past (s := state) packet
    ready connected
  refine ⟨_, state, (env.answer past (.writeCommand client packet) state).2, tail, s', ?_, rfl,
    isTail⟩
  unfold sendAttempt
  rw [play_read_bind, session]
  dsimp only
  rw [play_nextSequence_bind, encoded]
  show (onError (do writeCommand c (some command) packet; return none) _).play env past state = _
  rw [play_onError, play_bind, played]
  cases writeError c (env.answer past (.writeCommand client packet) state).1 tail with
  | none => rfl
  | some error =>
    simp only [outcome, Played.andThen, Played.orElse, attempt_handler]
    rfl

/-- Without a session an attempt raises before it writes. -/
theorem play_attempt_down (env : Surroundings telinkSignature) (past : List TelinkAwaited)
    (down : ∀ client packet, ¬CanSend c command s client packet) :
    ∃ s' error, (sendAttempt c command).play env past s = ⟨past, s', some (.error error)⟩ := by
  unfold sendAttempt
  rw [play_read_bind]
  cases session : s.sessionKey with
  | none => exact ⟨s, _, rfl⟩
  | some key =>
    dsimp only
    rw [play_nextSequence_bind]
    cases encoded : encodeCommandPacket c.suite key c.macBytes s.sequence command.destId
        command.opcode command.params c.vendorId with
    | error error => exact ⟨_, error, rfl⟩
    | ok packet =>
      -- the packet is made and the attempt noted before the session turns out to be down
      let state : MeshDevice := { s with
        sequence := (s.sequence + 1) &&& _MAX_SEQUENCE
        history := s.history ++ [.attempted command s.now] }
      have raises : (writeCommand c (some command) packet).play env past state =
          ⟨past, state, some (.error (.disconnectedError "Not connected"))⟩ := by
        unfold writeCommand
        rw [play_read_bind]
        split
        · next client ready connected =>
          exact absurd ⟨ready, connected, key, session, encoded⟩ (down client packet)
        · rfl
      refine ⟨state, .disconnectedError "Not connected", ?_⟩
      show (onError (do writeCommand c (some command) packet; return none) _).play env past state = _
      rw [play_onError, play_bind, raises]
      rfl

/-! ### All attempts -/

def writesIn (past : List TelinkAwaited) : List (Bytes × Except PyError Unit) :=
  past.filterMap writeOf

/-- A transient error of the link. -/
def IsTransient (answer : Except PyError Unit) : Prop :=
  ∃ error, answer = .error error ∧ (error.isOsError = true ∨ error = .bleakError)

/-- The writes of the call end as the link says, one after the other, and the Bluetooth library
raises none of the package's own errors; everything else is open. -/
structure Follows (env : Surroundings telinkSignature) (link : Nat → Except PyError Unit) :
    Prop where
  writes : ∀ past client packet s,
    (env.answer past (.writeCommand client packet) s).1 = link (writesIn past).length
  foreign : ∀ n error, link n = .error error → error.isMeshConnectionError = false

/-- What is promised of the attempts from the `n`-th write on, after the first of which `left` may
follow. -/
structure LawFrom (link : Nat → Except PyError Unit) (n left : Nat) (new : List TelinkAwaited)
    (result : Except PyError Unit) : Prop where
  returns : ∀ k ≤ left, (∀ i < k, IsTransient (link (n + i))) → link (n + k) = .ok () →
    result = .ok () ∧ (writesIn new).length = k + 1
  raises : ∀ error, result = .error error →
    (writesIn new).length = left + 1 ∧ ∀ i ≤ left, link (n + i) ≠ .ok ()

variable (c command)

/-- What is awaited leaves the call on its way, when `left` attempts may follow. -/
def MildAt (left : Nat) : TelinkAwaited → Prop
  | .call (.writeCommand _ _) _ (.error error) _ => error.isOsError = true ∨ left = 0
  | .join .restart _ _ (.error error) _ => error = .cancelledError
  | .call (.retrySleep _ _) _ answer resumed =>
    answer = .ok () ∧ ∃ client packet, CanSend c command resumed client packet
  | entry => ∀ error, raisedBy entry = some error → isResent error = true ∨ left = 0

def Mild : (left : Nat) → List TelinkAwaited → Prop
  | _, [] => True
  | left, entry :: rest =>
    MildAt c command left entry ∧ Mild (if (pauseOf entry).isSome then left - 1 else left) rest

/-- An attempt and those that may follow it. -/
def attempts (left : Nat) (backoff : Rat) : Telink Unit := do
  match ← sendAttempt c command with
  | none => pure ()
  | some error => sendAgain c command error left backoff

theorem sendAgain_succ (error : PyError) (left : Nat) (backoff : Rat) :
    sendAgain c command error (left + 1) backoff = (do
      Telink.call (.retrySleep backoff command)
      attempts c command left (backoff * _COMMAND_RETRY_BACKOFF_MULTIPLIER)) := rfl

variable {c command} {link : Nat → Except PyError Unit} {n left : Nat}
  {tail new : List TelinkAwaited} {result : Except PyError Unit}

theorem mild_append (quiet : ∀ entry ∈ tail, pauseOf entry = none) :
    Mild c command left (tail ++ new) ↔
      (∀ entry ∈ tail, MildAt c command left entry) ∧ Mild c command left new := by
  induction tail with
  | nil => simp
  | cons entry tail ih =>
    have quiet' : pauseOf entry = none := quiet entry List.mem_cons_self
    have rest := ih fun other member => quiet other (List.mem_cons_of_mem _ member)
    rw [List.cons_append, Mild, quiet']
    simp only [Option.isSome_none, Bool.false_eq_true, if_false]
    rw [rest, List.forall_mem_cons, and_assoc]

/-- What is awaited beside the pauses. -/
theorem mild_quiet (quiet : ∀ entry ∈ tail, pauseOf entry = none) :
    Mild c command left tail ↔ ∀ entry ∈ tail, MildAt c command left entry := by
  have whole : Mild c command left (tail ++ []) ↔
      (∀ entry ∈ tail, MildAt c command left entry) ∧ Mild c command left [] := mild_append quiet
  rw [List.append_nil] at whole
  exact whole.trans (and_iff_left trivial)

theorem afterWrite_quiet {answer : Except PyError Unit} {entry : TelinkAwaited}
    (kind : AfterWrite answer entry) : pauseOf entry = none ∧ writeOf entry = none := by
  cases answer with
  | ok _ =>
    cases entry with
    | join site task state result resumed => exact ⟨rfl, rfl⟩
    | call op state answer resumed => cases kind
  | error error =>
    cases entry with
    | join site task state result resumed => exact ⟨rfl, rfl⟩
    | call op state answer resumed =>
      cases op with
      | disconnectClient client site => exact ⟨rfl, rfl⟩
      | _ => cases kind

theorem writesIn_quiet {answer : Except PyError Unit} (isTail : IsTail (AfterWrite answer) tail) :
    writesIn tail = [] :=
  List.filterMap_eq_nil_iff.mpr fun entry member => (afterWrite_quiet (isTail.kinds entry member)).2

/-- After an accepted write nothing may come out of the keep-alive task. -/
theorem mild_restart (isTail : IsTail InRestart tail) :
    (∀ entry ∈ tail, MildAt c command left entry) ↔ raised tail = none := by
  have mild : ∀ entry, InRestart entry →
      (MildAt c command left entry ↔ raisedBy entry = none) := by
    intro entry kind
    cases entry with
    | call op state answer resumed => cases kind
    | join site task state result resumed =>
      cases site with
      | restart =>
        cases result with
        | ok _ => simp [MildAt, raisedBy]
        | error error => simp [MildAt, raisedBy]
      | _ => cases kind
  rw [raised, List.findSome?_eq_none_iff]
  constructor
  · exact fun all entry member => (mild entry (isTail.kinds entry member)).mp (all entry member)
  · exact fun all entry member => (mild entry (isTail.kinds entry member)).mpr (all entry member)

/-- What comes out of the clean-up must be an error that is answered with another attempt. -/
theorem mild_teardown (isTail : IsTail InTeardown tail) :
    (∀ entry ∈ tail, MildAt c command left entry) ↔
      ∀ error, raised tail = some error → isResent error = true ∨ left = 0 := by
  have mild : ∀ entry, InTeardown entry → (MildAt c command left entry ↔
      ∀ error, raisedBy entry = some error → isResent error = true ∨ left = 0) := by
    intro entry kind
    cases entry with
    | call op state answer resumed =>
      cases op with
      | disconnectClient client site => exact Iff.rfl
      | _ => cases kind
    | join site task state result resumed =>
      cases site with
      | loss => exact Iff.rfl
      | _ => cases kind
  constructor
  · intro all error stops
    obtain ⟨entry, member, raises⟩ := List.exists_of_findSome?_eq_some stops
    exact (mild entry (isTail.kinds entry member)).mp (all entry member) error raises
  · intro all entry member
    refine (mild entry (isTail.kinds entry member)).mpr fun error raises => ?_
    exact all error (isTail.once entry member error raises)

/-! ### The law of the attempts -/

/-- The sequence number in a packet. -/
def numberOf (packet : Bytes) : Nat := Bytes.beValue (packet.take 3).reverse

theorem CanSend.number {client : Client} {packet : Bytes} (can : CanSend c command s client packet) :
    numberOf packet = s.sequence := by
  obtain ⟨-, -, key, -, encoded⟩ := can
  unfold encodeCommandPacket sequenceBytes at encoded
  split at encoded
  · next fits =>
    obtain ⟨_, ⟨⟩, encoded⟩ := bind_eq_ok.mp encoded
    obtain ⟨nonce, -, encoded⟩ := bind_eq_ok.mp encoded
    obtain ⟨payload, -, encoded⟩ := bind_eq_ok.mp encoded
    obtain ⟨checksum, -, encoded⟩ := bind_eq_ok.mp encoded
    obtain ⟨encrypted, -, made⟩ := bind_eq_ok.mp encoded
    have first : packet.take 3 = (Bytes.beBytes 3 s.sequence).reverse := by
      rw [← Except.ok.inj made, List.append_assoc]
      exact List.take_left' (by rw [List.length_reverse, Bytes.beBytes_length])
    rw [numberOf, first, List.reverse_reverse, Bytes.beValue_beBytes fits]
  · cases encoded

/-- The numbers drawn in the states after the pauses. -/
def numbersIn (past : List TelinkAwaited) : List Nat := (past.filterMap pauseOf).map (·.sequence)

/-- An attempt that raises ends the call after one write. -/
theorem lawFrom_raised {client : Client} {packet : Bytes} {state resumed : MeshDevice}
    {answer : Except PyError Unit} {error : PyError} (isTail : IsTail (AfterWrite answer) tail)
    (answered : answer = link n) :
    LawFrom link n left (.call (.writeCommand client packet) state answer resumed :: tail)
      (.error error) ↔ left = 0 ∧ ∃ failure, answer = .error failure := by
  have one : (writesIn (.call (.writeCommand client packet) state answer resumed :: tail)).length
      = 1 := by
    show ((packet, answer) :: writesIn tail).length = 1
    rw [writesIn_quiet isTail]
    rfl
  constructor
  · intro law
    obtain ⟨count, failed⟩ := law.raises error rfl
    -- one write is all that there is, so no other one was allowed
    have last : left = 0 := by omega
    refine ⟨last, ?_⟩
    cases answer with
    | ok _ => exact absurd answered.symm (failed 0 (Nat.zero_le _))
    | error failure => exact ⟨failure, rfl⟩
  · rintro ⟨rfl, failure, rfl⟩
    refine ⟨fun k within _ accepted => ?_, fun _ _ => ⟨one, fun i within accepted => ?_⟩⟩
    · rw [Nat.le_zero.mp within, Nat.add_zero, ← answered] at accepted
      cases accepted
    · rw [Nat.le_zero.mp within, Nat.add_zero, ← answered] at accepted
      cases accepted

/-- It leaves the call on its way when it is the last that is allowed, and the write has failed. -/
theorem mild_raised {client : Client} {packet : Bytes} {state resumed : MeshDevice}
    {answer : Except PyError Unit} {error : PyError} (isTail : IsTail (AfterWrite answer) tail)
    (raises : writeError c answer tail = some error) (isOver : isResent error = false ∨ left = 0) :
    Mild c command left (.call (.writeCommand client packet) state answer resumed :: tail) ↔
      left = 0 ∧ ∃ failure, answer = .error failure := by
  have quiet : ∀ entry ∈ tail, pauseOf entry = none :=
    fun entry member => (afterWrite_quiet (isTail.kinds entry member)).1
  show MildAt c command left _ ∧ Mild c command left tail ↔ _
  cases answer with
  | ok _ =>
    rw [mild_quiet quiet, mild_restart isTail, show raised tail = some error from raises]
    simp
  | error failure =>
    rw [mild_quiet quiet, mild_teardown isTail]
    simp only [MildAt]
    constructor
    · rintro ⟨first, cleaned⟩
      refine ⟨?_, failure, rfl⟩
      rcases isOver with isOver | isOver
      · rw [writeError] at raises
        split at raises
        · next os =>
          -- the error of the clean-up has taken the place of the one for the failed write
          cases stops : raised tail with
          | none =>
            rw [stops] at raises
            cases raises
            cases isOver
          | some other =>
            rw [stops] at raises
            cases raises
            refine (cleaned _ stops).resolve_left ?_
            rw [Bool.not_eq_true]
            exact isOver
        · next os => exact first.resolve_left os
      · exact isOver
    · rintro ⟨rfl, -⟩
      exact ⟨.inr rfl, fun _ _ => .inr rfl⟩

/-- An error that is answered with another attempt, after a failed write. -/
theorem mild_resent (follows : Follows env link) (c : TelinkConfig) (command : QueuedCommand)
    (left : Nat) (new : List TelinkAwaited) (client : Client) (packet : Bytes)
    (state resumed : MeshDevice) {failure error : PyError}
    (isTail : IsTail (AfterWrite (.error failure)) tail) (answered : link n = .error failure)
    (raises : writeError c (.error failure) tail = some error) (resent : isResent error = true) :
    failure.isOsError = true ∧
      (Mild c command left
          (.call (.writeCommand client packet) state (.error failure) resumed :: tail ++ new) ↔
        Mild c command left new) := by
  -- no other error of the link is answered with another attempt
  have os : failure.isOsError = true := by
    rw [writeError] at raises
    split at raises
    · assumption
    · next other =>
      obtain rfl := Option.some.inj raises
      have foreign := follows.foreign n failure answered
      unfold isResent at resent
      simp [foreign, other] at resent
  refine ⟨os, ?_⟩
  have quiet : ∀ entry ∈ tail, pauseOf entry = none :=
    fun entry member => (afterWrite_quiet (isTail.kinds entry member)).1
  have cleaned : ∀ other, raised tail = some other → isResent other = true ∨ left = 0 := by
    intro other stops
    rw [writeError, if_pos os, stops] at raises
    obtain rfl := Option.some.inj raises
    exact .inl resent
  show MildAt c command left _ ∧ Mild c command left (tail ++ new) ↔ _
  rw [mild_append quiet, mild_teardown isTail]
  exact ⟨fun mild => mild.2.2, fun mild => ⟨.inl os, cleaned, mild⟩⟩

/-- What is said of the attempts that are still to come. -/
structure Attempted (link : Nat → Except PyError Unit) (n left : Nat) (new : List TelinkAwaited)
    (result : Except PyError Unit) (mild : Prop) (numbers : List Nat) : Prop where
  law : LawFrom link n left new result ↔ mild
  writes : (∃ error, result = .error error) ∨ 0 < (writesIn new).length
  numbers : mild → (writesIn new).map (fun write => numberOf write.1) = numbers

/-- After a failed write, what is promised is promised of the attempts that follow. -/
theorem lawFrom_succ {client : Client} {packet : Bytes} {state resumed : MeshDevice}
    {failure : PyError} (os : failure.isOsError = true) (answered : link n = .error failure)
    (isTail : IsTail (AfterWrite (.error failure)) tail) :
    LawFrom link n (left + 1)
        (.call (.writeCommand client packet) state (.error failure) resumed :: tail ++ new) result ↔
      LawFrom link (n + 1) left new result := by
  have count : (writesIn (.call (.writeCommand client packet) state (.error failure) resumed ::
      tail ++ new)).length = (writesIn new).length + 1 := by
    show ((packet, _) :: writesIn (tail ++ new)).length = _
    rw [writesIn, List.filterMap_append, ← writesIn, ← writesIn, writesIn_quiet isTail,
      List.nil_append, List.length_cons]
  -- the write that has failed is the first of those that are allowed
  have shift : ∀ i, n + (i + 1) = n + 1 + i := fun i => by omega
  constructor
  · intro law
    constructor
    · intro k within failed accepted
      -- an acceptance after `k` more writes is one after `k + 1`
      have later : ∀ i < k + 1, IsTransient (link (n + i)) := by
        intro i before
        cases i with
        | zero => exact ⟨failure, answered, .inl os⟩
        | succ i =>
          rw [shift]
          exact failed i (Nat.lt_of_succ_lt_succ before)
      obtain ⟨returned, written⟩ := law.returns (k + 1) (Nat.succ_le_succ within) later
        (by rw [shift]; exact accepted)
      exact ⟨returned, by omega⟩
    · intro error raises
      obtain ⟨written, failed⟩ := law.raises error raises
      refine ⟨by omega, fun i within => ?_⟩
      rw [← shift]
      exact failed (i + 1) (Nat.succ_le_succ within)
  · intro law
    constructor
    · intro k within failed accepted
      cases k with
      | zero =>
        rw [Nat.add_zero, answered] at accepted
        cases accepted
      | succ k =>
        have later : ∀ i < k, IsTransient (link (n + 1 + i)) := by
          intro i before
          rw [← shift]
          exact failed (i + 1) (Nat.succ_lt_succ before)
        obtain ⟨returned, written⟩ := law.returns k (Nat.le_of_succ_le_succ within) later
          (by rw [← shift]; exact accepted)
        exact ⟨returned, by omega⟩
    · intro error raises
      obtain ⟨written, failed⟩ := law.raises error raises
      refine ⟨by omega, fun i within => ?_⟩
      cases i with
      | zero =>
        rw [Nat.add_zero, answered]
        rintro ⟨⟩
      | succ i =>
        rw [shift]
        exact failed i (Nat.le_of_succ_le_succ within)

/-- A pause after which there is no attempt. -/
theorem attempted_stopped {delay : Rat} {state resumed : MeshDevice}
    {answer : Except PyError Unit} {error : PyError}
    (stopped : ¬(answer = .ok () ∧ ∃ client packet, CanSend c command resumed client packet)) :
    let pause : TelinkAwaited := .call (.retrySleep delay command) state answer resumed
    Attempted link n left [pause] (.error error) (Mild c command (left + 1) [pause])
      (numbersIn [pause]) where
  law := by
    constructor
    · intro law
      obtain ⟨written, -⟩ := law.raises error rfl
      cases written
    · exact fun mild => absurd mild.1 stopped
  writes := .inl ⟨error, rfl⟩
  numbers mild := absurd mild.1 stopped

/-- The attempts after a pause, given what is known of an attempt in a session. -/
theorem attempted_again (env : Surroundings telinkSignature) (s : MeshDevice)
    (ih : ∀ past s backoff client packet, (writesIn past).length = n →
      CanSend c command s client packet →
      ∃ new s' result, (attempts c command left backoff).play env past s =
          ⟨past ++ new, s', some result⟩ ∧
        Attempted link n left new result (Mild c command left new) (s.sequence :: numbersIn new))
    (error : PyError) (backoff : Rat) (count : (writesIn past).length = n) :
    ∃ new s' result, (sendAgain c command error (left + 1) backoff).play env past s =
        ⟨past ++ new, s', some result⟩ ∧
      Attempted link n left new result (Mild c command (left + 1) new) (numbersIn new) := by
  -- the pause is awaited first, and may have left the session down
  rw [sendAgain_succ, play_bind, Telink.call, play_call]
  generalize env.answer past (.retrySleep backoff command) s = answered
  obtain ⟨answer, resumed⟩ := answered
  let pause : TelinkAwaited := .call (.retrySleep backoff command) s answer resumed
  cases answer with
  | error stopped => exact ⟨[pause], resumed, _, rfl, attempted_stopped (by rintro ⟨⟨⟩, -⟩)⟩
  | ok _ =>
    by_cases up : ∃ client packet, CanSend c command resumed client packet
    · obtain ⟨client, packet, can⟩ := up
      have count' : (writesIn (past ++ [pause])).length = n := by
        rw [writesIn, List.filterMap_append, ← writesIn, List.length_append, count]
        rfl
      obtain ⟨new, s', result, played, attempted⟩ := ih (past ++ [pause]) resumed
        (backoff * _COMMAND_RETRY_BACKOFF_MULTIPLIER) client packet count' can
      refine ⟨pause :: new, s', result, ?_, ?_, attempted.writes, ?_⟩
      · rw [List.append_cons past pause new]
        exact played
      · have goesOn : Mild c command (left + 1) (pause :: new) ↔ Mild c command left new :=
          ⟨fun mild => mild.2, fun mild => ⟨⟨rfl, client, packet, can⟩, mild⟩⟩
        have same : LawFrom link n left (pause :: new) result ↔ LawFrom link n left new result :=
          ⟨fun law => ⟨law.returns, law.raises⟩, fun law => ⟨law.returns, law.raises⟩⟩
        exact same.trans (attempted.law.trans goesOn.symm)
      · exact fun mild => attempted.numbers mild.2
    · have down : ∀ client packet, ¬CanSend c command resumed client packet :=
        fun client packet can => up ⟨client, packet, can⟩
      obtain ⟨s', error, played⟩ := play_attempt_down env (past ++ [pause]) down
      refine ⟨[pause], s', .error error, ?_, attempted_stopped fun mild => up mild.2⟩
      show (attempts c command left _).play env (past ++ [pause]) resumed = _
      rw [attempts, play_bind, played]
      rfl

/-- The write was accepted, and the call ends with it. -/
theorem attempted_written {client : Client} {packet : Bytes} {state resumed : MeshDevice}
    (can : CanSend c command s client packet) (accepted : link n = .ok ())
    (isTail : IsTail InRestart tail) (quiet : raised tail = none) :
    let new := .call (.writeCommand client packet) state (.ok ()) resumed :: tail
    Attempted link n left new (.ok ()) (Mild c command left new) (s.sequence :: numbersIn new) := by
  have accepts : IsTail (AfterWrite (.ok ())) tail := isTail
  have passes : ∀ entry ∈ tail, pauseOf entry = none :=
    fun entry member => (afterWrite_quiet (accepts.kinds entry member)).1
  have mild : Mild c command left tail :=
    (mild_quiet passes).mpr ((mild_restart isTail).mpr quiet)
  have one : writesIn tail = [] := writesIn_quiet accepts
  have none : tail.filterMap pauseOf = [] := List.filterMap_eq_nil_iff.mpr passes
  refine ⟨⟨fun _ => ⟨fun _ raises => ?_, mild⟩, fun _ => ⟨?_, fun _ raised => ?_⟩⟩, .inr ?_, ?_⟩
  · cases raises
  · intro k _ failed _
    cases k with
    | zero =>
      refine ⟨rfl, ?_⟩
      show ((packet, _) :: writesIn tail).length = _
      rw [one]
      rfl
    -- nothing is transient before the first write, which is accepted
    | succ k =>
      obtain ⟨error, failed, -⟩ := failed 0 (Nat.succ_pos k)
      rw [Nat.add_zero, accepted] at failed
      cases failed
  · cases raised
  · exact Nat.succ_pos _
  · intro _
    show numberOf packet :: (writesIn tail).map _ = s.sequence :: (tail.filterMap pauseOf).map _
    rw [one, none, can.number]
    rfl

/-- The call ends with an error after the write. -/
theorem attempted_raised {client : Client} {packet : Bytes} (state resumed : MeshDevice)
    {answer : Except PyError Unit} {error : PyError} (can : CanSend c command s client packet)
    (answered : answer = link n) (isTail : IsTail (AfterWrite answer) tail)
    (raises : writeError c answer tail = some error) (isOver : isResent error = false ∨ left = 0) :
    let new := .call (.writeCommand client packet) state answer resumed :: tail
    Attempted link n left new (.error error) (Mild c command left new)
      (s.sequence :: numbersIn new) where
  law := (lawFrom_raised isTail answered).trans (mild_raised isTail raises isOver).symm
  writes := .inl ⟨error, rfl⟩
  numbers _ := by
    have none : tail.filterMap pauseOf = [] :=
      List.filterMap_eq_nil_iff.mpr fun entry member =>
        (afterWrite_quiet (isTail.kinds entry member)).1
    show numberOf packet :: (writesIn tail).map _ = s.sequence :: (tail.filterMap pauseOf).map _
    rw [writesIn_quiet isTail, none, can.number]
    rfl

/-- A write after which there is another attempt. -/
theorem attempted_resent (follows : Follows env link) {client : Client} {packet : Bytes}
    (state resumed : MeshDevice) {answer : Except PyError Unit} {error : PyError}
    (can : CanSend c command s client packet) (answered : answer = link n)
    (isTail : IsTail (AfterWrite answer) tail) (raises : writeError c answer tail = some error)
    (resent : isResent error = true)
    (rest : Attempted link (n + 1) left new result (Mild c command (left + 1) new)
      (numbersIn new)) :
    let whole := .call (.writeCommand client packet) state answer resumed :: tail ++ new
    Attempted link n (left + 1) whole result (Mild c command (left + 1) whole)
      (s.sequence :: numbersIn whole) := by
  have passes : ∀ entry ∈ tail, pauseOf entry = none :=
    fun entry member => (afterWrite_quiet (isTail.kinds entry member)).1
  have written : writesIn (tail ++ new) = writesIn new := by
    rw [writesIn, List.filterMap_append, ← writesIn, ← writesIn, writesIn_quiet isTail]
    rfl
  have paused : (tail ++ new).filterMap pauseOf = new.filterMap pauseOf := by
    rw [List.filterMap_append, List.filterMap_eq_nil_iff.mpr passes]
    rfl
  have some_written : 0 < (writesIn (.call (.writeCommand client packet) state answer resumed ::
      tail ++ new)).length := Nat.succ_pos _
  cases answer with
  | ok _ =>
    -- the write was accepted, and what came out of the keep-alive task has it sent again
    have strict : ¬Mild c command (left + 1)
        (.call (.writeCommand client packet) state (.ok ()) resumed :: tail ++ new) := by
      rintro ⟨-, mild⟩
      have quiet := (mild_restart isTail).mp ((mild_append passes).mp mild).1
      rw [show raised tail = some error from raises] at quiet
      cases quiet
    have broken : ¬LawFrom link n (left + 1)
        (.call (.writeCommand client packet) state (.ok ()) resumed :: tail ++ new) result := by
      intro law
      obtain ⟨returned, once⟩ := law.returns 0 (Nat.zero_le _)
        (fun _ before => absurd before (Nat.not_lt_zero _)) answered.symm
      have again : (writesIn new).length = 0 := by
        have count : (writesIn (tail ++ new)).length + 1 = 1 := once
        rw [written] at count
        omega
      rcases rest.writes with ⟨failure, failed⟩ | more
      · rw [returned] at failed
        cases failed
      · omega
    exact ⟨⟨fun law => absurd law broken, fun mild => absurd mild strict⟩, .inr some_written,
      fun mild => absurd mild strict⟩
  | error failure =>
    obtain ⟨os, goesOn⟩ := mild_resent follows c command (left + 1) new client packet state resumed
      isTail answered.symm raises resent
    refine ⟨(lawFrom_succ os answered.symm isTail).trans (rest.law.trans goesOn.symm),
      .inr some_written, fun mild => ?_⟩
    show numberOf packet :: (writesIn (tail ++ new)).map _ =
      s.sequence :: ((tail ++ new).filterMap pauseOf).map _
    rw [written, paused, can.number, rest.numbers (goesOn.mp mild)]
    rfl

/-- An attempt after which there is none. -/
theorem attempts_end (backoff : Rat) {client : Client} {packet : Bytes} {state resumed s' : MeshDevice}
    {answer : Except PyError Unit} (can : CanSend c command s client packet)
    (answered : answer = link n) (isTail : IsTail (AfterWrite answer) tail)
    (played : (sendAttempt c command).play env past s =
      ⟨past ++ .call (.writeCommand client packet) state answer resumed :: tail, s',
        some (attemptResult (writeError c answer tail))⟩)
    (isOver : ∀ error, writeError c answer tail = some error → isResent error = false ∨ left = 0) :
    ∃ new s' result, (attempts c command left backoff).play env past s =
        ⟨past ++ new, s', some result⟩ ∧
      Attempted link n left new result (Mild c command left new) (s.sequence :: numbersIn new) := by
  rw [attempts, play_bind, played]
  cases raises : writeError c answer tail with
  | none =>
    -- without an error to raise the write was accepted
    cases answer with
    | ok _ => exact ⟨_, s', .ok (), rfl, attempted_written can answered.symm isTail raises⟩
    | error failure =>
      rw [writeError] at raises
      split at raises
      · cases raises
      · cases raises
  | some error =>
    refine ⟨_, s', .error error, ?_, attempted_raised state resumed can answered isTail raises
      (isOver error raises)⟩
    rw [attemptResult]
    rcases isOver error raises with other | last
    · rw [other]
      rfl
    · -- an error that would be sent again, or another
      subst last
      cases isResent error with
      | true => rfl
      | false => rfl

/-- The attempts from a session on: which follow, and with which numbers. -/
theorem attempts_law (follows : Follows env link) (left : Nat) :
    ∀ n past s backoff client packet, (writesIn past).length = n →
      CanSend c command s client packet →
      ∃ new s' result, (attempts c command left backoff).play env past s =
          ⟨past ++ new, s', some result⟩ ∧
        Attempted link n left new result (Mild c command left new) (s.sequence :: numbersIn new) := by
  induction left with
  | zero =>
    intro n past s backoff client packet count can
    obtain ⟨answer, state, resumed, tail, s', played, answered, isTail⟩ := play_attempt env past can
    rw [follows.writes, count] at answered
    exact attempts_end backoff can answered isTail played fun _ _ => .inr rfl
  | succ left ih =>
    intro n past s backoff client packet count can
    obtain ⟨answer, state, resumed, tail, s', played, answered, isTail⟩ := play_attempt env past can
    rw [follows.writes, count] at answered
    -- either the failure is one that is sent again, or the call ends here
    by_cases again : ∃ error, writeError c answer tail = some error ∧ isResent error = true
    · obtain ⟨error, raises, resent⟩ := again
      have count' : (writesIn (past ++ .call (.writeCommand client packet) state answer resumed ::
          tail)).length = n + 1 := by
        rw [writesIn, List.filterMap_append, ← writesIn, List.length_append, count]
        show n + ((packet, answer) :: writesIn tail).length = _
        rw [writesIn_quiet isTail]
        rfl
      obtain ⟨new, s'', result, played', rest⟩ :=
        attempted_again env s' (ih (n + 1)) error backoff count'
      refine ⟨_, s'', result, ?_, attempted_resent follows state resumed can answered isTail
        raises resent rest⟩
      rw [attempts, play_bind, played, raises, attemptResult, if_pos resent, ← List.append_assoc]
      exact played'
    · refine attempts_end backoff can answered isTail played fun error raises => .inl ?_
      rw [← Bool.not_eq_true]
      exact fun resent => again ⟨error, raises, resent⟩

/-! ### The law of a call -/

/-- The connection is up. -/
def IsUp (s : MeshDevice) : Prop := s.state = .ready ∧ s.client.isSome ∧ s.sessionKey.isSome

theorem CanSend.isUp {client : Client} {packet : Bytes} (can : CanSend c command s client packet) :
    IsUp s := by
  obtain ⟨ready, connected, key, session, -⟩ := can
  exact ⟨ready, Option.isSome_of_eq_some connected, Option.isSome_of_eq_some session⟩

/-- Some write that is allowed is accepted, and those before it fail with a transient error. -/
def Accepts (link : Nat → Except PyError Unit) (maxRetries k : Nat) : Prop :=
  k < maxRetries ∧ (∀ i < k, IsTransient (link i)) ∧ link k = .ok ()

/-- The promise of the retries, to a call that starts in the state. -/
structure Retries (link : Nat → Except PyError Unit) (maxRetries : Nat) (s : MeshDevice)
    (played : Played telinkSignature Unit) : Prop where
  returns : IsUp s → ∀ k, Accepts link maxRetries k →
    played.result = some (.ok ()) ∧ (writesIn played.past).length = k + 1 ∧
      ((writesIn played.past).map fun write => numberOf write.1).Nodup
  raises : ∀ error, played.result = some (.error error) → ¬IsUp s ∨
    (writesIn played.past).length = maxRetries ∧ ∀ i < maxRetries, link i ≠ .ok ()

variable (c command)

/-- Nothing keeps the call from its attempts: the command has a packet, what is awaited leaves the
call on its way and the session up again for the next attempt, and a call that is to return does
not draw a number twice. -/
structure Undisturbed (link : Nat → Except PyError Unit) (maxRetries : Nat) (s : MeshDevice)
    (past : List TelinkAwaited) : Prop where
  encodes : 0 < maxRetries → ∃ client packet, CanSend c command s client packet
  mild : Mild c command (maxRetries - 1) past
  numbers : ∀ k, Accepts link maxRetries k → (s.sequence :: numbersIn past).Nodup

variable {c command}

/-- The promise of a call is that of its attempts, with different numbers. -/
theorem retries_iff {s' : MeshDevice} (up : IsUp s) :
    Retries link (left + 1) s ⟨new, s', some result⟩ ↔ LawFrom link 0 left new result ∧
      ∀ k, Accepts link (left + 1) k →
        ((writesIn new).map fun write => numberOf write.1).Nodup := by
  constructor
  · intro retries
    refine ⟨⟨fun k within failed accepted => ?_, fun error raises => ?_⟩,
      fun k accepts => (retries.returns up k accepts).2.2⟩
    · simp only [Nat.zero_add] at failed accepted
      obtain ⟨returned, count, -⟩ := retries.returns up k
        ⟨Nat.lt_succ_of_le within, failed, accepted⟩
      exact ⟨Option.some.inj returned, count⟩
    · subst raises
      obtain ⟨count, failed⟩ := (retries.raises error rfl).resolve_left (absurd up)
      refine ⟨count, fun i within => ?_⟩
      rw [Nat.zero_add]
      exact failed i (Nat.lt_succ_of_le within)
  · rintro ⟨law, distinct⟩
    refine ⟨fun _ k accepts => ?_, fun error raises => .inr ?_⟩
    · obtain ⟨within, failed, accepted⟩ := accepts
      obtain ⟨returned, count⟩ := law.returns k (Nat.le_of_lt_succ within)
        (by simpa only [Nat.zero_add] using failed) (by rw [Nat.zero_add]; exact accepted)
      exact ⟨congrArg some returned, count, distinct k ⟨within, failed, accepted⟩⟩
    · obtain ⟨count, failed⟩ := law.raises error (Option.some.inj raises)
      refine ⟨count, fun i within => ?_⟩
      have rejected := failed i (Nat.le_of_lt_succ within)
      rw [Nat.zero_add] at rejected
      exact rejected

variable (c command)

/-- A call whose connection is up keeps the promise when it is not disturbed, and only then. -/
theorem sendNow_retries_iff (follows : Follows env link) (maxRetries : Nat) (s : MeshDevice) :
    let played := (sendNowUpTo c command maxRetries).play env [] s
    Retries link maxRetries s played ↔
      (IsUp s → Undisturbed c command link maxRetries s played.past) := by
  intro played
  by_cases up : IsUp s
  · rw [forall_prop_of_true up]
    cases maxRetries with
    | zero =>
      exact ⟨fun _ => ⟨fun none => absurd none (Nat.lt_irrefl 0), trivial,
          fun k accepts => absurd accepts.1 (Nat.not_lt_zero k)⟩,
        fun _ => ⟨fun _ k accepts => absurd accepts.1 (Nat.not_lt_zero k),
          fun _ _ => .inr ⟨rfl, fun i before => absurd before (Nat.not_lt_zero i)⟩⟩⟩
    | succ left =>
      by_cases can : ∃ client packet, CanSend c command s client packet
      · obtain ⟨client, packet, can⟩ := can
        obtain ⟨new, s', result, ran, law, -, numbers⟩ := attempts_law follows left 0 [] s
          _COMMAND_RETRY_INITIAL_BACKOFF client packet rfl can
        rw [show played = ⟨new, s', some result⟩ from ran, retries_iff up]
        constructor
        · rintro ⟨promised, distinct⟩
          -- the law of the attempts, with different numbers, is what is promised
          have mild := law.mp promised
          refine ⟨fun _ => ⟨client, packet, can⟩, mild, fun k accepts => ?_⟩
          rw [← numbers mild]
          exact distinct k accepts
        · rintro ⟨-, mild, distinct⟩
          refine ⟨law.mpr mild, fun k accepts => ?_⟩
          rw [numbers mild]
          exact distinct k accepts
      · -- the call raises without a write, which is not what is promised with the session up
        obtain ⟨s', error, ran⟩ := play_attempt_down env [] fun client packet sends =>
          can ⟨client, packet, sends⟩
        have down : played = ⟨[], s', some (.error error)⟩ := by
          show (attempts c command left _).play env [] s = _
          rw [attempts, play_bind, ran]
          rfl
        rw [down]
        constructor
        · intro retries
          obtain ⟨count, -⟩ := (retries.raises error rfl).resolve_left (absurd up)
          cases count
        · exact fun undisturbed => absurd (undisturbed.encodes (Nat.succ_pos left)) can
  · exact ⟨fun _ isUp => absurd isUp up, fun _ =>
      ⟨fun isUp => absurd isUp up, fun _ _ => .inl up⟩⟩

/-! ### A write that fails once -/

def failsOnce : Nat → Except PyError Unit
  | 0 => .error .osError
  | _ + 1 => .ok ()

theorem failsOnce_accepts : Accepts failsOnce DEFAULT_COMMAND_MAX_RETRIES 1 := by
  refine ⟨by decide, fun i first => ?_, rfl⟩
  rw [Nat.lt_one_iff.mp first]
  exact ⟨.osError, rfl, .inl rfl⟩

/-- A device whose session is up. -/
def connectedDevice : MeshDevice :=
  { state := .ready, client := some 0, sessionKey := some sampleSessionKey }

/-- The others leave the device alone but for what they do during a pause. -/
def sampleSurroundings (pause : MeshDevice → MeshDevice) : Surroundings telinkSignature where
  me := 0
  answer past op s := match op with
    | .writeCommand _ _ => (failsOnce (writesIn past).length, s)
    | .retrySleep _ _ => (.ok (), pause s)
    | .disconnectClient _ _ => (.ok (), s)
    | _ => (.error .osError, s)
  joined _ _ _ s := (.ok (), s)
  spawned _ _ _ := 1

theorem sampleSurroundings_follows (pause : MeshDevice → MeshDevice) :
    Follows (sampleSurroundings pause) failsOnce where
  writes _ _ _ _ := rfl
  foreign n error failed := by
    cases n with
    | zero =>
      cases failed
      rfl
    | succ n => cases failed

/-- Nobody connects again: the call raises after one write, though the next would be accepted. -/
theorem tornDown_not_resent :
    Follows (sampleSurroundings id) failsOnce ∧
      ¬Retries failsOnce DEFAULT_COMMAND_MAX_RETRIES connectedDevice
        ((sendNow sampleTelink (sampleSwitch 0 1)).play (sampleSurroundings id) []
          connectedDevice) := by
  refine ⟨sampleSurroundings_follows id, fun retries => ?_⟩
  obtain ⟨-, count, -⟩ := retries.returns ⟨rfl, rfl, rfl⟩ 1 failsOnce_accepts
  exact absurd count (by decide +kernel)

/-- Somebody connects again during the pause. -/
def reconnect (s : MeshDevice) : MeshDevice :=
  { s with state := .ready, client := some 0, sessionKey := some sampleSessionKey }

/-- Then the second write is accepted, under another number. -/
theorem reconnected_resent : Retries failsOnce DEFAULT_COMMAND_MAX_RETRIES connectedDevice
    ((sendNowUpTo sampleTelink (sampleSwitch 0 1) DEFAULT_COMMAND_MAX_RETRIES).play
      (sampleSurroundings reconnect) [] connectedDevice) :=
  (sendNow_retries_iff sampleTelink (sampleSwitch 0 1) (sampleSurroundings_follows reconnect)
    DEFAULT_COMMAND_MAX_RETRIES connectedDevice).mpr fun _ =>
    { encodes := fun _ =>
        ⟨0, samplePacket 0 0xD0 [1] 5, rfl, rfl, sampleSessionKey, rfl, by decide +kernel⟩
      mild := by
        refine ⟨.inl rfl, ?_, ⟨rfl, 0, samplePacket 1 0xD0 [1] 5, ?_⟩, ?_, trivial⟩
        · rintro error ⟨⟩
        · exact ⟨rfl, rfl, sampleSessionKey, rfl, by decide +kernel⟩
        · rintro error ⟨⟩
      numbers := fun _ _ => by decide +kernel }

end Telink

end TuyaBleMesh
