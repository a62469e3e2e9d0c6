import TuyaBleMesh.Lib.Turns
import TuyaBleMesh.Telink.Device
import TuyaBleMesh.Telink.Keystream

/-!
# The key stream over whole runs

Attempts to send, retries and keep-alive probes draw their sequence numbers from one
counter. In one turn of a task at most one number is drawn, and what is encrypted in the
turn is encrypted under it, so no nonce and no counter block comes twice before the counter
is around.
-/

namespace TuyaBleMesh

/-- The packet that is handed to the client. -/
def TelinkOp.packet? : TelinkOp → Option Bytes
  | .writeCommand _ packet => some packet
  | .writeKeepAlive _ packet => some packet
  | _ => none

/-- The command for which an attempt to send has encrypted a packet. -/
def Moment.attempt? : Moment → Option QueuedCommand
  | .attempted command _ => some command
  | _ => none

def MeshDevice.attempts (s : MeshDevice) : List QueuedCommand :=
  s.history.filterMap Moment.attempt?

namespace Telink

open Coroutine

/-! ### Sequence numbers -/

theorem next_sequence_eq (sequence : Nat) :
    (sequence + 1) &&& _MAX_SEQUENCE = (sequence + 1) % 2 ^ 24 :=
  Nat.and_two_pow_sub_one_eq_mod (sequence + 1) 24

/-- Numbers drawn one after the other from the counter on. -/
def consecutive (start n : Nat) : List Nat := (List.range n).map fun i => (start + i) % 2 ^ 24

theorem consecutive_succ {start : Nat} (small : start < 2 ^ 24) (n : Nat) :
    consecutive start (n + 1) = start :: consecutive ((start + 1) % 2 ^ 24) n := by
  unfold consecutive
  rw [List.range_succ_eq_map, List.map_cons, List.map_map]
  refine congrArg₂ List.cons (Nat.mod_eq_of_lt small) (List.map_congr_left fun i _ => ?_)
  simp only [Function.comp]
  omega

/-- There are no more numbers than the counter has. -/
theorem consecutive_nodup (start : Nat) {n : Nat} (few : n ≤ 2 ^ 24) :
    (consecutive start n).Nodup := by
  refine List.Nodup.map_on ?_ List.nodup_range
  intro i i_lt j j_lt same
  rw [List.mem_range] at i_lt j_lt
  omega

/-! ### What is encrypted -/

/-- A packet that is encrypted: the session key, the number for the nonce and the command. -/
structure Encryption where
  key : Bytes
  sequence : Nat
  destId : Nat
  opcode : Nat
  params : Bytes
  deriving DecidableEq

namespace Encryption

variable (c : TelinkConfig) (e : Encryption)

def packet : Except PyError Bytes :=
  encodeCommandPacket c.suite e.key c.macBytes e.sequence e.destId e.opcode e.params c.vendorId

def nonce : Except PyError Bytes := buildNonce c.macBytes e.sequence

def payload : Except PyError Bytes :=
  encodeCommandPayload e.destId e.opcode e.params c.vendorId

/-- The counter blocks that encrypting its payload uses. -/
def counterBlocks : List Bytes :=
  match e.nonce c, e.payload c with
  | .ok nonce, .ok payload => Telink.counterBlocks nonce payload
  | _, _ => []

/-- The packet ends with the payload under the key stream of its counter blocks. -/
def UnderKeystream : Prop :=
  ∃ block payload front, validateKey e.key = .ok block ∧ e.payload c = .ok payload ∧
    e.packet c = .ok (front ++ List.zipWith (· ^^^ ·)
      ((e.counterBlocks c).flatMap (telinkAes c.suite block)) payload)

variable {c e} {e' : Encryption} {packet : Bytes}

/-- What is known of a packet that is made. -/
theorem packet_ok (made : e.packet c = .ok packet) : ∃ nonce payload, e.nonce c = .ok nonce ∧
    e.payload c = .ok payload ∧ e.counterBlocks c = Telink.counterBlocks nonce payload ∧
      blocksNeeded payload ≤ _MAX_CTR_BLOCKS ∧ e.UnderKeystream c := by
  obtain ⟨seqBytes, _, afterSequence⟩ := bind_eq_ok.mp made
  obtain ⟨nonce, built, afterNonce⟩ := bind_eq_ok.mp afterSequence
  obtain ⟨payload, encoded, afterPayload⟩ := bind_eq_ok.mp afterNonce
  obtain ⟨checksum, _, afterChecksum⟩ := bind_eq_ok.mp afterPayload
  obtain ⟨encrypted, crypted, ends⟩ := bind_eq_ok.mp afterChecksum
  cases ends
  have blocks : e.counterBlocks c = Telink.counterBlocks nonce payload := by
    simp only [counterBlocks, Encryption.nonce, Encryption.payload, built, encoded]
  obtain ⟨fits, block, valid, xored⟩ := cryptPayload_eq_xor crypted
  refine ⟨nonce, payload, built, encoded, blocks, fits, block, payload,
    seqBytes ++ checksum.take CHECKSUM_SIZE, valid, encoded, ?_⟩
  rw [made, blocks, xored]

theorem nonce_ne (made : e.packet c = .ok packet) (different : e.sequence ≠ e'.sequence) :
    e.nonce c ≠ e'.nonce c := by
  intro same
  obtain ⟨nonce, _, built, _⟩ := packet_ok made
  exact different (buildNonce_injective built (same.symm.trans built))

theorem counterBlocks_nodup (made : e.packet c = .ok packet) : (e.counterBlocks c).Nodup := by
  obtain ⟨nonce, payload, built, _, blocks, fits, _⟩ := packet_ok made
  rw [blocks]
  exact Telink.counterBlocks_nodup (buildNonce_length built) fits

theorem counterBlocks_disjoint {packet' : Bytes} (made : e.packet c = .ok packet)
    (made' : e'.packet c = .ok packet') (different : e.sequence ≠ e'.sequence) :
    (e.counterBlocks c).Disjoint (e'.counterBlocks c) := by
  obtain ⟨nonce, payload, built, _, blocks, fits, _⟩ := packet_ok made
  obtain ⟨nonce', payload', built', _, blocks', fits', _⟩ := packet_ok made'
  have apart : nonce ≠ nonce' := by
    intro same
    apply nonce_ne made different
    rw [built, built', same]
  rw [blocks, blocks']
  exact Telink.counterBlocks_disjoint (buildNonce_length built) (buildNonce_length built') fits
    fits' apart

end Encryption

/-- The number that is drawn in a turn from the one state to the other. -/
def drawn (since s : MeshDevice) : List Nat :=
  if s.sequence = since.sequence then [] else [since.sequence]

/-- The packet that an attempt to send the command encrypts in a turn from the state. -/
def commandEncryption (since : MeshDevice) (command : QueuedCommand) : Encryption where
  key := since.sessionKey.getD []
  sequence := since.sequence
  destId := command.destId
  opcode := command.opcode
  params := command.params

/-- The packet that a keep-alive probe encrypts. -/
def probeEncryption (since : MeshDevice) : Encryption where
  key := since.sessionKey.getD []
  sequence := since.sequence
  destId := KEEP_ALIVE_DESTINATION
  opcode := TELINK_CMD_STATUS_QUERY
  params := _STATUS_QUERY_PARAM

def probesWritten (since : MeshDevice) : Option TelinkOp → List Encryption
  | some (.writeKeepAlive _ _) => [probeEncryption since]
  | _ => []

/-- What is encrypted in a turn that stops at the operation: a packet for each attempt that is
made, and one for a keep-alive probe that is written. -/
def encrypted (since : MeshDevice) (op : Option TelinkOp) (s : MeshDevice) : List Encryption :=
  (s.attempts.drop since.attempts.length).map (commandEncryption since) ++ probesWritten since op

/-- What is handed to the client at the end of a turn. -/
def handed (op : Option TelinkOp) : List Bytes := (op.bind TelinkOp.packet?).toList

/-! ### One turn -/

variable (c : TelinkConfig)

/-- What a turn may show: at most one number is drawn, everything is encrypted under it, and
only what is encrypted is handed to the client. -/
structure CryptTurn (since : MeshDevice) (op : Option TelinkOp) (s : MeshDevice) : Prop where
  sequence : s.sequence = since.sequence ∨ s.sequence = (since.sequence + 1) &&& _MAX_SEQUENCE
  numbers : ((encrypted since op s).map Encryption.sequence).Sublist (drawn since s)
  made : ∀ e ∈ encrypted since op s, ∃ packet, e.packet c = .ok packet
  handed : ((handed op).map Except.ok).Sublist ((encrypted since op s).map (Encryption.packet c))

/-- The turn has only looked and changed other things so far. -/
structure Fresh (since s : MeshDevice) : Prop where
  sequence : s.sequence = since.sequence
  sessionKey : s.sessionKey = since.sessionKey
  attempts : s.attempts = since.attempts

theorem Fresh.refl (s : MeshDevice) : Fresh s s := ⟨rfl, rfl, rfl⟩

section Turn

variable {c} {since s s' : MeshDevice} {op : Option TelinkOp}

theorem drawn_next (advanced : s.sequence = (since.sequence + 1) &&& _MAX_SEQUENCE) :
    drawn since s = [since.sequence] := by
  have different : s.sequence ≠ since.sequence := by
    rw [advanced, next_sequence_eq]
    omega
  exact if_neg different

/-- Nothing is encrypted in the turn. -/
theorem CryptTurn.quiet
    (sequence : s.sequence = since.sequence ∨ s.sequence = (since.sequence + 1) &&& _MAX_SEQUENCE)
    (attempts : s.attempts = since.attempts) : CryptTurn c since none s := by
  have nothing : encrypted since none s = [] := by
    rw [encrypted, attempts, List.drop_length]
    rfl
  constructor
  · exact sequence
  · rw [nothing]
    exact List.nil_sublist _
  · rw [nothing]
    exact fun e member => by cases member
  · exact List.nil_sublist _

/-- One packet is encrypted in the turn, under the number that is drawn in it. -/
theorem CryptTurn.single {e : Encryption} {packet : Bytes}
    (advanced : s.sequence = (since.sequence + 1) &&& _MAX_SEQUENCE)
    (one : encrypted since op s = [e]) (number : e.sequence = since.sequence)
    (encoded : e.packet c = .ok packet) (hands : (Telink.handed op).Sublist [packet]) :
    CryptTurn c since op s where
  sequence := .inr advanced
  numbers := by
    rw [one, drawn_next advanced, List.map_singleton, number]
  made e' member := by
    rw [one, List.mem_singleton] at member
    exact ⟨packet, member ▸ encoded⟩
  handed := by
    rw [one, List.map_singleton, encoded]
    exact hands.map Except.ok

theorem Fresh.quiet (fresh : Fresh since s) : CryptTurn c since none s :=
  .quiet (.inl fresh.sequence) fresh.attempts

theorem CryptTurn.refl (s : MeshDevice) : CryptTurn c s none s := (Fresh.refl s).quiet

/-- Waiting for something else than a write changes nothing of it. -/
theorem CryptTurn.stops {op : TelinkOp} (turn : CryptTurn c since none s)
    (other : op.packet? = none) : CryptTurn c since (some op) s := by
  have same : encrypted since (some op) s = encrypted since none s := by
    cases op <;> first | rfl | cases other
  have hands : Telink.handed (some op) = Telink.handed none :=
    congrArg Option.toList other
  constructor
  · exact turn.sequence
  · rw [same]
    exact turn.numbers
  · rw [same]
    exact turn.made
  · rw [same, hands]
    exact turn.handed

/-- Only the counter and the attempts count. -/
theorem CryptTurn.congr (turn : CryptTurn c since op s) (sequence : s'.sequence = s.sequence)
    (attempts : s'.attempts = s.attempts) : CryptTurn c since op s' := by
  have same : encrypted since op s' = encrypted since op s := by
    rw [encrypted, encrypted, attempts]
  have numbers : drawn since s' = drawn since s := by
    rw [drawn, drawn, sequence]
  constructor
  · rw [sequence]
    exact turn.sequence
  · rw [same, numbers]
    exact turn.numbers
  · rw [same]
    exact turn.made
  · rw [same]
    exact turn.handed

theorem attempts_note (moment : Moment) : ({ s with history := s.history ++ [moment] } :
    MeshDevice).attempts = s.attempts ++ moment.attempt?.toList := by
  rw [MeshDevice.attempts, List.filterMap_append]
  cases seen : moment.attempt? with
  | none => simp [MeshDevice.attempts, seen]
  | some command => simp [MeshDevice.attempts, seen]

end Turn

/-! ### The turns of a device -/

/-- Each turn of a device encrypts at most one packet, under a number of its own. Packets of
outside callers are left out. -/
def keystreamOutline : TurnOutline telinkSignature where
  ends := CryptTurn c
  runs code := ∀ packet, code ≠ .linkWrite packet

/-- The code draws no number and encrypts nothing. -/
abbrev PassesCrypt {α : Type} (code : Telink α) : Prop :=
  code.Passes (keystreamOutline c) fun since s => CryptTurn c since none s

namespace PassesCrypt

variable {c}

theorem update {f : MeshDevice → MeshDevice} (sequence : ∀ s, (f s).sequence = s.sequence)
    (attempts : ∀ s, (f s).attempts = s.attempts) : PassesCrypt c (Telink.update f) :=
  passes_modify fun _ s turn => turn.congr (sequence s) (attempts s)

theorem note {moment : Moment} (other : moment.attempt? = none) : PassesCrypt c (note moment) := by
  apply update
  · exact fun s => rfl
  · intro s
    rw [attempts_note, other]
    exact List.append_nil _

theorem enter {state : ConnectionState} {moment : ConnectionState → Moment}
    (other : ∀ state, (moment state).attempt? = none) : PassesCrypt c (enter state moment) := by
  apply update
  · exact fun s => rfl
  · intro s
    have same : s.attempts ++ (moment s.state).attempt?.toList = s.attempts := by
      rw [other]
      exact List.append_nil _
    exact (attempts_note (moment s.state)).trans same

theorem call {op : TelinkOp} (other : op.packet? = none) : PassesCrypt c (Telink.call op) :=
  passes_call CryptTurn.refl fun _ _ turn => turn.stops other

theorem joinTask (site : CallSite) (task : TaskId) :
    PassesCrypt c (Coroutine.joinTask (S := telinkSignature) site task) :=
  passes_joinTask CryptTurn.refl fun _ _ turn => turn

theorem park {op : TelinkOp} {next : Except PyError op.Answer → TelinkCode}
    (other : op.packet? = none) (runs : ∀ answer packet, next answer ≠ .linkWrite packet) :
    PassesCrypt c (.park (S := telinkSignature) (α := Unit) op next) :=
  passes_park (fun _ _ turn => turn.stops other) runs

theorem createTask {code : TelinkCode} (runs : ∀ packet, code ≠ .linkWrite packet) :
    PassesCrypt c (Coroutine.createTask (S := telinkSignature) code) := passes_createTask runs

theorem suppressCancelled {body : Telink Unit} (passes : PassesCrypt c body) :
    PassesCrypt c (suppressCancelled body) := by
  apply passes.onError
  intro error
  split
  · exact passes_pure _
  · exact passes_raise _

/-! ### Cleaning up and connecting -/

theorem stopKeepAlive (site : CallSite) : PassesCrypt c (stopKeepAlive site) := by
  apply passes_read_bind
  intro s
  split
  · exact passes_pure _
  · next task _ =>
    refine (passes_cancelTask task).bind fun _ => ?_
    refine (joinTask site task).suppressCancelled.bind fun _ => ?_
    exact update (fun _ => rfl) fun _ => rfl

theorem clearSessionKey : PassesCrypt c clearSessionKey :=
  Passes.bind (update (fun _ => rfl) fun _ => rfl) fun _ => update (fun _ => rfl) fun _ => rfl

theorem dropClient (site : CallSite) : PassesCrypt c (dropClient site) := by
  apply passes_read_bind
  intro s
  split
  · exact passes_pure _
  · refine Passes.bind ?_ fun _ => update (fun _ => rfl) fun _ => rfl
    apply (call rfl).onError
    intro error
    split
    · exact passes_pure _
    · exact passes_raise _

theorem cleanup (site : CallSite) : PassesCrypt c (cleanup site) := by
  refine (stopKeepAlive site).bind fun _ => ?_
  refine Passes.bind (update (fun _ => rfl) fun _ => rfl) fun _ => ?_
  refine clearSessionKey.bind fun _ => ?_
  refine (dropClient site).bind fun _ => ?_
  exact update (fun _ => rfl) fun _ => rfl

theorem linkDisconnect : PassesCrypt c linkDisconnect := by
  apply passes_read_bind
  intro s
  split
  · exact passes_pure _
  · apply passes_currentTask_bind
    intro me
    refine Passes.bind (enter fun _ => rfl) fun _ => ?_
    exact (cleanup .disconnect).ensuring (note rfl)

theorem onDisconnect (me : TaskId) : PassesCrypt c (onDisconnect me) :=
  Passes.bind (update (fun _ => rfl) fun _ => rfl) fun _ => note rfl

theorem handleDisconnect : PassesCrypt c handleDisconnect := by
  apply passes_read_bind
  intro s
  split
  · exact passes_pure _
  · apply passes_currentTask_bind
    intro me
    refine (note rfl).bind fun _ => ?_
    exact ((cleanup .loss).bind fun _ => onDisconnect me).ensuring (note rfl)

theorem startKeepAlive (site : CallSite) : PassesCrypt c (startKeepAlive site) := by
  refine (stopKeepAlive site).bind fun _ => ?_
  refine (createTask fun packet => by simp).bind fun task => ?_
  exact update (fun _ => rfl) fun _ => rfl

theorem restartKeepAlive : PassesCrypt c restartKeepAlive := by
  apply passes_read_bind
  intro s
  split
  · exact startKeepAlive .restart
  · exact passes_pure _

theorem connectAttempt : PassesCrypt c (connectAttempt c) := by
  refine (call rfl).bind fun found => ?_
  split
  · exact passes_raise _
  · exact (call rfl).bind fun client => update (fun _ => rfl) fun _ => rfl

theorem connectWithRetry (maxRetries left : Nat) :
    PassesCrypt c (connectWithRetry c maxRetries left) := by
  induction left with
  | zero => exact passes_raise _
  | succ left ih =>
    have handled (error : PyError) : PassesCrypt c (do
        if error.isMeshConnectionError then
          Telink.update fun s => { s with client := none }
          raise error
        else if isRetried error then
          Telink.update fun s => { s with client := none }
          Telink.call (.connectPause (min (2 * (maxRetries - left : Nat)) 8) left)
          return false
        else raise error) := by
      split
      · refine Passes.bind (update (fun _ => rfl) fun _ => rfl) fun _ => ?_
        exact passes_raise error
      · split
        · refine Passes.bind (update (fun _ => rfl) fun _ => rfl) fun _ => ?_
          exact (call rfl).bind fun _ => passes_pure false
        · exact passes_raise error
    refine Passes.bind ?_ fun connected => ?_
    · exact (connectAttempt.bind fun _ => passes_pure true).onError handled
    · split
      · exact passes_pure _
      · exact ih

theorem readFirmwareVersion : PassesCrypt c readFirmwareVersion := by
  apply passes_read_bind
  intro s
  split
  · exact passes_pure _
  · apply (call rfl).onError
    intro error
    split
    · exact passes_pure _
    · exact passes_raise _

theorem startNotifySafe : PassesCrypt c startNotifySafe := by
  apply passes_read_bind
  intro s
  split
  · exact passes_pure _
  · refine Passes.onError ?_ fun error => ?_
    · exact (call rfl).bind fun _ => update (fun _ => rfl) fun _ => rfl
    · split
      · exact update (fun _ => rfl) fun _ => rfl
      · exact passes_raise _

theorem pair (client : Client) : PassesCrypt c (pair c client) := by
  refine Passes.onError ?_ fun error => ?_
  · exact (call rfl).bind fun key => update (fun _ => rfl) fun _ => rfl
  · split
    · exact (cleanup .provisioning).bind fun _ => passes_raise _
    · exact passes_raise _

theorem establish (me : TaskId) (maxRetries : Nat) : PassesCrypt c (establish c me maxRetries) := by
  refine Passes.bind ?_ fun _ => ?_
  · apply (connectWithRetry maxRetries maxRetries).onError
    intro error
    split
    · exact Passes.bind (update (fun _ => rfl) fun _ => rfl) fun _ => passes_raise error
    · exact passes_raise error
  · apply passes_read_bind
    intro s
    split
    · exact Passes.bind (update (fun _ => rfl) fun _ => rfl) fun _ => passes_raise _
    · next client _ =>
      refine Passes.bind (update (fun _ => rfl) fun _ => rfl) fun _ => ?_
      refine (pair client).bind fun _ => ?_
      refine readFirmwareVersion.bind fun _ => ?_
      refine Passes.bind (enter fun _ => rfl) fun _ => ?_
      exact (startKeepAlive .connect).bind fun _ => startNotifySafe

theorem linkConnect (maxRetries : Nat) : PassesCrypt c (linkConnect c maxRetries) := by
  apply passes_read_bind
  intro s
  apply passes_currentTask_bind
  intro me
  split
  · exact note rfl
  · refine Passes.bind (enter fun _ => rfl) fun _ => ?_
    refine Passes.bind ?_ fun _ => passes_read_bind fun s => note rfl
    exact (establish me maxRetries).onError fun error => (note rfl).bind fun _ => passes_raise error

/-! ### The queue and its worker -/

theorem start : PassesCrypt c start := by
  apply passes_read_bind
  intro s
  split
  · exact passes_pure _
  · refine Passes.bind (update (fun _ => rfl) fun _ => rfl) fun _ => ?_
    refine (createTask fun packet => by simp).bind fun task => ?_
    exact update (fun _ => rfl) fun _ => rfl

theorem stopWorker (worker : Option TaskId) : PassesCrypt c (stopWorker worker) := by
  cases worker with
  | none => exact passes_pure _
  | some task =>
    exact (passes_cancelTask task).bind fun _ => (joinTask .stop task).suppressCancelled

theorem stop : PassesCrypt c stop := by
  apply passes_read_bind
  intro s
  split
  · refine Passes.bind (update (fun _ => rfl) fun _ => rfl) fun _ => ?_
    exact (stopWorker s.workerTask).bind fun _ => update (fun _ => rfl) fun _ => rfl
  · exact passes_pure _

theorem enqueue (opcode : Nat) (params : Bytes) (destId : Nat) :
    PassesCrypt c (enqueue c opcode params destId) := by
  apply passes_read_bind
  intro s
  split
  · exact passes_raise _
  · exact Passes.bind (update (fun _ => rfl) fun _ => rfl) fun _ => note rfl

theorem connect (maxRetries : Nat) : PassesCrypt c (connect c maxRetries) := by
  refine (linkConnect maxRetries).bind fun _ => ?_
  exact Passes.bind (update (fun _ => rfl) fun _ => rfl) fun _ => start

theorem disconnect : PassesCrypt c disconnect := stop.bind fun _ => linkDisconnect

theorem keepAliveHead : PassesCrypt c keepAliveHead := by
  apply passes_read_bind
  intro s
  split
  · exact park rfl fun answer packet => by simp
  · exact passes_pure _

theorem workerHead : PassesCrypt c workerHead := by
  apply passes_read_bind
  intro s
  split
  · exact park rfl fun answer packet => by simp
  · exact passes_pure _

end PassesCrypt

/-! ### The two senders -/

section Senders

variable {c} {since s : MeshDevice}

/-- A turn of the code ends as the outline has it. -/
abbrev TurnsCrypt (c : TelinkConfig) {α : Type} (code : Telink α) (since s : MeshDevice) : Prop :=
  code.turns (keystreamOutline c) (fun since _ s => CryptTurn c since none s) since s

theorem turns_nextSequence_bind {α : Type} {rest : Nat → Telink α}
    {post : MeshDevice → Except PyError α → MeshDevice → Prop} :
    (nextSequence >>= rest).turns (keystreamOutline c) post since s ↔
      (rest s.sequence).turns (keystreamOutline c) post since
        { s with sequence := (s.sequence + 1) &&& _MAX_SEQUENCE } := Iff.rfl

theorem encrypted_command {command : QueuedCommand} {op : Option TelinkOp}
    (attempts : s.attempts = since.attempts ++ [command]) (other : probesWritten since op = []) :
    encrypted since op s = [commandEncryption since command] := by
  rw [encrypted, attempts, List.drop_left, other]
  rfl

theorem encrypted_probe {client : Client} {packet : Bytes}
    (attempts : s.attempts = since.attempts) :
    encrypted since (some (.writeKeepAlive client packet)) s = [probeEncryption since] := by
  rw [encrypted, attempts, List.drop_length]
  rfl

theorem turns_writeCommand {command : QueuedCommand} {packet : Bytes}
    (refused : CryptTurn c since none s)
    (written : ∀ client, CryptTurn c since (some (.writeCommand client packet)) s) :
    TurnsCrypt c (writeCommand c (some command) packet) since s := by
  apply turns_read_bind.mpr
  split
  · next client _ _ =>
    -- the turn stops at the write; what is done about its answer encrypts nothing
    refine turns_bind_passes ?_ fun _ => ?_
    · refine turns_onError_passes ?_ fun error => ?_
      · exact ⟨written client, fun _ s' => CryptTurn.refl s'⟩
      · split
        · exact PassesCrypt.handleDisconnect.bind fun _ => passes_raise _
        · exact passes_raise error
    · exact (PassesCrypt.note rfl).bind fun _ => PassesCrypt.restartKeepAlive
  · exact refused

/-- An attempt draws a number, if there is a session key, and encrypts its packet under it. -/
theorem turns_sendAttempt (command : QueuedCommand) (fresh : Fresh since s) :
    TurnsCrypt c (sendAttempt c command) since s := by
  apply turns_read_bind.mpr
  split
  · exact fresh.quiet
  · next key present =>
    rw [turns_nextSequence_bind]
    cases encoded : encodeCommandPacket c.suite key c.macBytes s.sequence command.destId
        command.opcode command.params c.vendorId with
    -- without a packet the number is lost
    | error error =>
      show CryptTurn c since none _
      exact .quiet (.inr (congrArg (fun n => (n + 1) &&& _MAX_SEQUENCE) fresh.sequence))
        fresh.attempts
    | ok packet =>
      rw [fresh.sequence] at encoded ⊢
      have made : (commandEncryption since command).packet c = .ok packet := by
        rw [commandEncryption, ← fresh.sessionKey, present]
        exact encoded
      -- the state in which the attempt is written down, and the write begins
      generalize noted : ({ s with
          sequence := (since.sequence + 1) &&& _MAX_SEQUENCE
          history := s.history ++ [.attempted command s.now] } : MeshDevice) = s'
      have advanced : s'.sequence = (since.sequence + 1) &&& _MAX_SEQUENCE := by
        rw [← noted]
      have attempts : s'.attempts = since.attempts ++ [command] := by
        rw [← noted, ← fresh.attempts]
        exact attempts_note (.attempted command s.now)
      show TurnsCrypt c (Coroutine.onError _ _) since { s with
        sequence := (since.sequence + 1) &&& _MAX_SEQUENCE
        history := s.history ++ [.attempted command s.now] }
      rw [noted]
      refine turns_onError_passes ?_ fun error => ?_
      · -- the write is refused at once, or the packet is handed over
        refine turns_bind_passes ?_ fun _ => passes_pure none
        apply turns_writeCommand
        · exact .single advanced (encrypted_command attempts rfl) rfl made (List.nil_sublist _)
        · intro client
          exact .single advanced (encrypted_command attempts rfl) rfl made (List.Sublist.refl _)
      · split
        · exact passes_raise error
        · split
          · exact passes_pure _
          · exact passes_raise error

/-- A keep-alive probe draws a number and encrypts its packet under it, or does nothing. -/
theorem turns_sendKeepAlive (fresh : Fresh since s) :
    TurnsCrypt c (sendKeepAlive c) since s := by
  apply turns_read_bind.mpr
  split
  · next client key _ _ present =>
    refine turns_onError_passes ?_ fun error => ?_
    · rw [turns_nextSequence_bind, fresh.sequence]
      cases encoded : encodeCommandPacket c.suite key c.macBytes since.sequence
          KEEP_ALIVE_DESTINATION TELINK_CMD_STATUS_QUERY _STATUS_QUERY_PARAM c.vendorId with
      | error error => exact CryptTurn.quiet (.inr rfl) fresh.attempts
      | ok packet =>
        have made : (probeEncryption since).packet c = .ok packet := by
          rw [probeEncryption, ← fresh.sessionKey, present]
          exact encoded
        refine ⟨?_, fun _ s' => CryptTurn.refl s'⟩
        exact .single rfl (encrypted_probe fresh.attempts) rfl made (List.Sublist.refl _)
    · split
      · exact PassesCrypt.handleDisconnect
      · exact passes_raise error
  · exact fresh.quiet

/-! ### What surrounds them -/

variable (command : QueuedCommand)

/-- Each further attempt has a turn of its own. -/
theorem passes_sendAgain (error : PyError) (left : Nat) (backoff : Rat) :
    PassesCrypt c (sendAgain c command error left backoff) := by
  induction left generalizing error backoff with
  | zero => exact passes_raise error
  | succ left ih =>
    intro since s turn
    -- the pause ends the turn, so the next attempt finds a number that is not used
    refine ⟨turn.stops rfl, fun answer s' => ?_⟩
    cases answer with
    | error error => exact CryptTurn.refl s'
    | ok _ =>
      show TurnsCrypt c (sendAttempt c command >>= _) s' s'
      refine turns_bind_passes (turns_sendAttempt command (.refl s')) fun result => ?_
      split
      · exact passes_pure _
      · next error => exact ih error _

theorem turns_sendNow (fresh : Fresh since s) : TurnsCrypt c (sendNow c command) since s := by
  refine turns_bind_passes (turns_sendAttempt command fresh) fun result => ?_
  split
  · exact passes_pure _
  · next error => exact passes_sendAgain command error _ _

theorem turns_workerIteration {body : Telink Unit} (turns : TurnsCrypt c body since s) :
    TurnsCrypt c (workerIteration body) since s := by
  refine turns_onError_passes turns fun error => ?_
  split
  · exact PassesCrypt.park rfl fun answer packet => by simp
  · exact passes_raise error

theorem turns_sendTaken (fresh : Fresh since s) : TurnsCrypt c (sendTaken c command) since s := by
  apply turns_read_bind.mpr
  split
  · refine turns_bind_passes ?_ fun _ => PassesCrypt.workerHead
    refine turns_onError_passes (turns_sendNow command fresh) fun error => ?_
    split
    · exact passes_pure _
    · exact passes_raise error
  · exact fresh.quiet

theorem turns_awaitConnection (fresh : Fresh since s) :
    TurnsCrypt c (awaitConnection c command) since s := by
  apply turns_read_bind.mpr
  split
  · refine ((PassesCrypt.note rfl).bind fun _ => ?_) since s fresh.quiet
    exact PassesCrypt.park rfl fun answer packet => by simp
  · exact turns_sendTaken command fresh

theorem turns_takeCommand (fresh : Fresh since s) :
    TurnsCrypt c (takeCommand c command) since s := by
  apply turns_read_bind.mpr
  split
  · exact PassesCrypt.workerHead since s fresh.quiet
  · exact turns_awaitConnection command fresh

theorem turns_workerGot (answer : Except PyError Unit) (s : MeshDevice) :
    TurnsCrypt c (workerGot c answer) s s := by
  apply turns_workerIteration
  cases answer with
  | error error =>
    show TurnsCrypt c (if error = .timeoutError then workerHead else raise error) s s
    split
    · exact PassesCrypt.workerHead s s (.refl s)
    · exact CryptTurn.refl s
  | ok _ =>
    apply turns_read_bind.mpr
    split
    · exact PassesCrypt.park rfl (fun answer packet => by simp) s s (.refl s)
    · next command queue _ =>
      intro me
      refine turns_takeCommand command ⟨rfl, rfl, ?_⟩
      exact (attempts_note (.taken me command)).trans (List.append_nil _)

theorem turns_workerWaited (answer : Except PyError Unit) (s : MeshDevice) :
    TurnsCrypt c (workerWaited c command answer) s s := by
  apply turns_workerIteration
  cases answer with
  | error error =>
    show TurnsCrypt c (if error = .timeoutError then awaitConnection c command else raise error) s s
    split
    · exact turns_awaitConnection command (.refl s)
    · exact CryptTurn.refl s
  | ok _ => exact turns_awaitConnection command (.refl s)

theorem turns_keepAliveAwake (answer : Except PyError Unit) (s : MeshDevice) :
    TurnsCrypt c (keepAliveAwake c answer) s s := by
  refine turns_onError_passes ?_ fun error => ?_
  · cases answer with
    | error error => exact CryptTurn.refl s
    | ok _ =>
      apply turns_read_bind.mpr
      split
      · exact CryptTurn.refl s
      · exact turns_bind_passes (turns_sendKeepAlive (.refl s)) fun _ => PassesCrypt.keepAliveHead
  · split
    · exact passes_pure _
    · exact passes_raise error

end Senders

/-! ### Runs -/

/-- Every turn of a device draws at most one number and encrypts under it. -/
theorem keystreamOutline_verifies :
    (keystreamOutline c).Verifies (telinkProgram c TelinkCode.isDeviceCall) where
  body code own s := by
    have begins : CryptTurn c s none s := .refl s
    cases code with
    | linkConnect maxRetries => exact PassesCrypt.linkConnect maxRetries s s begins
    | linkDisconnect => exact PassesCrypt.linkDisconnect s s begins
    -- nobody calls it but an attempt, whose turn it is then
    | linkWrite packet => exact absurd rfl (own packet)
    | connect maxRetries => exact PassesCrypt.connect maxRetries s s begins
    | disconnect => exact PassesCrypt.disconnect s s begins
    | sendCommand opcode params destId =>
      exact PassesCrypt.enqueue opcode params destId s s begins
    | keepAliveLoop => exact PassesCrypt.keepAliveHead.suppressCancelled s s begins
    | keepAliveAwake answer => exact turns_keepAliveAwake answer s
    | worker => exact PassesCrypt.workerHead s s begins
    | workerGot answer => exact turns_workerGot answer s
    | workerWaited command answer => exact turns_workerWaited command answer s
    | workerRested answer =>
      exact (passes_done answer).bind (fun _ => PassesCrypt.workerHead) s s begins
  entry code isEntry packet same := by
    rw [same] at isEntry
    cases isEntry
  idle := .refl
  environment duration s s' passed := by
    replace passed : elapse duration s = some s' := passed
    unfold elapse at passed
    split at passed
    · cases passed
      exact .quiet (.inl rfl) rfl
    · cases passed

/-- The numbers that are drawn in a run. -/
def numbersDrawn (w : EventLoop telinkSignature) (events : List (LoopEvent telinkSignature Rat)) :
    List Nat :=
  (telinkSystem c).trace (fun w _ w' => drawn w.shared w'.shared) w events

/-- The packets that are encrypted in a run. -/
def packetsEncrypted (w : EventLoop telinkSignature)
    (events : List (LoopEvent telinkSignature Rat)) : List Encryption :=
  (telinkSystem c).trace
    (fun w event w' => encrypted w.shared (event.stop? w') w'.shared) w events

/-- The packets that are handed to the client in a run. -/
def packetsHanded (w : EventLoop telinkSignature)
    (events : List (LoopEvent telinkSignature Rat)) : List Bytes :=
  (telinkSystem c).trace (fun _ event w' => handed (event.stop? w')) w events

/-- All tasks keep to their turns, and the counter has 24 bits. -/
structure InSequence (w : EventLoop telinkSignature) : Prop where
  ready : (keystreamOutline c).AllReady w
  small : w.shared.sequence < 2 ^ 24

section Runs

variable {c} {w w' : EventLoop telinkSignature} {event : LoopEvent telinkSignature Rat}

theorem InSequence.idle : InSequence c MeshDevice.idle where
  ready _ _ found := by cases found
  small := by decide

theorem InSequence.turn (sound : InSequence c w)
    (stepped : (telinkSystem c).step w event = some w') :
    CryptTurn c w.shared (event.stop? w') w'.shared :=
  ((keystreamOutline_verifies c).step sound.ready stepped).2

theorem InSequence.step (sound : InSequence c w)
    (stepped : (telinkSystem c).step w event = some w') : InSequence c w' where
  ready := ((keystreamOutline_verifies c).step sound.ready stepped).1
  small := by
    rcases (sound.turn stepped).sequence with same | advanced
    · rw [same]
      exact sound.small
    · rw [advanced, next_sequence_eq]
      exact Nat.mod_lt _ (by decide)

theorem InSequence.exec {events : List (LoopEvent telinkSignature Rat)}
    (reached : (telinkSystem c).exec MeshDevice.idle events = some w) : InSequence c w :=
  (telinkSystem c).exec_invariant_of_step (InSequence c)
    (fun _ _ _ sound stepped => sound.step stepped) .idle reached

/-- The numbers are drawn one after the other, around the counter. -/
theorem numbersDrawn_consecutive (sound : InSequence c w)
    (events : List (LoopEvent telinkSignature Rat)) :
    ∃ n, numbersDrawn c w events = consecutive w.shared.sequence n := by
  -- the counter goes on from where each step leaves it
  induction events generalizing w with
  | nil => exact ⟨0, rfl⟩
  | cons event events ih =>
    simp only [numbersDrawn, EventSystem.trace]
    cases stepped : (telinkSystem c).step w event with
    | none => exact ⟨0, rfl⟩
    | some w' =>
      obtain ⟨n, later⟩ := ih (sound.step stepped)
      simp only [numbersDrawn] at later
      simp only [later]
      rcases (sound.turn stepped).sequence with same | advanced
      · refine ⟨n, ?_⟩
        rw [same, drawn, if_pos same, List.nil_append]
      · refine ⟨n + 1, ?_⟩
        rw [drawn_next advanced, advanced, next_sequence_eq, consecutive_succ sound.small]
        rfl

/-- What is encrypted in a run has its numbers from the counter, in order. -/
theorem packetsEncrypted_numbers (sound : InSequence c w)
    (events : List (LoopEvent telinkSignature Rat)) :
    ((packetsEncrypted c w events).map Encryption.sequence).Sublist (numbersDrawn c w events) := by
  rw [← List.map_id (numbersDrawn c w events)]
  refine EventSystem.trace_sublist (fun _ _ _ sound stepped => InSequence.step sound stepped)
    (fun w event w' sound stepped => ?_) sound events
  rw [List.map_id]
  exact (InSequence.turn sound stepped).numbers

theorem packetsEncrypted_made (sound : InSequence c w)
    (events : List (LoopEvent telinkSignature Rat)) :
    ∀ e ∈ packetsEncrypted c w events, ∃ packet, e.packet c = .ok packet :=
  EventSystem.trace_forall (fun _ _ _ sound stepped => InSequence.step sound stepped)
    (fun _ _ _ sound stepped => (InSequence.turn sound stepped).made) sound events

/-- What is handed to the client is what was encrypted, in order. -/
theorem packetsHanded_encrypted (sound : InSequence c w)
    (events : List (LoopEvent telinkSignature Rat)) :
    ((packetsHanded c w events).map Except.ok).Sublist
      ((packetsEncrypted c w events).map (Encryption.packet c)) :=
  EventSystem.trace_sublist (fun _ _ _ sound stepped => InSequence.step sound stepped)
    (fun _ _ _ sound stepped => (InSequence.turn sound stepped).handed) sound events

end Runs

/-- However attempts, retries and keep-alive probes interleave, from any state that a device
comes to: as long as the counter does not come around, what is handed to the client is what
was encrypted; each packet is its payload under the key stream of its counter blocks; no two
packets have the same nonce; no counter block comes twice, in one packet or in two; and
decryption is encryption. -/
theorem keystream_unique {before session : List (LoopEvent telinkSignature Rat)}
    {w : EventLoop telinkSignature}
    (reached : (telinkSystem c).exec MeshDevice.idle before = some w)
    (few : (numbersDrawn c w session).length ≤ 2 ^ 24) :
    ((packetsHanded c w session).map Except.ok).Sublist
        ((packetsEncrypted c w session).map (Encryption.packet c)) ∧
      ((packetsEncrypted c w session).map Encryption.sequence).Sublist
        (numbersDrawn c w session) ∧
      (∀ e ∈ packetsEncrypted c w session, e.UnderKeystream c) ∧
      ((packetsEncrypted c w session).map (Encryption.nonce c)).Nodup ∧
      ((packetsEncrypted c w session).flatMap (Encryption.counterBlocks c)).Nodup ∧
      ∀ key nonce payload encrypted, cryptPayload c.suite key nonce payload = .ok encrypted →
        cryptPayload c.suite key nonce encrypted = .ok payload := by
  have sound := InSequence.exec reached
  have made := packetsEncrypted_made sound session
  have numbers := packetsEncrypted_numbers sound session
  -- the numbers of the packets are some of those drawn, and each of those is drawn once
  have different : (packetsEncrypted c w session).Pairwise fun e e' =>
      e.sequence ≠ e'.sequence := by
    obtain ⟨n, drawn⟩ := numbersDrawn_consecutive sound session
    have within : n ≤ 2 ^ 24 := by
      rw [drawn, consecutive, List.length_map, List.length_range] at few
      exact few
    have once : (numbersDrawn c w session).Nodup := drawn ▸ consecutive_nodup _ within
    exact List.pairwise_map.mp (once.sublist numbers)
  refine ⟨packetsHanded_encrypted sound session, numbers, ?_, ?_, ?_, ?_⟩
  · intro e member
    obtain ⟨packet, encoded⟩ := made e member
    obtain ⟨_, _, _, _, _, _, under⟩ := Encryption.packet_ok encoded
    exact under
  · rw [List.Nodup, List.pairwise_map]
    refine different.imp_of_mem fun member _ apart => ?_
    obtain ⟨packet, encoded⟩ := made _ member
    exact Encryption.nonce_ne encoded apart
  · rw [List.nodup_flatMap]
    constructor
    · intro e member
      obtain ⟨packet, encoded⟩ := made e member
      exact Encryption.counterBlocks_nodup encoded
    · refine different.imp_of_mem fun member member' apart => ?_
      obtain ⟨packet, encoded⟩ := made _ member
      obtain ⟨packet', encoded'⟩ := made _ member'
      exact Encryption.counterBlocks_disjoint encoded encoded' apart
  · exact fun key nonce payload encrypted crypted => (cryptPayload_inverse crypted).2

/-- A device is connected, and a command is in its queue. -/
def commandQueued : List (LoopEvent telinkSignature Rat) :=
  [.enter (.connect 5), .start 0] ++ connectAnswers 0 7 ++
    [.answer 0 (.startNotify 7) (.ok ()), .start 1, .start 2,
      .enter (.sendCommand 0xD0 [0x01] 5), .start 3]

def sampleProbe (sequence : Nat) : Bytes :=
  samplePacket sequence TELINK_CMD_STATUS_QUERY _STATUS_QUERY_PARAM KEEP_ALIVE_DESTINATION

/-- The timer sends a probe between the two attempts to send the command. -/
def probedRetry : List (LoopEvent telinkSignature Rat) :=
  [.answer 2 .queueGet (.ok ()), .answer 1 .keepAliveSleep (.ok ()),
    .answer 1 (.writeKeepAlive 7 (sampleProbe 1)) (.ok ()),
    .answer 2 (.writeCommand 7 (samplePacket 0 0xD0 [0x01] 5)) (.error .osError),
    .answer 1 .keepAliveSleep (.error .cancelledError), .joined 2,
    .answer 2 (.disconnectClient 7 .loss) (.ok ()), .enter (.connect 5), .start 4] ++
    connectAnswers 4 8 ++
    [.answer 4 (.startNotify 8) (.ok ()), .start 5,
      .answer 2 (.retrySleep (1 / 2) (sampleSwitch 0 0x01)) (.ok ())]

theorem probedRetry_unique :
    ∃ w ∈ (telinkSystem sampleTelink).exec MeshDevice.idle commandQueued,
      packetsHanded sampleTelink w probedRetry =
          [samplePacket 0 0xD0 [0x01] 5, sampleProbe 1, samplePacket 2 0xD0 [0x01] 5] ∧
        ((packetsEncrypted sampleTelink w probedRetry).map
          (Encryption.nonce sampleTelink)).Nodup ∧
        ((packetsEncrypted sampleTelink w probedRetry).flatMap
          (Encryption.counterBlocks sampleTelink)).Nodup := by
  have runs : ∃ w ∈ (telinkSystem sampleTelink).exec MeshDevice.idle commandQueued,
      packetsHanded sampleTelink w probedRetry =
          [samplePacket 0 0xD0 [0x01] 5, sampleProbe 1, samplePacket 2 0xD0 [0x01] 5] ∧
        (numbersDrawn sampleTelink w probedRetry).length ≤ 2 ^ 24 := by
    decide +kernel
  obtain ⟨w, reached, packets, few⟩ := runs
  obtain ⟨_, _, _, nonces, blocks, _⟩ := keystream_unique sampleTelink reached few
  exact ⟨w, reached, packets, nonces, blocks⟩

end Telink

end TuyaBleMesh
