import TuyaBleMesh.Lib.EventSystem
import TuyaBleMesh.MeshProxyCmd.Sequence

/-!
# Runs of the script that share a file

Runs of the script at the same time and one after another, all with the same keys and the
same `SEQ_FILE`. `next_seq` reads the file and writes it without a lock, so the numbers are
fresh as long as no run reads while another one stands before its write.
-/

namespace TuyaBleMesh

namespace MeshProxyCmd

/-! ### The file and the runs -/

inductive SeqFile
  | missing
  | stored (seq : Nat)
  /-- Anything that is not a number under `seq`. -/
  | broken
  deriving DecidableEq

def SeqFile.read : SeqFile → Except PyError (Option Nat)
  | .missing => .ok none
  | .stored seq => .ok (some seq)
  | .broken => .error .valueError

/-- The next number that is drawn from the file, if one is. -/
def SeqFile.next : SeqFile → Option Nat
  | .missing => some 500
  | .stored seq => some seq
  | .broken => none

theorem SeqFile.next_of_read {file : SeqFile} {stored : Option Nat}
    (read : file.read = .ok stored) : stored.getD 500 ∈ file.next := by
  cases file with
  | missing =>
    cases read
    rfl
  | stored seq =>
    cases read
    rfl
  | broken => cases read

structure Run where
  messages : List Message
  history : SessionHistory
  rest : Session Unit

/-- The call that the run has made and that is not answered. -/
def Run.pending (run : Run) : Option SessionOp :=
  match run.rest with
  | .done _ => none
  | .call op _ => some op

structure World where
  file : SeqFile
  runs : Nat → Option Run
  /-- The PDUs that were sent, in their order. -/
  air : List Bytes
  /-- Behind all numbers that a run has taken for itself. -/
  reserved : Nat

inductive WorldEvent
  | start (id : Nat) (messages : List Message)
  /-- The call succeeds; only reading a broken file does not. -/
  | answer (id : Nat)
  /-- The call raises. A write that does so half way leaves a broken file, or a PDU that was
  sent. -/
  | fail (id : Nat) (error : PyError) (half : Bool)
  | kill (id : Nat)
  /-- The file is changed by something else. -/
  | edit (file : SeqFile)

namespace World

def start (file : SeqFile) : World where
  file
  runs _ := none
  air := []
  reserved := 0

/-- A call that succeeds. -/
def succeed (w : World) : (op : SessionOp) → op.Answer × World
  | .readSeq => (w.file.read, w)
  | .writeSeq seq => (.ok (), { w with file := .stored seq, reserved := max w.reserved seq })
  | .startNotify => (.ok (), w)
  | .writeGattChar pdu => (.ok (), { w with air := w.air ++ [pdu] })
  | .sleep => (.ok (), w)

def raise (w : World) (error : PyError) (half : Bool) : (op : SessionOp) → op.Answer × World
  | .readSeq => (.error error, w)
  | .writeSeq _ => (.error error, if half then { w with file := .broken } else w)
  | .startNotify => (.error error, w)
  | .writeGattChar pdu => (.error error, if half then { w with air := w.air ++ [pdu] } else w)
  | .sleep => (.error error, w)

def setRun (w : World) (id : Nat) (run : Option Run) : World :=
  { w with runs := Function.update w.runs id run }

theorem runs_setRun_self (w : World) (id : Nat) (run : Option Run) :
    (w.setRun id run).runs id = run := by
  simp only [setRun, Function.update_self]

theorem runs_setRun_ne (w : World) {id other : Nat} (different : other ≠ id) (run : Option Run) :
    (w.setRun id run).runs other = w.runs other := by
  simp only [setRun, Function.update_of_ne different]

/-- The run goes on with the answer. -/
def resume (w : World) (id : Nat) (call : (w : World) → (op : SessionOp) → op.Answer × World) :
    Option World :=
  match w.runs id with
  | some { messages, history, rest := .call op next } =>
    let (answer, w') := call w op
    some (w'.setRun id (some { messages, history := history ++ [⟨op, answer⟩], rest := next answer }))
  | _ => none

def step (lib : CipherLibrary) (keys : MeshKeys) (ourAddr : Nat) (w : World) :
    WorldEvent → Option World
  | .start id messages =>
    match w.runs id with
    | none => some (w.setRun id (some {
        messages
        history := []
        rest := sendAll lib keys ourAddr false messages }))
    | some _ => none
  | .answer id => w.resume id succeed
  | .fail id error half => w.resume id fun w => w.raise error half
  | .kill id => some (w.setRun id none)
  | .edit file => some { w with file }

def pending (w : World) (id : Nat) : Option SessionOp := (w.runs id).bind Run.pending

/-- The run has read the file and has not written it. -/
def Writing (w : World) (id : Nat) : Prop := ∃ seq, w.pending id = some (.writeSeq seq)

/-- No run reads while another one stands before its write, the numbers fit their field, and
nothing else takes the file back behind a number that was taken. -/
def Careful (w : World) : WorldEvent → Prop
  | .answer id => (w.pending id = some .readSeq → ∀ other, ¬w.Writing other) ∧
      ∀ seq, w.pending id = some (.writeSeq seq) → seq ≤ 2 ^ 24
  | .edit file => ∀ seq ∈ file.next, w.reserved ≤ seq
  | _ => True

end World

def worldSystem (lib : CipherLibrary) (keys : MeshKeys) (ourAddr : Nat) :
    EventSystem World WorldEvent where
  step := World.step lib keys ourAddr

/-- The number under which a node that has the keys reads a proxy PDU. -/
def receivedSeq (suite : CipherSuite) (keys : MeshKeys) (pdu : Bytes) : Option Nat := do
  let proxy ← (TuyaBleMesh.parseProxyPdu pdu).toOption
  let netPdu ← (TuyaBleMesh.decryptNetworkPdu suite keys.encKey keys.privKey keys.nid
    proxy.payload keys.ivIndex).toOption
  netPdu.map (·.seq)

/-! ### The frames of a message -/

section Frames

variable {suite : CipherSuite} {keys : MeshKeys} {ourAddr : Nat}

theorem inRange_of_encrypted {fields : NetworkPDU} {pdu : Bytes} (ctl_le : fields.ctl ≤ 1)
    (ttl_le : fields.ttl ≤ 127) (seq_lt : fields.seq < 2 ^ 24)
    (made : TuyaBleMesh.encryptNetworkPdu suite keys.encKey keys.privKey keys.nid fields
      keys.ivIndex = .ok pdu) : fields.InRange := by
  obtain ⟨nonce, nonceMade, rest⟩ := bind_eq_ok.mp made
  obtain ⟨dst, dstMade, _⟩ := bind_eq_ok.mp rest
  obtain ⟨ctlTtl, _, nonceMade⟩ := bind_eq_ok.mp nonceMade
  obtain ⟨seq, _, nonceMade⟩ := bind_eq_ok.mp nonceMade
  obtain ⟨src, srcMade, _⟩ := bind_eq_ok.mp nonceMade
  exact { ctl_le, ttl_le, seq_lt, src_lt := packBE_eq_ok srcMade, dst_lt := packBE_eq_ok dstMade }

variable [LawfulCcm suite]

/-- A frame is read back with its number. -/
theorem receivedSeq_libraryFrame {dst : Nat} {segment : Nat × Bytes} {pdu : Bytes}
    (some : segment.2 ≠ []) (seq_lt : segment.1 < 2 ^ 24)
    (made : libraryFrame suite keys ourAddr dst segment = .ok pdu) :
    receivedSeq suite keys pdu = .some segment.1 := by
  obtain ⟨networkPdu, encrypted, whole⟩ := bind_eq_ok.mp made
  cases whole
  have inRange := inRange_of_encrypted (Nat.zero_le 1) (show 4 ≤ 127 by decide) seq_lt encrypted
  obtain ⟨networkPdu', encrypted', decrypted⟩ :=
    decrypt_encrypt_networkPdu suite keys _ inRange some
  cases encrypted.symm.trans encrypted'
  rw [receivedSeq, parseProxyPdu_makeProxyPdu]
  change (TuyaBleMesh.decryptNetworkPdu suite keys.encKey keys.privKey keys.nid networkPdu
    keys.ivIndex).toOption.bind _ = _
  rw [decrypted]
  rfl

variable (suite keys ourAddr) in
/-- The frames of a message are made of PDUs with the numbers that it takes, or there are none. -/
theorem Message.frames_cases (message : Message) (seq : Nat) :
    message.frames suite keys ourAddr seq = [] ∨
      ∃ segments : List (Nat × Bytes), segments.map Prod.fst = List.range' seq message.count ∧
        (∀ segment ∈ segments, segment.2 ≠ []) ∧
        message.frames suite keys ourAddr seq = segments.map fun segment =>
          (segment.1, libraryFrame suite keys ourAddr message.dst segment) := by
  cases under : message.key keys with
  | none =>
    left
    simp only [Message.frames, under]
  | some key =>
    cases made : message.transportPdus suite keys ourAddr key seq with
    | error error =>
      left
      simp only [Message.frames, under, made]
    | ok segments =>
      obtain ⟨numbers, filled⟩ := Message.transportPdus_numbers made
      exact .inr ⟨segments, numbers, filled, Message.frames_eq under made⟩

variable (suite keys ourAddr) in
theorem Message.frames_numbers (message : Message) (seq : Nat) :
    ((message.frames suite keys ourAddr seq).map Prod.fst).Nodup ∧
      ∀ number ∈ (message.frames suite keys ourAddr seq).map Prod.fst,
        seq ≤ number ∧ number < seq + message.count := by
  rcases message.frames_cases suite keys ourAddr seq with none | ⟨segments, numbers, _, made⟩
  · rw [none]
    exact ⟨List.nodup_nil, nofun⟩
  · have taken : (message.frames suite keys ourAddr seq).map Prod.fst =
        List.range' seq message.count := by
      rw [made, List.map_map]
      exact numbers
    rw [taken]
    exact ⟨List.nodup_range', fun number member => List.mem_range'_1.mp member⟩

theorem Message.frames_genuine {message : Message} {seq : Nat} (fits : seq + message.count ≤ 2 ^ 24)
    {frame : Nat × Except PyError Bytes} (member : frame ∈ message.frames suite keys ourAddr seq)
    {pdu : Bytes} (made : frame.2 = .ok pdu) : receivedSeq suite keys pdu = some frame.1 := by
  have number := (message.frames_numbers suite keys ourAddr seq).2 _ (List.mem_map_of_mem member)
  rcases message.frames_cases suite keys ourAddr seq with none | ⟨segments, _, filled, framed⟩
  · rw [none] at member
    cases member
  · rw [framed] at member
    obtain ⟨segment, listed, rfl⟩ := List.mem_map.mp member
    exact receivedSeq_libraryFrame (filled segment listed) (by omega) made

end Frames

/-! ### Where a run may stand -/

namespace Account

/-- The frames that are left of the last message. -/
def left : Account → List (Nat × Except PyError Bytes)
  | .drawn _ _ _ => []
  | .sending frames _ => frames

/-- The numbers that the run has taken and not sent. -/
def numbers (account : Account) : List Nat := account.left.map Prod.fst

variable {account : Account}

theorem of_permits_readSeq (permitted : account.permits .readSeq) :
    ∃ message todo, account = .sending [] (message :: todo) := by
  rcases account with _ | ⟨_ | _, _ | _⟩
  case sending.nil.cons message todo => exact ⟨message, todo, rfl⟩
  all_goals cases permitted

theorem of_permits_writeSeq {value : Nat} (permitted : account.permits (.writeSeq value)) :
    ∃ seq message todo, account = .drawn seq message todo ∧ value = seq + message.count := by
  rcases account with ⟨seq, message, todo⟩ | ⟨_ | _, _ | _⟩
  case drawn => exact ⟨seq, message, todo, rfl, permitted⟩
  all_goals cases permitted

theorem of_permits_writeGattChar {pdu : Bytes} (permitted : account.permits (.writeGattChar pdu)) :
    ∃ seq frames todo, account = .sending ((seq, .ok pdu) :: frames) todo := by
  rcases account with _ | ⟨_ | ⟨⟨seq, pdu'⟩, frames⟩, todo⟩
  · cases permitted
  · cases todo <;> cases permitted
  · have same : pdu' = .ok pdu := by cases todo <;> exact permitted
    exact ⟨seq, frames, todo, by rw [same]⟩

theorem of_permits_idle {op : SessionOp} (idle : op = .startNotify ∨ op = .sleep)
    (permitted : account.permits op) : ∃ frames todo, account = .sending frames todo := by
  rcases account with _ | ⟨frames, todo⟩
  · rcases idle with rfl | rfl <;> cases permitted
  · exact ⟨frames, todo, rfl⟩

end Account

section Invariant

variable {lib : CipherLibrary} {keys : MeshKeys} {ourAddr : Nat}

variable (lib keys ourAddr) in
def Run.account (run : Run) : Account :=
  accountOf lib.toCipherSuite keys ourAddr run.messages run.history

variable (lib keys ourAddr) in
/-- What holds of a run wherever it waits. -/
structure Run.Sound (reserved : Nat) (air : List Bytes) (run : Run) : Prop where
  meets : run.rest.wp (sendContract lib.toCipherSuite keys ourAddr run.messages)
    (fun _ _ => True) run.history
  /-- What the run is about to take is free. -/
  ahead : ∀ value, run.pending = some (.writeSeq value) →
    ∀ seq message todo, run.account lib keys ourAddr = .drawn seq message todo → reserved ≤ seq
  genuine : ∀ frame ∈ (run.account lib keys ourAddr).left, ∀ pdu, frame.2 = .ok pdu →
    receivedSeq lib.toCipherSuite keys pdu = some frame.1
  below : ∀ number ∈ (run.account lib keys ourAddr).numbers, number < reserved
  nodup : (run.account lib keys ourAddr).numbers.Nodup
  unsent : ∀ number ∈ (run.account lib keys ourAddr).numbers,
    some number ∉ air.map (receivedSeq lib.toCipherSuite keys)

variable (lib keys ourAddr) in
structure World.Sound (w : World) : Prop where
  sound : ∀ id run, w.runs id = some run → run.Sound lib keys ourAddr w.reserved w.air
  single : ∀ id other, w.Writing id → w.Writing other → id = other
  apart : ∀ id other run run', id ≠ other → w.runs id = some run → w.runs other = some run' →
    ∀ number ∈ (run.account lib keys ourAddr).numbers,
      number ∉ (run'.account lib keys ourAddr).numbers
  ahead : ∀ seq ∈ w.file.next, w.reserved ≤ seq
  received : ∀ pdu ∈ w.air, ∃ number < w.reserved,
    receivedSeq lib.toCipherSuite keys pdu = some number
  nodup : (w.air.map (receivedSeq lib.toCipherSuite keys)).Nodup

/-- A run that is not between two frames of `next_seq` does not stand before its write. -/
theorem Run.pending_ne_writeSeq {run : Run} {frames : List (Nat × Except PyError Bytes)}
    {todo : List Message}
    (meets : run.rest.wp (sendContract lib.toCipherSuite keys ourAddr run.messages)
      (fun _ _ => True) run.history)
    (stands : run.account lib keys ourAddr = .sending frames todo) (value : Nat) :
    run.pending ≠ some (.writeSeq value) := by
  intro waits
  obtain ⟨messages, history, rest⟩ := run
  cases rest with
  | done result => cases waits
  | call op next =>
    cases waits
    obtain ⟨seq, message, todo', drawn, _⟩ := Account.of_permits_writeSeq meets.1
    cases stands.symm.trans drawn

theorem World.writing_setRun {w : World} {id other : Nat} {run : Option Run}
    (writing : (w.setRun id run).Writing other) :
    (other = id ∧ ∃ value, run.bind Run.pending = some (.writeSeq value)) ∨
      (other ≠ id ∧ w.Writing other) := by
  obtain ⟨value, waits⟩ := writing
  by_cases same : other = id
  · subst same
    rw [World.pending, World.runs_setRun_self] at waits
    exact .inl ⟨rfl, value, waits⟩
  · rw [World.pending, World.runs_setRun_ne w same] at waits
    exact .inr ⟨same, value, waits⟩

namespace World.Sound

variable {w : World} {id : Nat} {run : Run}

/-- One run goes on: what has to be shown of it and of what it changes. -/
theorem replace (sound : w.Sound lib keys ourAddr) (w' : World) (same : w'.runs = w.runs)
    (fresh : run.Sound lib keys ourAddr w'.reserved w'.air)
    (others : ∀ other run', other ≠ id → w.runs other = some run' →
      run'.Sound lib keys ourAddr w'.reserved w'.air ∧
        ∀ number ∈ (run.account lib keys ourAddr).numbers,
          number ∉ (run'.account lib keys ourAddr).numbers)
    (single : ∀ value, run.pending = some (.writeSeq value) → ∀ other, other ≠ id →
      ¬w.Writing other)
    (ahead : ∀ seq ∈ w'.file.next, w'.reserved ≤ seq)
    (received : ∀ pdu ∈ w'.air, ∃ number < w'.reserved,
      receivedSeq lib.toCipherSuite keys pdu = some number)
    (nodup : (w'.air.map (receivedSeq lib.toCipherSuite keys)).Nodup) :
    (w'.setRun id (some run)).Sound lib keys ourAddr := by
  have unchanged {other : Nat} (writing : w'.Writing other) : w.Writing other := by
    obtain ⟨value, waits⟩ := writing
    exact ⟨value, by rwa [World.pending, same] at waits⟩
  have found {other : Nat} {run' : Run} (there : (w'.setRun id (some run)).runs other = some run') :
      (other = id ∧ run = run') ∨ (other ≠ id ∧ w.runs other = some run') := by
    by_cases this : other = id
    · subst this
      rw [World.runs_setRun_self] at there
      exact .inl ⟨rfl, Option.some.inj there⟩
    · rw [World.runs_setRun_ne w' this, same] at there
      exact .inr ⟨this, there⟩
  refine { ahead, received, nodup, sound := ?_, single := ?_, apart := ?_ }
  · intro other run' there
    rcases found there with ⟨rfl, rfl⟩ | ⟨this, there⟩
    · exact fresh
    · exact (others other run' this there).1
  · intro first second one two
    rcases World.writing_setRun one with ⟨rfl, value, waits⟩ | ⟨this, writing⟩
    · rcases World.writing_setRun two with ⟨rfl, _⟩ | ⟨this, writing⟩
      · rfl
      · exact absurd (unchanged writing) (single value waits second this)
    · rcases World.writing_setRun two with ⟨rfl, value, waits⟩ | ⟨_, writing'⟩
      · exact absurd (unchanged writing) (single value waits first this)
      · exact sound.single first second (unchanged writing) (unchanged writing')
  · intro first second run₁ run₂ different one two
    rcases found one with ⟨rfl, rfl⟩ | ⟨_, there⟩
    · rcases found two with ⟨rfl, _⟩ | ⟨this, there⟩
      · exact absurd rfl different
      · exact (others second run₂ this there).2
    · rcases found two with ⟨rfl, rfl⟩ | ⟨_, there'⟩
      · intro number member taken
        exact (others first run₁ different there).2 number taken member
      · exact sound.apart first second run₁ run₂ different there there'

/-- A run that takes no numbers and sends nothing goes on. -/
theorem replace_quiet (sound : w.Sound lib keys ourAddr) {w' : World} {old : Run} (here : w.runs id = some old)
    (fresh : run.Sound lib keys ourAddr w.reserved w.air)
    (taken : (run.account lib keys ourAddr).numbers ⊆ (old.account lib keys ourAddr).numbers)
    (single : ∀ value, run.pending = some (.writeSeq value) → ∀ other, other ≠ id →
      ¬w.Writing other) (same : w'.runs = w.runs) (sameAir : w'.air = w.air)
    (sameReserved : w'.reserved = w.reserved) (file : w'.file = w.file ∨ w'.file = .broken) :
    (w'.setRun id (some run)).Sound lib keys ourAddr := by
  have ahead : ∀ seq ∈ w'.file.next, w'.reserved ≤ seq := by
    rw [sameReserved]
    rcases file with same | broken
    · rw [same]
      exact sound.ahead
    · rw [broken]
      exact nofun
  refine sound.replace w' same ?_ ?_ single ahead ?_ ?_
  · rwa [sameReserved, sameAir]
  · intro other run' this there
    rw [sameReserved, sameAir]
    refine ⟨sound.sound other run' there, fun number member => ?_⟩
    exact sound.apart id other old run' (Ne.symm this) here there number (taken member)
  · rw [sameReserved, sameAir]
    exact sound.received
  · rw [sameAir]
    exact sound.nodup

end World.Sound

/-- The run after its call is answered. -/
def Run.goOn (messages : List Message) (history : SessionHistory) (op : SessionOp)
    (next : op.Answer → Session Unit) (answer : op.Answer) : Run where
  messages
  history := history ++ [⟨op, answer⟩]
  rest := next answer

section Step

variable {w w' : World} {id : Nat} {messages : List Message} {history : SessionHistory}
  {op : SessionOp} {next : op.Answer → Session Unit} {reserved : Nat} {air : List Bytes}

theorem Run.goOn_account (answer : op.Answer) {account : Account}
    (stands : (Run.mk messages history (.call op next)).account lib keys ourAddr = account) :
    (Run.goOn messages history op next answer).account lib keys ourAddr =
      account.after lib.toCipherSuite keys ourAddr ⟨op, answer⟩ := by
  rw [← stands]
  exact accountOf_append history ⟨op, answer⟩

/-- A run that takes nothing new stays sound. -/
theorem Run.Sound.goOn
    (sound : (Run.mk messages history (.call op next)).Sound lib keys ourAddr reserved air)
    (answer : op.Answer)
    (left : ((Run.goOn messages history op next answer).account lib keys ourAddr).left.Sublist
      ((Run.mk messages history (.call op next)).account lib keys ourAddr).left)
    (ahead : ∀ seq message todo, (Run.goOn messages history op next answer).account lib keys ourAddr =
      .drawn seq message todo → reserved ≤ seq) :
    (Run.goOn messages history op next answer).Sound lib keys ourAddr reserved air where
  meets := sound.meets.2 answer trivial
  ahead _ _ := ahead
  genuine frame member := sound.genuine frame (left.subset member)
  below number member := sound.below number ((left.map Prod.fst).subset member)
  nodup := sound.nodup.sublist (left.map Prod.fst)
  unsent number member := sound.unsent number ((left.map Prod.fst).subset member)

/-- A call whose answer takes nothing new and sends nothing. -/
theorem World.Sound.goOn (sound : w.Sound lib keys ourAddr)
    (here : w.runs id = some ⟨messages, history, .call op next⟩) (answer : op.Answer)
    (left : ((Run.goOn messages history op next answer).account lib keys ourAddr).left.Sublist
      ((Run.mk messages history (.call op next)).account lib keys ourAddr).left)
    (ahead : ∀ seq message todo, (Run.goOn messages history op next answer).account lib keys ourAddr =
      .drawn seq message todo → w.reserved ≤ seq ∧ ∀ other, other ≠ id → ¬w.Writing other)
    (same : w'.runs = w.runs) (sameAir : w'.air = w.air) (sameReserved : w'.reserved = w.reserved)
    (file : w'.file = w.file ∨ w'.file = .broken) :
    (w'.setRun id (some (Run.goOn messages history op next answer))).Sound lib keys ourAddr := by
  have fresh := (sound.sound id _ here).goOn answer left fun seq message todo stands =>
    (ahead seq message todo stands).1
  refine sound.replace_quiet here fresh (left.map Prod.fst).subset ?_ same sameAir sameReserved file
  intro value waits
  cases stands : (Run.goOn messages history op next answer).account lib keys ourAddr with
  | drawn seq message todo => exact (ahead seq message todo stands).2
  | sending frames todo => exact absurd waits (Run.pending_ne_writeSeq fresh.meets stands value)

theorem World.resume_cases {call : (w : World) → (op : SessionOp) → op.Answer × World}
    (resumed : w.resume id call = some w') : ∃ messages history op, ∃ next : op.Answer → Session Unit,
      w.runs id = some ⟨messages, history, .call op next⟩ ∧
      w' = (call w op).2.setRun id (some (Run.goOn messages history op next (call w op).1)) := by
  unfold World.resume at resumed
  split at resumed
  · next messages history op next here =>
    cases resumed
    exact ⟨messages, history, op, next, here, rfl⟩
  · cases resumed

/-- A call after which the run has nothing to take and no more frames than before. -/
theorem World.Sound.sending (sound : w.Sound lib keys ourAddr)
    (here : w.runs id = some ⟨messages, history, .call op next⟩) (answer : op.Answer)
    {frames frames' : List (Nat × Except PyError Bytes)} {todo todo' : List Message}
    (stands : (Run.mk messages history (.call op next)).account lib keys ourAddr =
      .sending frames todo)
    (after : Account.after lib.toCipherSuite keys ourAddr (.sending frames todo) ⟨op, answer⟩ =
      .sending frames' todo') (fewer : frames'.Sublist frames) :
    (w.setRun id (some (Run.goOn messages history op next answer))).Sound lib keys ourAddr := by
  have after := (Run.goOn_account answer stands).trans after
  refine sound.goOn here answer ?_ ?_ rfl rfl rfl (.inl rfl)
  · rw [after, stands]
    exact fewer
  · intro seq message todo' drawn
    cases after.symm.trans drawn

theorem World.Sound.startNotify (sound : w.Sound lib keys ourAddr)
    {next : Except PyError Unit → Session Unit}
    (here : w.runs id = some ⟨messages, history, .call .startNotify next⟩)
    (answer : Except PyError Unit) :
    (w.setRun id (some (Run.goOn messages history .startNotify next answer))).Sound lib keys ourAddr := by
  obtain ⟨frames, todo, stands⟩ :=
    Account.of_permits_idle (.inl rfl) (sound.sound id _ here).meets.1
  exact sound.sending here answer stands (Account.after_startNotify _ answer) (.refl frames)

theorem World.Sound.sleep (sound : w.Sound lib keys ourAddr)
    {next : Except PyError Unit → Session Unit}
    (here : w.runs id = some ⟨messages, history, .call .sleep next⟩) (answer : Except PyError Unit) :
    (w.setRun id (some (Run.goOn messages history .sleep next answer))).Sound lib keys ourAddr := by
  obtain ⟨frames, todo, stands⟩ :=
    Account.of_permits_idle (.inr rfl) (sound.sound id _ here).meets.1
  exact sound.sending here answer stands (Account.after_sleep _ answer) (.refl frames)

theorem World.Sound.readSeq_error (sound : w.Sound lib keys ourAddr)
    {next : Except PyError (Option Nat) → Session Unit}
    (here : w.runs id = some ⟨messages, history, .call .readSeq next⟩) (error : PyError) :
    (w.setRun id (some (Run.goOn messages history .readSeq next (.error error)))).Sound
      lib keys ourAddr := by
  obtain ⟨message, todo, stands⟩ := Account.of_permits_readSeq (sound.sound id _ here).meets.1
  exact sound.sending here (.error error) stands rfl (.refl [])

/-- A frame that is not sent is not sent later either. -/
theorem World.Sound.writeGattChar_lost (sound : w.Sound lib keys ourAddr) {pdu : Bytes}
    {next : Except PyError Unit → Session Unit}
    (here : w.runs id = some ⟨messages, history, .call (.writeGattChar pdu) next⟩)
    (answer : Except PyError Unit) :
    (w.setRun id (some (Run.goOn messages history (.writeGattChar pdu) next answer))).Sound
      lib keys ourAddr := by
  obtain ⟨seq, frames, todo, stands⟩ :=
    Account.of_permits_writeGattChar (sound.sound id _ here).meets.1
  exact sound.sending here answer stands (Account.after_write _ pdu answer)
    (List.sublist_cons_self _ frames)

theorem World.Sound.readSeq (sound : w.Sound lib keys ourAddr)
    {next : Except PyError (Option Nat) → Session Unit}
    (here : w.runs id = some ⟨messages, history, .call .readSeq next⟩)
    (alone : ∀ other, ¬w.Writing other) :
    (w.setRun id (some (Run.goOn messages history .readSeq next w.file.read))).Sound
      lib keys ourAddr := by
  obtain ⟨message, todo, stands⟩ := Account.of_permits_readSeq (sound.sound id _ here).meets.1
  -- a broken file ends the run
  cases file : w.file.read with
  | error error => exact sound.readSeq_error here error
  | ok stored =>
    have after : (Run.goOn messages history .readSeq next (.ok stored)).account lib keys ourAddr =
        .drawn (stored.getD 500) message todo := Run.goOn_account _ stands
    refine sound.goOn here (.ok stored) ?_ ?_ rfl rfl rfl (.inl rfl)
    · rw [after]
      exact List.nil_sublist _
    · intro seq message' todo' drawn
      cases after.symm.trans drawn
      exact ⟨sound.ahead _ (SeqFile.next_of_read file), fun other _ => alone other⟩

/-- A write that fails leaves the numbers free. -/
theorem World.Sound.writeSeq_error (sound : w.Sound lib keys ourAddr) {value : Nat}
    {next : Except PyError Unit → Session Unit}
    (here : w.runs id = some ⟨messages, history, .call (.writeSeq value) next⟩) (error : PyError)
    {w' : World} (same : w'.runs = w.runs) (sameAir : w'.air = w.air)
    (sameReserved : w'.reserved = w.reserved) (file : w'.file = w.file ∨ w'.file = .broken) :
    (w'.setRun id (some (Run.goOn messages history (.writeSeq value) next (.error error)))).Sound
      lib keys ourAddr := by
  have before := sound.sound id _ here
  obtain ⟨seq, message, todo, stands, _⟩ := Account.of_permits_writeSeq before.meets.1
  have after : (Run.goOn messages history (.writeSeq value) next (.error error)).account lib keys
      ourAddr = _ := Run.goOn_account _ stands
  have writing : w.Writing id := by
    refine ⟨value, ?_⟩
    rw [World.pending, here]
    rfl
  refine sound.goOn here (.error error) ?_ ?_ same sameAir sameReserved file
  · rw [after]
    exact List.nil_sublist _
  · intro seq' message' todo' drawn
    cases after.symm.trans drawn
    refine ⟨before.ahead value rfl seq message todo stands, fun other different also => ?_⟩
    exact different (sound.single other id also writing)

/-- A write takes the numbers from the one that was read on. -/
theorem World.Sound.writeSeq [LawfulCcm lib.toCipherSuite] (sound : w.Sound lib keys ourAddr)
    {value : Nat} {next : Except PyError Unit → Session Unit}
    (here : w.runs id = some ⟨messages, history, .call (.writeSeq value) next⟩)
    (fits : value ≤ 2 ^ 24) :
    (World.setRun { w with file := .stored value, reserved := max w.reserved value } id
      (some (Run.goOn messages history (.writeSeq value) next (.ok ())))).Sound
      lib keys ourAddr := by
  have before := sound.sound id _ here
  obtain ⟨seq, message, todo, stands, rfl⟩ := Account.of_permits_writeSeq before.meets.1
  have after : (Run.goOn messages history (.writeSeq (seq + message.count)) next (.ok ())).account
      lib keys ourAddr = _ := Run.goOn_account _ stands
  have free : w.reserved ≤ seq := before.ahead _ rfl seq message todo stands
  have behind : w.reserved ≤ seq + message.count := by omega
  have grown : max w.reserved (seq + message.count) = seq + message.count := Nat.max_eq_right behind
  have writing : w.Writing id := by
    refine ⟨seq + message.count, ?_⟩
    rw [World.pending, here]
    rfl
  obtain ⟨nodup, range⟩ := message.frames_numbers lib.toCipherSuite keys ourAddr seq
  rw [grown]
  refine sound.replace
    { w with file := .stored (seq + message.count), reserved := seq + message.count } rfl
    ?_ ?_ ?_ ?_ ?_ sound.nodup
  · refine {
      meets := before.meets.2 (.ok ()) trivial
      ahead := fun _ _ _ _ _ drawn => by cases after.symm.trans drawn
      genuine := ?_, below := ?_, nodup := ?_, unsent := ?_ }
    · rw [after]
      exact fun frame member pdu => Message.frames_genuine fits member
    · rw [after]
      exact fun number member => (range number member).2
    · rw [after]
      exact nodup
    · rw [after]
      intro number member sent
      obtain ⟨pdu, on_air, same⟩ := List.mem_map.mp sent
      obtain ⟨number', lt, received⟩ := sound.received pdu on_air
      cases same.symm.trans received
      have bounds := range _ member
      omega
  · intro other run different there
    have others := sound.sound other run there
    constructor
    · refine {
        meets := others.meets
        ahead := fun value waits => ?_
        genuine := others.genuine
        below := fun number member => Nat.lt_of_lt_of_le (others.below number member) behind
        nodup := others.nodup
        unsent := others.unsent }
      have also : w.Writing other := by
        refine ⟨value, ?_⟩
        rw [World.pending, there]
        exact waits
      exact absurd (sound.single other id also writing) different
    · rw [after]
      intro number member taken
      have bounds := range number member
      have lt := others.below number taken
      omega
  · intro value waits
    exact absurd waits (Run.pending_ne_writeSeq (before.meets.2 (.ok ()) trivial) after value)
  · intro value next
    cases next
    exact Nat.le_refl _
  · intro pdu on_air
    obtain ⟨number, lt, received⟩ := sound.received pdu on_air
    exact ⟨number, Nat.lt_of_lt_of_le lt behind, received⟩

/-- A frame that was sent carries a number that nothing else has. -/
theorem World.Sound.writeGattChar (sound : w.Sound lib keys ourAddr) {pdu : Bytes}
    {next : Except PyError Unit → Session Unit}
    (here : w.runs id = some ⟨messages, history, .call (.writeGattChar pdu) next⟩)
    (answer : Except PyError Unit) :
    (World.setRun { w with air := w.air ++ [pdu] } id
      (some (Run.goOn messages history (.writeGattChar pdu) next answer))).Sound
      lib keys ourAddr := by
  have before := sound.sound id _ here
  obtain ⟨seq, frames, todo, stands⟩ := Account.of_permits_writeGattChar before.meets.1
  have after : (Run.goOn messages history (.writeGattChar pdu) next answer).account lib keys ourAddr =
      _ := Run.goOn_account answer stands
  rw [Account.after_write] at after
  have numbers : (Run.mk messages history (.call (.writeGattChar pdu) next)).account lib keys ourAddr
      = .sending ((seq, .ok pdu) :: frames) todo := stands
  have received : receivedSeq lib.toCipherSuite keys pdu = some seq := by
    refine before.genuine (seq, .ok pdu) ?_ pdu rfl
    rw [numbers]
    exact List.mem_cons_self
  have seq_lt : seq < w.reserved := by
    apply before.below
    rw [numbers]
    exact List.mem_cons_self
  have unsent : some seq ∉ w.air.map (receivedSeq lib.toCipherSuite keys) := by
    apply before.unsent
    rw [numbers]
    exact List.mem_cons_self
  have distinct : seq ∉ frames.map Prod.fst ∧ (frames.map Prod.fst).Nodup := by
    have nodup := before.nodup
    rw [numbers] at nodup
    exact List.nodup_cons.mp nodup
  have on_air {number : Nat}
      (member : some number ∈ (w.air ++ [pdu]).map (receivedSeq lib.toCipherSuite keys)) :
      some number ∈ w.air.map (receivedSeq lib.toCipherSuite keys) ∨ number = seq := by
    rw [List.map_append, List.map_singleton, received, List.mem_append, List.mem_singleton] at member
    exact member.imp_right Option.some.inj
  have left : ((Run.goOn messages history (.writeGattChar pdu) next answer).account lib keys
      ourAddr).left.Sublist ((Run.mk messages history (.call (.writeGattChar pdu) next)).account lib
        keys ourAddr).left := by
    rw [after, numbers]
    exact List.sublist_cons_self _ _
  have fresh := before.goOn answer left fun _ _ _ drawn => by cases after.symm.trans drawn
  refine sound.replace { w with air := w.air ++ [pdu] } rfl ?_ ?_ ?_ sound.ahead ?_ ?_
  · refine { fresh with unsent := ?_ }
    intro number member sent
    rcases on_air sent with earlier | rfl
    · exact fresh.unsent number member earlier
    · rw [after] at member
      exact distinct.1 member
  · intro other run different there
    have others := sound.sound other run there
    have disjoint := sound.apart id other _ run (Ne.symm different) here there
    constructor
    · refine { others with unsent := ?_ }
      intro number member sent
      rcases on_air sent with earlier | rfl
      · exact others.unsent number member earlier
      · refine disjoint number ?_ member
        rw [numbers]
        exact List.mem_cons_self
    · intro number member
      exact disjoint number ((left.map Prod.fst).subset member)
  · intro value waits
    exact absurd waits (Run.pending_ne_writeSeq fresh.meets after value)
  · intro sent member
    rcases List.mem_append.mp member with earlier | last
    · exact sound.received sent earlier
    · cases List.mem_singleton.mp last
      exact ⟨seq, seq_lt, received⟩
  · rw [List.map_append, List.map_singleton, received]
    exact sound.nodup.append (List.nodup_singleton _) (List.disjoint_singleton.mpr unsent)

theorem World.Sound.start [LawfulCcm lib.toCipherSuite] (plain : PlainKeys keys)
    (sound : w.Sound lib keys ourAddr) (id : Nat) (messages : List Message) :
    (w.setRun id (some ⟨messages, [], sendAll lib keys ourAddr false messages⟩)).Sound
      lib keys ourAddr := by
  let run : Run := ⟨messages, [], sendAll lib keys ourAddr false messages⟩
  have stands : run.account lib keys ourAddr =
      .sending [] (messages.filter fun message => (message.key keys).isSome) := rfl
  have meets : run.rest.wp (sendContract lib.toCipherSuite keys ourAddr run.messages)
      (fun _ _ => True) run.history :=
    Program.wp_mono (fun _ _ _ => trivial) (sendAll_meets plain false stands)
  have waits := Run.pending_ne_writeSeq meets stands
  refine sound.replace w rfl ?_ ?_ ?_ sound.ahead sound.received sound.nodup
  · exact {
      meets
      ahead := fun value waiting => absurd waiting (waits value)
      genuine := nofun
      below := nofun
      nodup := List.nodup_nil
      unsent := nofun }
  · exact fun other run' _ there => ⟨sound.sound other run' there, nofun⟩
  · exact fun value waiting => absurd waiting (waits value)

theorem World.Sound.kill (sound : w.Sound lib keys ourAddr) (id : Nat) :
    (w.setRun id none).Sound lib keys ourAddr := by
  have found {other : Nat} {run : Run} (there : (w.setRun id none).runs other = some run) :
      w.runs other = some run := by
    by_cases this : other = id
    · subst this
      rw [World.runs_setRun_self] at there
      cases there
    · rwa [World.runs_setRun_ne w this] at there
  have writing {other : Nat} (waits : (w.setRun id none).Writing other) : w.Writing other := by
    rcases World.writing_setRun waits with ⟨_, _, impossible⟩ | ⟨_, writing⟩
    · cases impossible
    · exact writing
  exact {
    sound := fun other run there => sound.sound other run (found there)
    single := fun first second one two => sound.single first second (writing one) (writing two)
    apart := fun first second run run' different one two =>
      sound.apart first second run run' different (found one) (found two)
    ahead := sound.ahead
    received := sound.received
    nodup := sound.nodup }

/-- One step of any run, and whatever else happens to the runs and the file. -/
theorem World.Sound.step [LawfulCcm lib.toCipherSuite] (plain : PlainKeys keys)
    (sound : w.Sound lib keys ourAddr) {event : WorldEvent} (careful : w.Careful event)
    (stepped : w.step lib keys ourAddr event = some w') : w'.Sound lib keys ourAddr := by
  cases event with
  | start id messages =>
    simp only [World.step] at stepped
    split at stepped
    · cases stepped
      exact sound.start plain id messages
    · cases stepped
  | answer id =>
    have resumed : w.resume id World.succeed = some w' := stepped
    obtain ⟨messages, history, op, next, here, rfl⟩ := World.resume_cases resumed
    have pending : w.pending id = some op := by
      rw [World.pending, here]
      rfl
    cases op with
    | readSeq => exact sound.readSeq here (careful.1 pending)
    | writeSeq value => exact sound.writeSeq here (careful.2 value pending)
    | startNotify => exact sound.startNotify here _
    | writeGattChar pdu => exact sound.writeGattChar here _
    | sleep => exact sound.sleep here _
  | fail id error half =>
    have resumed : w.resume id (fun w => w.raise error half) = some w' := stepped
    obtain ⟨messages, history, op, next, here, rfl⟩ := World.resume_cases resumed
    cases op with
    | readSeq => exact sound.readSeq_error here error
    | writeSeq value =>
      cases half with
      | true => exact sound.writeSeq_error here error rfl rfl rfl (.inr rfl)
      | false => exact sound.writeSeq_error here error rfl rfl rfl (.inl rfl)
    | startNotify => exact sound.startNotify here _
    | writeGattChar pdu =>
      cases half with
      | true => exact sound.writeGattChar here _
      | false => exact sound.writeGattChar_lost here _
    | sleep => exact sound.sleep here _
  | kill id =>
    cases stepped
    exact sound.kill id
  | edit file =>
    cases stepped
    exact { sound with ahead := careful }

variable (lib keys ourAddr) in
theorem World.sound_start (file : SeqFile) : (World.start file).Sound lib keys ourAddr where
  sound := nofun
  single _ _ := nofun
  apart _ _ _ _ _ := nofun
  ahead _ _ := Nat.zero_le _
  received := nofun
  nodup := List.nodup_nil

end Step

end Invariant

def sampleMessage : Message where
  dst := 1
  accessPayload := List.replicate 12 0x55
  useDevKey := false

/-- The subscription, the file, and two segments with their pauses. -/
def sampleEvents : List WorldEvent := .start 0 [sampleMessage] :: List.replicate 7 (.answer 0)

/-- An event of the first run, within the numbers. -/
private def OfFirst (w : World) : WorldEvent → Prop
  | .start id _ => id = 0
  | .answer id => id = 0 ∧
    match w.pending 0 with
    | some (.writeSeq seq) => seq ≤ 2 ^ 24
    | _ => True
  | _ => False

private instance (w : World) (event : WorldEvent) : Decidable (OfFirst w event) := by
  unfold OfFirst
  split
  · infer_instance
  · split <;> infer_instance
  · infer_instance

private def Lonely (w : World) : Prop := ∀ other, other ≠ 0 → w.runs other = none

private theorem careful_of_lonely {w : World} {event : WorldEvent} (lonely : Lonely w)
    (first : OfFirst w event) : w.Careful event := by
  cases event with
  | start id messages => trivial
  | answer id =>
    obtain ⟨rfl, fits⟩ := first
    constructor
    · rintro reading other ⟨seq, writing⟩
      by_cases same : other = 0
      · subst same
        cases reading.symm.trans writing
      · rw [World.pending, lonely other same] at writing
        cases writing
    · intro seq writing
      rwa [writing] at fits
  | fail id error half => trivial
  | kill id => trivial
  | edit file => cases first

private theorem Lonely.setRun {w w' : World} (lonely : Lonely w) (same : w'.runs = w.runs)
    (run : Option Run) : Lonely (w'.setRun 0 run) := by
  intro other different
  rw [World.runs_setRun_ne w' different, same]
  exact lonely other different

private theorem lonely_step {w w' : World} {event : WorldEvent} (lonely : Lonely w)
    (first : OfFirst w event)
    (stepped : w.step sampleLibrary sampleKeys 0xB0 event = some w') : Lonely w' := by
  cases event with
  | start id messages =>
    cases first
    simp only [World.step] at stepped
    split at stepped
    · cases stepped
      exact lonely.setRun rfl _
    · cases stepped
  | answer id =>
    obtain ⟨rfl, -⟩ := first
    have resumed : w.resume 0 World.succeed = some w' := stepped
    obtain ⟨messages, history, op, next, -, rfl⟩ := World.resume_cases resumed
    cases op <;> exact lonely.setRun rfl _
  | fail id error half => cases first
  | kill id => cases first
  | edit file => cases first

end MeshProxyCmd

end TuyaBleMesh
