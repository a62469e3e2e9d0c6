import TuyaBleMesh.MeshProxyCmd.Session

/-!
# What a run of the script sends

The contract of a run: for each message in turn the number in the file is read, the number
behind the message is written there, and the frames are those that the library makes of
the message for these numbers, each once.
-/

namespace TuyaBleMesh

namespace MeshProxyCmd

abbrev SessionHistory := Program.History SessionOp.Answer

/-- Where a run stands: the messages that are left, with the number that is drawn for the next
one, or with the frames that are left of the last one. -/
inductive Account
  | drawn (seq : Nat) (message : Message) (todo : List Message)
  | sending (frames : List (Nat × Except PyError Bytes)) (todo : List Message)

section Contract

variable (suite : CipherSuite) (keys : MeshKeys) (ourAddr : Nat)

def Account.after : Account → ((op : SessionOp) × op.Answer) → Account
  | .sending _ (message :: todo), ⟨.readSeq, .ok stored⟩ => .drawn (stored.getD 500) message todo
  | .drawn seq message todo, ⟨.writeSeq _, .ok _⟩ =>
    .sending (message.frames suite keys ourAddr seq) todo
  | .sending (_ :: frames) todo, ⟨.writeGattChar _, _⟩ => .sending frames todo
  | account, _ => account

def Account.permits : Account → SessionOp → Prop
  | .sending [] (_ :: _), .readSeq => True
  | .drawn seq message _, .writeSeq value => value = seq + message.count
  | .sending ((_, pdu) :: _) _, .writeGattChar pdu' => pdu = .ok pdu'
  | .sending _ _, .startNotify => True
  | .sending _ _, .sleep => True
  | _, _ => False

/-- The account of a run of the messages that there is a key for. -/
def accountOf (messages : List Message) (history : SessionHistory) : Account :=
  history.foldl (Account.after suite keys ourAddr)
    (.sending [] (messages.filter fun message => (message.key keys).isSome))

variable {suite keys ourAddr} {frames : List (Nat × Except PyError Bytes)} {todo : List Message}

theorem Account.after_sleep (account : Account) (answer : Except PyError Unit) :
    account.after suite keys ourAddr ⟨.sleep, answer⟩ = account := by
  rcases account with _ | ⟨_ | _, _ | _⟩ <;> rfl

theorem Account.after_startNotify (account : Account) (answer : Except PyError Unit) :
    account.after suite keys ourAddr ⟨.startNotify, answer⟩ = account := by
  rcases account with _ | ⟨_ | _, _ | _⟩ <;> rfl

theorem Account.after_write (frame : Nat × Except PyError Bytes) (pdu : Bytes)
    (answer : Except PyError Unit) :
    (sending (frame :: frames) todo).after suite keys ourAddr ⟨.writeGattChar pdu, answer⟩ =
      .sending frames todo := by
  cases todo <;> rfl

theorem Account.permits_sleep : (sending frames todo).permits .sleep := by
  rcases frames with _ | _ <;> rcases todo with _ | _ <;> trivial

theorem Account.permits_startNotify : (sending frames todo).permits .startNotify := by
  rcases frames with _ | _ <;> rcases todo with _ | _ <;> trivial

variable (suite keys ourAddr) in
def sendContract (messages : List Message) : Program.Contract SessionOp.Answer where
  permits history op := (accountOf suite keys ourAddr messages history).permits op
  grants _ _ _ := True

end Contract

/-! ### The script keeps it -/

theorem meshAesCcmEncrypt_key {lib : CipherLibrary} {key nonce payload encrypted : Bytes}
    {micLen : Nat} (plain : key.length ≠ 24 ∧ key.length ≠ 32)
    (made : meshAesCcmEncrypt lib key nonce payload micLen = .ok encrypted) :
    key.length = _AES_BLOCK_SIZE := by
  by_contra invalid
  obtain ⟨_, keyed, _⟩ := bind_eq_ok.mp made
  rw [CipherLibrary.keyed, dif_neg invalid, if_neg (not_or.mpr plain)] at keyed
  cases keyed

section Run

variable {lib : CipherLibrary} {keys : MeshKeys} {ourAddr : Nat} {messages : List Message}
  {history : SessionHistory}

theorem accountOf_append (history : SessionHistory) (call : (op : SessionOp) × op.Answer) :
    accountOf lib.toCipherSuite keys ourAddr messages (history ++ [call]) =
      (accountOf lib.toCipherSuite keys ourAddr messages history).after lib.toCipherSuite keys ourAddr
        call := by
  rw [accountOf, List.foldl_append]
  rfl

/-- A call whose answer may be an exception: it is permitted, and the rest goes on. -/
theorem wp_call {op : SessionOp} {α : Type} {next : op.Answer → Session α}
    {post : SessionHistory → α → Prop} {account : Account}
    (stands : accountOf lib.toCipherSuite keys ourAddr messages history = account)
    (permitted : account.permits op)
    (rest : ∀ answer after,
      accountOf lib.toCipherSuite keys ourAddr messages after =
        account.after lib.toCipherSuite keys ourAddr ⟨op, answer⟩ →
      (next answer).wp (sendContract lib.toCipherSuite keys ourAddr messages) post after) :
    (Program.call op next).wp (sendContract lib.toCipherSuite keys ourAddr messages) post history := by
  constructor
  · change (accountOf _ _ _ _ _).permits op
    rwa [stands]
  · intro answer _
    apply rest
    rw [accountOf_append, stands]

/-- `next_seq` draws the numbers of the next message. -/
theorem nextSeq_meets {message : Message} {todo : List Message} {count : Nat}
    (stands : accountOf lib.toCipherSuite keys ourAddr messages history =
      .sending [] (message :: todo)) (counted : count = message.count) :
    (nextSeq count).wp (sendContract lib.toCipherSuite keys ourAddr messages)
      (fun after seq => accountOf lib.toCipherSuite keys ourAddr messages after =
        .sending (message.frames lib.toCipherSuite keys ourAddr seq) todo) history := by
  refine wp_call stands trivial fun stored read drawn => ?_
  cases stored with
  | error error => trivial
  | ok stored =>
    refine wp_call drawn (by rw [counted]; rfl) fun written after sending => ?_
    cases written with
    | error error => trivial
    | ok _ => exact sending

theorem sendSegment_meets {dst : Nat} {segment : Nat × Bytes} (some : segment.2 ≠ [])
    {frames : List (Nat × Except PyError Bytes)} {todo : List Message}
    [LawfulCcm lib.toCipherSuite]
    (stands : accountOf lib.toCipherSuite keys ourAddr messages history =
      .sending ((segment.1, libraryFrame lib.toCipherSuite keys ourAddr dst segment) :: frames)
        todo) :
    (sendSegment lib keys ourAddr dst segment).wp
      (sendContract lib.toCipherSuite keys ourAddr messages)
      (fun after _ => accountOf lib.toCipherSuite keys ourAddr messages after =
        .sending frames todo) history := by
  apply Program.wp_lift_bind
  intro pdu made
  rw [frame_agree lib keys ourAddr dst some] at made
  refine wp_call stands made fun written after sending => ?_
  cases written with
  | error error => trivial
  | ok _ =>
    rw [Account.after_write] at sending
    refine wp_call sending Account.permits_sleep fun slept after' still => ?_
    rw [Account.after_sleep] at still
    cases slept with
    | error error => trivial
    | ok _ => exact still

variable [LawfulCcm lib.toCipherSuite]

/-- The loop over the segments writes them all. -/
theorem segments_meet {dst : Nat} {segments : List (Nat × Bytes)} {todo : List Message}
    (some : ∀ segment ∈ segments, segment.2 ≠ [])
    (stands : accountOf lib.toCipherSuite keys ourAddr messages history =
      .sending (segments.map fun segment =>
        (segment.1, libraryFrame lib.toCipherSuite keys ourAddr dst segment)) todo) :
    (segments.forM (sendSegment lib keys ourAddr dst)).wp
      (sendContract lib.toCipherSuite keys ourAddr messages)
      (fun after _ => accountOf lib.toCipherSuite keys ourAddr messages after =
        .sending [] todo) history := by
  let invariant (segments : List (Nat × Bytes)) (after : SessionHistory) : Prop :=
    (∀ segment ∈ segments, segment.2 ≠ []) ∧
      accountOf lib.toCipherSuite keys ourAddr messages after =
        .sending (segments.map fun segment =>
          (segment.1, libraryFrame lib.toCipherSuite keys ourAddr dst segment)) todo
  refine Program.wp_mono (fun _ _ kept => kept.2)
    (Program.wp_forM invariant ?_ (⟨some, stands⟩ : invariant segments history))
  intro segment rest before kept
  have first := kept.1 segment List.mem_cons_self
  refine Program.wp_mono (fun _ _ sent => ⟨fun later member => ?_, sent⟩)
    (sendSegment_meets first kept.2)
  exact kept.1 later (List.mem_cons_of_mem segment member)

/-- `send`, with its key, writes what the library makes of the message. -/
theorem sendMessage_meets {message : Message} {key : Bytes} {todo : List Message}
    (under : message.key keys = some key) (plain : key.length ≠ 24 ∧ key.length ≠ 32)
    (stands : accountOf lib.toCipherSuite keys ourAddr messages history =
      .sending [] (message :: todo)) :
    (sendMessage lib keys ourAddr message key).wp
      (sendContract lib.toCipherSuite keys ourAddr messages)
      (fun after _ => accountOf lib.toCipherSuite keys ourAddr messages after =
        .sending [] todo) history := by
  have slept {after : SessionHistory}
      (sent : accountOf lib.toCipherSuite keys ourAddr messages after = .sending [] todo) :
      Session.sleep.wp (sendContract lib.toCipherSuite keys ourAddr messages)
        (fun after _ => accountOf lib.toCipherSuite keys ourAddr messages after =
          .sending [] todo) after := by
    refine wp_call sent Account.permits_sleep fun answer later still => ?_
    rw [Account.after_sleep] at still
    cases answer with
    | error error => trivial
    | ok _ => exact still
  unfold sendMessage
  by_cases long : message.accessPayload.length > MAX_UNSEG_ACCESS_PAYLOAD
  · simp only [if_pos long]
    have counted : (message.accessPayload.length + 4 + SEG_DATA_SIZE - 1) / SEG_DATA_SIZE =
        message.count := by rw [Message.count, if_pos long]
    apply Program.wp_seq (nextSeq_meets stands counted)
    intro after seq drawn
    apply Program.wp_lift_bind
    intro segments made
    have validKey : key.length = _AES_BLOCK_SIZE := by
      obtain ⟨nonce, _, rest⟩ := bind_eq_ok.mp made
      obtain ⟨upper, encrypted, _⟩ := bind_eq_ok.mp rest
      exact meshAesCcmEncrypt_key plain encrypted
    have made' : message.transportPdus lib.toCipherSuite keys ourAddr key seq = .ok segments := by
      rw [makeAccessSegmented_agree lib validKey] at made
      simpa only [Message.transportPdus, if_pos long] using made
    rw [Message.frames_eq under made'] at drawn
    exact Program.wp_seq (segments_meet (Message.transportPdus_numbers made').2 drawn)
      fun later _ sent => slept sent
  · simp only [if_neg long]
    have counted : 1 = message.count := by rw [Message.count, if_neg long]
    apply Program.wp_seq (nextSeq_meets stands counted)
    intro after seq drawn
    apply Program.wp_lift_bind
    intro transportPdu made
    have validKey : key.length = _AES_BLOCK_SIZE := by
      obtain ⟨nonce, _, rest⟩ := bind_eq_ok.mp made
      obtain ⟨encrypted, sealed, _⟩ := bind_eq_ok.mp rest
      exact meshAesCcmEncrypt_key plain sealed
    have made' : message.transportPdus lib.toCipherSuite keys ourAddr key seq =
        .ok [(seq, transportPdu)] := by
      rw [makeAccessUnsegmented_agree lib validKey _ _ _ _ (Nat.not_lt.mp long)] at made
      simp only [Message.transportPdus, if_neg long, made]
      rfl
    have some := (Message.transportPdus_numbers made').2 _ List.mem_cons_self
    rw [Message.frames_eq under made', List.map_singleton] at drawn
    apply Program.wp_lift_bind
    intro pdu framed
    rw [frame_agree lib keys ourAddr message.dst some] at framed
    refine wp_call drawn framed fun written later sent => ?_
    rw [Account.after_write] at sent
    cases written with
    | error error => trivial
    | ok _ => exact slept sent

theorem send_meets (plain : PlainKeys keys) (subscribed : Bool) {message : Message}
    {rest : List Message}
    (stands : accountOf lib.toCipherSuite keys ourAddr messages history =
      .sending [] ((message :: rest).filter fun message => (message.key keys).isSome)) :
    (send lib keys ourAddr subscribed message).wp
      (sendContract lib.toCipherSuite keys ourAddr messages)
      (fun after _ => accountOf lib.toCipherSuite keys ourAddr messages after =
        .sending [] (rest.filter fun message => (message.key keys).isSome)) history := by
  have chosen : (if message.useDevKey then some keys.devKey else keys.appKey) = message.key keys := rfl
  simp only [send, chosen]
  cases under : message.key keys with
  | none =>
    rw [List.filter_cons_of_neg (by rw [under]; decide)] at stands
    exact stands
  | some key =>
    rw [List.filter_cons_of_pos (by rw [under]; rfl)] at stands
    have access : keys.accessKey (if message.useDevKey then 0 else 1) = some key := by
      rw [← under, Message.key, MeshKeys.accessKey]
      cases message.useDevKey <;> rfl
    have sized := plain _ key access
    cases subscribed with
    | true => exact sendMessage_meets under sized stands
    | false =>
      refine wp_call stands Account.permits_startNotify fun answer after still => ?_
      rw [Account.after_startNotify] at still
      cases answer with
      | error error => trivial
      | ok _ => exact sendMessage_meets under sized still

/-- A run of the script draws numbers for one message after the other and writes what the library
makes of them. -/
theorem sendAll_meets (plain : PlainKeys keys) (subscribed : Bool) {todo : List Message}
    (stands : accountOf lib.toCipherSuite keys ourAddr messages history =
      .sending [] (todo.filter fun message => (message.key keys).isSome)) :
    (sendAll lib keys ourAddr subscribed todo).wp
      (sendContract lib.toCipherSuite keys ourAddr messages)
      (fun after _ => accountOf lib.toCipherSuite keys ourAddr messages after =
        .sending [] []) history := by
  induction todo generalizing subscribed history with
  | nil => exact stands
  | cons message rest ih =>
    exact Program.wp_seq (send_meets plain subscribed stands) fun after _ sent => ih _ sent

end Run

end MeshProxyCmd

end TuyaBleMesh
