import TuyaBleMesh.SigMesh.Rules

/-!
# How the commands end

A command returns after a write, or raises an error of the package. The fields that it
checked at its start may have been cleared when it goes on after a pause.
-/

namespace TuyaBleMesh

/-- The task whose own doing it is. -/
def SigMoment.task? : SigMoment → Option TaskId
  | .wrote task _ => some task
  | .ended task _ _ => some task
  | _ => none

/-- What one task did. -/
def ownMoments (task : TaskId) (history : List SigMoment) : List SigMoment :=
  history.filter fun moment => moment.task? = some task

/-- The last that the task did was a write. -/
def JustWrote (task : TaskId) (history : List SigMoment) : Prop :=
  ∃ client, (ownMoments task history).getLast? = some (.wrote task client)

/-- A call may return after a write, or raise an error of the package. -/
def EndsWell (task : TaskId) (history : List SigMoment) : Except PyError Unit → Prop
  | .ok _ => JustWrote task history
  | .error error => error.isTuyaBleMeshError = true

/-- Each call ended as it may. -/
def ContractKept (history : List SigMoment) : Prop :=
  ∀ before task call result after, history = before ++ .ended task call result :: after →
    EndsWell task before result

/-- The errors that the call turns into one of the package in the end. -/
def SigCall.handles : SigCall → PyError → Bool
  | .sendPower _ _, error => SigMesh.isWriteError error
  | .sendLevel _ _, error => SigMesh.isWriteError error
  | .sendVendorCommand _, _ => false
  | .requestCompositionData, _ => false
  | .sendConfig _, error => error = .timeoutError

/-- The call does not fail with the error itself, unless it is one of the package. -/
def SigCall.Accepts (call : SigCall) (error : PyError) : Prop :=
  error.isTuyaBleMeshError = true ∨ call.handles error = true

/-- What the next PDU is made and written with. -/
def SigMeshDevice.Live (s : SigMeshDevice) : Prop := s.device.keys ≠ none ∧ s.client ≠ none

/-- When the calls go on after a pause, the keys and the client are still there, unless there
is nothing more to send; and no await of a call fails but in a way that the call handles. -/
def callsFinish : LoopGuard sigSignature where
  answers op answer s :=
    match op, answer with
    | .write call _ _, .error error => call.Accepts error
    | .backoff _ _ _, .ok _ => s.seqStore.seq ≤ 0xFFFFFF → s.Live
    | .backoff _ _ _, .error error => error.isTuyaBleMeshError = true
    | .segmentPause _ left, .ok _ => left ≠ 0 → s.Live
    | .segmentPause call _, .error error => (SigCall.sendConfig call).Accepts error
    | .response call _, .error error => (SigCall.sendConfig call).Accepts error
    | _, _ => True

namespace ContractKept

open SigMesh

variable {c : SigConfig} {me : TaskId} {s s' : SigMeshDevice} {history : List SigMoment}

/-! ### The history -/

theorem own_append (task : TaskId) (history history' : List SigMoment) :
    ownMoments task (history ++ history') = ownMoments task history ++ ownMoments task history' :=
  List.filter_append ..

/-- A moment after which the contract is kept if it was. -/
theorem snoc {moment : SigMoment} (kept : ContractKept history)
    (ends : ∀ task call result, moment = .ended task call result → EndsWell task history result) :
    ContractKept (history ++ [moment]) := by
  intro before task call result after split
  -- either the new moment is the end in question, or it comes after it
  rcases List.eq_nil_or_concat after with rfl | ⟨init, last, rfl⟩
  · obtain ⟨rfl, same⟩ := List.append_inj' split rfl
    exact ends task call result (List.singleton_inj.mp same)
  · have regrouped : history ++ [moment] = (before ++ .ended task call result :: init) ++ [last] := by
      simpa using split
    obtain ⟨rfl, _⟩ := List.append_inj' regrouped rfl
    exact kept before task call result init rfl

/-- Moments of no task end no call. -/
theorem append_taskless (kept : ContractKept history) {moments : List SigMoment}
    (taskless : ∀ moment ∈ moments, moment.task? = none) : ContractKept (history ++ moments) := by
  induction moments generalizing history with
  | nil => rwa [List.append_nil]
  | cons moment moments ih =>
    rw [← List.singleton_append, ← List.append_assoc]
    refine ih (kept.snoc ?_) fun other member => taskless other (List.mem_cons_of_mem _ member)
    rintro task call result rfl
    cases taskless _ List.mem_cons_self

theorem own_taskless (task : TaskId) {moments : List SigMoment}
    (taskless : ∀ moment ∈ moments, moment.task? = none) : ownMoments task moments = [] := by
  apply List.filter_eq_nil_iff.mpr
  intro moment member
  simp [taskless moment member]

/-! ### PDUs -/

section Pdus

variable {keys : MeshKeys} {dst seq : Nat}

theorem transportPdu_errors (appKey : Option Bytes) (dst_lt : dst < 256 ^ 2)
    (seq_lt : seq < 256 ^ 3) (accessPayload : Bytes) : OnlyRaises PyError.isTuyaBleMeshError
      (transportPdu c keys appKey dst seq accessPayload) := by
  have seq_lt' : seq < 256 ^ 4 := Nat.lt_trans seq_lt (by decide)
  cases appKey with
  | some appKey =>
    exact makeAccessUnsegmented_errors (Nat.le_refl 1) seq_lt' c.ourAddr_lt dst_lt keys.ivIndex_lt
  | none =>
    exact makeAccessUnsegmented_errors (Nat.zero_le 1) seq_lt' c.ourAddr_lt dst_lt keys.ivIndex_lt

theorem transportPdu_nonempty {appKey : Option Bytes} {accessPayload pdu : Bytes}
    (made : transportPdu c keys appKey dst seq accessPayload = .ok pdu) : pdu ≠ [] := by
  cases appKey with
  | some appKey => exact makeAccessUnsegmented_nonempty made
  | none => exact makeAccessUnsegmented_nonempty made

variable (c keys)

/-- A transport PDU always has a network PDU. -/
theorem proxyPdu_ok (dst_lt : dst < 256 ^ 2) (seq_lt : seq < 256 ^ 3) {pdu : Bytes}
    (nonempty : pdu ≠ []) : ∃ proxied, proxyPdu c keys dst seq pdu = .ok proxied := by
  have := c.lawful
  have inRange : NetworkPDU.InRange
      { ctl := 0, ttl := _DEFAULT_TTL, seq, src := c.ourAddr, dst, transportPdu := pdu } :=
    ⟨Nat.zero_le 1, show 5 ≤ 127 by decide, seq_lt, c.ourAddr_lt, dst_lt⟩
  have made := encryptNetworkPdu_ok c.suite keys _ inRange nonempty
  exact ⟨_, by simp only [proxyPdu, made]; rfl⟩

theorem unsegmentedPdu_errors (appKey : Option Bytes) (dst_lt : dst < 256 ^ 2)
    (seq_lt : seq < 256 ^ 3) (accessPayload : Bytes) : OnlyRaises PyError.isTuyaBleMeshError
      (do
        let pdu ← transportPdu c keys appKey dst seq accessPayload
        proxyPdu c keys dst seq pdu) := by
  refine (transportPdu_errors appKey dst_lt seq_lt accessPayload).bind fun pdu made => ?_
  obtain ⟨proxied, ok⟩ := proxyPdu_ok c keys dst_lt seq_lt (transportPdu_nonempty made)
  rw [ok]
  exact OnlyRaises.ok proxied

theorem makeAccessSegmented_segments {payload : Bytes} (twenty : payload.length = 20)
    (fits : seq + 2 ≤ 256 ^ 3) :
    (∃ error, makeAccessSegmented c.suite keys.devKey c.ourAddr c.targetAddr seq keys.ivIndex
        payload 0 0 0 = .error error ∧ error.isTuyaBleMeshError = true) ∨
      ∃ segments, makeAccessSegmented c.suite keys.devKey c.ourAddr c.targetAddr seq keys.ivIndex
          payload 0 0 0 = .ok segments ∧ segments ≠ [] ∧
        ∀ segment ∈ segments, segment.1 < 256 ^ 3 ∧ segment.2 ≠ [] := by
  have := c.lawful
  -- `_validate_key` refuses a device key of another length
  by_cases key_length : keys.devKey.length = _AES_BLOCK_SIZE
  · let t : Transmission :=
      { key := keys.devKey, src := c.ourAddr, dst := c.targetAddr, seqStart := seq, payload,
        akf := 0, aid := 0, szmic := 0 }
    have two : t.segments = 2 := by
      show (payload.length + 4 + 11) / 12 = 2
      rw [twenty]
    have valid : t.Valid keys := by
      refine ⟨rfl, key_length, Nat.zero_le 1, Nat.zero_le 1, c.ourAddr_lt, c.targetAddr_lt, ?_, ?_⟩
      · rw [two]
        decide
      · rw [two]
        exact fits
    have made := t.makeAccessSegmented_ok c.suite valid
    -- each segment has a number of the two that were drawn
    refine .inr ⟨_, made, ?_, fun segment member => ?_⟩
    · rw [two]
      exact List.cons_ne_nil _ _
    · obtain ⟨i, below, rfl⟩ := List.mem_map.mp member
      rw [List.mem_range, two] at below
      have small : seq + i < 256 ^ 3 := by omega
      exact ⟨small, List.cons_ne_nil _ _⟩
  · refine .inl ⟨.cryptoError s!"Key must be {_AES_BLOCK_SIZE} bytes, got {keys.devKey.length}", ?_,
      rfl⟩
    have seq_lt : seq < 256 ^ 4 := by omega
    have nonce := makeAppNonce_ok 0 (Nat.zero_le 1) seq_lt c.ourAddr_lt c.targetAddr_lt
      keys.ivIndex_lt
    simp only [makeAccessSegmented, nonce, meshAesCcmEncrypt, validateKey, dif_neg key_length, bind,
      Except.bind]

end Pdus

/-! ### The outline -/

/-- Other tasks do not act for this one. -/
def outline : Discipline sigSignature where
  toLoopGuard := callsFinish
  inv s := ContractKept s.history
  rely task s s' := ownMoments task s'.history = ownMoments task s.history
  pre task code s :=
    match code with
    | .responded call _ answer => JustWrote task s.history ∧
        ∀ error, answer = .error error → (SigCall.sendConfig call).Accepts error
    | _ => True
  rely_refl _ _ := rfl
  rely_trans first second := second.trans first

theorem guarantees_same (same : s'.history = s.history) : outline.Guarantees me s s' := by
  intro task _
  show ownMoments task s'.history = ownMoments task s.history
  rw [same]

/-- What is written down is the task's own doing, or nobody's. -/
theorem guarantees_note {moment : SigMoment} (own : ∀ task, moment.task? = some task → task = me) :
    outline.Guarantees me s { s with history := s.history ++ [moment] } := by
  intro task other
  show ownMoments task (s.history ++ [moment]) = ownMoments task s.history
  rw [own_append]
  have foreign : ownMoments task [moment] = [] := by
    apply List.filter_eq_nil_iff.mpr
    rintro _ (_ | _)
    · intro mine
      exact other (own task (of_decide_eq_true mine))
    · contradiction
  rw [foreign, List.append_nil]

/-- A write of the task. -/
theorem wrote (kept : ContractKept s.history) (client : ProxyClient) :
    outline.Guarantees me s { s with history := s.history ++ [.wrote me client] } ∧
      ContractKept (s.history ++ [.wrote me client]) ∧
        JustWrote me (s.history ++ [.wrote me client]) := by
  refine ⟨guarantees_note ?_, kept.snoc ?_, client, ?_⟩
  · rintro _ ⟨⟩
    rfl
  · rintro _ _ _ ⟨⟩
  · rw [own_append]
    simp [ownMoments, SigMoment.task?]

/-- What a part of a call reaches: a write, or an error that the call handles. -/
def Sent {α : Type} (call : SigCall) (me : TaskId) : Except PyError α → SigMeshDevice → Prop
  | .ok _, s => ContractKept s.history ∧ JustWrote me s.history
  | .error error, s => ContractKept s.history ∧ call.Accepts error

/-- What the body of a call reaches. -/
def Finished (me : TaskId) (result : Except PyError Unit) (s : SigMeshDevice) : Prop :=
  ContractKept s.history ∧ EndsWell me s.history result

/-- A call that handles nothing itself. -/
theorem finishes_of_sent (call : SigCall) {body : SigMesh Unit}
    (sends : body.wp outline me (Sent call me) s) (handles : ∀ error, call.handles error = false) :
    body.wp outline me (Finished me) s := by
  refine Coroutine.wp_mono (fun result s₁ sent => ?_) sends
  cases result with
  | ok _ => exact sent
  | error error =>
    refine ⟨sent.1, sent.2.resolve_right fun handled => ?_⟩
    rw [handles] at handled
    cases handled

/-! ### Sending -/

section Sending

variable {call : SigCall} {appKey : Option Bytes} {dst : Nat}

/-- A new PDU can be made unless the numbers are exhausted. -/
theorem wp_unsegmentedPdu {accessPayload : Bytes}
    {post : Except PyError Bytes → SigMeshDevice → Prop}
    (live : s.seqStore.seq ≤ 0xFFFFFF → s.Live) (dst_lt : dst < 256 ^ 2)
    (made : ∀ pdu seqStore, s.Live → post (.ok pdu) { s with seqStore })
    (fails : ∀ error seqStore, error.isTuyaBleMeshError = true →
      post (.error error) { s with seqStore }) :
    (unsegmentedPdu c appKey dst accessPayload).wp outline me post s := by
  unfold unsegmentedPdu
  apply Coroutine.wp_bind
  refine wp_drawSeqs (fun range seqStore drawn => ?_) (fails _ s.seqStore rfl)
  -- a number was drawn, so they were not exhausted
  obtain ⟨start, length, stop, _⟩ := Draw.run_ok _ _ _ _ drawn
  have seq_lt : range.start < 256 ^ 3 := by
    simp only [NumberRange.stop, length, Draw.size] at stop
    omega
  have alive : s.Live := by
    apply live
    rw [start] at seq_lt
    exact Nat.le_of_lt_succ seq_lt
  refine ⟨guarantees_same rfl, ?_⟩
  rw [Coroutine.wpRest_ok]
  apply Coroutine.wp_bind
  -- `self._keys` is read again after the lock, and is still there
  refine wp_loadedKeys (fun keys _ => ?_) fun cleared => absurd cleared alive.1
  have errors := unsegmentedPdu_errors c keys appKey dst_lt seq_lt accessPayload
  rw [Coroutine.wpRest_ok, Coroutine.wp_done]
  revert errors
  cases (do
    let pdu ← transportPdu c keys appKey dst range.start accessPayload
    proxyPdu c keys dst range.start pdu : Except PyError Bytes) with
  | ok pdu => exact fun _ => made pdu seqStore alive
  | error error => exact fun errors => fails error seqStore (errors error rfl)

theorem writes {pdu : Bytes} (kept : ContractKept s.history) (alive : s.client ≠ none) :
    (writeGattChar call pdu).wp outline me (Sent call me) s := by
  refine wp_writeGattChar kept (fun cleared => absurd cleared alive) ?_ ?_
  · exact fun client s' kept' _ => wrote kept' client
  · exact fun _ error s' kept' _ accepted => ⟨kept', accepted⟩

theorem sends {accessPayload : Except PyError Bytes} (kept : ContractKept s.history)
    (live : s.seqStore.seq ≤ 0xFFFFFF → s.Live) (dst_lt : dst < 256 ^ 2)
    (payload : OnlyRaises PyError.isTuyaBleMeshError accessPayload) :
    (sendUnsegmented c call appKey dst accessPayload).wp outline me (Sent call me) s := by
  unfold sendUnsegmented
  cases accessPayload with
  -- the payload is refused before a number is drawn
  | error error => exact ⟨kept, .inl (payload error rfl)⟩
  | ok accessPayload =>
    apply Coroutine.wp_bind
    rw [Coroutine.wp_done, Coroutine.wpRest_ok]
    apply Coroutine.wp_bind
    refine wp_unsegmentedPdu live dst_lt (fun pdu seqStore alive => ?_) ?_
    · exact writes kept alive.2
    · exact fun error seqStore kind => ⟨kept, .inl kind⟩

/-- A call that handles write errors tries again, as long as there are attempts left. -/
theorem retries {once : SigMesh Unit} {maxRetries left : Nat} {backoff : Rat}
    (handles : ∀ error, call.handles error = isWriteError error)
    (sends : ∀ s : SigMeshDevice, ContractKept s.history →
      (s.seqStore.seq ≤ 0xFFFFFF → s.Live) → once.wp outline me (Sent call me) s)
    (kept : ContractKept s.history) (live : left ≠ 0 → s.seqStore.seq ≤ 0xFFFFFF → s.Live) :
    (sendRetrying c call once maxRetries left backoff).wp outline me (Finished me) s := by
  -- on the attempts that are left
  induction left generalizing s backoff with
  | zero => exact ⟨kept, rfl⟩
  | succ left ih =>
    unfold sendRetrying
    apply Coroutine.wp_bind
    apply Coroutine.wp_onError
    apply Coroutine.wp_bind
    refine Coroutine.wp_mono (fun result s₁ sent => ?_) (sends s kept (live (Nat.succ_ne_zero left)))
    cases result with
    | ok _ => exact sent
    | error error =>
      obtain ⟨kept₁, accepted⟩ := sent
      rw [Coroutine.wpRest_error, Coroutine.wpHandler_error]
      split
      · split
        -- no pause before the last attempt: the loop is over
        · next last => exact ih kept₁ fun more => absurd last more
        · apply Coroutine.wp_bind
          refine Coroutine.wp_call.mpr ⟨kept₁, fun paused s₂ kept₂ _ answers => ?_⟩
          cases paused with
          | error error => exact ⟨kept₂, answers⟩
          -- the next attempt finds keys and client again
          | ok _ => exact ih kept₂ fun _ => answers
      -- an error that is no write error ends the call
      · next final =>
        refine ⟨kept₁, accepted.resolve_right fun handled => ?_⟩
        rw [handles] at handled
        exact final handled

theorem commands {maxRetries : Nat} {accessPayload : Nat → Except PyError Bytes}
    (handles : ∀ error, call.handles error = isWriteError error) (dst_lt : dst < 256 ^ 2)
    (payload : ∀ tid, OnlyRaises PyError.isTuyaBleMeshError (accessPayload tid))
    (kept : ContractKept s.history) :
    (sendCommand c call dst maxRetries accessPayload).wp outline me (Finished me) s := by
  unfold sendCommand
  apply Coroutine.wp_bind
  refine wp_checkConnected (fun keys live loaded => ?_) ⟨kept, rfl⟩
  have alive : s.Live := ⟨by rw [loaded]; exact Option.some_ne_none keys, live⟩
  rw [Coroutine.wpRest_ok]
  apply Coroutine.wp_bind
  refine wp_applicationKey (fun appKey => ?_) ⟨kept, rfl⟩
  unfold nextTid
  refine ⟨guarantees_same rfl, retries handles (fun s' kept' live' => ?_) kept fun _ _ => alive⟩
  exact ContractKept.sends kept' live' dst_lt (payload s.tid)

end Sending

/-! ### Calls with a response -/

section Config

variable {call : ConfigCall} {key : ResponseKey}

/-- What nobody did as a task does not come between a task and its last write. -/
theorem note_taskless (me : TaskId) (moment : SigMoment) (taskless : moment.task? = none)
    (kept : ContractKept s.history) :
    outline.Guarantees me s { s with history := s.history ++ [moment] } ∧
      ContractKept (s.history ++ [moment]) ∧
        (JustWrote me s.history → JustWrote me (s.history ++ [moment])) := by
  have all : ∀ other ∈ [moment], other.task? = none := by
    intro other member
    rwa [List.mem_singleton.mp member]
  refine ⟨guarantees_note ?_, kept.append_taskless all, ?_⟩
  · intro task mine
    rw [taskless] at mine
    cases mine
  · rintro ⟨client, last⟩
    exact ⟨client, by rw [own_append, own_taskless me all, List.append_nil, last]⟩

/-- The timeout becomes an error of the package. -/
theorem configs {body : SigMesh Bytes}
    (responds : body.wp outline me (Sent (.sendConfig call) me) s) :
    (sendConfig call key body).wp outline me (Finished me) s := by
  unfold sendConfig responseScope
  apply Coroutine.wp_bind
  apply Coroutine.wp_ensuring
  apply Coroutine.wp_onError
  refine Coroutine.wp_mono (fun result s₁ sent => ?_) responds
  cases result with
  | ok params =>
    obtain ⟨kept, written⟩ := sent
    rw [Coroutine.wpHandler_ok]
    -- the request is withdrawn, and then the response is noted
    refine ⟨guarantees_same rfl, ?_⟩
    obtain ⟨guarantees, kept', written'⟩ :=
      note_taskless me (.returned key call (params.headD 0xFF = 0x00)) rfl kept
    exact ⟨guarantees, kept', written' written⟩
  | error error =>
    obtain ⟨kept, accepted⟩ := sent
    rw [Coroutine.wpHandler_error]
    split
    -- `asyncio.TimeoutError` is raised again as one of the package
    · obtain ⟨guarantees, kept', _⟩ := note_taskless me (.timedOut key) rfl kept
      exact ⟨guarantees, guarantees_same rfl, kept', rfl⟩
    · next notTimeout =>
      refine ⟨guarantees_same rfl, kept, accepted.resolve_right fun handled => ?_⟩
      exact notTimeout (of_decide_eq_true handled)

theorem awaits (kept : ContractKept s.history) (written : JustWrote me s.history) :
    (awaitResponse call key).wp outline me (Sent (.sendConfig call) me) s := by
  -- while the call waits, no other task writes in its name
  refine ⟨kept, fun answer s' _ rely accepts => ⟨?_, ?_⟩⟩
  · rwa [JustWrote, show ownMoments me s'.history = _ from rely]
  · rintro error rfl
    exact accepts

theorem responds {answer : Except PyError Unit} (kept : ContractKept s.history)
    (written : JustWrote me s.history)
    (accepted : ∀ error, answer = .error error → (SigCall.sendConfig call).Accepts error) :
    (responseResult call key answer).wp outline me (Sent (.sendConfig call) me) s := by
  -- the wait was over, in one way or the other, before the task went on
  cases answer with
  | error error => exact ⟨kept, accepted error rfl⟩
  | ok _ =>
    unfold responseResult
    rw [Coroutine.wp_read_bind]
    split
    · exact awaits kept written
    · exact ⟨kept, written⟩

/-- One segment after the other is written, and then comes the rest. -/
theorem writesSegments {segments : List (Nat × Bytes)}
    (valid : ∀ segment ∈ segments, segment.1 < 256 ^ 3 ∧ segment.2 ≠ [])
    (kept : ContractKept s.history) (live : segments ≠ [] → s.Live)
    (written : segments = [] → JustWrote me s.history) :
    (writeSegments c call segments).wp outline me (Sent (.sendConfig call) me) s := by
  -- on the segments that are left
  induction segments generalizing s with
  | nil => exact ⟨kept, written rfl⟩
  | cons segment rest ih =>
    obtain ⟨segSeq, pdu⟩ := segment
    obtain ⟨seq_lt, nonempty⟩ := valid _ List.mem_cons_self
    obtain ⟨loaded, client⟩ := live (List.cons_ne_nil _ _)
    unfold writeSegments
    apply Coroutine.wp_bind
    refine wp_loadedKeys (fun keys _ => ?_) fun cleared => absurd cleared loaded
    obtain ⟨proxied, made⟩ := proxyPdu_ok c keys c.targetAddr_lt seq_lt nonempty
    rw [Coroutine.wpRest_ok, made]
    apply Coroutine.wp_bind
    rw [Coroutine.wp_done, Coroutine.wpRest_ok]
    apply Coroutine.wp_bind
    refine Coroutine.wp_mono (fun result s₁ sent => ?_) (writes kept client)
    cases result with
    | error error => exact sent
    | ok _ =>
      obtain ⟨kept₁, written₁⟩ := sent
      rw [Coroutine.wpRest_ok]
      apply Coroutine.wp_bind
      refine Coroutine.wp_call.mpr ⟨kept₁, fun paused s₂ kept₂ rely answers => ?_⟩
      cases paused with
      | error error => exact ⟨kept₂, answers⟩
      | ok _ =>
        refine ih (fun other member => valid other (List.mem_cons_of_mem _ member)) kept₂ ?_ ?_
        -- keys and client are needed again only if there is another segment
        · exact fun more => answers (mt List.length_eq_zero_iff.mp more)
        · intro _
          rwa [JustWrote, show ownMoments me s₂.history = _ from rely]

/-- Registering a request is no task's doing. -/
theorem wp_register {post : Except PyError ResponseKey → SigMeshDevice → Prop}
    (kept : ContractKept s.history)
    (registered : ∀ key s', ContractKept s'.history → (s.Live → s'.Live) → post (.ok key) s') :
    (register call).wp outline me post s := by
  unfold register
  rw [Coroutine.wp_read_bind, Coroutine.wp_modify_bind]
  obtain ⟨guarantees, kept', _⟩ := note_taskless me
    (.registered (call.request.statusOpcode, s.device.correlationId) call) rfl kept
  exact ⟨guarantees, registered _ _ kept' id⟩

theorem appkeyAdds {appKey : Bytes} {netIdx appIdx : Int} (kept : ContractKept s.history) :
    (sendConfigAppkeyAdd c appKey netIdx appIdx).wp outline me (Finished me) s := by
  unfold sendConfigAppkeyAdd
  apply Coroutine.wp_bind
  refine wp_checkConnected (fun keys live loaded => ?_) ⟨kept, rfl⟩
  have alive : s.Live := ⟨by rw [loaded]; exact Option.some_ne_none keys, live⟩
  rw [Coroutine.wpRest_ok]
  have errors := configAppkeyAdd_errors netIdx appIdx appKey
  cases payload : configAppkeyAdd netIdx appIdx appKey with
  | error error => exact ⟨kept, errors error payload⟩
  | ok accessPayload =>
    -- a payload of twenty bytes is sent in two segments
    have twenty := configAppkeyAdd_length payload
    apply Coroutine.wp_bind
    rw [Coroutine.wp_done, Coroutine.wpRest_ok]
    apply Coroutine.wp_bind
    refine wp_drawSeqs (fun range seqStore drawn => ⟨guarantees_same rfl, ?_⟩) ⟨kept, rfl⟩
    obtain ⟨_, length, stop, _⟩ := Draw.run_ok _ _ _ _ drawn
    have fits : range.start + 2 ≤ 256 ^ 3 := by
      have two : (accessPayload.length + 4 + SEG_DATA_SIZE - 1) / SEG_DATA_SIZE = 2 := by
        rw [twenty]
        rfl
      simp only [NumberRange.stop, length, Draw.size, two] at stop
      exact stop
    rw [Coroutine.wpRest_ok]
    apply Coroutine.wp_bind
    refine wp_loadedKeys (fun keys' _ => ?_) fun cleared => absurd cleared alive.1
    rw [Coroutine.wpRest_ok]
    apply Coroutine.wp_bind
    rcases makeAccessSegmented_segments c keys' twenty fits with
      ⟨error, made, kind⟩ | ⟨segments, made, some, valid⟩
    · rw [made]
      exact ⟨kept, kind⟩
    · rw [made, Coroutine.wp_done, Coroutine.wpRest_ok]
      apply Coroutine.wp_bind
      refine wp_register kept fun key s₂ kept₂ lives => configs ?_
      apply Coroutine.wp_bind
      refine Coroutine.wp_mono (fun result s₃ sent => ?_)
        -- the segments are written, and the response is awaited
        (writesSegments valid kept₂ (fun _ => lives alive) fun none => absurd none some)
      cases result with
      | error error => exact sent
      | ok _ => exact awaits sent.1 sent.2

theorem modelAppBinds {elementAddr appIdx modelId : Int} (kept : ContractKept s.history) :
    (sendConfigModelAppBind c elementAddr appIdx modelId).wp outline me (Finished me) s := by
  unfold sendConfigModelAppBind
  apply Coroutine.wp_bind
  refine wp_checkConnected (fun keys live loaded => ?_) ⟨kept, rfl⟩
  have alive : s.Live := ⟨by rw [loaded]; exact Option.some_ne_none keys, live⟩
  rw [Coroutine.wpRest_ok]
  have errors := configModelAppBind_errors elementAddr appIdx modelId
  cases payload : configModelAppBind elementAddr appIdx modelId with
  | error error => exact ⟨kept, errors error payload⟩
  | ok accessPayload =>
    apply Coroutine.wp_bind
    rw [Coroutine.wp_done, Coroutine.wpRest_ok]
    apply Coroutine.wp_bind
    -- one PDU carries it, so there is no pause
    refine wp_unsegmentedPdu (fun _ => alive) c.targetAddr_lt (fun pdu seqStore _ => ?_) ?_
    · rw [Coroutine.wpRest_ok]
      apply Coroutine.wp_bind
      refine wp_register kept fun key s₂ kept₂ lives => configs ?_
      apply Coroutine.wp_bind
      refine Coroutine.wp_mono (fun result s₃ sent => ?_) (writes kept₂ (lives alive).2)
      cases result with
      | error error => exact sent
      | ok _ => exact awaits sent.1 sent.2
    · exact fun error seqStore kind => ⟨kept, kind⟩

end Config

/-! ### Runs -/

theorem records {call : SigCall} {body : SigMesh Unit}
    (finishes : body.wp outline me (Finished me) s) :
    (recordEnd call body).wp outline me (fun _ s => ContractKept s.history) s := by
  -- the end of the call is written down after what led to it
  have noted : ∀ (s' : SigMeshDevice) result, ContractKept s'.history →
      EndsWell me s'.history result →
        outline.Guarantees me s' { s' with history := s'.history ++ [.ended me call result] } ∧
          ContractKept (s'.history ++ [.ended me call result]) := by
    intro s' result kept ends
    refine ⟨guarantees_note ?_, kept.snoc ?_⟩
    · rintro _ ⟨⟩
      rfl
    · rintro _ _ _ ⟨⟩
      exact ends
  unfold recordEnd
  rw [Coroutine.wp_currentTask_bind]
  apply Coroutine.wp_bind
  apply Coroutine.wp_onError
  refine Coroutine.wp_mono (fun result s₁ finished => ?_) finishes
  cases result with
  | ok _ => exact noted s₁ _ finished.1 finished.2
  | error error => exact noted s₁ _ finished.1 finished.2

theorem runs {call : SigCall} (kept : ContractKept s.history) :
    (runCall c call).wp outline me (fun _ s => ContractKept s.history) s := by
  apply records
  cases call with
  | sendPower on maxRetries =>
    exact commands (fun _ => rfl) c.targetAddr_lt (fun _ => .ok _) kept
  | sendLevel level maxRetries =>
    refine commands (fun _ => rfl) c.levelTargetAddr_lt (fun tid => .ite ?_ ?_) kept
    · exact fun _ => lightLightnessSet_errors _ tid
    · exact fun _ => genericLevelSet_errors level tid
  | sendVendorCommand accessPayload =>
    unfold callBody sendVendorCommand
    apply Coroutine.wp_bind
    refine wp_checkConnected (fun keys live loaded => ?_) ⟨kept, rfl⟩
    rw [Coroutine.wpRest_ok]
    apply Coroutine.wp_bind
    refine wp_applicationKey (fun appKey => ?_) ⟨kept, rfl⟩
    have alive : s.Live := ⟨by rw [loaded]; exact Option.some_ne_none keys, live⟩
    refine finishes_of_sent (.sendVendorCommand accessPayload) ?_ fun _ => rfl
    exact sends kept (fun _ => alive) c.targetAddr_lt (.ok accessPayload)
  -- no error of the write is handled in these two
  | requestCompositionData =>
    unfold callBody requestCompositionData
    apply Coroutine.wp_bind
    refine wp_checkConnected (fun keys live loaded => ?_) ⟨kept, rfl⟩
    have alive : s.Live := ⟨by rw [loaded]; exact Option.some_ne_none keys, live⟩
    refine finishes_of_sent .requestCompositionData ?_ fun _ => rfl
    exact sends kept (fun _ => alive) c.targetAddr_lt (.ite (fun _ => .error rfl) fun _ => .ok _)
  | sendConfig call =>
    cases call with
    | appkeyAdd appKey netIdx appIdx => exact appkeyAdds kept
    | modelAppBind elementAddr appIdx modelId => exact modelAppBinds kept

theorem sigOutline (c : SigConfig) : SigOutline outline c where
  aside me s s' aside kept := by
    refine ⟨guarantees_same aside.history, ?_⟩
    show ContractKept s'.history
    rw [aside.history]
    exact kept
  composition _ _ kept := runs kept
  notified _ _ _ _ _ := trivial

theorem notifyMoments_taskless (d : Device) (notification : Notification) :
    ∀ moment ∈ notifyMoments c d notification, moment.task? = none := by
  intro moment member
  rcases List.mem_append.mp member with member | member
  · obtain ⟨_, _, rfl⟩ := List.mem_map.mp member
    rfl
  · obtain ⟨_, _, rfl⟩ := List.mem_map.mp member
    rfl

theorem processNotifies (notification : Notification) :
    (processNotify c notification).Keeps outline me outline.inv := by
  apply Coroutine.keeps_read_bind
  intro s kept
  have taskless := notifyMoments_taskless (c := c) s.device notification
  rw [Coroutine.wp_currentTask_bind, Coroutine.wp_modify_bind]
  refine ⟨fun task _ => ?_, ?_⟩
  · show ownMoments task (s.history ++ _) = ownMoments task s.history
    rw [own_append, own_taskless task taskless, List.append_nil]
  · have kept' : ContractKept (s.history ++ notifyMoments c s.device notification) :=
      kept.append_taskless taskless
    dsimp only
    split
    · exact kept'
    · exact kept'

theorem verifies (c : SigConfig) : outline.Verifies (sigProgram c) where
  body code me s kept pre := by
    cases code with
    | call call => exact runs kept
    | responded call key answer => exact records (configs (responds kept pre.1 pre.2))
    | connect maxRetries => exact (sigOutline c).connect maxRetries s kept
    | disconnect => exact (sigOutline c).disconnect s kept
    | onBleDisconnect => exact (sigOutline c).onBleDisconnect s kept
    | onNotify notification => exact (sigOutline c).onNotify notification s kept
    | processNotify notification => exact processNotifies notification s kept
  entry code _ _ isEntry _ _ := by
    cases code with
    | responded _ _ _ => cases isEntry
    | _ => trivial
  environment event s s' kept happens := (sigOutline c).outside event s s' kept happens

theorem inv_idle (c : SigConfig) : outline.inv (SigMeshDevice.idle c).shared := by
  intro before task call result after split
  cases before <;> cases split

end ContractKept

instance (s : SigMeshDevice) : Decidable s.Live := inferInstanceAs (Decidable (_ ∧ _))

instance (call : SigCall) (error : PyError) : Decidable (call.Accepts error) :=
  inferInstanceAs (Decidable (_ ∨ _))

instance (code : SigCode) (s : SigMeshDevice) : Decidable (callsFinish.starts code s) :=
  isTrue trivial

instance (op : SigOp) (answer : Except PyError op.Answer) (s : SigMeshDevice) :
    Decidable (callsFinish.answers op answer s) :=
  match op, answer with
  | .write call _ _, .error error => inferInstanceAs (Decidable (call.Accepts error))
  | .write _ _ _, .ok _ => isTrue trivial
  | .backoff _ _ _, .ok _ => inferInstanceAs (Decidable (_ → s.Live))
  | .backoff _ _ _, .error error => inferInstanceAs (Decidable (error.isTuyaBleMeshError = true))
  | .segmentPause _ _, .ok _ => inferInstanceAs (Decidable (_ → s.Live))
  | .segmentPause call _, .error error =>
    inferInstanceAs (Decidable ((SigCall.sendConfig call).Accepts error))
  | .response _ _, .ok _ => isTrue trivial
  | .response call _, .error error =>
    inferInstanceAs (Decidable ((SigCall.sendConfig call).Accepts error))
  | .getSecrets, _ => isTrue trivial
  | .findDevice, _ => isTrue trivial
  | .establishConnection, _ => isTrue trivial
  | .startNotify _, _ => isTrue trivial
  | .closeAttempt, _ => isTrue trivial
  | .bluetoothctlRemove, _ => isTrue trivial
  | .cacheClear, _ => isTrue trivial
  | .stopNotify _, _ => isTrue trivial
  | .disconnectClient _, _ => isTrue trivial
  | .gatherNotify, _ => isTrue trivial

instance (site : Empty) (result : Except PyError Unit) (s : SigMeshDevice) :
    Decidable (callsFinish.joins site result s) := isTrue trivial

namespace SigMeshDevice

/-- In every run in which the calls find the keys and the client again after their pauses and
nothing else than they handle befalls their awaits, each call returns after a write or raises an
error of the package. -/
theorem contract_kept {c : SigConfig} {events : List (LoopEvent sigSignature SigOutside)}
    {w : EventLoop sigSignature}
    (guarded : (sigSystem c).Guarded callsFinish.Permits (idle c) events)
    (ran : (sigSystem c).exec (idle c) events = some w) : ContractKept w.shared.history :=
  (ContractKept.verifies c).exec (ContractKept.inv_idle c) guarded ran

/-- A connected device, and a command whose first write fails. -/
def failedWriteRun : List (LoopEvent sigSignature SigOutside) :=
  connectEvents 0 7 0 ++
    [.enter (.call (.sendPower true 3)), .start 1,
      .answer 1 (.write (.sendPower true 3) 7 (sampleAppMessage 1 (genericOnoffSet true 0)))
        (.error .bleakError)]

/-- The device is disconnected while the command pauses. -/
def clearedRun : List (LoopEvent sigSignature SigOutside) :=
  failedWriteRun ++
    [.enter .disconnect, .start 2, .answer 2 (.stopNotify 7) (.ok ()),
      .answer 2 (.disconnectClient 7) (.ok ())]

/-- It is connected again before the second attempt. -/
def retriedRun : List (LoopEvent sigSignature SigOutside) :=
  clearedRun ++ connectEvents 3 8 2 ++
    [.answer 1 (.backoff (.sendPower true 3) 1 2) (.ok ()),
      .answer 1 (.write (.sendPower true 3) 8 (sampleAppMessage 3 (genericOnoffSet true 0))) (.ok ())]

theorem retriedRun_contract :
    ∃ w ∈ (sigSystem sampleSig).exec (idle sampleSig) retriedRun,
      .ended 1 (.sendPower true 3) (.ok ()) ∈ w.shared.history ∧ ContractKept w.shared.history := by
  have runs : ∃ w ∈ (sigSystem sampleSig).exec (idle sampleSig) retriedRun,
      .ended 1 (.sendPower true 3) (.ok ()) ∈ w.shared.history := by
    decide +kernel
  obtain ⟨w, ran, ended⟩ := runs
  exact ⟨w, ran, ended, contract_kept (by decide +kernel) ran⟩

/-- The second attempt is made on the disconnected device. -/
def disconnectedRun : List (LoopEvent sigSignature SigOutside) :=
  clearedRun ++ [.answer 1 (.backoff (.sendPower true 3) 1 2) (.ok ())]

/-- A vendor command whose write fails. -/
def vendorRun : List (LoopEvent sigSignature SigOutside) :=
  connectEvents 0 7 0 ++
    [.enter (.call (.sendVendorCommand [0xC9, 0xD0, 0x07])), .start 1,
      .answer 1 (.write (.sendVendorCommand [0xC9, 0xD0, 0x07]) 7
        (sampleAppMessage 1 [0xC9, 0xD0, 0x07])) (.error .bleakError)]

/-- The command fails with an `AttributeError` on the keys that were cleared, and a vendor
command with the error of the Bluetooth library. -/
theorem clearedKeys_attributeError :
    (∃ w ∈ (sigSystem sampleSig).exec (idle sampleSig) disconnectedRun,
      .ended 1 (.sendPower true 3) (.error .attributeError) ∈ w.shared.history ∧
        ¬ContractKept w.shared.history) ∧
    ∃ w ∈ (sigSystem sampleSig).exec (idle sampleSig) vendorRun,
      .ended 1 (.sendVendorCommand [0xC9, 0xD0, 0x07]) (.error .bleakError) ∈ w.shared.history ∧
        ¬ContractKept w.shared.history := by
  have broken : ∀ {history : List SigMoment} {call error},
      .ended 1 call (.error error) ∈ history → error.isTuyaBleMeshError = false →
        ¬ContractKept history := by
    intro history call error member foreign kept
    obtain ⟨before, after, split⟩ := List.append_of_mem member
    have ends : error.isTuyaBleMeshError = true := kept before 1 call _ after split
    rw [foreign] at ends
    cases ends
  have first : ∃ w ∈ (sigSystem sampleSig).exec (idle sampleSig) disconnectedRun,
      .ended 1 (.sendPower true 3) (.error .attributeError) ∈ w.shared.history := by
    decide +kernel
  have second : ∃ w ∈ (sigSystem sampleSig).exec (idle sampleSig) vendorRun,
      .ended 1 (.sendVendorCommand [0xC9, 0xD0, 0x07]) (.error .bleakError) ∈ w.shared.history := by
    decide +kernel
  obtain ⟨w, ran, ended⟩ := first
  obtain ⟨w', ran', ended'⟩ := second
  exact ⟨⟨w, ran, ended, broken ended rfl⟩, w', ran', ended', broken ended' rfl⟩

end SigMeshDevice

end TuyaBleMesh
