import TuyaBleMesh.SigMesh.Device

/-!
# Rules for the calls of a SIG Mesh device

The functions that the calls share, under any proof outline, and what an outline has to
give so that connecting, disconnecting and the callbacks keep its invariant.
-/

namespace TuyaBleMesh

/-- Nothing changes that the responses depend on, and nothing is written down. -/
structure SigAside (s s' : SigMeshDevice) : Prop where
  history : s'.history = s.history
  results : s'.results = s.results
  pendingResponses : s'.device.pendingResponses = s.device.pendingResponses
  correlationId : s'.device.correlationId = s.device.correlationId

/-- A draw fails when the numbers are exhausted. -/
theorem Draw.run_error {S : Type} [SeqStore S] {draw : Draw} {store : S} {error : PyError}
    (failed : draw.run store = .error error) : error = sequenceExhausted := by
  cases draw with
  | one =>
    simp only [Draw.run, nextSeq] at failed
    split at failed
    · cases failed
      rfl
    · cases failed
  | range n =>
    simp only [Draw.run, nextSeqs] at failed
    split at failed
    · cases failed
      rfl
    · cases failed

namespace SigMesh

open Coroutine

variable {D : Discipline sigSignature} {me : TaskId} {s : SigMeshDevice}

theorem wp_drawSeqs {draw : Draw} {post : Except PyError Nat → SigMeshDevice → Prop}
    (drawn : ∀ (range : NumberRange) seqStore, draw.run s.seqStore = .ok (range, seqStore) →
      D.Guarantees me s { s with seqStore } ∧ post (.ok range.start) { s with seqStore })
    (exhausted : post (.error sequenceExhausted) s) : (drawSeqs draw).wp D me post s := by
  unfold drawSeqs
  rw [wp_read_bind]
  split
  · next error failed =>
    rw [Draw.run_error failed]
    exact exhausted
  · next range seqStore found => exact drawn range seqStore found

theorem wp_loadedKeys {post : Except PyError MeshKeys → SigMeshDevice → Prop}
    (loaded : ∀ keys, s.device.keys = some keys → post (.ok keys) s)
    (cleared : s.device.keys = none → post (.error .attributeError) s) :
    loadedKeys.wp D me post s := by
  unfold loadedKeys
  rw [wp_read_bind]
  split
  · next absent => exact cleared absent
  · next keys present => exact loaded keys present

theorem wp_checkConnected {post : Except PyError MeshKeys → SigMeshDevice → Prop}
    (connected : ∀ keys, s.client ≠ none → s.device.keys = some keys → post (.ok keys) s)
    (apart : post (.error (.sigMeshError "Not connected")) s) : checkConnected.wp D me post s := by
  unfold checkConnected
  rw [wp_read_bind]
  split
  · next client keys live loaded =>
    refine connected keys ?_ loaded
    rw [live]
    exact Option.some_ne_none client
  · exact apart

theorem wp_applicationKey {keys : MeshKeys} {post : Except PyError Bytes → SigMeshDevice → Prop}
    (present : ∀ appKey, post (.ok appKey) s)
    (absent : post (.error (.sigMeshKeyError "No application key loaded")) s) :
    (applicationKey keys).wp D me post s := by
  unfold applicationKey
  split
  · exact absent
  · exact present _

theorem wp_writeGattChar {call : SigCall} {pdu : Bytes}
    {post : Except PyError Unit → SigMeshDevice → Prop} (inv : D.inv s)
    (cleared : s.client = none → post (.error .attributeError) s)
    (wrote : ∀ client s', D.inv s' → D.rely me s s' →
      D.Guarantees me s' { s' with history := s'.history ++ [.wrote me client] } ∧
        post (.ok ()) { s' with history := s'.history ++ [.wrote me client] })
    (fails : ∀ client error s', D.inv s' → D.rely me s s' →
      D.answers (.write call client pdu) (.error error) s' → post (.error error) s') :
    (writeGattChar call pdu).wp D me post s := by
  unfold writeGattChar
  rw [wp_read_bind]
  split
  · next absent => exact cleared absent
  · next client _ =>
    apply wp_bind
    refine wp_call.mpr ⟨inv, fun result s' inv' rely answers => ?_⟩
    cases result with
    | ok _ => exact wrote client s' inv' rely
    | error error => exact fails client error s' inv' rely answers

theorem keeps_fromAnswer {α : Type} {fact : SigMeshDevice → Prop} (answer : Except PyError α) :
    (fromAnswer answer).Keeps D me fact := fun _ holds => holds

theorem keeps_suppressLinkErrors {body : SigMesh Unit} (keeps : body.Keeps D me D.inv) :
    (suppressLinkErrors body).Keeps D me D.inv := by
  apply Keeps.onError keeps
  intro error
  split
  · exact keeps_pure _
  · exact keeps_raise _

theorem keeps_attemptFailed {c : SigConfig} (created : Bool) (error : PyError) :
    (attemptFailed c created error).Keeps D me D.inv := by
  unfold attemptFailed
  split
  · refine Keeps.bind ?_ fun _ => Keeps.bind ?_ fun _ => ?_
    · unfold closeAttempt
      split
      · exact keeps_suppressLinkErrors (keeps_call (D.stable_inv me) _)
      · exact keeps_pure _
    · unfold removeFromCache
      split
      · refine Keeps.onError (keeps_call (D.stable_inv me) _) fun error => ?_
        split
        · exact keeps_pure _
        · exact keeps_raise _
      · exact keeps_pure _
    · exact Keeps.bind (keeps_call (D.stable_inv me) _) fun _ => keeps_pure _
  · exact keeps_raise _

/-- An outline that connecting, disconnecting and the callbacks do not disturb. -/
structure SigOutline (D : Discipline sigSignature) (c : SigConfig) : Prop where
  aside : ∀ me s s', SigAside s s' → D.inv s → D.Guarantees me s s' ∧ D.inv s'
  composition : ∀ me, (runCall c .requestCompositionData).Keeps D me D.inv
  notified : ∀ task notification s, D.inv s → D.starts (.processNotify notification) s →
    D.pre task (.processNotify notification) s

namespace SigOutline

variable {c : SigConfig} (O : SigOutline D c)

include O

theorem update {f : SigMeshDevice → SigMeshDevice} (aside : ∀ s, SigAside s (f s)) :
    (SigMesh.update f).Keeps D me D.inv :=
  keeps_modify fun s inv => O.aside me s (f s) (aside s) inv

theorem loadKeys : (SigMesh.loadKeys c).Keeps D me D.inv := by
  refine Keeps.bind (Keeps.onError (keeps_call (D.stable_inv me) _) fun error => ?_) fun made => ?_
  · split
    · exact keeps_raise _
    · exact keeps_raise _
  · refine Keeps.bind (keeps_fromAnswer made) fun keys => O.update ?_
    exact fun _ => ⟨rfl, rfl, rfl, rfl⟩

theorem requestComposition : (SigMesh.requestComposition c).Keeps D me D.inv := by
  refine Keeps.onError (O.composition me) fun error => ?_
  split
  · exact keeps_pure _
  · exact keeps_raise _

theorem useClient (client : ProxyClient) (resolved : Except PyError Unit) :
    (SigMesh.useClient c client resolved).Keeps D me D.inv := by
  refine Keeps.bind (keeps_fromAnswer resolved) fun _ => Keeps.bind ?_ fun _ => ?_
  · refine Keeps.onError (keeps_call (D.stable_inv me) _) fun error => ?_
    split
    · exact keeps_pure _
    · exact keeps_raise _
  · refine Keeps.bind (O.update ?_) fun _ => O.requestComposition
    exact fun _ => ⟨rfl, rfl, rfl, rfl⟩

theorem connectClient : (SigMesh.connectClient c).Keeps D me D.inv := by
  refine Keeps.bind (Keeps.onError ?_ fun error => ?_) fun made => ?_
  · exact Keeps.bind (keeps_call (D.stable_inv me) _) fun client => keeps_pure _
  · exact Keeps.bind (keeps_attemptFailed _ error) fun _ => keeps_pure _
  · cases made with
    | none => exact keeps_pure _
    | some client =>
      refine Keeps.onError (Keeps.bind (O.useClient client.1 client.2) fun _ => keeps_pure _) ?_
      exact keeps_attemptFailed true

theorem connectAttempt : (SigMesh.connectAttempt c).Keeps D me D.inv := by
  refine Keeps.bind (Keeps.onError (Keeps.bind ?_ fun _ => keeps_pure _) (keeps_attemptFailed false)) ?_
  · refine Keeps.bind (keeps_call (D.stable_inv me) _) fun found => ?_
    split
    · exact keeps_pure _
    · exact keeps_raise _
  · intro found
    split
    · exact O.connectClient
    · exact keeps_pure _

theorem connect (maxRetries : Nat) : (SigMesh.connect c maxRetries).Keeps D me D.inv := by
  refine Keeps.bind O.loadKeys fun _ => ?_
  have attempts : ∀ left, (connectFrom c maxRetries left).Keeps D me D.inv := by
    intro left
    induction left with
    | zero => exact keeps_raise _
    | succ left ih =>
      refine Keeps.bind O.connectAttempt fun connected => ?_
      split
      · exact keeps_pure _
      · exact ih
  exact attempts maxRetries

theorem onBleDisconnect : SigMesh.onBleDisconnect.Keeps D me D.inv :=
  O.update fun _ => ⟨rfl, rfl, rfl, rfl⟩

theorem disconnect : SigMesh.disconnect.Keeps D me D.inv := by
  have cancels : ∀ tasks, (cancelAll tasks).Keeps D me D.inv := by
    intro tasks
    induction tasks with
    | nil => exact keeps_pure _
    | cons task tasks ih => exact Keeps.bind (keeps_cancelTask task) fun _ => ih
  have drops : dropClient.Keeps D me D.inv := by
    apply keeps_read_bind
    intro s inv
    split
    · exact inv
    · refine Keeps.bind (keeps_suppressLinkErrors (keeps_call (D.stable_inv me) _)) ?_ s inv
      exact fun _ => O.onBleDisconnect
  refine Keeps.bind ?_ fun _ => Keeps.bind (O.update ?_) fun _ => ?_
  · apply keeps_read_bind
    intro s inv
    split
    · exact inv
    · refine Keeps.bind (keeps_suppressLinkErrors (keeps_call (D.stable_inv me) _)) ?_ s inv
      exact fun _ => drops
  · exact fun _ => ⟨rfl, rfl, rfl, rfl⟩
  · apply keeps_read_bind
    intro s inv
    refine Keeps.bind (cancels s.notifyTasks) (fun _ => ?_) s inv
    split
    · exact keeps_pure _
    · refine Keeps.bind (keeps_call (D.stable_inv me) _) fun _ => O.update ?_
      exact fun _ => ⟨rfl, rfl, rfl, rfl⟩

theorem onNotify (notification : Notification) :
    (SigMesh.onNotify notification).Keeps D me D.inv := by
  apply keeps_read_bind
  intro s inv
  split
  · exact inv
  · rw [wp_createTask_bind]
    refine fun task _ => ⟨fun s' inv' _ starts => O.notified task notification s' inv' starts, ?_⟩
    exact O.aside me _ _ ⟨rfl, rfl, rfl, rfl⟩ inv

/-- What happens outside leaves the responses alone. -/
theorem outside (event : SigOutside) (s s' : SigMeshDevice) (inv : D.inv s)
    (happens : SigMesh.outside event s = some s') : D.inv s' ∧ ∀ task, D.rely task s s' := by
  have aside : SigAside s s' := by
    cases event with
    | setSeq seq =>
      cases happens
      exact ⟨rfl, rfl, rfl, rfl⟩
    | register kind callback =>
      cases happens
      cases kind <;> exact ⟨rfl, rfl, rfl, rfl⟩
    | unregister kind callback =>
      cases happens
      cases kind <;> exact ⟨rfl, rfl, rfl, rfl⟩
  refine ⟨(O.aside 0 s s' aside inv).2, fun task => ?_⟩
  -- no task is both of two
  exact (O.aside (task + 1) s s' aside inv).1 task (Nat.ne_of_lt (Nat.lt_succ_self task))

end SigOutline

end SigMesh

end TuyaBleMesh
