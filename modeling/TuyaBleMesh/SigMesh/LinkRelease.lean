import TuyaBleMesh.Lib.Outcome
import TuyaBleMesh.SigMesh.Device

/-!
# What becomes of a connected client

`SIGMeshDevice.connect` keeps a client that it has connected, or disconnects it. Between the
connection and the subscription to notifications the client is in no one's keeping, so
that an exception that no handler expects there leaves a link behind.
-/

namespace TuyaBleMesh

/-- The handler of an attempt is for it. -/
def PyError.endsAttempt (error : PyError) : Bool :=
  error = .bleakError || error.isMeshConnectionError || error.isOsError

/-- The links of `connect`: the device keeps its client. -/
def sigLink : Resource sigSignature ProxyClient where
  acquired?
    | .call .establishConnection _ (.ok (client, _)) _ => some client
    | _ => none
  releases
    | .call .closeAttempt _ _ _ => true
    | _ => false
  keeps s client := s.client = some client

/-- Nothing is raised that no handler is for, as long as the client is in no one's keeping. -/
def settlesLink : Awaited sigSignature → Bool
  | .call .establishConnection _ (.ok (_, .error error)) _ => error.endsAttempt
  | .call (.startNotify _) _ (.error error) _ => error = .eofError || error.endsAttempt
  | _ => true

/-- In particular nobody cancels the call there. -/
abbrev SettlesLink (entry : Awaited sigSignature) : Prop := settlesLink entry = true

namespace SigMesh

open Coroutine

variable {c : SigConfig} {past : List (Awaited sigSignature)} {s : SigMeshDevice}
  {client : ProxyClient}

/-- Neither a connection nor a disconnect of one. -/
def LinkNeutral : SigOp → Prop
  | .establishConnection => False
  | .closeAttempt => False
  | _ => True

theorem LinkNeutral.acquired {op : SigOp} (neutral : LinkNeutral op) (s resumed : SigMeshDevice)
    (answer : Except PyError op.Answer) : sigLink.acquired? (.call op s answer resumed) = none := by
  cases op with
  | establishConnection => exact neutral.elim
  | _ => rfl

theorem LinkNeutral.releases {op : SigOp} (neutral : LinkNeutral op) (s resumed : SigMeshDevice)
    (answer : Except PyError op.Answer) : sigLink.releases (.call op s answer resumed) = false := by
  cases op with
  | closeAttempt => exact neutral.elim
  | _ => rfl

/-! ### Without a client -/

abbrev MaintainsFree {α : Type} (code : SigMesh α) : Prop :=
  code.Maintains SettlesLink fun past _ => sigLink.Free past

theorem free_call (op : SigOp) (neutral : LinkNeutral op) : MaintainsFree (SigMesh.call op) :=
  Maintains.call fun _ s answer resumed _ free => free.append (neutral.acquired s resumed answer)

theorem free_loadKeys : MaintainsFree (loadKeys c) := by
  apply Maintains.bind
  · apply Maintains.onError (free_call .getSecrets trivial)
    intro error
    split
    · exact Maintains.raise _
    · exact Maintains.raise _
  · intro made
    apply Maintains.bind (Maintains.done (S := sigSignature) made)
    exact fun keys => Maintains.modify fun _ _ free => free

theorem free_removeFromCache : MaintainsFree (removeFromCache c) := by
  unfold removeFromCache
  split
  · apply Maintains.onError (free_call .bluetoothctlRemove trivial)
    intro error
    split
    · exact Maintains.pure ()
    · exact Maintains.raise _
  · exact Maintains.pure ()

/-- The attempt has failed without a client. -/
theorem free_attemptFailed (created : Bool) (error : PyError) :
    MaintainsFree (attemptFailed c created error) := by
  have closes : MaintainsFree (SigMesh.call .closeAttempt) :=
    Maintains.call fun _ _ _ _ _ free => free.append rfl
  unfold attemptFailed closeAttempt
  split
  · refine Maintains.bind ?_ fun _ => Maintains.bind free_removeFromCache fun _ => ?_
    · split
      · apply Maintains.onError closes
        intro error
        split
        · exact Maintains.pure ()
        · exact Maintains.raise _
      · exact Maintains.pure ()
    · exact Maintains.bind (free_call .cacheClear trivial) fun _ => Maintains.pure false
  · exact Maintains.raise error

/-! ### With a client -/

/-- The attempt has failed with a client: it is disconnected, if the exception is one that the
handler is for. -/
theorem ends_attemptFailed {error : PyError} (ends : error.endsAttempt = true)
    (holds : sigLink.Holds past client) :
    (attemptFailed c true error).Ends SettlesLink (fun past _ _ => sigLink.Free past) past s := by
  have handled : attemptFailed c true error = (do
      closeAttempt true
      removeFromCache c
      SigMesh.call .cacheClear
      return false) := if_pos ends
  rw [handled]
  apply Ends.bind (Q := fun past _ _ => sigLink.Free past)
  · apply Ends.onError (Q := fun past _ _ => sigLink.Free past)
    · exact fun answer resumed _ => holds.release rfl rfl
    · exact fun _ _ _ free => free
    · intro past s error free
      split
      · exact free
      · exact free
  · intro past s _ free
    refine Maintains.bind free_removeFromCache (fun _ => ?_) past s free
    exact Maintains.bind (free_call .cacheClear trivial) fun _ => Maintains.pure false
  · exact fun _ _ _ free => free

/-- The device keeps the client. -/
abbrev MaintainsKept {α : Type} (client : ProxyClient) (code : SigMesh α) : Prop :=
  code.Maintains SettlesLink fun past s => sigLink.Keeps past s client

theorem kept_call (op : SigOp) (neutral : LinkNeutral op) :
    MaintainsKept client (SigMesh.call op) :=
  Maintains.call fun _ s answer resumed _ keeps =>
    keeps.append rfl (neutral.acquired s resumed answer) (neutral.releases s resumed answer) resumed

theorem kept_update {f : SigMeshDevice → SigMeshDevice} (same : ∀ s, (f s).client = s.client) :
    MaintainsKept client (update f) := by
  apply Maintains.modify
  rintro past s ⟨kept, holding, inKeeping⟩
  refine ⟨kept, holding, inKeeping.imp id ?_⟩
  intro keeps
  rw [← keeps]
  simp only [sigLink, same]

theorem kept_unsegmentedPdu (appKey : Option Bytes) (dst : Nat) (accessPayload : Bytes) :
    MaintainsKept client (unsegmentedPdu c appKey dst accessPayload) := by
  apply Maintains.bind
  · apply Maintains.read_bind
    intro s
    split
    · exact Maintains.raise _
    · exact Maintains.bind (kept_update fun _ => rfl) fun _ => Maintains.pure _
  · intro seq
    apply Maintains.bind
    · apply Maintains.read_bind
      intro s
      split
      · exact Maintains.raise _
      · exact Maintains.pure _
    · exact fun keys => Maintains.done _

theorem kept_writeGattChar (call : SigCall) (pdu : Bytes) :
    MaintainsKept client (writeGattChar call pdu) := by
  apply Maintains.read_bind
  intro s
  split
  · exact Maintains.raise _
  · next client' _ =>
    apply Maintains.bind (kept_call (.write call client' pdu) trivial)
    intro _
    exact Maintains.currentTask_bind fun me => kept_update fun _ => rfl

theorem kept_requestComposition : MaintainsKept client (requestComposition c) := by
  apply Maintains.onError
  · apply Maintains.currentTask_bind
    intro me
    apply Maintains.bind
    · -- whatever goes wrong in making the request, the future is dropped again
      apply Maintains.onError
      · apply Maintains.bind
        · apply Maintains.read_bind
          intro s
          split
          · exact Maintains.pure _
          · exact Maintains.raise _
        · intro keys
          apply Maintains.bind (Maintains.done (S := sigSignature) (configCompositionGet 0))
          intro accessPayload
          exact Maintains.bind (kept_unsegmentedPdu _ _ _) (kept_writeGattChar _)
      · exact fun error => Maintains.bind (kept_update fun _ => rfl) fun _ => Maintains.raise _
    · exact fun _ => kept_update fun _ => rfl
  · intro error
    split
    · exact Maintains.pure ()
    · exact Maintains.raise _

/-! ### Attempts -/

/-- The client is in no one's keeping, and the handler is for the exception; or the device keeps
it. -/
def UsedClient (client : ProxyClient) (past : List (Awaited sigSignature)) (s : SigMeshDevice)
    (result : Except PyError Unit) : Prop :=
  (∃ error, result = .error error ∧ error.endsAttempt = true ∧ sigLink.Holds past client) ∨
    sigLink.Keeps past s client

theorem ends_subscribe (holds : sigLink.Holds past client) :
    (subscribe client).Ends SettlesLink (fun past _ result => sigLink.Holds past client ∧
      ∀ error, result = .error error → error.endsAttempt = true) past s := by
  apply Ends.onError (Q := fun past _ result => sigLink.Holds past client ∧
    ∀ error, result = .error error → error = .eofError ∨ error.endsAttempt = true)
  · intro answer resumed settles
    refine ⟨holds.append rfl rfl, ?_⟩
    rintro error rfl
    simpa [SettlesLink, settlesLink] using settles
  · exact fun _ _ _ ⟨holds, _⟩ => ⟨holds, nofun⟩
  · rintro past s error ⟨holds, raised⟩
    split
    · exact ⟨holds, nofun⟩
    · next other =>
      refine ⟨holds, ?_⟩
      rintro _ ⟨⟩
      rcases raised error rfl with rfl | ends
      · exact absurd rfl other
      · exact ends

theorem ends_useClient {resolved : Except PyError Unit} (holds : sigLink.Holds past client)
    (settles : ∀ error, resolved = .error error → error.endsAttempt = true) :
    (useClient c client resolved).Ends SettlesLink (UsedClient client) past s := by
  cases resolved with
  | error error => exact .inl ⟨error, rfl, settles error rfl, holds⟩
  | ok _ =>
    apply Ends.bind (ends_subscribe holds)
    · rintro past s _ ⟨⟨kept, holding⟩, _⟩
      have requests : MaintainsKept client (requestComposition c) := kept_requestComposition
      have keeps : sigLink.Keeps past { s with client := some client } client :=
        ⟨kept, holding, .inr (decide_eq_true rfl)⟩
      exact Ends.mono (requests past _ keeps) fun _ _ _ keeps => .inr keeps
    · rintro past s error ⟨holds, raised⟩
      exact .inl ⟨error, rfl, raised error rfl, holds⟩

/-- How an attempt ends. -/
def AttemptEnded (past : List (Awaited sigSignature)) (s : SigMeshDevice)
    (result : Except PyError Bool) : Prop :=
  (result = .ok false → sigLink.Free past) ∧ sigLink.Settled past s fun _ => False

theorem attemptEnded_of_free {result : Except PyError Bool} (free : sigLink.Free past) :
    AttemptEnded past s result := ⟨fun _ => free, free.settled _⟩

theorem ends_client {resolved : Except PyError Unit} (holds : sigLink.Holds past client)
    (settles : ∀ error, resolved = .error error → error.endsAttempt = true) :
    (onError (do useClient c client resolved; return true) (attemptFailed c true)).Ends SettlesLink
      AttemptEnded past s := by
  have used : (do useClient c client resolved; return true : SigMesh Bool).Ends SettlesLink
      (fun past s result => UsedClient client past s (result.map fun _ => ()) ∧
        result ≠ .ok false) past s := by
    apply Ends.bind (ends_useClient holds settles)
    · exact fun _ _ _ used => ⟨used, nofun⟩
    · exact fun _ _ _ used => ⟨used, nofun⟩
  apply Ends.onError used
  · rintro past s value ⟨(⟨_, ⟨⟩, _⟩ | keeps), connected⟩
    exact ⟨fun failed => absurd failed connected, keeps.settled _⟩
  · rintro past s error ⟨(⟨_, ⟨⟩, ends, holds⟩ | keeps), _⟩
    · exact Ends.mono (ends_attemptFailed ends holds) fun _ _ _ free => attemptEnded_of_free free
    · by_cases ends : error.endsAttempt = true
      · exact Ends.mono (ends_attemptFailed ends keeps.holds) fun _ _ _ free =>
          attemptEnded_of_free free
      · have raises : attemptFailed c true error = raise error := if_neg ends
        rw [raises]
        exact ⟨nofun, keeps.settled _⟩

theorem free_findDevice : MaintainsFree (findDevice c) := by
  apply Maintains.bind (free_call .findDevice trivial)
  intro found
  split
  · exact Maintains.pure ()
  · exact Maintains.raise _

theorem ends_connectClient (free : sigLink.Free past) :
    (connectClient c).Ends SettlesLink AttemptEnded past s := by
  -- what has been made: a client in no one's keeping, or none
  apply Ends.bind (Q := fun past _ result =>
    (∀ client resolved, result = .ok (some (client, resolved)) → sigLink.Holds past client ∧
      ∀ error, resolved = .error error → error.endsAttempt = true) ∧
    (result = .ok none → sigLink.Free past) ∧ ∀ error, result = .error error → sigLink.Free past)
  · apply Ends.onError (Q := fun past _ result =>
      (∀ client resolved, result = .ok (some (client, resolved)) → sigLink.Holds past client ∧
        ∀ error, resolved = .error error → error.endsAttempt = true) ∧
      result ≠ .ok none ∧ ∀ error, result = .error error → sigLink.Free past)
    · rintro (error | ⟨client, resolved⟩) resumed settles
      · exact ⟨nofun, nofun, fun _ _ => free.append rfl⟩
      · refine ⟨?_, nofun, nofun⟩
        rintro _ _ ⟨⟩
        refine ⟨free.acquire rfl, ?_⟩
        rintro error rfl
        exact settles
    · exact fun past s value ⟨held, made, _⟩ => ⟨held, fun none => absurd none made, nofun⟩
    · rintro past s error ⟨_, _, free⟩
      apply Ends.bind (free_attemptFailed _ error past s (free error rfl))
      · exact fun _ _ _ free => ⟨nofun, fun _ => free, nofun⟩
      · exact fun _ _ _ free => ⟨nofun, nofun, fun _ _ => free⟩
  · rintro past s made ⟨held, free, _⟩
    cases made with
    | none => exact attemptEnded_of_free (free rfl)
    | some made =>
      obtain ⟨holds, settles⟩ := held made.1 made.2 rfl
      exact ends_client holds settles
  · exact fun past s error ⟨_, _, free⟩ => attemptEnded_of_free (free error rfl)

theorem ends_connectAttempt (free : sigLink.Free past) :
    (connectAttempt c).Ends SettlesLink AttemptEnded past s := by
  have found : MaintainsFree (onError (do findDevice c; return true) (attemptFailed c false)) :=
    Maintains.onError (Maintains.bind free_findDevice fun _ => Maintains.pure true)
      (free_attemptFailed false)
  apply Ends.bind (found past s free)
  · intro past s found free
    split
    · exact ends_connectClient free
    · exact attemptEnded_of_free free
  · exact fun _ _ _ free => attemptEnded_of_free free

theorem ends_connectFrom (maxRetries left : Nat) (free : sigLink.Free past) :
    (connectFrom c maxRetries left).Ends SettlesLink
      (fun past s _ => sigLink.Settled past s fun _ => False) past s := by
  induction left generalizing past s with
  | zero => exact free.settled _
  | succ left ih =>
    apply Ends.bind (ends_connectAttempt free)
    · rintro past s connected ⟨again, settled⟩
      cases connected with
      | true => exact settled
      | false => exact ih (again rfl)
    · exact fun _ _ _ ended => ended.2

/-- Every client that is connected in the call is kept by the device or disconnected. -/
theorem ends_connect (maxRetries : Nat) (free : sigLink.Free past) :
    (connect c maxRetries).Ends SettlesLink
      (fun past s _ => sigLink.Settled past s fun _ => False) past s := by
  apply Ends.bind (free_loadKeys past s free)
  · exact fun _ _ _ free => ends_connectFrom maxRetries maxRetries free
  · exact fun _ _ _ free => free.settled _

end SigMesh

end TuyaBleMesh
