import TuyaBleMesh.Lib.Outcome
import TuyaBleMesh.Provisioning.Connection
import TuyaBleMesh.SigMesh.LinkRelease

/-!
# What becomes of a link to an unprovisioned device

`_connect` of the provisioner returns its client or disconnects it, and raises a
`ProvisioningError`. The search for services is the part in which nothing is to happen that
no handler is for; and a `BleakError` from `client.disconnect()` is not suppressed
everywhere.
-/

namespace TuyaBleMesh

/-- A handler of the attempts is for it. -/
def Raised.isHandled (exc : Raised) : Bool :=
  exc.error.isProvisioningError || exc.error.isOsError || exc.error = .bleakError

/-- What `_connect` may raise. -/
def Raised.passes (exc : Raised) : Bool :=
  exc.error.isProvisioningError || exc.error = .cancelledError

/-- The links of `_connect`, by the numbers of the attempts. -/
def provisionerLink : Resource linkSignature Nat where
  acquired?
    | .call (.connectClient attempt) _ (.ok (some _)) _ => some attempt
    | _ => none
  releases
    | .call (.disconnect _ _) _ _ _ => true
    | _ => false
  keeps _ _ := false

/-- What each await may raise. Nobody cancels the search for services, and `client.disconnect()`
raises no `BleakError` after a failed attempt. -/
def LinkOp.MayRaise (exc : Raised) : LinkOp → Prop
  | .findDevice => exc.isHandled = true ∨ exc.passes = true
  | .connectClient _ => exc.isHandled = true ∨ exc.passes = true
  | .getServices _ => exc.isHandled = true
  | .disconnect _ rejected =>
    exc.error.isOsError = true ∨ exc.passes = true ∨ rejected = true ∧ exc.error = .bleakError
  | .sleep _ => exc.passes = true
  | .createProcess => exc.error.isOsError = true ∨ exc.passes = true
  | .communicate => exc.error.isOsError = true ∨ exc.passes = true
  | .killProcess => exc.error.isOsError = true ∨ exc.passes = true

/-- Where the services are a property of the client and it is read, it raises nothing else. -/
def LinkClient.ShowsServices (client : LinkClient) : Prop :=
  client.isConnected = false ∨ client.hasGetServices = true ∨
    match client.services with
    | .ok _ => True
    | .error exc => exc.isHandled = true

def LinkOp.MayReturn : (op : LinkOp) → op.Answer → Prop
  | .connectClient _, some client => client.ShowsServices
  | _, _ => True

def SettlesProvisioning : Awaited linkSignature → Prop
  | .call op _ (.error exc) _ => op.MayRaise exc
  | .call op _ (.ok value) _ => op.MayReturn value
  | .join _ _ _ _ _ => True

namespace ProvisionerConnection

open Coroutine

variable {c : LinkConfig} {past : List (Awaited linkSignature)} {s : Unit} {attempt : Nat}

/-! ### Without a link -/

/-- There is no link, and what is raised is of the kind. -/
def Dropped {α : Type} (kind : Raised → Prop) (past : List (Awaited linkSignature)) (_ : Unit)
    (result : Except Raised α) : Prop :=
  provisionerLink.Free past ∧ ∀ exc, result = .error exc → kind exc

/-- Where there is no link before the code, there is none after it. -/
abbrev Linkless {α : Type} (kind : Raised → Prop) (code : Connecting α) : Prop :=
  ∀ past s, provisionerLink.Free past → code.Ends SettlesProvisioning (Dropped kind) past s

/-- It is raised out of `_connect`. -/
abbrev Passing (exc : Raised) : Prop := exc.passes = true

/-- It is suppressed, or raised out of `_connect`. -/
abbrev SuppressedOr (exc : Raised) : Prop := exc.error.isOsError = true ∨ Passing exc

namespace Linkless

variable {α β : Type} {K L : Raised → Prop}

theorem pure (value : α) : Linkless K (Pure.pure value : Connecting α) :=
  fun _ _ free => ⟨free, nofun⟩

theorem raise {exc : Raised} (is : K exc) :
    Linkless K (Coroutine.raise (S := linkSignature) exc : Connecting α) := by
  refine fun _ _ free => ⟨free, ?_⟩
  rintro _ ⟨⟩
  exact is

theorem bind {code : Connecting α} {rest : α → Connecting β} (one : Linkless K code)
    (two : ∀ value, Linkless K (rest value)) : Linkless K (code >>= rest) := by
  intro past s free
  apply Ends.bind (one past s free)
  · exact fun past s value ⟨free, _⟩ => two value past s free
  · rintro past s exc ⟨free, raised⟩
    refine ⟨free, ?_⟩
    rintro _ ⟨⟩
    exact raised exc rfl

theorem onError {code : Connecting α} {handler : Raised → Connecting α} (one : Linkless K code)
    (two : ∀ exc, K exc → Linkless L (handler exc)) : Linkless L (code.onError handler) := by
  intro past s free
  apply Ends.onError (one past s free)
  · exact fun past s value ⟨free, _⟩ => ⟨free, nofun⟩
  · exact fun past s exc ⟨free, raised⟩ => two exc (raised exc rfl) past s free

theorem call (op : LinkOp) (raises : ∀ exc, op.MayRaise exc → K exc)
    (other : ∀ s answer resumed, provisionerLink.acquired? (.call op s answer resumed) = none) :
    Linkless K (ProvisionerConnection.call op) := by
  intro past s free answer resumed settles
  refine ⟨free.append (other s answer resumed), ?_⟩
  rintro exc rfl
  exact raises exc settles

theorem sleep (seconds : Rat) (weaker : ∀ exc, Passing exc → K exc) :
    Linkless K (ProvisionerConnection.call (.sleep seconds)) :=
  call _ weaker fun _ _ _ => rfl

end Linkless

theorem linkless_cleanupStaleConnections : Linkless Passing cleanupStaleConnections := by
  apply Linkless.onError (K := SuppressedOr)
  · apply Linkless.bind (Linkless.call .createProcess (fun _ is => is) fun _ _ _ => rfl)
    intro _
    apply Linkless.bind
    · apply Linkless.onError (Linkless.call .communicate (fun _ is => is) fun _ _ _ => rfl)
      intro exc is
      split
      · exact Linkless.call .killProcess (fun _ is => is) fun _ _ _ => rfl
      · exact Linkless.raise is
    · exact fun _ => Linkless.sleep _ fun _ passes => .inr passes
  · intro exc is
    split
    · exact Linkless.pure ()
    · next other =>
      apply Linkless.raise
      exact is.resolve_left other

/-! ### Failed attempts -/

/-- There is no link, or one for which there is a client. -/
def LinkOf (created : Bool) (past : List (Awaited linkSignature)) : Prop :=
  provisionerLink.Free past ∨ created = true ∧ ∃ attempt, provisionerLink.Holds past attempt

/-- Whatever `client.disconnect()` raises, it has been called. -/
theorem ends_closeClient {created : Bool} (rejected : Bool) (linked : LinkOf created past) :
    (closeClient attempt created rejected).Ends SettlesProvisioning (Dropped Passing) past s := by
  unfold closeClient
  split
  · apply Ends.onError (Q := Dropped fun exc =>
      (exc.error.isOsError || rejected && exc.error = .bleakError) = true ∨ Passing exc)
    · intro answer resumed settles
      refine ⟨?_, ?_⟩
      · -- whatever the call answers, it has released the link
        rcases linked with free | ⟨_, attempt, holds⟩
        · exact free.append rfl
        · exact holds.release rfl rfl
      · rintro exc rfl
        rcases settles with suppressed | passes | ⟨rfl, bleak⟩
        · exact .inl (by rw [suppressed, Bool.true_or])
        · exact .inr passes
        · exact .inl (by simp [bleak])
    · exact fun past s value ⟨free, _⟩ => ⟨free, nofun⟩
    · rintro past s exc ⟨free, raised⟩
      split
      · exact ⟨free, nofun⟩
      · next other =>
        refine Linkless.raise ?_ past s free
        exact (raised exc rfl).resolve_left other
  · next absent =>
    refine ⟨?_, nofun⟩
    rcases linked with free | ⟨created, _⟩
    · exact free
    · -- a link without a client is not left behind
      exact absurd created absent

/-- What the handlers are given: there is no link, or one with a client and an exception that they
are for. -/
def FailedWith (created : Bool) (past : List (Awaited linkSignature)) (exc : Raised) : Prop :=
  LinkOf created past ∧ exc.isHandled = true ∨ provisionerLink.Free past ∧ Passing exc

theorem ends_attemptFailed {created : Bool} {failures : LinkFailures} {exc : Raised}
    (failed : FailedWith created past exc) :
    (attemptFailed c attempt created failures exc).Ends SettlesProvisioning (Dropped Passing) past
      s := by
  have linked : LinkOf created past := failed.elim And.left fun passed => .inl passed.1
  have closes {β : Type} (rejected : Bool) {rest : Unit → Connecting β}
      (two : ∀ value, Linkless Passing (rest value)) :
      (closeClient attempt created rejected >>= rest).Ends SettlesProvisioning (Dropped Passing) past
        s := by
    apply Ends.bind (ends_closeClient rejected linked)
    · exact fun past s value ⟨free, _⟩ => two value past s free
    · rintro past s exc ⟨free, raised⟩
      refine ⟨free, ?_⟩
      rintro _ ⟨⟩
      exact raised exc rfl
  have sleeps (seconds : Rat) : Linkless Passing (call (.sleep seconds)) :=
    Linkless.sleep seconds fun _ passes => passes
  unfold attemptFailed
  split
  · next rejected =>
    refine closes true fun _ => Linkless.raise ?_
    simp [Passing, Raised.passes, rejected]
  · next other =>
    split
    · exact closes false fun _ => Linkless.bind (sleeps _) fun _ => Linkless.pure _
    · split
      · apply closes false
        intro _
        dsimp only
        split
        · split
          · exact Linkless.bind (sleeps _) fun _ => Linkless.pure _
          · apply Linkless.bind linkless_cleanupStaleConnections
            exact fun _ => Linkless.bind (sleeps _) fun _ => Linkless.pure _
        · exact Linkless.bind (sleeps _) fun _ => Linkless.pure _
      · next unexpected =>
        -- no handler is for it
        rcases failed with ⟨_, handled⟩ | ⟨free, passes⟩
        · exact absurd (by simpa [Raised.isHandled, other] using handled) unexpected
        · exact Linkless.raise passes past s free

/-! ### Attempts -/

/-- How a part of the `try` block ends: the attempt is over, or there is a value. -/
def TriedTo {β : Type} (post : List (Awaited linkSignature) → β → Prop)
    (past : List (Awaited linkSignature)) (_ : Unit) : Except Raised (LinkFailures ⊕ β) → Prop
  | .ok (.inl _) => provisionerLink.Free past
  | .ok (.inr value) => post past value
  | .error exc => provisionerLink.Free past ∧ Passing exc

theorem ends_tried {β : Type} {created : Bool} {failures : LinkFailures} {body : Connecting β}
    {post : List (Awaited linkSignature) → β → Prop}
    (ends : body.Ends SettlesProvisioning (fun past _ result =>
      (∀ value, result = .ok value → post past value) ∧
        ∀ exc, result = .error exc → FailedWith created past exc) past s) :
    (tried c attempt created failures body).Ends SettlesProvisioning (TriedTo post) past s := by
  apply Ends.onError (Q := fun past _ result =>
    (∀ tried, result = .ok tried → ∃ value, tried = .inr value ∧ post past value) ∧
      ∀ exc, result = .error exc → FailedWith created past exc)
  · apply Ends.bind ends
    · rintro past s value ⟨returned, _⟩
      refine ⟨?_, nofun⟩
      rintro _ ⟨⟩
      exact ⟨value, rfl, returned value rfl⟩
    · rintro past s exc ⟨_, failed⟩
      refine ⟨nofun, ?_⟩
      rintro _ ⟨⟩
      exact failed exc rfl
  · rintro past s tried ⟨returned, _⟩
    obtain ⟨value, rfl, holds⟩ := returned tried rfl
    exact holds
  · -- the handlers close what there is and then count the failure or raise
    rintro past s exc ⟨_, failed⟩
    apply Ends.bind (ends_attemptFailed (failed exc rfl))
    · exact fun past s failures ⟨free, _⟩ => free
    · exact fun past s exc ⟨free, raised⟩ => ⟨free, raised exc rfl⟩

/-- What is awaited before there is a link. -/
theorem ends_awaited (op : LinkOp) {created : Bool} (free : provisionerLink.Free past)
    (raises : ∀ exc, op.MayRaise exc → exc.isHandled = true ∨ Passing exc)
    (other : ∀ s answer resumed, provisionerLink.acquired? (.call op s answer resumed) = none) :
    (call op).Ends SettlesProvisioning (fun past _ result =>
      (∀ value, result = .ok value → provisionerLink.Free past) ∧
        ∀ exc, result = .error exc → FailedWith created past exc) past s := by
  intro answer resumed settles
  have free := free.append (other s answer resumed)
  refine ⟨fun _ _ => free, ?_⟩
  rintro exc rfl
  rcases raises exc settles with handled | passes
  · exact .inl ⟨.inl free, handled⟩
  · exact .inr ⟨free, passes⟩

/-- A client has been made, and there is a link to it; or the callback has returned none. -/
def Connected (attempt : Nat) (past : List (Awaited linkSignature)) : Option LinkClient → Prop
  | none => provisionerLink.Free past
  | some client => provisionerLink.Holds past attempt ∧ client.ShowsServices

theorem ends_connectClient {created : Bool} (free : provisionerLink.Free past) :
    (call (.connectClient attempt)).Ends SettlesProvisioning (fun past _ result =>
      (∀ client, result = .ok client → Connected attempt past client) ∧
        ∀ exc, result = .error exc → FailedWith created past exc) past s := by
  rintro (exc | _ | client) resumed settles
  · refine ⟨nofun, ?_⟩
    rintro _ ⟨⟩
    rcases settles with handled | passes
    · exact .inl ⟨.inl (free.append rfl), handled⟩
    · exact .inr ⟨free.append rfl, passes⟩
  · refine ⟨?_, nofun⟩
    rintro _ ⟨⟩
    exact free.append rfl
  · refine ⟨?_, nofun⟩
    rintro _ ⟨⟩
    exact ⟨free.acquire rfl, settles⟩

/-- The link is still there, and a handler is for what is raised. -/
def Checked (attempt : Nat) {α : Type} (past : List (Awaited linkSignature)) (_ : Unit)
    (result : Except Raised α) : Prop :=
  provisionerLink.Holds past attempt ∧ ∀ exc, result = .error exc → exc.isHandled = true

theorem checked_error {α : Type} {exc : Raised} (holds : provisionerLink.Holds past attempt)
    (handled : exc.isHandled = true) :
    Checked attempt past s (.error exc : Except Raised α) := by
  refine ⟨holds, ?_⟩
  rintro _ ⟨⟩
  exact handled

theorem ends_checkServices {client : LinkClient} (holds : provisionerLink.Holds past attempt)
    (connected : client.isConnected = true) (services : client.ShowsServices) :
    (checkServices c attempt client).Ends SettlesProvisioning (Checked attempt) past s := by
  apply Ends.onError (Q := Checked attempt)
  · apply Ends.bind (Q := Checked attempt)
    · -- the services are read or searched for with the client in hand
      unfold readServices
      split
      · rintro answer resumed settles
        refine ⟨holds.append rfl rfl, ?_⟩
        rintro exc rfl
        exact settles
      · next property =>
        refine ⟨holds, ?_⟩
        intro exc failed
        have handled := (services.resolve_left (by simp [connected])).resolve_left property
        rw [show client.services = .error exc from failed] at handled
        exact handled
    · rintro past s services ⟨holds, _⟩
      split
      · exact ⟨holds, nofun⟩
      · split
        · exact checked_error holds rfl
        · exact ⟨holds, nofun⟩
    · rintro past s exc ⟨holds, raised⟩
      exact checked_error holds (raised exc rfl)
  · exact fun past s value ⟨holds, _⟩ => ⟨holds, nofun⟩
  · rintro past s exc ⟨holds, raised⟩
    split
    · exact ⟨holds, nofun⟩
    · exact checked_error holds (raised exc rfl)

theorem ends_checkClient {client : Option LinkClient} (connected : Connected attempt past client) :
    (checkClient c attempt client).Ends SettlesProvisioning (fun past _ result =>
      (∀ value, result = .ok value → provisionerLink.Holds past attempt) ∧
        ∀ exc, result = .error exc → FailedWith client.isSome past exc) past s := by
  cases client with
  | none =>
    refine ⟨nofun, ?_⟩
    rintro _ ⟨⟩
    exact .inr ⟨connected, rfl⟩
  | some client =>
    obtain ⟨holds, services⟩ := connected
    -- with a client the link is handed to the handlers with it
    have weaker {past : List (Awaited linkSignature)} {s : Unit} {result : Except Raised Unit}
        (checked : Checked attempt past s result) :
        (∀ value, result = .ok value → provisionerLink.Holds past attempt) ∧
          ∀ exc, result = .error exc → FailedWith true past exc := by
      refine ⟨fun _ _ => checked.1, ?_⟩
      exact fun exc is => .inl ⟨.inr ⟨rfl, attempt, checked.1⟩, checked.2 exc is⟩
    unfold checkClient
    dsimp only
    split
    · next connected =>
      exact Ends.mono (ends_checkServices holds connected services) fun _ _ _ => weaker
    · exact weaker (s := s) (checked_error holds rfl)

theorem ends_connectAttempt {failures : LinkFailures} (free : provisionerLink.Free past) :
    (connectAttempt c attempt failures).Ends SettlesProvisioning
      (TriedTo fun past _ => provisionerLink.Holds past attempt) past s := by
  apply Ends.bind (ends_tried (ends_awaited .findDevice free (fun _ is => is) fun _ _ _ => rfl))
  · intro past s found ended
    -- each stage ends the attempt or goes on to the next
    rcases found with failures | found
    · exact ended
    · cases found with
      | false =>
        apply Ends.bind
          (ends_tried (ends_awaited (.sleep _) ended (fun _ is => .inr is) fun _ _ _ => rfl))
        · rintro past s (failures | _) ended
          · exact ended
          · exact ended
        · exact fun _ _ _ ended => ended
      | true =>
        apply Ends.bind (ends_tried (ends_connectClient ended))
        · rintro past s (failures | client) ended
          · exact ended
          · exact ends_tried (ends_checkClient ended)
        · exact fun _ _ _ ended => ended
  · exact fun _ _ _ ended => ended

/-- The client that is connected is returned or disconnected, and what is raised may be. -/
def Ended (past : List (Awaited linkSignature)) (s : Unit) (result : Except Raised Nat) : Prop :=
  (provisionerLink.Settled past s fun attempt => result = .ok attempt) ∧
    ∀ exc, result = .error exc → exc.passes = true

theorem ends_connectFrom (maxRetries left : Nat) {failures : LinkFailures}
    (free : provisionerLink.Free past) :
    (connectFrom c maxRetries left failures).Ends SettlesProvisioning Ended past s := by
  have raises {past : List (Awaited linkSignature)} {s : Unit} {exc : Raised}
      (free : provisionerLink.Free past) (passes : exc.passes = true) :
      Ended past s (.error exc) := by
    refine ⟨free.settled _, ?_⟩
    rintro _ ⟨⟩
    exact passes
  induction left generalizing past s failures with
  | zero => exact raises free rfl
  | succ left ih =>
    apply Ends.bind (ends_connectAttempt free)
    · rintro past s (failures | _) ended
      · exact ih ended
      · exact ⟨ended.settled rfl, nofun⟩
    · exact fun past s exc ended => raises ended.1 ended.2

end ProvisionerConnection

/-! ### Both calls -/

instance (exc : Raised) : (op : LinkOp) → Decidable (op.MayRaise exc)
  | .findDevice => inferInstanceAs (Decidable (_ ∨ _))
  | .connectClient _ => inferInstanceAs (Decidable (_ ∨ _))
  | .getServices _ => inferInstanceAs (Decidable (exc.isHandled = true))
  | .disconnect _ _ => inferInstanceAs (Decidable (_ ∨ _ ∨ _ ∧ _))
  | .sleep _ => inferInstanceAs (Decidable (exc.passes = true))
  | .createProcess => inferInstanceAs (Decidable (_ ∨ _))
  | .communicate => inferInstanceAs (Decidable (_ ∨ _))
  | .killProcess => inferInstanceAs (Decidable (_ ∨ _))

instance (client : LinkClient) : Decidable client.ShowsServices :=
  match services : client.services with
  | .ok _ => isTrue (.inr (.inr (by rw [services]; trivial)))
  | .error exc => decidable_of_iff
      (client.isConnected = false ∨ client.hasGetServices = true ∨ exc.isHandled = true) (by
        rw [LinkClient.ShowsServices, services])

instance : (op : LinkOp) → (value : op.Answer) → Decidable (op.MayReturn value)
  | .connectClient _, some client => inferInstanceAs (Decidable client.ShowsServices)
  | .connectClient _, none => isTrue trivial
  | .findDevice, _ => isTrue trivial
  | .getServices _, _ => isTrue trivial
  | .disconnect _ _, _ => isTrue trivial
  | .sleep _, _ => isTrue trivial
  | .createProcess, _ => isTrue trivial
  | .communicate, _ => isTrue trivial
  | .killProcess, _ => isTrue trivial

instance : DecidablePred SettlesProvisioning
  | .call op _ (.error exc) _ => inferInstanceAs (Decidable (op.MayRaise exc))
  | .call op _ (.ok value) _ => inferInstanceAs (Decidable (op.MayReturn value))
  | .join _ _ _ _ _ => isTrue trivial

/-- A proxy that is found and connected. -/
def sampleProxy (subscribed : Except PyError Unit) : Surroundings sigSignature where
  me := 0
  answer := fun _ op s =>
    match op with
    | .getSecrets => (.ok (.ok sampleKeys), s)
    | .findDevice => (.ok true, s)
    | .establishConnection => (.ok (7, .ok ()), s)
    | .startNotify _ => (subscribed, s)
    | .write _ _ _ => (.ok (), s)
    | .backoff _ _ _ => (.ok (), s)
    | .segmentPause _ _ => (.ok (), s)
    | .response _ _ => (.ok (), s)
    | .closeAttempt => (.ok (), s)
    | .bluetoothctlRemove => (.ok (), s)
    | .cacheClear => (.ok (), s)
    | .stopNotify _ => (.ok (), s)
    | .disconnectClient _ => (.ok (), s)
    | .gatherNotify => (.ok (), s)
  joined := fun _ site _ _ => nomatch site
  spawned := fun _ _ _ => 1

/-- A device of which the services are not found at the first attempt. -/
def sampleUnprovisioned (first : Except Raised (Option Services)) (closed : Except Raised Unit) :
    Surroundings linkSignature where
  me := 0
  answer := fun _ op s =>
    match op with
    | .findDevice => (.ok true, s)
    | .connectClient _ => (.ok (some ⟨true, true, .ok none⟩), s)
    | .getServices attempt =>
      (if attempt = 1 then first else .ok (some ⟨true, [ProvisionerConnection.PROV_SERVICE]⟩), s)
    | .disconnect _ _ => (closed, s)
    | .sleep _ => (.ok (), s)
    | .createProcess => (.ok (), s)
    | .communicate => (.ok (), s)
    | .killProcess => (.ok (), s)
  joined := fun _ site _ _ => nomatch site
  spawned := fun _ code _ => nomatch code

def sampleLink : LinkConfig := ⟨"DC:23:4D:21:43:A5", true⟩

def bleakRaised : Raised := ⟨.bleakError, "BleakError", "Not connected"⟩

def cancelRaised : Raised := ⟨.cancelledError, "CancelledError", ""⟩

def sampleIdle : SigMeshDevice := { device := Device.new 0xB0 none }

end TuyaBleMesh
