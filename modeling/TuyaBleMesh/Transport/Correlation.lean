import TuyaBleMesh.Lib.OrderedDict
import TuyaBleMesh.Transport.Request

/-!
# The correlation engine

`correlation.py`: the table of pending registrations and its index by request id.
What ties the two tables together is part of the type, so that no `del` of the
code can miss its key.
-/

namespace TuyaBleMesh

structure CorrelationKey where
  opcode : Nat
  destination : Nat
  sequence : Nat
  requestId : RequestId
  deriving DecidableEq, Repr

/-- `_pending` and `_by_request_id`. -/
structure CorrelationEngine where
  pending : OrderedDict CorrelationKey CommandRequest
  byRequestId : OrderedDict RequestId CorrelationKey
  registered : ∀ key request, pending.get? key = some request →
    key.requestId = request.requestId ∧ byRequestId.get? request.requestId = some key
  indexed : ∀ requestId key, byRequestId.get? requestId = some key →
    ∃ request, pending.get? key = some request ∧ request.requestId = requestId

namespace CorrelationEngine

def empty : CorrelationEngine where
  pending := .empty
  byRequestId := .empty
  registered key request found := by cases found
  indexed requestId key found := by cases found

/-- The key that a request is registered under; an expected opcode of zero is none. -/
def keyOf (request : CommandRequest) (sequence : Nat) : CorrelationKey where
  opcode :=
    match request.expectedResponseOpcode with
    | some expected => if expected ≠ 0 then expected else request.opcode
    | none => request.opcode
  destination := request.targetNode
  sequence
  requestId := request.requestId

/-- `register`. -/
def register (engine : CorrelationEngine) (request : CommandRequest) (sequence : Nat) :
    Except PyError CorrelationEngine :=
  if known : request.requestId ∈ engine.byRequestId.keys then
    .error (.correlationConflictError s!"Request {request.requestId} already registered")
  else
    have unindexed := OrderedDict.get?_eq_none_iff.mpr known
    .ok {
      pending := engine.pending.set (keyOf request sequence) request
      byRequestId := engine.byRequestId.set request.requestId (keyOf request sequence)
      registered := by
        intro key request' found
        rw [OrderedDict.get?_set] at found ⊢
        split at found
        · next same =>
          cases found
          subst same
          exact ⟨rfl, if_pos rfl⟩
        · obtain ⟨own, held⟩ := engine.registered key request' found
          have other : request'.requestId ≠ request.requestId := by
            intro same
            rw [same, unindexed] at held
            cases held
          rw [if_neg other]
          exact ⟨own, held⟩
      indexed := by
        intro requestId key found
        rw [OrderedDict.get?_set] at found
        split at found
        · next same =>
          cases found
          exact ⟨request, by rw [OrderedDict.get?_set, if_pos rfl], same.symm⟩
        · next other =>
          obtain ⟨request', held, same⟩ := engine.indexed requestId key found
          have different : key ≠ keyOf request sequence := by
            intro equal
            have own := (engine.registered key request' held).1
            rw [equal, same] at own
            exact other own.symm
          exact ⟨request', by rw [OrderedDict.get?_set, if_neg different, held], same⟩ }

/-- Drop the registrations that `drop` selects from both tables. -/
def release (engine : CorrelationEngine) (drop : CommandRequest → Bool) : CorrelationEngine where
  pending := engine.pending.filter fun _ request => !drop request
  byRequestId := engine.byRequestId.filter fun _ key =>
    (engine.pending.get? key).any fun request => !drop request
  registered := by
    intro key request found
    rw [OrderedDict.get?_filter, Option.filter_eq_some_iff] at found
    obtain ⟨own, held⟩ := engine.registered key request found.1
    refine ⟨own, ?_⟩
    rw [OrderedDict.get?_filter, held, Option.filter_some, found.1]
    exact if_pos found.2
  indexed := by
    intro requestId key found
    rw [OrderedDict.get?_filter, Option.filter_eq_some_iff] at found
    obtain ⟨held, kept⟩ := found
    obtain ⟨request, present, same⟩ := engine.indexed requestId key held
    refine ⟨request, ?_, same⟩
    rw [present] at kept
    rw [OrderedDict.get?_filter, present, Option.filter_some]
    exact if_pos kept

/-- The registrations whose deadline is not after `now`, in the order they were made. -/
def stale (engine : CorrelationEngine) (now : Rat) : List (ExpiredRequest now) :=
  engine.pending.entries.filterMap fun (_, request) =>
    if expired : request.isExpired now = true then some ⟨request, expired⟩ else none

/-- `expire_stale`. -/
def expireStale (engine : CorrelationEngine) (now : Rat) :
    List (ExpiredRequest now) × CorrelationEngine :=
  (engine.stale now, engine.release fun request => request.isExpired now)

/-! ### Registered requests -/

/-- The request is registered. -/
def Tracks (engine : CorrelationEngine) (requestId : RequestId) : Prop :=
  requestId ∈ engine.byRequestId.keys

instance (engine : CorrelationEngine) (requestId : RequestId) :
    Decidable (engine.Tracks requestId) :=
  inferInstanceAs (Decidable (requestId ∈ engine.byRequestId.keys))

/-- The request itself is registered, under some key. -/
def Holds (engine : CorrelationEngine) (request : CommandRequest) : Prop :=
  ∃ key, engine.pending.get? key = some request

variable {engine : CorrelationEngine} {requestId : RequestId}

theorem tracks_iff : engine.Tracks requestId ↔
    ∃ key request, engine.pending.get? key = some request ∧ request.requestId = requestId := by
  rw [Tracks, ← OrderedDict.get?_isSome_iff, Option.isSome_iff_exists]
  constructor
  · rintro ⟨key, held⟩
    obtain ⟨request, present, same⟩ := engine.indexed requestId key held
    exact ⟨key, request, present, same⟩
  · rintro ⟨key, request, present, rfl⟩
    exact ⟨key, (engine.registered key request present).2⟩

theorem tracks_iff_holds : engine.Tracks requestId ↔
    ∃ request, engine.Holds request ∧ request.requestId = requestId := by
  rw [tracks_iff]
  constructor
  · rintro ⟨key, request, present, same⟩
    exact ⟨request, ⟨key, present⟩, same⟩
  · rintro ⟨request, ⟨key, present⟩, same⟩
    exact ⟨key, request, present, same⟩

theorem not_holds_empty {request : CommandRequest} : ¬ empty.Holds request := by
  rintro ⟨key, found⟩
  cases found

theorem register_error {request : CommandRequest} {sequence : Nat}
    (known : engine.Tracks request.requestId) :
    engine.register request sequence = .error
      (.correlationConflictError s!"Request {request.requestId} already registered") :=
  dif_pos known

theorem register_ok {request : CommandRequest} (sequence : Nat)
    (unknown : ¬ engine.Tracks request.requestId) :
    ∃ engine', engine.register request sequence = .ok engine' ∧
      ∀ requestId, engine'.Tracks requestId ↔
        requestId = request.requestId ∨ engine.Tracks requestId := by
  refine ⟨_, dif_neg unknown, fun requestId => ?_⟩
  exact OrderedDict.mem_keys_set

/-- A registration adds the request and nothing else. -/
theorem register_holds {engine' : CorrelationEngine} {request : CommandRequest} {sequence : Nat}
    (done : engine.register request sequence = .ok engine') (other : CommandRequest) :
    engine'.Holds other ↔ engine.Holds other ∨ other = request := by
  unfold register at done
  split at done
  · cases done
  · next unknown =>
    cases done
    constructor
    · rintro ⟨key, found⟩
      rw [OrderedDict.get?_set] at found
      split at found
      · cases found
        exact .inr rfl
      · exact .inl ⟨key, found⟩
    · rintro (⟨key, found⟩ | rfl)
      · -- the key of the new registration has an id of its own
        have different : key ≠ keyOf request sequence := by
          rintro rfl
          obtain ⟨own, held⟩ := engine.registered _ other found
          rw [← show request.requestId = other.requestId from own] at held
          exact unknown (OrderedDict.get?_isSome_iff.mp (by rw [held]; rfl))
        exact ⟨key, by rw [OrderedDict.get?_set, if_neg different, found]⟩
      · exact ⟨keyOf other sequence, by rw [OrderedDict.get?_set, if_pos rfl]⟩

/-- A registration that fails has found the id in the table. -/
theorem register_cases (engine : CorrelationEngine) (request : CommandRequest) (sequence : Nat) :
    (engine.Tracks request.requestId ∧ engine.register request sequence = .error
      (.correlationConflictError s!"Request {request.requestId} already registered")) ∨
    ∃ engine', ¬ engine.Tracks request.requestId ∧ engine.register request sequence = .ok engine' ∧
      ∀ requestId, engine'.Tracks requestId ↔
        requestId = request.requestId ∨ engine.Tracks requestId := by
  by_cases known : engine.Tracks request.requestId
  · exact .inl ⟨known, register_error known⟩
  · obtain ⟨engine', done, tracks⟩ := register_ok sequence known
    exact .inr ⟨engine', known, done, tracks⟩

section Expiry

variable {now : Rat}

theorem mem_stale {expired : ExpiredRequest now} :
    expired ∈ engine.stale now ↔ engine.Holds expired.val := by
  simp only [Holds, stale, List.mem_filterMap, OrderedDict.get?_eq_some_iff]
  constructor
  · rintro ⟨⟨key, request⟩, member, selected⟩
    split at selected
    · cases selected
      exact ⟨key, member⟩
    · cases selected
  · rintro ⟨key, member⟩
    exact ⟨(key, expired.val), member, by rw [dif_pos expired.property]⟩

/-- No two registrations are of one request. -/
theorem requestIds_nodup (engine : CorrelationEngine) :
    (engine.pending.entries.map fun entry => entry.2.requestId).Nodup := by
  refine (List.nodup_map_iff_inj_on (List.Nodup.of_map _ engine.pending.nodup)).mpr ?_
  rintro ⟨key, request⟩ member ⟨key', request'⟩ member' same
  rw [← OrderedDict.get?_eq_some_iff] at member member'
  -- the index leads from the id to one key, and the key to one request
  obtain ⟨_, held⟩ := engine.registered key request member
  obtain ⟨_, held'⟩ := engine.registered key' request' member'
  rw [show request.requestId = request'.requestId from same, held'] at held
  cases held
  rw [member] at member'
  cases member'
  rfl

theorem stale_nodup (engine : CorrelationEngine) (now : Rat) :
    ((engine.stale now).map fun expired => expired.val.requestId).Nodup := by
  have distinct := engine.requestIds_nodup
  rw [List.Nodup, List.pairwise_map] at distinct
  rw [stale, List.Nodup, List.pairwise_map, List.pairwise_filterMap]
  apply distinct.imp
  rintro ⟨_, request⟩ ⟨_, request'⟩ different expired selected expired' selected'
  obtain ⟨_, own⟩ := Option.dite_none_right_eq_some.mp selected
  obtain ⟨_, own'⟩ := Option.dite_none_right_eq_some.mp selected'
  cases own
  cases own'
  exact different

theorem release_holds {drop : CommandRequest → Bool} {request : CommandRequest}
    (held : (engine.release drop).Holds request) : engine.Holds request := by
  obtain ⟨key, found⟩ := held
  rw [release, OrderedDict.get?_filter, Option.filter_eq_some_iff] at found
  exact ⟨key, found.1⟩

theorem tracks_release {drop : CommandRequest → Bool} : (engine.release drop).Tracks requestId ↔
    ∃ key request, engine.pending.get? key = some request ∧ request.requestId = requestId ∧
      drop request = false := by
  rw [tracks_iff]
  simp only [release, OrderedDict.get?_filter, Option.filter_eq_some_iff, Bool.not_eq_true']
  constructor
  · rintro ⟨key, request, ⟨present, kept⟩, same⟩
    exact ⟨key, request, present, same, kept⟩
  · rintro ⟨key, request, present, same, kept⟩
    exact ⟨key, request, ⟨present, kept⟩, same⟩

/-- What a sweep leaves is what was registered and has not expired. -/
theorem tracks_expireStale : (engine.expireStale now).2.Tracks requestId ↔
    engine.Tracks requestId ∧ ∀ expired ∈ engine.stale now, expired.val.requestId ≠ requestId := by
  rw [expireStale, tracks_release, tracks_iff]
  constructor
  · rintro ⟨key, request, present, same, live⟩
    refine ⟨⟨key, request, present, same⟩, fun expired member expiredId => ?_⟩
    obtain ⟨key', present'⟩ := mem_stale.mp member
    -- one id, one registration
    have held := (engine.registered key request present).2
    have held' := (engine.registered key' expired.val present').2
    rw [expiredId, ← same, held] at held'
    cases held'
    rw [present] at present'
    cases present'
    rw [expired.property] at live
    cases live
  · rintro ⟨⟨key, request, present, same⟩, untouched⟩
    refine ⟨key, request, present, same, Bool.eq_false_of_not_eq_true fun expired => ?_⟩
    exact untouched ⟨request, expired⟩ (mem_stale.mpr ⟨key, present⟩) same

end Expiry

end CorrelationEngine

end TuyaBleMesh
