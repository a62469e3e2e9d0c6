import Mathlib.Data.List.Perm.Basic
import Mathlib.Data.List.Range
import TuyaBleMesh.Transport.Correlation

/-!
# Runs of the correlation engine

`correlation.py` on two dictionaries that nothing ties together, where a `del` of an
absent key raises. The calls lead from engines to engines, and an engine is a list of
the registrations that are outstanding, the oldest first.
-/

namespace TuyaBleMesh

/-- `_pending` and `_by_request_id`, whatever is in them. -/
structure CorrelationTables where
  pending : OrderedDict CorrelationKey CommandRequest := .empty
  byRequestId : OrderedDict RequestId CorrelationKey := .empty

inductive CorrelationEvent
  | register (request : CommandRequest) (sequence : Nat)
  | matchResponse (opcode source sequence : Nat)
  | cancel (requestId : RequestId)
  /-- `now` is what `time.monotonic()` returns. -/
  | expireStale (now : Rat)
  | clear

/-- What a call returns or raises. -/
inductive CorrelationReply
  | registered (key : CorrelationKey)
  | raised (error : PyError)
  | keyError
  | matched (request : Option CommandRequest)
  | cancelled (found : Bool)
  | expired (requests : List CommandRequest)
  | cleared

/-- The key is one of the response. -/
def CorrelationKey.answeredBy (key : CorrelationKey) (opcode source sequence : Nat) : Bool :=
  key.opcode = opcode && key.destination = source && key.sequence = sequence

namespace CorrelationTables

/-- `del self._pending[key]` and `del self._by_request_id[request_id]`, and whether both
keys were there. -/
def delete (t : CorrelationTables) (key : CorrelationKey) (requestId : RequestId) :
    Bool × CorrelationTables :=
  if key ∈ t.pending.keys then
    let t := { t with pending := t.pending.erase key }
    if requestId ∈ t.byRequestId.keys then
      (true, { t with byRequestId := t.byRequestId.erase requestId })
    else (false, t)
  else (false, t)

def register (t : CorrelationTables) (request : CommandRequest) (sequence : Nat) :
    CorrelationReply × CorrelationTables :=
  if request.requestId ∈ t.byRequestId.keys then
    (.raised (.correlationConflictError s!"Request {request.requestId} already registered"), t)
  else
    let key := CorrelationEngine.keyOf request sequence
    (.registered key, {
      pending := t.pending.set key request
      byRequestId := t.byRequestId.set request.requestId key })

def matchResponse (t : CorrelationTables) (opcode source sequence : Nat) :
    CorrelationReply × CorrelationTables :=
  match t.pending.entries.find? fun entry => entry.1.answeredBy opcode source sequence with
  | none => (.matched none, t)
  | some (key, request) =>
    match t.delete key request.requestId with
    | (true, t) => (.matched (some request), t)
    | (false, t) => (.keyError, t)

def cancel (t : CorrelationTables) (requestId : RequestId) :
    CorrelationReply × CorrelationTables :=
  match t.byRequestId.get? requestId with
  | none => (.cancelled false, t)
  | some key =>
    match t.delete key requestId with
    | (true, t) => (.cancelled true, t)
    | (false, t) => (.keyError, t)

/-- The loop of `expire_stale` over the entries that are left of its copy of the table. -/
def expireLoop (now : Rat) : List (CorrelationKey × CommandRequest) → List CommandRequest →
    CorrelationTables → CorrelationReply × CorrelationTables
  | [], expired, t => (.expired expired, t)
  | (key, request) :: rest, expired, t =>
    if request.isExpired now then
      match t.delete key request.requestId with
      | (true, t) => expireLoop now rest (expired ++ [request]) t
      | (false, t) => (.keyError, t)
    else expireLoop now rest expired t

def expireStale (t : CorrelationTables) (now : Rat) : CorrelationReply × CorrelationTables :=
  expireLoop now t.pending.entries [] t

def call (t : CorrelationTables) : CorrelationEvent → CorrelationReply × CorrelationTables
  | .register request sequence => t.register request sequence
  | .matchResponse opcode source sequence => t.matchResponse opcode source sequence
  | .cancel requestId => t.cancel requestId
  | .expireStale now => t.expireStale now
  | .clear => (.cleared, {})

/-- The tables after a run of calls; one that raises leaves them as they are by then. -/
def run (events : List CorrelationEvent) : CorrelationTables :=
  events.foldl (fun t event => (t.call event).2) {}

end CorrelationTables

/-! ### Calls on tables that are tied together -/

namespace CorrelationEngine

def tables (engine : CorrelationEngine) : CorrelationTables :=
  ⟨engine.pending, engine.byRequestId⟩

def matchResponse (engine : CorrelationEngine) (opcode source sequence : Nat) :
    Option CommandRequest × CorrelationEngine :=
  match engine.pending.entries.find? fun entry => entry.1.answeredBy opcode source sequence with
  | none => (none, engine)
  | some (_, request) =>
    (some request, engine.release fun other => other.requestId = request.requestId)

def cancel (engine : CorrelationEngine) (requestId : RequestId) : Bool × CorrelationEngine :=
  if engine.Tracks requestId then
    (true, engine.release fun request => request.requestId = requestId)
  else (false, engine)

/-- The call, for an engine. -/
def call (engine : CorrelationEngine) : CorrelationEvent → CorrelationReply × CorrelationEngine
  | .register request sequence =>
    match engine.register request sequence with
    | .ok engine => (.registered (keyOf request sequence), engine)
    | .error error => (.raised error, engine)
  | .matchResponse opcode source sequence =>
    let (found, engine) := engine.matchResponse opcode source sequence
    (.matched found, engine)
  | .cancel requestId =>
    let (found, engine) := engine.cancel requestId
    (.cancelled found, engine)
  | .expireStale now =>
    let (stale, engine) := engine.expireStale now
    (.expired (stale.map fun expired => expired.val), engine)
  | .clear => (.cleared, empty)

def run (events : List CorrelationEvent) : CorrelationEngine :=
  events.foldl (fun engine event => (engine.call event).2) empty

variable {engine : CorrelationEngine}

@[simp] theorem tables_pending : engine.tables.pending = engine.pending := rfl

@[simp] theorem tables_byRequestId : engine.tables.byRequestId = engine.byRequestId := rfl

theorem release_pending (drop : CommandRequest → Bool) :
    (engine.release drop).pending = engine.pending.filter fun _ request => !drop request := rfl

theorem release_byRequestId (drop : CommandRequest → Bool) :
    (engine.release drop).byRequestId = engine.byRequestId.filter fun _ key =>
      (engine.pending.get? key).any fun request => !drop request := rfl

/-- One request id, one registration. -/
theorem key_unique {key key' : CorrelationKey} {request request' : CommandRequest}
    (held : engine.pending.get? key = some request)
    (held' : engine.pending.get? key' = some request')
    (same : request'.requestId = request.requestId) : key' = key ∧ request' = request := by
  have indexed := (engine.registered key request held).2
  have indexed' := (engine.registered key' request' held').2
  rw [same, indexed] at indexed'
  cases indexed'
  rw [held] at held'
  cases held'
  exact ⟨rfl, rfl⟩

theorem release_congr {drop drop' : CommandRequest → Bool}
    (same : ∀ request, engine.Holds request → drop request = drop' request) :
    (engine.release drop).tables = (engine.release drop').tables := by
  have pending : (engine.release drop).pending = (engine.release drop').pending := by
    rw [release_pending, release_pending]
    apply OrderedDict.filter_congr
    intro key request held
    rw [same request ⟨key, held⟩]
  have index : (engine.release drop).byRequestId = (engine.release drop').byRequestId := by
    rw [release_byRequestId, release_byRequestId]
    apply OrderedDict.filter_congr
    intro requestId key found
    obtain ⟨request, held, _⟩ := engine.indexed requestId key found
    rw [held, Option.any_some, Option.any_some, same request ⟨key, held⟩]
  rw [tables, tables, pending, index]

/-- Both keys of a registration are there, and its entries are the ones that go. -/
theorem delete_tables {key : CorrelationKey} {request : CommandRequest}
    (held : engine.pending.get? key = some request) :
    engine.tables.delete key request.requestId =
      (true, (engine.release fun other => other.requestId = request.requestId).tables) := by
  have indexed := (engine.registered key request held).2
  have keyIn : key ∈ engine.pending.keys := OrderedDict.get?_isSome_iff.mp (by rw [held]; rfl)
  have idIn : request.requestId ∈ engine.byRequestId.keys :=
    OrderedDict.get?_isSome_iff.mp (by rw [indexed]; rfl)
  have pending : engine.pending.erase key =
      (engine.release fun other => other.requestId = request.requestId).pending := by
    rw [OrderedDict.erase, release_pending]
    apply OrderedDict.filter_congr
    intro key' request' held'
    rw [Bool.eq_iff_iff, decide_eq_true_eq, Bool.not_eq_true', decide_eq_false_iff_not]
    constructor
    · intro other same
      exact other (key_unique held held' same).1
    · rintro other rfl
      rw [held] at held'
      cases held'
      exact other rfl
  have index : engine.byRequestId.erase request.requestId =
      (engine.release fun other => other.requestId = request.requestId).byRequestId := by
    rw [OrderedDict.erase, release_byRequestId]
    apply OrderedDict.filter_congr
    intro requestId key' found
    obtain ⟨request', held', rfl⟩ := engine.indexed requestId key' found
    rw [held', Option.any_some, decide_not]
  refine (if_pos keyIn).trans ((if_pos idIn).trans ?_)
  exact congrArg (Prod.mk true) (congrArg₂ CorrelationTables.mk pending index)

theorem register_tables (request : CommandRequest) (sequence : Nat) :
    engine.tables.call (.register request sequence) =
      ((engine.call (.register request sequence)).1,
        (engine.call (.register request sequence)).2.tables) := by
  by_cases known : engine.Tracks request.requestId
  · rw [call, register_error known]
    exact if_pos known
  · have done : engine.register request sequence = .ok _ := dif_neg known
    rw [call, done]
    exact if_neg known

theorem matchResponse_tables (opcode source sequence : Nat) :
    engine.tables.call (.matchResponse opcode source sequence) =
      ((engine.call (.matchResponse opcode source sequence)).1,
        (engine.call (.matchResponse opcode source sequence)).2.tables) := by
  simp only [CorrelationTables.call, CorrelationTables.matchResponse, call, matchResponse,
    tables_pending]
  cases found : engine.pending.entries.find?
      fun entry => entry.1.answeredBy opcode source sequence with
  | none => rfl
  | some entry =>
    obtain ⟨key, request⟩ := entry
    have held := OrderedDict.get?_eq_some_iff.mpr (List.mem_of_find?_eq_some found)
    dsimp only
    rw [delete_tables held]

theorem cancel_tables (requestId : RequestId) :
    engine.tables.call (.cancel requestId) =
      ((engine.call (.cancel requestId)).1, (engine.call (.cancel requestId)).2.tables) := by
  simp only [CorrelationTables.call, CorrelationTables.cancel, call, cancel, tables_byRequestId]
  cases found : engine.byRequestId.get? requestId with
  | none =>
    have unknown : ¬ engine.Tracks requestId := OrderedDict.get?_eq_none_iff.mp found
    rw [if_neg unknown]
  | some key =>
    have known : engine.Tracks requestId := OrderedDict.get?_isSome_iff.mp (by rw [found]; rfl)
    obtain ⟨request, held, rfl⟩ := engine.indexed requestId key found
    rw [if_pos known]
    dsimp only
    rw [delete_tables held]

/-- The requests of these entries that have expired. -/
def expiredIn (now : Rat) (entries : List (CorrelationKey × CommandRequest)) :
    List CommandRequest :=
  (entries.map Prod.snd).filter fun request => request.isExpired now

@[simp] theorem expiredIn_cons (now : Rat) (key : CorrelationKey) (request : CommandRequest)
    (rest : List (CorrelationKey × CommandRequest)) :
    expiredIn now ((key, request) :: rest) =
      if request.isExpired now then request :: expiredIn now rest else expiredIn now rest :=
  List.filter_cons

theorem release_none : (engine.release fun _ => false).tables = engine.tables := by
  have pending : (engine.release fun _ => false).pending = engine.pending := by
    rw [release_pending]
    exact OrderedDict.filter_eq_self.mpr fun _ _ _ => rfl
  have index : (engine.release fun _ => false).byRequestId = engine.byRequestId := by
    rw [release_byRequestId]
    apply OrderedDict.filter_eq_self.mpr
    intro requestId key found
    obtain ⟨request, held, _⟩ := engine.indexed requestId key found
    rw [held]
    rfl
  rw [tables, tables, pending, index]

theorem pending_release {drop : CommandRequest → Bool} {key : CorrelationKey}
    {request : CommandRequest} :
    (engine.release drop).pending.get? key = some request ↔
      engine.pending.get? key = some request ∧ drop request = false := by
  rw [release_pending, OrderedDict.get?_filter, Option.filter_eq_some_iff, Bool.not_eq_true']

theorem release_release (drop drop' : CommandRequest → Bool) :
    ((engine.release drop).release drop').tables =
      (engine.release fun request => drop request || drop' request).tables := by
  have pending : ((engine.release drop).release drop').pending =
      (engine.release fun request => drop request || drop' request).pending := by
    apply OrderedDict.ext_entries
    rw [release_pending, release_pending, release_pending]
    simp only [OrderedDict.filter, List.filter_filter, Bool.not_or, Bool.and_comm]
  have index : ((engine.release drop).release drop').byRequestId =
      (engine.release fun request => drop request || drop' request).byRequestId := by
    apply OrderedDict.ext_entries
    rw [release_byRequestId, release_byRequestId, release_byRequestId]
    simp only [OrderedDict.filter, List.filter_filter]
    apply List.filter_congr
    rintro ⟨requestId, key⟩ member
    obtain ⟨request, held, _⟩ :=
      engine.indexed requestId key (OrderedDict.get?_eq_some_iff.mpr member)
    cases dropped : drop request with
    | true => simp [held, dropped]
    | false =>
      -- the second release finds the request where the first one has left it
      have kept := pending_release.mpr ⟨held, dropped⟩
      simp [held, kept, dropped]
  rw [tables, tables, pending, index]

/-- The loop drops the expired registrations among the entries that it has left. -/
theorem expireLoop_tables {now : Rat} {entries : List (CorrelationKey × CommandRequest)}
    (held : ∀ entry ∈ entries, engine.pending.get? entry.1 = some entry.2)
    (distinct : (entries.map fun entry => entry.2.requestId).Nodup)
    (expired : List CommandRequest) :
    CorrelationTables.expireLoop now entries expired engine.tables =
      (.expired (expired ++ expiredIn now entries),
        (engine.release fun request => (expiredIn now entries).any fun other =>
          request.requestId = other.requestId).tables) := by
  -- on the entries that the loop has left; those before are gone from the engine
  induction entries generalizing engine expired with
  | nil =>
    rw [CorrelationTables.expireLoop, expiredIn, List.map_nil, List.filter_nil, List.append_nil]
    exact congrArg (Prod.mk _) release_none.symm
  | cons entry rest ih =>
    obtain ⟨key, request⟩ := entry
    rw [List.map_cons, List.nodup_cons] at distinct
    obtain ⟨fresh, distinct⟩ := distinct
    rw [CorrelationTables.expireLoop, expiredIn_cons]
    split
    · next late =>
      rw [delete_tables (held (key, request) List.mem_cons_self)]
      -- the entries that are left are of other requests
      have held' : ∀ entry ∈ rest,
          (engine.release fun other => other.requestId = request.requestId).pending.get? entry.1 =
            some entry.2 := by
        intro entry member
        refine pending_release.mpr ⟨held entry (List.mem_cons_of_mem _ member), ?_⟩
        rw [decide_eq_false_iff_not]
        intro same
        exact fresh (List.mem_map.mpr ⟨entry, member, same⟩)
      dsimp only
      rw [ih held' distinct, List.append_assoc, List.singleton_append, release_release]
      rfl
    · exact ih (fun entry member => held entry (List.mem_cons_of_mem _ member)) distinct expired

theorem expired_eq (now : Rat) :
    (engine.stale now).map (fun expired => expired.val) = expiredIn now engine.pending.entries := by
  rw [stale, List.map_filterMap, expiredIn, List.filter_map, ← List.filterMap_eq_map,
    List.filterMap_filter]
  apply List.filterMap_congr
  rintro ⟨key, request⟩ _
  by_cases late : request.isExpired now = true
  · simp [late]
  · simp [late]

theorem expireStale_tables (now : Rat) :
    engine.tables.call (.expireStale now) =
      ((engine.call (.expireStale now)).1, (engine.call (.expireStale now)).2.tables) := by
  have held : ∀ entry ∈ engine.pending.entries,
      engine.pending.get? entry.1 = some entry.2 :=
    fun _ member => OrderedDict.get?_eq_some_iff.mpr member
  have reply : (engine.call (.expireStale now)).1 =
      .expired (expiredIn now engine.pending.entries) :=
    congrArg CorrelationReply.expired (expired_eq now)
  refine (expireLoop_tables held engine.requestIds_nodup []).trans ?_
  rw [List.nil_append, reply]
  apply congrArg (Prod.mk _)
  apply release_congr
  rintro request ⟨key, present⟩
  rw [Bool.eq_iff_iff, List.any_eq_true]
  constructor
  · rintro ⟨other, late, same⟩
    rw [expiredIn, List.mem_filter, List.mem_map] at late
    obtain ⟨⟨⟨key', _⟩, member, rfl⟩, late⟩ := late
    have unique := key_unique (OrderedDict.get?_eq_some_iff.mpr member) present
      (of_decide_eq_true same)
    rw [unique.2]
    exact late
  · intro late
    refine ⟨request, ?_, decide_eq_true rfl⟩
    rw [expiredIn, List.mem_filter, List.mem_map]
    exact ⟨⟨(key, request), OrderedDict.get?_eq_some_iff.mp present, rfl⟩, late⟩

/-- A call that finds the tables tied together leaves them so, and misses no key. -/
theorem call_tables (event : CorrelationEvent) :
    engine.tables.call event = ((engine.call event).1, (engine.call event).2.tables) := by
  cases event with
  | register request sequence => exact register_tables request sequence
  | matchResponse opcode source sequence => exact matchResponse_tables opcode source sequence
  | cancel requestId => exact cancel_tables requestId
  | expireStale now => exact expireStale_tables now
  | clear => rfl

theorem run_tables (events : List CorrelationEvent) :
    CorrelationTables.run events = (run events).tables := by
  have along : ∀ engine : CorrelationEngine,
      events.foldl (fun t event => (t.call event).2) engine.tables =
        (events.foldl (fun engine event => (engine.call event).2) engine).tables := by
    induction events with
    | nil => exact fun _ => rfl
    | cons event events ih =>
      intro engine
      rw [List.foldl_cons, List.foldl_cons, call_tables]
      exact ih _
  exact along empty

end CorrelationEngine

/-! ### Outstanding registrations -/

/-- A call of `register` that has succeeded. They are numbered in their order. -/
structure Registration where
  number : Nat
  key : CorrelationKey
  request : CommandRequest

/-- What the engine keeps track of: the registrations that are outstanding, the oldest first,
and which call has released each of the others. -/
structure Registry where
  made : Nat := 0
  outstanding : List Registration := []
  released : List (Registration × CorrelationEvent) := []

namespace Registry

def knows (r : Registry) (requestId : RequestId) : Prop :=
  ∃ entry ∈ r.outstanding, entry.request.requestId = requestId

instance (r : Registry) (requestId : RequestId) : Decidable (r.knows requestId) :=
  inferInstanceAs (Decidable (∃ entry ∈ r.outstanding, _))

/-- The oldest registration that the response is for. -/
def oldest? (r : Registry) (opcode source sequence : Nat) : Option Registration :=
  r.outstanding.find? fun entry => entry.key.answeredBy opcode source sequence

/-- The call releases the registration. -/
def drops (r : Registry) : CorrelationEvent → Registration → Bool
  | .register _ _, _ => false
  | .matchResponse opcode source sequence, entry =>
    (r.oldest? opcode source sequence).any fun oldest => entry.number = oldest.number
  | .cancel requestId, entry => entry.request.requestId = requestId
  | .expireStale now, entry => entry.request.isExpired now
  | .clear, _ => true

def release (r : Registry) (event : CorrelationEvent) : Registry :=
  { r with
    outstanding := r.outstanding.filter fun entry => !r.drops event entry
    released := r.released ++
      (r.outstanding.filter (r.drops event)).map fun entry => (entry, event) }

def step (r : Registry) (event : CorrelationEvent) : Registry :=
  match event with
  | .register request sequence =>
    if r.knows request.requestId then r
    else { r with
      made := r.made + 1
      outstanding := r.outstanding ++
        [⟨r.made, CorrelationEngine.keyOf request sequence, request⟩] }
  | event => r.release event

/-- What the caller is told. -/
def reply (r : Registry) : CorrelationEvent → CorrelationReply
  | .register request sequence =>
    if r.knows request.requestId then
      .raised (.correlationConflictError s!"Request {request.requestId} already registered")
    else .registered (CorrelationEngine.keyOf request sequence)
  | .matchResponse opcode source sequence =>
    .matched ((r.oldest? opcode source sequence).map Registration.request)
  | .cancel requestId => .cancelled (decide (r.knows requestId))
  | .expireStale now =>
    .expired ((r.outstanding.map Registration.request).filter fun request => request.isExpired now)
  | .clear => .cleared

def run (events : List CorrelationEvent) : Registry := events.foldl step {}

/-- Every registration made is outstanding or has been released by one call. -/
structure Numbered (r : Registry) : Prop where
  once : ((r.outstanding ++ r.released.map Prod.fst).map Registration.number).Perm
    (List.range r.made)
  ordered : r.outstanding.Pairwise fun older newer => older.number < newer.number

section Numbered

variable {r : Registry}

theorem Numbered.below (numbered : r.Numbered) {entry : Registration}
    (outstanding : entry ∈ r.outstanding) : entry.number < r.made := by
  have member : entry.number ∈ (r.outstanding ++ r.released.map Prod.fst).map
      Registration.number :=
    List.mem_map_of_mem (List.mem_append_left _ outstanding)
  exact List.mem_range.mp (numbered.once.mem_iff.mp member)

theorem Numbered.release (numbered : r.Numbered) (event : CorrelationEvent) :
    (r.release event).Numbered := by
  refine ⟨?_, numbered.ordered.sublist List.filter_sublist⟩
  refine List.Perm.trans (List.Perm.map _ ?_) numbered.once
  have dropped : ((r.outstanding.filter (r.drops event)).map fun entry => (entry, event)).map
      Prod.fst = r.outstanding.filter (r.drops event) := by
    rw [List.map_map]
    exact List.map_id _
  rw [Registry.release, List.map_append, dropped, ← List.append_assoc]
  refine List.perm_append_comm.trans ?_
  rw [← List.append_assoc]
  exact (List.filter_append_perm _ _).append_right _

theorem Numbered.step (numbered : r.Numbered) (event : CorrelationEvent) :
    (r.step event).Numbered := by
  cases event with
  | register request sequence =>
    unfold Registry.step
    dsimp only
    split
    · exact numbered
    · -- the new registration has the next number, which is above all others
      constructor
      · rw [List.range_succ, List.append_assoc, List.map_append]
        refine List.Perm.trans ?_ (numbered.once.append_right [r.made])
        rw [List.map_append, List.map_append, List.append_assoc]
        exact List.perm_append_comm.append_left _
      · refine List.pairwise_append.mpr ⟨numbered.ordered, List.pairwise_singleton _ _, ?_⟩
        intro older member newer new
        rw [List.mem_singleton.mp new]
        exact numbered.below member
  | _ => exact numbered.release _

/-- The registration found is the one made first. -/
theorem Numbered.oldest_le (numbered : r.Numbered) {opcode source sequence : Nat}
    {oldest : Registration} (found : r.oldest? opcode source sequence = some oldest) :
    ∀ entry ∈ r.outstanding, entry.key.answeredBy opcode source sequence = true →
      oldest.number ≤ entry.number := by
  intro entry member answered
  obtain ⟨_, before, after, split, others⟩ := List.find?_eq_some_iff_append.mp found
  rw [split] at member
  have ordered := split ▸ numbered.ordered
  -- what is before the one found is not answered, what is behind it is younger
  rcases List.mem_append.mp member with earlier | later
  · have unanswered := others entry earlier
    rw [answered] at unanswered
    cases unanswered
  · rcases List.mem_cons.mp later with rfl | later
    · exact le_refl _
    · have rest := (List.pairwise_append.mp ordered).2.1
      exact Nat.le_of_lt (List.rel_of_pairwise_cons rest later)

end Numbered

end Registry

namespace CorrelationEngine

variable {engine : CorrelationEngine} {r : Registry}

/-- The engine holds the outstanding registrations. -/
def Represents (engine : CorrelationEngine) (r : Registry) : Prop :=
  engine.pending.entries = r.outstanding.map fun entry => (entry.key, entry.request)

theorem Represents.held (represents : engine.Represents r) {entry : Registration}
    (outstanding : entry ∈ r.outstanding) :
    engine.pending.get? entry.key = some entry.request := by
  rw [OrderedDict.get?_eq_some_iff, represents]
  exact List.mem_map_of_mem outstanding

theorem Represents.tracks_iff (represents : engine.Represents r) (requestId : RequestId) :
    engine.Tracks requestId ↔ r.knows requestId := by
  rw [CorrelationEngine.tracks_iff]
  constructor
  · rintro ⟨key, request, held, same⟩
    rw [OrderedDict.get?_eq_some_iff, represents, List.mem_map] at held
    obtain ⟨entry, outstanding, both⟩ := held
    cases both
    exact ⟨entry, outstanding, same⟩
  · rintro ⟨entry, outstanding, same⟩
    exact ⟨entry.key, entry.request, represents.held outstanding, same⟩

theorem Represents.release (represents : engine.Represents r) {drop : CommandRequest → Bool}
    {event : CorrelationEvent}
    (drops : ∀ entry ∈ r.outstanding, drop entry.request = r.drops event entry) :
    (engine.release drop).Represents (r.release event) := by
  rw [Represents, release_pending, OrderedDict.entries_filter, represents, List.filter_map]
  apply congrArg (List.map _)
  apply List.filter_congr
  intro entry outstanding
  exact congrArg (fun dropped => !dropped) (drops entry outstanding)

theorem Represents.unreleased (represents : engine.Represents r) {event : CorrelationEvent}
    (none : ∀ entry ∈ r.outstanding, r.drops event entry = false) :
    engine.Represents (r.release event) := by
  have kept : (r.release event).outstanding = r.outstanding := by
    refine List.filter_eq_self.mpr fun entry outstanding => ?_
    rw [none entry outstanding]
    rfl
  exact represents.trans (congrArg (List.map _) kept.symm)

/-- One request id, one number. -/
theorem Represents.same_iff (represents : engine.Represents r) (numbered : r.Numbered)
    {entry other : Registration} (outstanding : entry ∈ r.outstanding)
    (outstanding' : other ∈ r.outstanding) :
    entry.request.requestId = other.request.requestId ↔ entry.number = other.number := by
  have ids : (r.outstanding.map fun entry => entry.request.requestId).Nodup := by
    have distinct := engine.requestIds_nodup
    rw [represents, List.map_map] at distinct
    exact distinct
  have numbers : (r.outstanding.map Registration.number).Nodup := by
    rw [List.Nodup, List.pairwise_map]
    exact numbered.ordered.imp Nat.ne_of_lt
  constructor
  · intro same
    rw [List.inj_on_of_nodup_map ids outstanding outstanding' same]
  · intro same
    rw [List.inj_on_of_nodup_map numbers outstanding outstanding' same]

theorem Represents.register (represents : engine.Represents r) (request : CommandRequest)
    (sequence : Nat) :
    (engine.call (.register request sequence)).1 = r.reply (.register request sequence) ∧
      (engine.call (.register request sequence)).2.Represents
        (r.step (.register request sequence)) := by
  simp only [Registry.reply, Registry.step]
  by_cases known : engine.Tracks request.requestId
  · have known' := (represents.tracks_iff _).mp known
    rw [if_pos known', if_pos known', call, register_error known]
    exact ⟨rfl, represents⟩
  · have unknown := (represents.tracks_iff _).not.mp known
    have done : engine.register request sequence = .ok _ := dif_neg known
    rw [if_neg unknown, if_neg unknown, call, done]
    refine ⟨rfl, ?_⟩
    -- the key contains the id, so it is new as well
    have absent : engine.pending.get? (keyOf request sequence) = none := by
      cases held : engine.pending.get? (keyOf request sequence) with
      | none => rfl
      | some other =>
        have own := (engine.registered _ other held).1
        exact absurd (CorrelationEngine.tracks_iff.mpr ⟨_, other, held, own.symm⟩) known
    rw [Represents, List.map_append, ← represents]
    exact OrderedDict.entries_set_of_absent absent

theorem Represents.find? (represents : engine.Represents r) (opcode source sequence : Nat) :
    (engine.pending.entries.find? fun entry => entry.1.answeredBy opcode source sequence) =
      (r.oldest? opcode source sequence).map fun entry => (entry.key, entry.request) := by
  rw [represents, List.find?_map]
  rfl

theorem Represents.matchResponse (represents : engine.Represents r) (numbered : r.Numbered)
    (opcode source sequence : Nat) :
    (engine.matchResponse opcode source sequence).1 =
        (r.oldest? opcode source sequence).map Registration.request ∧
      (engine.matchResponse opcode source sequence).2.Represents
        (r.release (.matchResponse opcode source sequence)) := by
  rw [CorrelationEngine.matchResponse, represents.find?]
  cases found : r.oldest? opcode source sequence with
  | none =>
    refine ⟨rfl, represents.unreleased fun entry _ => ?_⟩
    rw [Registry.drops, found]
    rfl
  | some oldest =>
    refine ⟨rfl, represents.release fun entry outstanding => ?_⟩
    have member : oldest ∈ r.outstanding := List.mem_of_find?_eq_some found
    rw [Registry.drops, found, Option.any_some]
    exact decide_eq_decide.mpr (represents.same_iff numbered outstanding member)

theorem Represents.call (represents : engine.Represents r) (numbered : r.Numbered)
    (event : CorrelationEvent) :
    (engine.call event).1 = r.reply event ∧
      (engine.call event).2.Represents (r.step event) := by
  cases event with
  | register request sequence => exact represents.register request sequence
  | matchResponse opcode source sequence =>
    obtain ⟨matched, represents'⟩ := represents.matchResponse numbered opcode source sequence
    exact ⟨congrArg CorrelationReply.matched matched, represents'⟩
  | cancel requestId =>
    have known := represents.tracks_iff requestId
    rw [Registry.reply, CorrelationEngine.call, CorrelationEngine.cancel]
    by_cases tracked : engine.Tracks requestId
    · rw [if_pos tracked, decide_eq_true (known.mp tracked)]
      exact ⟨rfl, represents.release fun _ _ => rfl⟩
    · rw [if_neg tracked, decide_eq_false (known.not.mp tracked)]
      refine ⟨rfl, represents.unreleased fun entry outstanding => ?_⟩
      rw [Registry.drops, decide_eq_false_iff_not]
      intro same
      exact known.not.mp tracked ⟨entry, outstanding, same⟩
  | expireStale now =>
    refine ⟨?_, represents.release fun _ _ => rfl⟩
    refine congrArg CorrelationReply.expired ((expired_eq now).trans ?_)
    rw [expiredIn, represents, List.map_map]
    rfl
  | clear =>
    refine ⟨rfl, ?_⟩
    have none : (r.step .clear).outstanding = [] :=
      List.filter_eq_nil_iff.mpr fun _ _ => Bool.noConfusion
    rw [Represents, none]
    rfl

theorem run_represents (events : List CorrelationEvent) :
    (run events).Represents (Registry.run events) ∧ (Registry.run events).Numbered := by
  have along : ∀ (engine : CorrelationEngine) (r : Registry), engine.Represents r → r.Numbered →
      (events.foldl (fun engine event => (engine.call event).2) engine).Represents
        (events.foldl Registry.step r) ∧ (events.foldl Registry.step r).Numbered := by
    induction events with
    | nil => exact fun _ _ represents numbered => ⟨represents, numbered⟩
    | cons event events ih =>
      intro engine r represents numbered
      exact ih _ _ (represents.call numbered event).2 (numbered.step event)
  exact along empty {} rfl ⟨List.Perm.nil, List.Pairwise.nil⟩

end CorrelationEngine

/-- What holds of the tables after a run of calls. -/
structure KeepsCorrelation (events : List CorrelationEvent) : Prop where
  /-- From a pending key to its request id and back. -/
  inverse : ∀ requestId key, (CorrelationTables.run events).byRequestId.get? requestId = some key ↔
    key ∈ (CorrelationTables.run events).pending.keys ∧ key.requestId = requestId
  /-- What is pending is what is outstanding, under the id of its request. -/
  outstanding : (CorrelationTables.run events).pending.entries =
    (Registry.run events).outstanding.map fun entry => (entry.key, entry.request)
  own : ∀ entry ∈ (Registry.run events).outstanding,
    entry.key.requestId = entry.request.requestId
  /-- Every registration is outstanding or has been released, and only once. -/
  once : (((Registry.run events).outstanding ++ (Registry.run events).released.map Prod.fst).map
    Registration.number).Perm (List.range (Registry.run events).made)
  /-- Every call answers for the outstanding registrations; no key is missed. -/
  answers : ∀ event, ((CorrelationTables.run events).call event).1 =
    (Registry.run events).reply event
  oldest : ∀ opcode source sequence oldest,
    (Registry.run events).oldest? opcode source sequence = some oldest →
      ∀ entry ∈ (Registry.run events).outstanding,
        entry.key.answeredBy opcode source sequence = true → oldest.number ≤ entry.number
  refused : ∀ request sequence error,
    ((CorrelationTables.run events).call (.register request sequence)).1 = .raised error →
      ((CorrelationTables.run events).call (.register request sequence)).2 =
        CorrelationTables.run events

/-- After every run of calls the two tables are inverse to each other over the outstanding
registrations. -/
theorem correlation_kept (events : List CorrelationEvent) : KeepsCorrelation events := by
  obtain ⟨represents, numbered⟩ := CorrelationEngine.run_represents events
  have ran := CorrelationEngine.run_tables events
  refine ⟨?_, ?_, ?_, numbered.once, ?_, fun _ _ _ _ => numbered.oldest_le, ?_⟩
  · intro requestId key
    rw [ran, CorrelationEngine.tables_byRequestId, CorrelationEngine.tables_pending,
      ← OrderedDict.get?_isSome_iff, Option.isSome_iff_exists]
    constructor
    · intro indexed
      obtain ⟨request, held, same⟩ := (CorrelationEngine.run events).indexed requestId key indexed
      exact ⟨⟨request, held⟩, ((CorrelationEngine.run events).registered key request held).1.trans
        same⟩
    · rintro ⟨⟨request, held⟩, rfl⟩
      obtain ⟨own, indexed⟩ := (CorrelationEngine.run events).registered key request held
      rw [own]
      exact indexed
  · rw [ran]
    exact represents
  · intro entry outstanding
    exact ((CorrelationEngine.run events).registered _ _ (represents.held outstanding)).1
  · intro event
    rw [ran, CorrelationEngine.call_tables]
    exact (represents.call numbered event).1
  · intro request sequence error raised
    rw [ran, CorrelationEngine.call_tables] at raised ⊢
    by_cases known : (CorrelationEngine.run events).Tracks request.requestId
    · rw [CorrelationEngine.call, CorrelationEngine.register_error known]
    · have done : (CorrelationEngine.run events).register request sequence = .ok _ := dif_neg known
      rw [CorrelationEngine.call, done] at raised
      cases raised

end TuyaBleMesh
