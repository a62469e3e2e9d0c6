import Mathlib.Data.Finset.Lattice.Fold
import Mathlib.Data.Finset.Max
import Mathlib.Order.Lattice.Nat
import TuyaBleMesh.Sequence.Interleaving

/-!
# Restoring a shared counter

`HASequenceStore.async_load` under any interleaving of its callers: which record a
step merges, and where the counter ends when the records of a network are loaded in
any order, any number of times.
-/

namespace TuyaBleMesh

/-- A file that `async_load` reads. -/
inductive StoredRecord (Entry : Type)
  | network
  | legacy (entry : Entry)
  deriving DecidableEq

/-- The stored values. -/
structure StoredFiles (Entry : Type) where
  network : Option Nat
  legacy : Entry → Option Nat

def StoredFiles.value {Entry : Type} (files : StoredFiles Entry) :
    StoredRecord Entry → Option Nat
  | .network => files.network
  | .legacy entry => files.legacy entry

/-- What the counter is raised to when the record is merged. -/
def StoredFiles.floor {Entry : Type} (files : StoredFiles Entry) (record : StoredRecord Entry) :
    Nat :=
  HASequenceStore.recordFloor (files.value record)

/-- The record that a read at this await point is of. -/
def Suspended.reads? {Device Entry : Type} : Suspended Device Entry → Option (StoredRecord Entry)
  | .networkRead _ => some .network
  | .legacyRead entry => some (.legacy entry)
  | _ => none

/-- The entry that a call of `async_load` at this await point still has to load. -/
def Suspended.loads? {Device Entry : Type} : Suspended Device Entry → Option (Option Entry)
  | .loadLock entry => some entry
  | .networkRead entry => some entry
  | .legacyRead entry => some (some entry)
  | _ => none

def Suspended.draws {Device Entry : Type} : Suspended Device Entry → Bool
  | .seqLock _ _ => true
  | _ => false

/-- The records that `async_load` is to have loaded when it returns. -/
def recordsOf {Entry : Type} (load : Option Entry) : List (StoredRecord Entry) :=
  .network :: (load.map .legacy).toList

theorem Suspended.loads_of_reads {Device Entry : Type} {record : StoredRecord Entry}
    (point : Suspended Device Entry) (reads : point.reads? = some record) :
    ∃ load, point.loads? = some load ∧ record ∈ recordsOf load := by
  cases point with
  | networkRead load =>
    cases reads
    exact ⟨load, rfl, List.mem_cons_self⟩
  | legacyRead entry =>
    cases reads
    exact ⟨some entry, rfl, List.mem_cons_of_mem _ List.mem_cons_self⟩
  | seqLock device draw => cases reads
  | loadLock load => cases reads
  | saving => cases reads

namespace SeqEvent

variable {Device Task Entry : Type}

/-- The call of `async_load` that a task makes. -/
def asks? : SeqEvent Device Task Entry → Option (Option Entry)
  | .call _ (.asyncLoad entry) => some entry
  | _ => none

/-- The value that a task passes to `set_seq`. -/
def sets? : SeqEvent Device Task Entry → Option Nat
  | .call _ (.setSeq seq) => some seq
  | _ => none

/-- No send and no failure: the step draws no number, and no call is given up. -/
def Restores : SeqEvent Device Task Entry → Prop
  | .call _ (.nextSeq _) => False
  | .call _ (.nextSeqs _ _) => False
  | .abort _ _ => False
  | _ => True

instance decidableRestores : (event : SeqEvent Device Task Entry) → Decidable event.Restores
  | .call _ (.nextSeq _) => isFalse id
  | .call _ (.nextSeqs _ _) => isFalse id
  | .call _ (.setSeq _) => isTrue trivial
  | .call _ (.asyncLoad _) => isTrue trivial
  | .call _ .asyncSave => isTrue trivial
  | .acquire _ => isTrue trivial
  | .resume _ _ => isTrue trivial
  | .abort _ _ => isFalse id

end SeqEvent

namespace HASequenceStore

variable {Entry : Type} [DecidableEq Entry]

/-- The record has been merged. -/
def Loaded (store : HASequenceStore Entry) : StoredRecord Entry → Prop
  | .network => store.networkLoaded = true
  | .legacy entry => entry ∈ store.loadedLegacyEntries

/-- The record is merged, with what its file holds. -/
def merge (store : HASequenceStore Entry) (record : StoredRecord Entry) (data : Option Nat) :
    HASequenceStore Entry :=
  match record with
  | .network => store.networkRead data
  | .legacy entry => store.legacyRead entry data

variable (store : HASequenceStore Entry) (record other : StoredRecord Entry) (data : Option Nat)

@[simp] theorem merge_seq : (store.merge record data).seq = max store.seq (recordFloor data) := by
  cases record with
  | network => exact mergeRecord_seq store data
  | legacy entry => exact mergeRecord_seq store data

omit [DecidableEq Entry] in
theorem mergeRecord_networkLoaded :
    (store.mergeRecord data).networkLoaded = store.networkLoaded := by
  cases data with
  | none => rfl
  | some seq => rfl

@[simp] theorem loaded_merge :
    (store.merge record data).Loaded other ↔ other = record ∨ store.Loaded other := by
  cases record with
  | network =>
    cases other with
    | network => simp [merge, Loaded]
    | legacy entry => simp [merge, Loaded]
  | legacy entry =>
    cases other with
    | network => simp [merge, Loaded, legacyRead, mergeRecord_networkLoaded]
    | legacy entry' => simp [merge, Loaded, legacyRead]

end HASequenceStore

namespace SharedStore

variable {Device Task Entry : Type} [DecidableEq Device] [DecidableEq Task] [DecidableEq Entry]

/-- The record that the step merges, and what was read for it. -/
def merges? (s : SharedStore Device Task Entry) :
    SeqEvent Device Task Entry → Option (StoredRecord Entry × Option Nat)
  | .resume task data => ((s.suspended task).bind Suspended.reads?).map (·, data)
  | _ => none

/-! ### Steps -/

/-- The task reads the record under the lock, and it is the next one to be loaded. -/
structure Reading (s : SharedStore Device Task Entry) (task : Task)
    (record : StoredRecord Entry) : Prop where
  lock : s.loadLock = some task
  unread : ¬ s.store.Loaded record
  network : record ≠ .network → s.store.Loaded .network

/-- Whoever reads a record does so under the lock. -/
def Locked (s : SharedStore Device Task Entry) : Prop :=
  ∀ task old record, s.suspended task = some old → old.reads? = some record →
    s.Reading task record

/-- What a step does to the loads. -/
inductive LoadStep (s : SharedStore Device Task Entry) (event : SeqEvent Device Task Entry)
    (s' : SharedStore Device Task Entry) : Prop
  /-- A step of another call, or of `async_load` before it has the lock. -/
  | aside (task : Task) (point : Option (Suspended Device Entry))
      (suspended : s'.suspended = Function.update s.suspended task point)
      (before : (s.suspended task).bind Suspended.reads? = none)
      (after : point.bind Suspended.reads? = none)
      (left : event.Restores → (s.suspended task).bind Suspended.loads? = none)
      (asked : event.asks? = point.bind Suspended.loads?)
      (lock : s'.loadLock = s.loadLock) (loaded : s'.store.Loaded = s.store.Loaded)
      (merges : s.merges? event = none)
      (quiet : event.Restores → (s.suspended task).any Suspended.draws = false →
        s'.store.seq = max s.store.seq (event.sets?.getD 0) ∧ point.any Suspended.draws = false)
  /-- A step of `async_load` with the lock, which is given back in the last one. -/
  | load (task : Task) (load : Option Entry) (old : Suspended Device Entry)
      (point : Option (Suspended Device Entry))
      (suspended : s'.suspended = Function.update s.suspended task point)
      (waited : s.suspended task = some old) (loading : old.loads? = some load)
      (before : s.loadLock = none ∨ old.reads?.isSome)
      (after : ∀ new ∈ point, new.loads? = some load ∧
        ∃ record, new.reads? = some record ∧ s'.Reading task record)
      (free : point = none → s'.loadLock = none)
      (asked : event.asks? = none) (sets : event.sets? = none)
      (store : s'.store = (s.merges? event).elim s.store fun read =>
        s.store.merge read.1 read.2)
      (done : point = none → event.Restores → ∀ record ∈ recordsOf load, s'.store.Loaded record)

section Steps

variable {s s' : SharedStore Device Task Entry} {event : SeqEvent Device Task Entry}

omit [DecidableEq Device] [DecidableEq Entry] in
@[simp] theorem finish_suspended (task : Task) (result : SeqResult) :
    (s.finish task result).suspended = Function.update s.suspended task none := rfl

omit [DecidableEq Device] in
/-- The rest of `async_load`, once the network record has been merged. -/
theorem continueLoad_cases (s : SharedStore Device Task Entry) (task : Task)
    (load : Option Entry) (held : s.loadLock = some task) (network : s.store.Loaded .network) :
    ∃ point, (s.continueLoad task load).suspended = Function.update s.suspended task point ∧
      (s.continueLoad task load).store = s.store ∧
      (∀ new ∈ point, new.loads? = some load ∧
        ∃ record, new.reads? = some record ∧ (s.continueLoad task load).Reading task record) ∧
      (point = none → (s.continueLoad task load).loadLock = none ∧
        ∀ record ∈ recordsOf load, s.store.Loaded record) := by
  unfold continueLoad
  cases load with
  | none =>
    refine ⟨none, rfl, rfl, ?_, ?_⟩
    · intro _ absent
      cases absent
    · refine fun _ => ⟨rfl, fun record member => ?_⟩
      rw [List.mem_singleton.mp member]
      exact network
  | some entry =>
    dsimp only
    split
    · next loaded =>
      refine ⟨none, rfl, rfl, fun _ absent => (by cases absent), ?_⟩
      refine fun _ => ⟨rfl, fun record member => ?_⟩
      rcases List.mem_pair.mp member with rfl | rfl
      · exact network
      · exact loaded
    · next unread =>
      refine ⟨some (.legacyRead entry), rfl, rfl, ?_, fun absent => (by cases absent)⟩
      intro new same
      cases same
      exact ⟨rfl, .legacy entry, rfl, held, unread, fun _ => network⟩

omit [DecidableEq Device] [DecidableEq Entry] in
/-- A draw leaves the flags of the store alone. -/
theorem drawBody_frame (s : SharedStore Device Task Entry) (task : Task) (draw : Draw) :
    (s.drawBody task draw).suspended = Function.update s.suspended task none ∧
      (s.drawBody task draw).loadLock = s.loadLock ∧
      (s.drawBody task draw).store.Loaded = s.store.Loaded := by
  unfold drawBody
  split
  · next r store drawn =>
    obtain ⟨_, _, _, frame⟩ := draw.run_ha s.store store r drawn
    refine ⟨rfl, rfl, ?_⟩
    rw [frame]
    funext record
    cases record with
    | network => rfl
    | legacy entry => rfl
  · exact ⟨rfl, rfl, rfl⟩

omit [DecidableEq Entry] in
theorem loaded_setSeq (store : HASequenceStore Entry) (seq : Nat) :
    (store.setSeq seq).Loaded = store.Loaded := by
  funext record
  cases record with
  | network => rfl
  | legacy entry => rfl

theorem call_step {task : Task} {call : SeqCall Device Entry}
    (stepped : s.step (.call task call) = some s') : LoadStep s (.call task call) s' := by
  simp only [step] at stepped
  split at stepped
  · cases stepped
  · next idle =>
    -- a task that makes a call is not in another one
    rw [Bool.not_eq_true, Option.isSome_eq_false_iff, Option.isNone_iff_eq_none] at idle
    have before : (s.suspended task).bind Suspended.reads? = none := by rw [idle]; rfl
    have left : (s.suspended task).bind Suspended.loads? = none := by rw [idle]; rfl
    have same : s.store.seq = max s.store.seq 0 := (Nat.max_zero _).symm
    cases call with
    | nextSeq device =>
      cases stepped
      exact .aside task _ rfl before rfl (fun _ => left) rfl rfl rfl rfl fun drawn => drawn.elim
    | nextSeqs device n =>
      cases stepped
      exact .aside task _ rfl before rfl (fun _ => left) rfl rfl rfl rfl fun drawn => drawn.elim
    | setSeq seq =>
      cases stepped
      exact .aside task none rfl before rfl (fun _ => left) rfl rfl
        (loaded_setSeq s.store seq) rfl fun _ _ => ⟨rfl, rfl⟩
    | asyncLoad load =>
      cases stepped
      exact .aside task _ rfl before rfl (fun _ => left) rfl rfl rfl rfl fun _ _ => ⟨same, rfl⟩
    | asyncSave =>
      cases stepped
      exact .aside task _ rfl before rfl (fun _ => left) rfl rfl rfl rfl fun _ _ => ⟨same, rfl⟩

theorem acquire_step {task : Task} (stepped : s.step (.acquire task) = some s') :
    LoadStep s (.acquire task) s' := by
  simp only [step] at stepped
  split at stepped
  · next device draw waiting =>
    simp only [withSeqLock] at stepped
    split at stepped
    · cases stepped
    · -- the draw is made as soon as the lock is there
      cases stepped
      obtain ⟨suspended, lock, loaded⟩ :=
        drawBody_frame { s with seqLocks := insert device s.seqLocks } task draw
      refine .aside task none suspended ?_ rfl ?_ rfl lock loaded rfl ?_
      · rw [waiting]
        rfl
      · rw [waiting]
        exact fun _ => rfl
      · rw [waiting]
        intro _ drawing
        cases drawing
  · next load waiting =>
    split at stepped
    · cases stepped
    · next free =>
      rw [Bool.not_eq_true, Option.isSome_eq_false_iff, Option.isNone_iff_eq_none] at free
      cases stepped
      -- the network's record is read first, unless it has been
      split
      · next known =>
        obtain ⟨point, suspended, store, after, done⟩ :=
          ({ s with loadLock := some task } : SharedStore Device Task Entry).continueLoad_cases
            task load rfl known
        refine .load task load _ point suspended waiting rfl (.inl free) after
          (fun none => (done none).1) rfl rfl store ?_
        rw [store]
        exact fun none _ => (done none).2
      · next unknown =>
        refine .load task load _ (some (.networkRead load)) rfl waiting rfl (.inl free) ?_
          (fun absent => (by cases absent)) rfl rfl rfl fun absent => (by cases absent)
        intro new same
        cases same
        exact ⟨rfl, .network, rfl, rfl, unknown, fun other => absurd rfl other⟩
  · cases stepped

theorem resume_step {task : Task} {data : Option Nat} (locked : Locked s)
    (stepped : s.step (.resume task data) = some s') : LoadStep s (.resume task data) s' := by
  simp only [step] at stepped
  split at stepped
  · next load waiting =>
    -- the lock is kept until the record of the entry has been read as well
    cases stepped
    have held : s.loadLock = some task := (locked task _ .network waiting rfl).lock
    have merges : s.merges? (.resume task data) = some (.network, data) := by
      rw [merges?, waiting]
      rfl
    obtain ⟨point, suspended, store, after, done⟩ :=
      ({ s with store := s.store.networkRead data } :
        SharedStore Device Task Entry).continueLoad_cases task load held rfl
    refine .load task load _ point suspended waiting rfl (.inr rfl) after
      (fun none => (done none).1) rfl rfl ?_ ?_
    · rw [merges]
      exact store
    · rw [store]
      exact fun none _ => (done none).2
  · next entry waiting =>
    cases stepped
    have network : s.store.Loaded .network :=
      (locked task _ (.legacy entry) waiting rfl).network (by intro same; cases same)
    refine .load task (some entry) _ none rfl waiting rfl (.inr rfl)
      (fun _ absent => (by cases absent)) (fun _ => rfl) rfl rfl ?_ ?_
    · rw [merges?, waiting]
      rfl
    · intro _ _ record member
      rcases List.mem_pair.mp member with rfl | rfl
      · exact ((s.store.loaded_merge (.legacy entry) .network data).mpr (.inr network))
      · exact ((s.store.loaded_merge (.legacy entry) _ data).mpr (.inl rfl))
  · next waiting =>
    cases stepped
    refine .aside task none rfl ?_ rfl ?_ rfl rfl rfl ?_ ?_
    · rw [waiting]
      rfl
    · rw [waiting]
      exact fun _ => rfl
    · rw [merges?, waiting]
      rfl
    · exact fun _ _ => ⟨(Nat.max_zero _).symm, rfl⟩
  · cases stepped

theorem abort_step {task : Task} {error : PyError}
    (stepped : s.step (.abort task error) = some s') : LoadStep s (.abort task error) s' := by
  simp only [step] at stepped
  split at stepped
  · next load waiting =>
    -- a read that fails merges nothing and gives the lock back
    cases stepped
    exact .load task load _ none rfl waiting rfl (.inr rfl) (fun _ absent => (by cases absent))
      (fun _ => rfl) rfl rfl rfl fun _ failed => failed.elim
  · next entry waiting =>
    cases stepped
    exact .load task (some entry) _ none rfl waiting rfl (.inr rfl)
      (fun _ absent => (by cases absent)) (fun _ => rfl) rfl rfl rfl fun _ failed => failed.elim
  · next device draw waiting =>
    cases stepped
    refine .aside task none rfl ?_ rfl (fun failed => failed.elim) rfl rfl rfl rfl
      fun failed => failed.elim
    rw [waiting]
    rfl
  · next load waiting =>
    cases stepped
    refine .aside task none rfl ?_ rfl (fun failed => failed.elim) rfl rfl rfl rfl
      fun failed => failed.elim
    rw [waiting]
    rfl
  · next waiting =>
    cases stepped
    refine .aside task none rfl ?_ rfl (fun failed => failed.elim) rfl rfl rfl rfl
      fun failed => failed.elim
    rw [waiting]
    rfl
  · cases stepped

theorem load_step (locked : Locked s) (stepped : s.step event = some s') :
    LoadStep s event s' := by
  cases event with
  | call task call => exact call_step stepped
  | acquire task => exact acquire_step stepped
  | resume task data => exact resume_step locked stepped
  | abort task error => exact abort_step stepped

theorem seq_le_step (stepped : s.step event = some s') : s.store.seq ≤ s'.store.seq := by
  rcases step_cases s s' event stepped with ⟨_, draw, r, drawn, _⟩ | ⟨grows, _⟩
  · obtain ⟨start, _, _, store'⟩ := draw.run_ha s.store s'.store r drawn
    rw [store', ← start]
    exact Nat.le_add_right _ _
  · exact grows

omit [DecidableEq Device] [DecidableEq Task] [DecidableEq Entry] in
theorem reading_of_merges {read : StoredRecord Entry × Option Nat}
    (merges : read ∈ s.merges? event) :
    ∃ task old, s.suspended task = some old ∧ old.reads? = some read.1 := by
  cases event with
  | resume task data =>
    obtain ⟨record, reading, same⟩ := Option.map_eq_some_iff.mp merges
    obtain ⟨old, waiting, reads⟩ := Option.bind_eq_some_iff.mp reading
    rw [← same]
    exact ⟨task, old, waiting, reads⟩
  | call task call => cases merges
  | acquire task => cases merges
  | abort task error => cases merges

namespace LoadStep

variable (step : LoadStep s event s')
include step

omit [DecidableEq Device]

theorem locked (locked : s.Locked) : s'.Locked := by
  intro task' new record waiting reads
  cases step with
  | aside task point suspended _ after _ _ lock loaded _ _ =>
    -- the task that moves reads no record, and the others keep theirs
    rw [suspended] at waiting
    by_cases same : task' = task
    · rw [same, Function.update_self] at waiting
      rw [waiting, Option.bind_some, reads] at after
      cases after
    · rw [Function.update_of_ne same] at waiting
      have reading := locked task' new record waiting reads
      exact ⟨lock.trans reading.lock, loaded ▸ reading.unread, loaded ▸ reading.network⟩
  | load task load old point suspended waited _ before after _ _ _ _ _ =>
    rw [suspended] at waiting
    by_cases same : task' = task
    · rw [same, Function.update_self] at waiting
      obtain ⟨_, other, otherReads, reading⟩ := after new waiting
      rw [reads] at otherReads
      cases otherReads
      rw [same]
      exact reading
    · -- the lock is free, or with the task that moves
      rw [Function.update_of_ne same] at waiting
      have held := (locked task' new record waiting reads).lock
      rcases before with free | holds
      · rw [free] at held
        cases held
      · obtain ⟨mine, oldReads⟩ := Option.isSome_iff_exists.mp holds
        rw [(locked task old mine waited oldReads).lock] at held
        cases held
        exact absurd rfl same

theorem loaded (record : StoredRecord Entry) :
    s'.store.Loaded record ↔
      s.store.Loaded record ∨ ∃ read ∈ s.merges? event, read.1 = record := by
  cases step with
  | aside _ _ _ _ _ _ _ _ loaded merges _ => simp [loaded, merges]
  | load _ _ _ _ _ _ _ _ _ _ _ _ store _ =>
    rw [store]
    cases s.merges? event with
    | none => simp
    | some read => simp [or_comm, eq_comm]

theorem floor_le (read : StoredRecord Entry × Option Nat) (merges : read ∈ s.merges? event) :
    HASequenceStore.recordFloor read.2 ≤ s'.store.seq := by
  cases step with
  | aside _ _ _ _ _ _ _ _ _ unmerged _ =>
    rw [unmerged] at merges
    cases merges
  | load _ _ _ _ _ _ _ _ _ _ _ _ store _ =>
    rw [store, Option.mem_def.mp merges]
    simp

/-- Without draws the counter goes up to what it is set to or what has been read, and no
further. -/
theorem seq_le_iff (restores : event.Restores)
    (quiet : ∀ task, (s.suspended task).any Suspended.draws = false) (bound : Nat) :
    s'.store.seq ≤ bound ↔ s.store.seq ≤ bound ∧ (∀ seq ∈ event.sets?, seq ≤ bound) ∧
      ∀ read ∈ s.merges? event, HASequenceStore.recordFloor read.2 ≤ bound := by
  cases step with
  | aside task _ _ _ _ _ _ _ _ merges still =>
    rw [(still restores (quiet task)).1, merges]
    cases event.sets? with
    | none => simp
    | some seq => simp
  | load _ _ _ _ _ _ _ _ _ _ _ sets store _ =>
    rw [store, sets]
    cases s.merges? event with
    | none => simp
    | some read => simp

theorem quiet (restores : event.Restores)
    (quiet : ∀ task, (s.suspended task).any Suspended.draws = false) (task' : Task) :
    (s'.suspended task').any Suspended.draws = false := by
  cases step with
  | aside task point suspended _ _ _ _ _ _ _ still =>
    rw [suspended]
    by_cases same : task' = task
    · rw [same, Function.update_self]
      exact (still restores (quiet task)).2
    · rw [Function.update_of_ne same]
      exact quiet task'
  | load task _ _ point suspended _ _ _ after _ _ _ _ _ =>
    rw [suspended]
    by_cases same : task' = task
    · rw [same, Function.update_self]
      cases point with
      | none => rfl
      | some new =>
        obtain ⟨_, record, reads, _⟩ := after new rfl
        cases new with
        | seqLock device draw => cases reads
        | _ => rfl
    · rw [Function.update_of_ne same]
      exact quiet task'

end LoadStep

omit [DecidableEq Device] in
/-- A load that is asked for stays under way until its records are loaded. -/
theorem LoadStep.pending (step : LoadStep s event s') (restores : event.Restores)
    {load : Option Entry}
    (pending : event.asks? = some load ∨
      (∃ task, (s.suspended task).bind Suspended.loads? = some load) ∨
        ∀ record ∈ recordsOf load, s.store.Loaded record) :
    (∃ task, (s'.suspended task).bind Suspended.loads? = some load) ∨
      ∀ record ∈ recordsOf load, s'.store.Loaded record := by
  have kept : (∀ record ∈ recordsOf load, s.store.Loaded record) →
      ∀ record ∈ recordsOf load, s'.store.Loaded record :=
    fun all record member => (step.loaded record).mpr (.inl (all record member))
  cases step with
  | aside task point suspended _ _ left asked _ _ _ _ =>
    rw [suspended]
    rcases pending with asks | ⟨task', loading⟩ | all
    · refine .inl ⟨task, ?_⟩
      rw [Function.update_self, ← asked, asks]
    · refine .inl ⟨task', ?_⟩
      rw [Function.update_of_ne, loading]
      rintro rfl
      rw [left restores] at loading
      cases loading
    · exact .inr (kept all)
  | load task load' old point suspended waited loading _ after _ asked _ _ done =>
    -- the load goes on, or its records are merged in this step
    rw [suspended]
    rcases pending with asks | ⟨task', loads⟩ | all
    · rw [asked] at asks
      cases asks
    · by_cases same : task' = task
      · rw [same, waited, Option.bind_some, loading] at loads
        cases loads
        cases point with
        | none => exact .inr (done rfl restores)
        | some new =>
          refine .inl ⟨task, ?_⟩
          rw [Function.update_self]
          exact (after new rfl).1
      · refine .inl ⟨task', ?_⟩
        rw [Function.update_of_ne same, loads]
    · exact .inr (kept all)

omit [DecidableEq Device] in
/-- Only loads that were asked for are under way. -/
theorem LoadStep.wanted (step : LoadStep s event s') {task' : Task} {load : Option Entry}
    (loads : (s'.suspended task').bind Suspended.loads? = some load) :
    event.asks? = some load ∨ ∃ task, (s.suspended task).bind Suspended.loads? = some load := by
  cases step with
  | aside task point suspended _ _ _ asked _ _ _ _ =>
    rw [suspended] at loads
    by_cases same : task' = task
    · rw [same, Function.update_self] at loads
      exact .inl (asked.trans loads)
    · rw [Function.update_of_ne same] at loads
      exact .inr ⟨task', loads⟩
  | load task load' old point suspended waited loading _ after _ _ _ _ _ =>
    rw [suspended] at loads
    by_cases same : task' = task
    · rw [same, Function.update_self] at loads
      obtain ⟨new, reached, newLoads⟩ := Option.bind_eq_some_iff.mp loads
      rw [(after new reached).1] at newLoads
      refine .inr ⟨task, ?_⟩
      rw [waited, Option.bind_some, loading, newLoads]
    · rw [Function.update_of_ne same] at loads
      exact .inr ⟨task', loads⟩

end Steps

end SharedStore

/-! ### Runs -/

/-- A shared store with the records that have been merged, and what was read for each. -/
abbrev Restoration (Device Task Entry : Type) :=
  SharedStore Device Task Entry × List (StoredRecord Entry × Option Nat)

namespace Restoration

variable {Device Task Entry : Type} [DecidableEq Device] [DecidableEq Task] [DecidableEq Entry]

def system (Device Task Entry : Type) [DecidableEq Device] [DecidableEq Task]
    [DecidableEq Entry] :
    EventSystem (Restoration Device Task Entry) (SeqEvent Device Task Entry) where
  step s event := (s.1.step event).map fun s' => (s', s.2 ++ (s.1.merges? event).toList)

/-- A store that is about to be restored. -/
def init (initial : Nat) : Restoration Device Task Entry :=
  (SharedStore.init { seq := initial }, [])

/-- What every reachable state keeps. -/
structure Restored (initial : Nat) (s : Restoration Device Task Entry) : Prop where
  locked : s.1.Locked
  loaded : ∀ record, s.1.store.Loaded record ↔ ∃ read ∈ s.2, read.1 = record
  once : (s.2.map Prod.fst).Nodup
  unique : s.1.Unique
  initial : initial ≤ s.1.store.seq
  floors : ∀ read ∈ s.2, HASequenceStore.recordFloor read.2 ≤ s.1.store.seq

/-- A step without sends and failures, in which `set_seq` is given what the counter has
reached, as `_load_seq` does, or one of `others`. -/
structure Calm (others : Finset Nat) (s : Restoration Device Task Entry)
    (event : SeqEvent Device Task Entry) : Prop where
  restores : event.Restores
  sets : ∀ seq ∈ event.sets?, seq ∈ others ∨ seq ≤ s.1.store.seq

instance (others : Finset Nat) (s : Restoration Device Task Entry)
    (event : SeqEvent Device Task Entry) : Decidable (Calm others s event) :=
  decidable_of_iff
    (event.Restores ∧ ∀ seq ∈ event.sets?, seq ∈ others ∨ seq ≤ s.1.store.seq)
    ⟨fun both => ⟨both.1, both.2⟩, fun calm => ⟨calm.restores, calm.sets⟩⟩

/-- The values that the run passes to `set_seq`. -/
def settings (es : List (SeqEvent Device Task Entry)) : Finset Nat :=
  (es.filterMap SeqEvent.sets?).toFinset

/-- The records of the loads that the run calls. -/
def requested (es : List (SeqEvent Device Task Entry)) : Finset (StoredRecord Entry) :=
  ((es.filterMap SeqEvent.asks?).flatMap recordsOf).toFinset

/-- What a run of calm steps keeps besides, after the events `es`. -/
structure Accounted (initial : Nat) (others : Finset Nat)
    (es : List (SeqEvent Device Task Entry)) (s : Restoration Device Task Entry) : Prop where
  quiet : ∀ task, (s.1.suspended task).any Suspended.draws = false
  least : ∀ bound, s.1.store.seq ≤ bound ↔ initial ≤ bound ∧
    (∀ seq ∈ es.filterMap SeqEvent.sets?, seq ∈ others → seq ≤ bound) ∧
      ∀ read ∈ s.2, HASequenceStore.recordFloor read.2 ≤ bound
  pending : ∀ load ∈ es.filterMap SeqEvent.asks?,
    (∃ task, (s.1.suspended task).bind Suspended.loads? = some load) ∨
      ∀ record ∈ recordsOf load, s.1.store.Loaded record
  wanted : ∀ task load, (s.1.suspended task).bind Suspended.loads? = some load →
    load ∈ es.filterMap SeqEvent.asks?
  origin : ∀ read ∈ s.2, ∃ load ∈ es.filterMap SeqEvent.asks?, read.1 ∈ recordsOf load

variable {initial : Nat} {others : Finset Nat} {s s' : Restoration Device Task Entry}
  {event : SeqEvent Device Task Entry} {es : List (SeqEvent Device Task Entry)}

theorem step_iff : (system Device Task Entry).step s event = some s' ↔
    s.1.step event = some s'.1 ∧ s'.2 = s.2 ++ (s.1.merges? event).toList := by
  simp only [system, Option.map_eq_some_iff, Prod.ext_iff]
  constructor
  · rintro ⟨after, stepped, rfl, merged⟩
    exact ⟨stepped, merged.symm⟩
  · rintro ⟨stepped, merged⟩
    exact ⟨s'.1, stepped, rfl, merged.symm⟩

omit [DecidableEq Device] [DecidableEq Task] [DecidableEq Entry] in
theorem restored_init : Restored initial (init initial : Restoration Device Task Entry) := by
  refine ⟨?_, ?_, List.nodup_nil, SharedStore.unique_init _, Nat.le_refl _, ?_⟩
  · intro task old record waiting
    cases waiting
  · intro record
    cases record <;> simp [init, SharedStore.init, HASequenceStore.Loaded]
  · intro read member
    cases member

theorem restored_step (restored : Restored initial s)
    (stepped : (system Device Task Entry).step s event = some s') : Restored initial s' := by
  obtain ⟨stepped, merged⟩ := step_iff.mp stepped
  have step := SharedStore.load_step restored.locked stepped
  have grows := SharedStore.seq_le_step stepped
  refine ⟨step.locked restored.locked, ?_, ?_,
    SharedStore.unique_step _ _ _ restored.unique stepped, restored.initial.trans grows, ?_⟩
  · intro record
    rw [step.loaded record, restored.loaded record, merged]
    simp [or_and_right, exists_or]
  · rw [merged, List.map_append, List.nodup_append]
    refine ⟨restored.once, ?_, ?_⟩
    · cases s.1.merges? event <;> simp
    · -- a record that is read has not been merged before
      intro record old other new same
      subst same
      simp only [List.mem_map, Option.mem_toList] at old new
      obtain ⟨read, merges, same⟩ := new
      obtain ⟨task, point, waiting, reads⟩ := SharedStore.reading_of_merges merges
      apply (restored.locked task point _ waiting reads).unread
      rw [same]
      exact (restored.loaded record).mpr old
  · intro read member
    rw [merged, List.mem_append, Option.mem_toList] at member
    rcases member with old | new
    · exact (restored.floors read old).trans grows
    · exact step.floor_le read new

omit [DecidableEq Device] [DecidableEq Task] [DecidableEq Entry] in
theorem accounted_init :
    Accounted initial others [] (init initial : Restoration Device Task Entry) := by
  refine ⟨fun _ => rfl, fun bound => ?_, ?_, ?_, ?_⟩
  · simp [init, SharedStore.init]
  · intro load member
    cases member
  · intro task load loading
    cases loading
  · intro read member
    cases member

theorem accounted_step (restored : Restored initial s)
    (accounted : Accounted initial others es s) (calm : Calm others s event)
    (stepped : (system Device Task Entry).step s event = some s') :
    Accounted initial others (es ++ [event]) s' := by
  have restores := calm.restores
  obtain ⟨stepped, merged⟩ := step_iff.mp stepped
  have step := SharedStore.load_step restored.locked stepped
  have asked (load : Option Entry) : load ∈ (es ++ [event]).filterMap SeqEvent.asks? ↔
      load ∈ es.filterMap SeqEvent.asks? ∨ event.asks? = some load := by
    simp [List.filterMap_append, or_comm]
  refine ⟨step.quiet restores accounted.quiet, fun bound => ?_, fun load member => ?_,
    fun task load loads => ?_, fun read member => ?_⟩
  · -- a value that the counter has reached sets no new bound
    have sets (below : s.1.store.seq ≤ bound) : (∀ seq ∈ event.sets?, seq ≤ bound) ↔
        ∀ seq ∈ event.sets?, seq ∈ others → seq ≤ bound :=
      ⟨fun all seq set _ => all seq set,
        fun all seq set => (calm.sets seq set).elim (all seq set) (·.trans below)⟩
    rw [step.seq_le_iff restores accounted.quiet,
      and_congr_right fun below => and_congr_left' (sets below), accounted.least, merged]
    simp only [List.filterMap_append, List.mem_append, Option.mem_toList, or_imp, forall_and]
    simp [and_assoc, and_left_comm]
  · apply step.pending restores
    rcases (asked load).mp member with old | new
    · exact .inr (accounted.pending load old)
    · exact .inl new
  · rw [asked]
    rcases step.wanted loads with asks | ⟨task', loading⟩
    · exact .inr asks
    · exact .inl (accounted.wanted task' load loading)
  · rw [merged, List.mem_append, Option.mem_toList] at member
    rcases member with old | new
    · obtain ⟨load, member, inside⟩ := accounted.origin read old
      exact ⟨load, (asked load).mpr (.inl member), inside⟩
    · -- what is read was asked for by the load that reads it
      obtain ⟨task, point, waiting, reads⟩ := SharedStore.reading_of_merges new
      obtain ⟨load, loads, inside⟩ := point.loads_of_reads reads
      refine ⟨load, (asked load).mpr (.inl (accounted.wanted task load ?_)), inside⟩
      rw [waiting, Option.bind_some, loads]

omit [DecidableEq Device] [DecidableEq Task] in
theorem accounted_end (restored : Restored initial s)
    (accounted : Accounted initial others es s)
    (ended : ∀ task, s.1.suspended task = none) {files : StoredFiles Entry}
    (read : ∀ read ∈ s.2, read.2 = files.value read.1) :
    s.1.store.seq =
      max initial (max ((settings es ∩ others).sup id) ((requested es).sup files.floor)) := by
  have records (bound : Nat) : (∀ read ∈ s.2, HASequenceStore.recordFloor read.2 ≤ bound) ↔
      ∀ record ∈ requested es, files.floor record ≤ bound := by
    simp only [requested, List.mem_toFinset, List.mem_flatMap]
    constructor
    · rintro below record ⟨load, member, inside⟩
      -- no load is under way any more
      rcases accounted.pending load member with ⟨task, loading⟩ | all
      · rw [ended task] at loading
        cases loading
      · obtain ⟨merged, member, rfl⟩ := (restored.loaded record).mp (all record inside)
        rw [StoredFiles.floor, ← read merged member]
        exact below merged member
    · intro below merged member
      rw [read merged member]
      exact below merged.1 (accounted.origin merged member)
  -- both sides have the same upper bounds
  refine eq_of_forall_ge_iff fun bound => ?_
  rw [accounted.least, records]
  simp [settings, Finset.sup_le_iff]

/-- However the loads of a network's entries are ordered, repeated and interleaved with each
other and with what the devices do, the shared counter never goes back, ends at or above where it
began and above every number handed out, and past the margin of every value read; no record is
merged twice. Without sends and failures it ends at the largest of where it began, what others set
it to and the floors of the requested records. -/
theorem restore_order_independent (es : List (SeqEvent Device Task Entry))
    (s : Restoration Device Task Entry)
    (ran : (system Device Task Entry).exec (init initial) es = some s) :
    (∀ m e m', (system Device Task Entry).StepOf (init initial) es m e m' →
      m.1.store.seq ≤ m'.1.store.seq) ∧
    initial ≤ s.1.store.seq ∧
    (∀ read ∈ s.2, HASequenceStore.recordFloor read.2 ≤ s.1.store.seq) ∧
    NumberRange.Below s.1.issued s.1.store.seq ∧
    (∀ record, s.1.store.Loaded record ↔ ∃ read ∈ s.2, read.1 = record) ∧
    (s.2.map Prod.fst).Nodup ∧
    ∀ (files : StoredFiles Entry) (others : Finset Nat),
      (∀ read ∈ s.2, read.2 = files.value read.1) →
      (system Device Task Entry).Guarded (Calm others) (init initial) es →
      (∀ task, s.1.suspended task = none) →
      s.1.store.seq =
        max initial (max ((settings es ∩ others).sup id) ((requested es).sup files.floor)) := by
  have restored : Restored initial s :=
    (system Device Task Entry).exec_invariant_of_step (Restored initial)
      (fun m e m' inv stepped => restored_step inv stepped) restored_init ran
  refine ⟨?_, restored.initial, restored.floors, restored.unique.below, restored.loaded,
    restored.once, ?_⟩
  · rintro m e m' ⟨_, _, _, _, stepped⟩
    exact SharedStore.seq_le_step (step_iff.mp stepped).1
  · intro files others read calm ended
    have accounted : Restored initial s ∧ Accounted initial others es s := by
      refine (system Device Task Entry).exec_history
        (fun past s => Restored initial s ∧ Accounted initial others past s) ?_
        ⟨restored_init, accounted_init⟩ calm ran
      intro past m e m' inv calm stepped
      exact ⟨restored_step inv.1 stepped, accounted_step inv.1 inv.2 calm stepped⟩
    exact accounted_end restored accounted.2 ended read

/-- One task waits for the lock while another one reads the network's record and that of
entry 8, loads them again and passes what it gets on to its device. -/
def interleavedLoads : List (SeqEvent Nat Bool Nat) :=
  [.call true (.asyncLoad (some 8)), .acquire true, .call false (.asyncLoad (some 7)),
    .resume true (some 40), .resume true (some 900), .call true (.asyncLoad (some 8)),
    .acquire false, .resume false none, .acquire true, .call true (.setSeq 1000)]

def storedFiles : StoredFiles Nat := ⟨some 40, fun entry => if entry = 8 then some 900 else none⟩

theorem interleavedLoads_restored :
    ∃ s, (system Nat Bool Nat).exec (init 5) interleavedLoads = some s ∧
      s.2 = [(.network, some 40), (.legacy 8, some 900), (.legacy 7, none)] ∧
      s.1.store.seq = 900 + SEQ_SAFETY_MARGIN := by
  have ends : ∃ s, (system Nat Bool Nat).exec (init 5) interleavedLoads = some s ∧
      s.2 = [(.network, some 40), (.legacy 8, some 900), (.legacy 7, none)] ∧
      ∀ task, s.1.suspended task = none := ⟨_, rfl, rfl, by decide⟩
  obtain ⟨s, ran, merged, ended⟩ := ends
  obtain ⟨_, _, _, _, _, _, counter⟩ := restore_order_independent interleavedLoads s ran
  refine ⟨s, ran, merged, (counter storedFiles ∅ ?_ (by decide) ended).trans ?_⟩
  · rw [merged]
    simp [storedFiles, StoredFiles.value]
  · have records : requested interleavedLoads = {.network, .legacy 8, .legacy 7} := by decide
    rw [records, Finset.inter_empty]
    simp [storedFiles, StoredFiles.floor, StoredFiles.value, HASequenceStore.recordFloor,
      SEQ_SAFETY_MARGIN]

end Restoration

end TuyaBleMesh
