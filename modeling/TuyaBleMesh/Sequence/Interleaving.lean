import TuyaBleMesh.Lib.EventSystem
import TuyaBleMesh.Sequence.Store
import Mathlib.Data.Finset.Erase
import Mathlib.Logic.Function.Basic

/-!
# Devices sharing one sequence store

Any number of `SIGMeshDevice` objects, each with its own `_seq_lock`, on one
`HASequenceStore`. A step runs one task from an await point to its next one:
waiting for a lock, for a storage read, or for a storage write.
-/

namespace TuyaBleMesh

/-- The calls the devices and their coordinators make. -/
inductive SeqCall (Device Entry : Type)
  | nextSeq (device : Device)
  | nextSeqs (device : Device) (n : Nat)
  | setSeq (seq : Nat)
  | asyncLoad (legacyEntryId : Option Entry)
  | asyncSave
  deriving DecidableEq

/-- The await point a call is suspended at. -/
inductive Suspended (Device Entry : Type)
  | seqLock (device : Device) (draw : Draw)
  | loadLock (legacyEntryId : Option Entry)
  | networkRead (legacyEntryId : Option Entry)
  | legacyRead (legacyEntryId : Entry)
  | saving
  deriving DecidableEq

/-- How a call ended. -/
inductive SeqResult
  | issued (r : NumberRange)
  | loaded (seq : Nat)
  | returned
  | raised (error : PyError)
  deriving DecidableEq

inductive SeqEvent (Device Task Entry : Type)
  /-- A task makes a call, which runs up to its first await point. -/
  | call (task : Task) (call : SeqCall Device Entry)
  /-- A task waiting for a lock gets it. -/
  | acquire (task : Task)
  /-- The storage operation a task waits for completes; a read yields `data`. -/
  | resume (task : Task) (data : Option Nat)
  /-- The awaited operation raises, or the task is cancelled where it waits. -/
  | abort (task : Task) (error : PyError)
  deriving DecidableEq

structure SharedStore (Device Task Entry : Type) where
  store : HASequenceStore Entry
  loadLock : Option Task
  seqLocks : Finset Device
  suspended : Task → Option (Suspended Device Entry)
  /-- The ended calls, in the order they ended. -/
  results : List (Task × SeqResult)

namespace SharedStore

variable {Device Task Entry : Type} [DecidableEq Device] [DecidableEq Task] [DecidableEq Entry]

def init (store : HASequenceStore Entry) : SharedStore Device Task Entry :=
  { store, loadLock := none, seqLocks := ∅, suspended := fun _ => none, results := [] }

def suspend (s : SharedStore Device Task Entry) (task : Task) (point : Suspended Device Entry) :
    SharedStore Device Task Entry :=
  { s with suspended := Function.update s.suspended task (some point) }

def finish (s : SharedStore Device Task Entry) (task : Task) (result : SeqResult) :
    SharedStore Device Task Entry :=
  { s with suspended := Function.update s.suspended task none
           results := s.results ++ [(task, result)] }

/-- The body of `_next_seq` or `_next_seqs` up to its `return` or `raise`. -/
def drawBody (s : SharedStore Device Task Entry) (task : Task) (draw : Draw) :
    SharedStore Device Task Entry :=
  match draw.run s.store with
  | .ok (r, store) => { s with store }.finish task (.issued r)
  | .error error => s.finish task (.raised error)

/-- `async with self._seq_lock`: the body has no await point, so the lock is taken and
released within one step. -/
def withSeqLock (s : SharedStore Device Task Entry) (device : Device)
    (body : SharedStore Device Task Entry → SharedStore Device Task Entry) :
    Option (SharedStore Device Task Entry) :=
  if device ∈ s.seqLocks then none
  else
    let after := body { s with seqLocks := insert device s.seqLocks }
    some { after with seqLocks := after.seqLocks.erase device }

/-- The end of `async_load`: release `_load_lock` and return the counter. -/
def finishLoad (s : SharedStore Device Task Entry) (task : Task) : SharedStore Device Task Entry :=
  { s with loadLock := none }.finish task (.loaded s.store.seq)

/-- `async_load` once the network record has been merged. -/
def continueLoad (s : SharedStore Device Task Entry) (task : Task) (legacyEntryId : Option Entry) :
    SharedStore Device Task Entry :=
  match legacyEntryId with
  | none => s.finishLoad task
  | some entry =>
    if entry ∈ s.store.loadedLegacyEntries then s.finishLoad task
    else s.suspend task (.legacyRead entry)

def step (s : SharedStore Device Task Entry) :
    SeqEvent Device Task Entry → Option (SharedStore Device Task Entry)
  | .call task call =>
    -- a task is in one call at a time
    if (s.suspended task).isSome then none
    else match call with
      | .nextSeq device => some (s.suspend task (.seqLock device .one))
      | .nextSeqs device n => some (s.suspend task (.seqLock device (.range n)))
      | .setSeq seq => some ({ s with store := s.store.setSeq seq }.finish task .returned)
      | .asyncLoad legacyEntryId => some (s.suspend task (.loadLock legacyEntryId))
      | .asyncSave => some (s.suspend task .saving)
  | .acquire task =>
    match s.suspended task with
    | some (.seqLock device draw) => s.withSeqLock device (·.drawBody task draw)
    | some (.loadLock legacyEntryId) =>
      if s.loadLock.isSome then none
      else
        -- the network record is read once, by whoever gets the lock first
        let held := { s with loadLock := some task }
        some (if s.store.networkLoaded then held.continueLoad task legacyEntryId
          else held.suspend task (.networkRead legacyEntryId))
    | _ => none
  | .resume task data =>
    match s.suspended task with
    | some (.networkRead legacyEntryId) =>
      some ({ s with store := s.store.networkRead data }.continueLoad task legacyEntryId)
    | some (.legacyRead entry) =>
      some ({ s with store := s.store.legacyRead entry data }.finishLoad task)
    | some .saving => some (s.finish task .returned)
    | _ => none
  | .abort task error =>
    match s.suspended task with
    | some (.networkRead _) | some (.legacyRead _) =>
      -- a failed read leaves `async with`, and the record stays unread
      some ({ s with loadLock := none }.finish task (.raised error))
    | some (.seqLock _ _) | some (.loadLock _) | some .saving =>
      some (s.finish task (.raised error))
    | none => none

/-- The shared store under any interleaving of its callers. -/
def system (Device Task Entry : Type) [DecidableEq Device] [DecidableEq Task]
    [DecidableEq Entry] : EventSystem (SharedStore Device Task Entry) (SeqEvent Device Task Entry) :=
  ⟨step⟩

/-- The ranges handed out, in the order they were issued. -/
def issued (s : SharedStore Device Task Entry) : List NumberRange :=
  s.results.filterMap fun (_, result) =>
    match result with
    | .issued r => some r
    | _ => none

/-- A step that hands out nothing: the counter does not go back, at most one call ends,
and a call that ends by raising leaves the store as it was. -/
def Quiet (s s' : SharedStore Device Task Entry) : Prop :=
  s.store.seq ≤ s'.store.seq ∧
    (s'.results = s.results ∨ ∃ task result, s'.results = s.results ++ [(task, result)] ∧
      (∀ r, result ≠ .issued r) ∧ ∀ error, result = .raised error → s'.store = s.store)

omit [DecidableEq Device] [DecidableEq Entry] in
private theorem quiet_finish (s mid : SharedStore Device Task Entry) (task : Task)
    (result : SeqResult) (same : mid.results = s.results) (grows : s.store.seq ≤ mid.store.seq)
    (plain : ∀ r, result ≠ .issued r)
    (frame : ∀ error, result = .raised error → mid.store = s.store) :
    Quiet s (mid.finish task result) :=
  ⟨grows, .inr ⟨task, result, by simp only [finish, same], plain, frame⟩⟩

omit [DecidableEq Device] [DecidableEq Entry] in
private theorem quiet_raise (s mid : SharedStore Device Task Entry) (task : Task)
    (error : PyError) (same : mid.results = s.results) (frame : mid.store = s.store) :
    Quiet s (mid.finish task (.raised error)) :=
  quiet_finish s mid task _ same (by rw [frame]) (by simp) (fun _ _ => frame)

omit [DecidableEq Device] in
private theorem quiet_continueLoad (s mid : SharedStore Device Task Entry) (task : Task)
    (legacyEntryId : Option Entry) (same : mid.results = s.results)
    (grows : s.store.seq ≤ mid.store.seq) : Quiet s (mid.continueLoad task legacyEntryId) := by
  have loaded : Quiet s (mid.finishLoad task) :=
    quiet_finish s { mid with loadLock := none } task _ same grows (by simp) (by simp)
  unfold continueLoad
  split
  · exact loaded
  · split
    · exact loaded
    · exact ⟨grows, .inl same⟩

/-- Everything a step can do: it hands out the range one draw takes from the store, or it
is quiet. -/
theorem step_cases (s s' : SharedStore Device Task Entry) (e : SeqEvent Device Task Entry)
    (stepped : s.step e = some s') :
    (∃ (task : Task) (draw : Draw) (r : NumberRange), draw.run s.store = .ok (r, s'.store) ∧
      s'.results = s.results ++ [(task, .issued r)]) ∨ Quiet s s' := by
  cases e with
  | call task call =>
    right
    simp only [step] at stepped
    split at stepped
    · cases stepped
    · cases call <;> simp only [Option.some.injEq] at stepped <;> subst stepped
      case setSeq seq =>
        exact quiet_finish s { s with store := s.store.setSeq seq } task _ rfl
          (Nat.le_max_left _ _) (by simp) (by simp)
      all_goals exact ⟨Nat.le_refl _, .inl rfl⟩
  | acquire task =>
    simp only [step] at stepped
    split at stepped
    · next device draw waiting =>
      -- the body has no await point: it issues a range or raises
      simp only [withSeqLock] at stepped
      split at stepped
      · cases stepped
      · simp only [Option.some.injEq, drawBody] at stepped
        split at stepped <;> subst stepped
        · next r store drawn => exact .inl ⟨task, draw, r, drawn, rfl⟩
        · exact .inr ⟨Nat.le_refl _, .inr ⟨task, _, rfl, by simp, fun _ _ => rfl⟩⟩
    · next legacyEntryId waiting =>
      right
      split at stepped
      · cases stepped
      · simp only [Option.some.injEq] at stepped
        split at stepped <;> subst stepped
        · exact quiet_continueLoad s { s with loadLock := some task } task _ rfl (Nat.le_refl _)
        · exact ⟨Nat.le_refl _, .inl rfl⟩
    · cases stepped
  | resume task data =>
    right
    simp only [step] at stepped
    split at stepped
    · next legacyEntryId waiting =>
      cases stepped
      -- a merged record never lowers the counter
      exact quiet_continueLoad s { s with store := s.store.networkRead data } task _ rfl
        (s.store.le_mergeRecord data)
    · next entry waiting =>
      cases stepped
      exact quiet_finish s { s with store := s.store.legacyRead entry data, loadLock := none }
        task _ rfl (s.store.le_mergeRecord data) (by simp) (by simp)
    · cases stepped
      exact quiet_finish s s task _ rfl (Nat.le_refl _) (by simp) (by simp)
    · cases stepped
  | abort task error =>
    right
    simp only [step] at stepped
    split at stepped
    case h_6 => cases stepped
    case h_1 | h_2 =>
      cases stepped
      exact quiet_raise s { s with loadLock := none } task error rfl rfl
    all_goals
      cases stepped
      exact quiet_raise s s task error rfl rfl

/-! ### Uniqueness of the numbers -/

/-- What every reachable state keeps: the counter stands past all ranges handed out. -/
structure Unique (s : SharedStore Device Task Entry) : Prop where
  ascending : NumberRange.Ascending s.issued
  below : NumberRange.Below s.issued s.store.seq
  bounded : ∀ r ∈ s.issued, r.stop ≤ 0x1000000

omit [DecidableEq Device] [DecidableEq Task] [DecidableEq Entry] in
private theorem issued_snoc (s s' : SharedStore Device Task Entry) (task : Task)
    (result : SeqResult) (ended : s'.results = s.results ++ [(task, result)]) :
    (∀ r, result = .issued r → s'.issued = s.issued ++ [r]) ∧
      ((∀ r, result ≠ .issued r) → s'.issued = s.issued) := by
  simp only [issued, ended, List.filterMap_append]
  cases result <;> simp

theorem unique_step (s s' : SharedStore Device Task Entry) (e : SeqEvent Device Task Entry)
    (unique : Unique s) (stepped : s.step e = some s') : Unique s' := by
  rcases step_cases s s' e stepped with ⟨task, draw, r, drawn, ended⟩ | ⟨grows, quiet⟩
  · -- the range starts where the counter stood, past all ranges before
    obtain ⟨start, _, bound, store'⟩ := draw.run_ha s.store s'.store r drawn
    have eq : s'.issued = s.issued ++ [r] := (issued_snoc s s' task _ ended).1 r rfl
    have counter : s'.store.seq = r.stop := by rw [store']
    have past : NumberRange.Below s.issued r.start := start ▸ unique.below
    refine ⟨?_, ?_, ?_⟩
    · rw [eq]
      exact unique.ascending.snoc past
    · rw [eq, counter, NumberRange.below_append, NumberRange.below_singleton]
      exact ⟨past.mono (Nat.le_add_right _ _), Nat.le_refl _⟩
    · rw [eq]
      intro r' member
      rcases List.mem_append.mp member with old | new
      · exact unique.bounded r' old
      · rw [List.mem_singleton.mp new]
        exact bound
  · -- a result that is not a range does not show among the issued ones
    have eq : s'.issued = s.issued := by
      rcases quiet with same | ⟨task, result, ended, plain, _⟩
      · simp only [issued, same]
      · exact (issued_snoc s s' task result ended).2 plain
    exact ⟨eq ▸ unique.ascending, eq ▸ unique.below.mono grows, eq ▸ unique.bounded⟩

omit [DecidableEq Device] [DecidableEq Task] [DecidableEq Entry] in
theorem unique_init (store : HASequenceStore Entry) :
    Unique (init store : SharedStore Device Task Entry) :=
  ⟨List.Pairwise.nil, NumberRange.below_nil _, by simp [issued, init]⟩

theorem raise_keeps_store (s s' : SharedStore Device Task Entry) (e : SeqEvent Device Task Entry)
    (stepped : s.step e = some s') (task : Task) (error : PyError)
    (raised : s'.results = s.results ++ [(task, .raised error)]) : s'.store = s.store := by
  rcases step_cases s s' e stepped with ⟨_, _, r, _, ended⟩ | ⟨_, same | ended⟩
  · rw [raised] at ended
    simp at ended
  · rw [raised] at same
    simp at same
  · obtain ⟨task', result, ended, _, frame⟩ := ended
    rw [raised] at ended
    simp only [List.append_cancel_left_eq, List.cons.injEq, Prod.mk.injEq, and_true] at ended
    exact frame error ended.2.symm

/-- Device 1 waits for its lock while device 2 draws a range and the load of an entry
moves the counter past the stored value. -/
def interleavedRun : List (SeqEvent Nat Nat Nat) :=
  [.call 1 (.nextSeq 1), .call 2 (.asyncLoad (some 7)), .acquire 2, .call 3 (.nextSeqs 2 2),
    .acquire 3, .resume 2 (some 40), .acquire 1, .resume 2 none]

end SharedStore

end TuyaBleMesh
