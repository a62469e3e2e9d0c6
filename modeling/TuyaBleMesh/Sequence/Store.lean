import TuyaBleMesh.Exceptions
import TuyaBleMesh.Lib.NumberRange
import Mathlib.Data.Finset.Insert

/-!
# Sequence stores and number allocation

`SeqStore` and its two implementations, and the critical sections of
`SIGMeshDevice._next_seq` and `SIGMeshDevice._next_seqs`.
-/

namespace TuyaBleMesh

/-- The `SeqStore` protocol of `sig_mesh_device.py`. -/
class SeqStore (S : Type) where
  getSeq : S → Nat
  setSeq : S → Nat → S

/-- Stores in which advancing the counter takes effect. -/
class LawfulSeqStore (S : Type) [SeqStore S] : Prop where
  getSeq_setSeq : ∀ (store : S) (seq : Nat), SeqStore.getSeq store ≤ seq →
    SeqStore.getSeq (SeqStore.setSeq store seq) = seq

/-- `InMemorySeqStore`: starts from 0 unless told otherwise. -/
structure InMemorySeqStore where
  seq : Nat := 0
  deriving DecidableEq, Repr

instance : SeqStore InMemorySeqStore where
  getSeq store := store.seq
  setSeq store seq := { store with seq := seq }

instance : LawfulSeqStore InMemorySeqStore where
  getSeq_setSeq _ _ _ := rfl

def SEQ_SAFETY_MARGIN : Nat := 100

/-- `HASequenceStore`, shared by the config entries of one network and source. -/
structure HASequenceStore (Entry : Type) where
  seq : Nat
  networkLoaded : Bool := false
  loadedLegacyEntries : Finset Entry := ∅

namespace HASequenceStore

variable {Entry : Type}

/-- `HASequenceStore.set_seq`: advance, but never decrease. -/
def setSeq (store : HASequenceStore Entry) (seq : Nat) : HASequenceStore Entry :=
  { store with seq := max store.seq seq }

@[simp] theorem setSeq_seq (store : HASequenceStore Entry) (seq : Nat) :
    (store.setSeq seq).seq = max store.seq seq := rfl

instance : SeqStore (HASequenceStore Entry) where
  getSeq store := store.seq
  setSeq := setSeq

@[simp] theorem getSeq_eq (store : HASequenceStore Entry) : SeqStore.getSeq store = store.seq := rfl

@[simp] theorem setSeq_eq (store : HASequenceStore Entry) (seq : Nat) :
    SeqStore.setSeq store seq = store.setSeq seq := rfl

instance : LawfulSeqStore (HASequenceStore Entry) where
  getSeq_setSeq _ _ below := Nat.max_eq_right below

/-- What `async_load` does with a record once its file has been read: the margin is added
to a stored value, and a missing record changes nothing. -/
def mergeRecord (store : HASequenceStore Entry) (data : Option Nat) : HASequenceStore Entry :=
  match data with
  | some seq => store.setSeq (seq + SEQ_SAFETY_MARGIN)
  | none => store

/-- `async_load` after the network record has been read. -/
def networkRead (store : HASequenceStore Entry) (data : Option Nat) : HASequenceStore Entry :=
  { store.mergeRecord data with networkLoaded := true }

/-- `async_load` after the legacy record of `entry` has been read. -/
def legacyRead [DecidableEq Entry] (store : HASequenceStore Entry) (entry : Entry)
    (data : Option Nat) : HASequenceStore Entry :=
  { store.mergeRecord data with
    loadedLegacyEntries := insert entry store.loadedLegacyEntries }

/-- Where a loaded record makes the counter continue. -/
def recordFloor : Option Nat → Nat
  | some seq => seq + SEQ_SAFETY_MARGIN
  | none => 0

@[simp] theorem mergeRecord_seq (store : HASequenceStore Entry) (data : Option Nat) :
    (store.mergeRecord data).seq = max store.seq (recordFloor data) := by
  cases data with
  | none => exact (Nat.max_eq_left (Nat.zero_le _)).symm
  | some seq => rfl

theorem le_mergeRecord (store : HASequenceStore Entry) (data : Option Nat) :
    store.seq ≤ (store.mergeRecord data).seq := by
  rw [mergeRecord_seq]
  exact Nat.le_max_left _ _

@[simp] theorem mergeRecord_loadedLegacyEntries (store : HASequenceStore Entry)
    (data : Option Nat) :
    (store.mergeRecord data).loadedLegacyEntries = store.loadedLegacyEntries := by
  cases data <;> rfl

@[simp] theorem networkRead_seq (store : HASequenceStore Entry) (data : Option Nat) :
    (store.networkRead data).seq = (store.mergeRecord data).seq := rfl

@[simp] theorem networkRead_networkLoaded (store : HASequenceStore Entry) (data : Option Nat) :
    (store.networkRead data).networkLoaded = true := rfl

@[simp] theorem networkRead_loadedLegacyEntries (store : HASequenceStore Entry)
    (data : Option Nat) :
    (store.networkRead data).loadedLegacyEntries = store.loadedLegacyEntries := by
  simp [networkRead]

@[simp] theorem legacyRead_seq [DecidableEq Entry] (store : HASequenceStore Entry) (entry : Entry)
    (data : Option Nat) : (store.legacyRead entry data).seq = (store.mergeRecord data).seq := rfl

end HASequenceStore

/-! ### Allocation -/

section Allocation

variable {S : Type} [SeqStore S]

def sequenceExhausted : PyError :=
  .sigMeshError "Sequence number exhausted — reconnect required"

/-- The critical section of `SIGMeshDevice._next_seq`. -/
def nextSeq (store : S) : Except PyError (Nat × S) :=
  let seq := SeqStore.getSeq store
  if seq > 0xFFFFFF then .error sequenceExhausted
  else .ok (seq, SeqStore.setSeq store (seq + 1))

/-- The critical section of `SIGMeshDevice._next_seqs`. -/
def nextSeqs (store : S) (n : Nat) : Except PyError (Nat × S) :=
  let seq := SeqStore.getSeq store
  -- one stricter than `_next_seq`: a range never contains 0xFFFFFF
  if seq > 0xFFFFFF ∨ seq + n > 0xFFFFFF then .error sequenceExhausted
  else .ok (seq, SeqStore.setSeq store (seq + n))

/-- One call of `_next_seq`, or of `_next_seqs` for `n` numbers. -/
inductive Draw
  | one
  | range (n : Nat)
  deriving DecidableEq, Repr

/-- How many numbers the call asks for. -/
def Draw.size : Draw → Nat
  | .one => 1
  | .range n => n

/-- The numbers a draw hands out, and the store after it. -/
def Draw.run (draw : Draw) (store : S) : Except PyError (NumberRange × S) :=
  match draw with
  | .one => (nextSeq store).map fun (seq, store') => (⟨seq, 1⟩, store')
  | .range n => (nextSeqs store n).map fun (seq, store') => (⟨seq, n⟩, store')

/-- Everything a successful draw does: it hands out the numbers the counter stood at,
all of them 24-bit, and leaves the counter right behind them. -/
theorem Draw.run_ok [LawfulSeqStore S] (draw : Draw) (store store' : S) (r : NumberRange)
    (drawn : draw.run store = .ok (r, store')) :
    r.start = SeqStore.getSeq store ∧ r.length = draw.size ∧ r.stop ≤ 0x1000000 ∧
      SeqStore.getSeq store' = r.stop ∧ store' = SeqStore.setSeq store r.stop := by
  cases draw with
  | one =>
    simp only [Draw.run, nextSeq] at drawn
    split at drawn
    · cases drawn
    · next fits =>
      cases drawn
      refine ⟨rfl, rfl, ?_, ?_, rfl⟩
      · simp only [NumberRange.stop]; omega
      · exact LawfulSeqStore.getSeq_setSeq store _ (Nat.le_succ _)
  | range n =>
    simp only [Draw.run, nextSeqs] at drawn
    split at drawn
    · cases drawn
    · next fits =>
      cases drawn
      refine ⟨rfl, rfl, ?_, ?_, rfl⟩
      · simp only [NumberRange.stop]; omega
      · exact LawfulSeqStore.getSeq_setSeq store _ (Nat.le_add_right _ _)

end Allocation

/-- Draws from the shared store touch its counter only. -/
theorem Draw.run_ha {Entry : Type} (draw : Draw) (store store' : HASequenceStore Entry)
    (r : NumberRange) (drawn : draw.run store = .ok (r, store')) :
    r.start = store.seq ∧ r.length = draw.size ∧ r.stop ≤ 0x1000000 ∧
      store' = { store with seq := r.stop } := by
  obtain ⟨start, size, bound, counter, rfl⟩ := draw.run_ok store store' r drawn
  refine ⟨start, size, bound, ?_⟩
  simp only [HASequenceStore.getSeq_eq, HASequenceStore.setSeq_eq] at counter ⊢
  rw [HASequenceStore.setSeq_seq] at counter
  simp only [HASequenceStore.setSeq, counter]

end TuyaBleMesh
