import TuyaBleMesh.Lib.EventSystem
import TuyaBleMesh.Sequence.Store
import Mathlib.Logic.Function.Basic

/-!
# One network's sequence numbers across restarts

Everything that draws, stores or restores sequence numbers under one NetKey,
IV index and source address: the config entries with their coordinators, the
config flows, the Home Assistant process that may stop at any step, and the
files that outlive it.
-/

namespace TuyaBleMesh

def _SEQ_PERSIST_INTERVAL : Nat := 10

/-- What a config entry stores for this purpose: `CONF_INITIAL_SEQUENCE`, when present. -/
structure EntryData where
  initialSequence : Option Nat
  deriving DecidableEq, Repr

/-- `int(data.get(CONF_INITIAL_SEQUENCE, 0))`. -/
def EntryData.initial (data : EntryData) : Nat := data.initialSequence.getD 0

inductive CoordinatorStatus
  /-- Built by `async_setup_entry`; `_load_seq` has not got the load lock yet. -/
  | created
  /-- In `async_load`, with the network record merged. -/
  | loading
  /-- After `_load_seq`: the callbacks are registered and the device may send. -/
  | running
  /-- In `async_stop`, after its `_save_seq` has started. -/
  | stopping
  deriving DecidableEq, Repr

structure Coordinator where
  status : CoordinatorStatus
  seqCommandCount : Nat := 0
  deriving DecidableEq, Repr

/-- A run of `configure_existing_sig_light`. -/
inductive FlowStatus
  /-- Connecting or binding; `bound` models are confirmed. -/
  | configuring (bound : Nat)
  /-- `int(device.get_seq())` has been evaluated for the entry. -/
  | returned (seq : Nat)
  deriving DecidableEq, Repr

/-- The state that a restart of Home Assistant loses. -/
structure Process (Entry Flow : Type) where
  /-- `hass.data[_DATA_SEQUENCE_STORES][network_id]`. -/
  sequenceStore : Option (HASequenceStore Entry) := none
  /-- The entry whose `async_load` holds `_load_lock`. -/
  loadLock : Option Entry := none
  /-- Values passed to `Store.async_save` that are not in the file yet. -/
  writes : List Nat := []
  coordinators : Entry → Option Coordinator := fun _ => none
  flows : Flow → Option FlowStatus := fun _ => none
  /-- The store of the device that a run of `run_provision` talks through. -/
  provisioning : Option InMemorySeqStore := none

/-- The files: the network record, the legacy records and the config entries. -/
structure Disk (Entry : Type) where
  network : Option Nat
  legacy : Entry → Option Nat
  entries : Entry → Option EntryData

/-- A range handed out, and in which process. -/
structure Issue where
  boot : Nat
  range : NumberRange
  deriving DecidableEq, Repr

structure World (Entry Flow : Type) where
  disk : Disk Entry
  process : Option (Process Entry Flow)
  boots : Nat
  issued : List Issue

inductive WorldEvent (Entry Flow : Type)
  | boot
  /-- The process ends, cleanly or not: what has not reached a file is gone. -/
  | crash
  | setupEntry (entry : Entry)
  | loadNetwork (entry : Entry)
  | loadLegacy (entry : Entry)
  /-- The set-up ends without a running entry: a failed read, or `ConfigEntryNotReady`. -/
  | setupFailed (entry : Entry)
  | send (entry : Entry) (draw : Draw)
  | notify (entry : Entry)
  | save (entry : Entry)
  /-- The write at position `k` reaches the file; the writes before it are superseded. -/
  | commit (k : Nat)
  | stop (entry : Entry)
  | stopped (entry : Entry)
  | createEntry (entry : Entry) (data : EntryData)
  | removeEntry (entry : Entry)
  | configure (flow : Flow) (data : EntryData)
  /-- `_next_seq` for a connection attempt or a model bind of the flow. -/
  | configureDraw (flow : Flow)
  | configureBound (flow : Flow)
  | configureReturn (flow : Flow)
  | configureDone (flow : Flow) (entry : Entry)
  | configureFailed (flow : Flow)
  | provision
  | provisionDraw (draw : Draw)
  | provisionDone (entry : Entry)
  | provisionFailed
  deriving DecidableEq

namespace Process

variable {Entry Flow : Type}

/-- `get_ha_sequence_store`. -/
def getHaSequenceStore (p : Process Entry Flow) (data : EntryData) : HASequenceStore Entry :=
  match p.sequenceStore with
  | none => { seq := data.initial }
  | some store => store.setSeq data.initial

/-- `get_ha_sequence_store` followed by `_create_sig_plug`, which sets the initial
sequence on the new device once more. -/
def createDevice (p : Process Entry Flow) (data : EntryData) : Process Entry Flow :=
  { p with sequenceStore := some ((p.getHaSequenceStore data).setSeq data.initial) }

/-- `_save_seq` up to its await: the value written is the one read here. -/
def saveSeq (p : Process Entry Flow) (store : HASequenceStore Entry) : Process Entry Flow :=
  { p with writes := p.writes ++ [store.seq] }

variable [DecidableEq Entry]

def setCoordinator (p : Process Entry Flow) (entry : Entry) (c : Option Coordinator) :
    Process Entry Flow :=
  { p with coordinators := Function.update p.coordinators entry c }

/-- `_maybe_persist_seq`. -/
def maybePersistSeq (p : Process Entry Flow) (entry : Entry) (c : Coordinator)
    (store : HASequenceStore Entry) : Process Entry Flow :=
  let count := c.seqCommandCount + 1
  if count ≥ _SEQ_PERSIST_INTERVAL then
    (p.setCoordinator entry (some { c with seqCommandCount := 0 })).saveSeq store
  else p.setCoordinator entry (some { c with seqCommandCount := count })

/-- `async_load` from the load lock to its legacy part. -/
def loadNetwork (p : Process Entry Flow) (disk : Disk Entry) (entry : Entry) (c : Coordinator)
    (store : HASequenceStore Entry) : Process Entry Flow :=
  { p.setCoordinator entry (some { c with status := .loading }) with
    loadLock := some entry
    sequenceStore := some (if store.networkLoaded then store else store.networkRead disk.network) }

/-- The rest of `async_load`, and `_load_seq` after it. -/
def loadLegacy (p : Process Entry Flow) (disk : Disk Entry) (entry : Entry) (c : Coordinator)
    (store : HASequenceStore Entry) : Process Entry Flow :=
  let merged := if entry ∈ store.loadedLegacyEntries then store
    else store.legacyRead entry (disk.legacy entry)
  { p.setCoordinator entry (some { c with status := .running }) with
    loadLock := none
    sequenceStore := some (merged.setSeq merged.seq) }

end Process

namespace World

variable {Entry Flow : Type} [DecidableEq Entry] [DecidableEq Flow]

/-- A world before any number has been issued. -/
def init (disk : Disk Entry) : World Entry Flow :=
  { disk, process := none, boots := 0, issued := [] }

/-- Replace the process. -/
def withProcess (w : World Entry Flow) (p : Process Entry Flow) : World Entry Flow :=
  { w with process := some p }

def setEntry (w : World Entry Flow) (entry : Entry) (data : Option EntryData) :
    World Entry Flow :=
  { w with disk := { w.disk with entries := Function.update w.disk.entries entry data } }

def setFlow (p : Process Entry Flow) (flow : Flow) (status : Option FlowStatus) :
    Process Entry Flow :=
  { p with flows := Function.update p.flows flow status }

/-- A draw on the shared store: a call that raises changes nothing. -/
def drawShared (w : World Entry Flow) (p : Process Entry Flow) (store : HASequenceStore Entry)
    (draw : Draw) : World Entry Flow :=
  match draw.run store with
  | .ok (r, store') =>
    { w with process := some { p with sequenceStore := some store' }
             issued := w.issued ++ [⟨w.boots, r⟩] }
  | .error _ => w

/-- A draw of the provisioning flow, on its own in-memory store. -/
def drawProvisioning (w : World Entry Flow) (p : Process Entry Flow) (store : InMemorySeqStore)
    (draw : Draw) : World Entry Flow :=
  match draw.run store with
  | .ok (r, store') =>
    { w with process := some { p with provisioning := some store' }
             issued := w.issued ++ [⟨w.boots, r⟩] }
  | .error _ => w

/-- An entry's coordinator between `_load_seq` and the end of `async_stop`. -/
def active (c : Coordinator) : Prop := c.status = .running ∨ c.status = .stopping

instance (c : Coordinator) : Decidable (active c) := inferInstanceAs (Decidable (_ ∨ _))

/-- What an event does while a process is running. -/
def processStep (w : World Entry Flow) (p : Process Entry Flow) :
    WorldEvent Entry Flow → Option (World Entry Flow)
  | .boot => none
  | .crash => some { w with process := none }
  | .setupEntry entry =>
    -- no entry of a network is set up while the network is being provisioned
    match w.disk.entries entry, p.coordinators entry, p.provisioning with
    | some data, none, none =>
      some (w.withProcess ((p.createDevice data).setCoordinator entry
        (some { status := .created })))
    | _, _, _ => none
  | .loadNetwork entry =>
    match p.coordinators entry, p.sequenceStore with
    | some c, some store =>
      if c.status = .created ∧ p.loadLock = none then
        some (w.withProcess (p.loadNetwork w.disk entry c store))
      else none
    | _, _ => none
  | .loadLegacy entry =>
    match p.coordinators entry, p.sequenceStore with
    | some c, some store =>
      if c.status = .loading ∧ p.loadLock = some entry then
        some (w.withProcess (p.loadLegacy w.disk entry c store))
      else none
    | _, _ => none
  | .setupFailed entry =>
    match p.coordinators entry with
    | some _ =>
      -- an exception in `async_load` leaves `async with` and so gives the lock back
      some (w.withProcess { p.setCoordinator entry none with
        loadLock := if p.loadLock = some entry then none else p.loadLock })
    | none => none
  | .send entry draw =>
    match p.coordinators entry, p.sequenceStore with
    | some c, some store => if active c then some (w.drawShared p store draw) else none
    | _, _ => none
  | .notify entry =>
    match p.coordinators entry, p.sequenceStore with
    | some c, some store =>
      if active c then some (w.withProcess (p.maybePersistSeq entry c store)) else none
    | _, _ => none
  | .save entry =>
    match p.coordinators entry, p.sequenceStore with
    | some c, some store => if active c then some (w.withProcess (p.saveSeq store)) else none
    | _, _ => none
  | .commit k =>
    match p.writes[k]? with
    | some seq =>
      some { w with disk := { w.disk with network := some seq }
                    process := some { p with writes := p.writes.drop (k + 1) } }
    | none => none
  | .stop entry =>
    match p.coordinators entry, p.sequenceStore with
    | some c, some store =>
      if c.status = .running then
        some (w.withProcess
          -- the value is read before `async_stop` awaits anything
          ((p.setCoordinator entry (some { c with status := .stopping })).saveSeq store))
      else none
    | _, _ => none
  | .stopped entry =>
    match p.coordinators entry with
    | some c =>
      if c.status = .stopping then some (w.withProcess (p.setCoordinator entry none)) else none
    | none => none
  | .createEntry entry data =>
    match w.disk.entries entry, p.provisioning with
    | none, none => some (w.setEntry entry (some data))
    | _, _ => none
  | .removeEntry entry =>
    match p.coordinators entry with
    -- an entry is unloaded before it is removed
    | none => some (w.setEntry entry none)
    | some _ => none
  | .configure flow data =>
    match p.flows flow, p.provisioning with
    | none, none =>
      some (w.withProcess (setFlow (p.createDevice data) flow (some (.configuring 0))))
    | _, _ => none
  | .configureDraw flow =>
    match p.flows flow, p.sequenceStore with
    | some (.configuring _), some store => some (w.drawShared p store .one)
    | _, _ => none
  | .configureBound flow =>
    match p.flows flow with
    | some (.configuring bound) =>
      some (w.withProcess (setFlow p flow (some (.configuring (bound + 1)))))
    | _ => none
  | .configureReturn flow =>
    match p.flows flow, p.sequenceStore with
    -- both models are bound
    | some (.configuring 2), some store =>
      some (w.withProcess (setFlow p flow (some (.returned store.seq))))
    | _, _ => none
  | .configureDone flow entry =>
    match p.flows flow, w.disk.entries entry with
    | some (.returned seq), none =>
      some ((w.setEntry entry (some ⟨some seq⟩)).withProcess (setFlow p flow none))
    | _, _ => none
  | .configureFailed flow =>
    match p.flows flow with
    | some _ => some (w.withProcess (setFlow p flow none))
    | none => none
  | .provision =>
    -- `os.urandom` has just produced the NetKey: nothing has been issued under it
    match p.provisioning, p.sequenceStore, w.issued with
    | none, none, [] => some (w.withProcess { p with provisioning := some {} })
    | _, _, _ => none
  | .provisionDraw draw =>
    match p.provisioning with
    | some store => some (w.drawProvisioning p store draw)
    | none => none
  | .provisionDone entry =>
    match p.provisioning, w.disk.entries entry with
    | some _, none =>
      -- `run_provision` puts no initial sequence into the entry data
      some ((w.setEntry entry (some ⟨none⟩)).withProcess { p with provisioning := none })
    | _, _ => none
  | .provisionFailed =>
    match p.provisioning with
    | some _ => some (w.withProcess { p with provisioning := none })
    | none => none

def step (w : World Entry Flow) (e : WorldEvent Entry Flow) : Option (World Entry Flow) :=
  match w.process with
  | some p => w.processStep p e
  | none =>
    match e with
    | .boot => some { w with process := some {}, boots := w.boots + 1 }
    | _ => none

def system (Entry Flow : Type) [DecidableEq Entry] [DecidableEq Flow] :
    EventSystem (World Entry Flow) (WorldEvent Entry Flow) :=
  ⟨step⟩

end World

end TuyaBleMesh
