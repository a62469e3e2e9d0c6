import TuyaBleMesh.Sequence.Persistence

/-!
# Which runs keep the sequence numbers fresh

A number is safe from reuse while whatever a later draw starts from is past it:
the shared counter of the process, the counter of a provisioning run, or the
counter that the next set-up of an entry restores from the files.
-/

namespace TuyaBleMesh

/-- The counter an entry's device starts from when its set-up opens a new process. -/
def Disk.restored {Entry : Type} (disk : Disk Entry) (entry : Entry) (data : EntryData) : Nat :=
  max data.initial (max (HASequenceStore.recordFloor disk.network)
    (HASequenceStore.recordFloor (disk.legacy entry)))

/-- The shared store, or a new one before it exists. -/
def Process.store {Entry Flow : Type} (p : Process Entry Flow) : HASequenceStore Entry :=
  p.sequenceStore.getD { seq := 0 }

theorem Process.store_some {Entry Flow : Type} {p : Process Entry Flow}
    {store : HASequenceStore Entry} (created : p.sequenceStore = some store) :
    p.store = store := by
  rw [Process.store, created, Option.getD_some]

namespace World

variable {Entry Flow : Type}

/-- Every number of `issued` is below `bound`. -/
def Covered (issued : List Issue) (bound : Nat) : Prop :=
  NumberRange.Below (issued.map (·.range)) bound

/-- Each entry would start past every number of `issued`. -/
def EntriesCovered (disk : Disk Entry) (issued : List Issue) : Prop :=
  ∀ entry data, disk.entries entry = some data → Covered issued (disk.restored entry data)

/-- The steps that keep the numbers fresh: wherever the memory of a counter is given up
(a crash, the end of a provisioning run), what the files restore is past the issued
numbers, and what enters the shared counter unloaded is past them too. -/
def Safe (w : World Entry Flow) : WorldEvent Entry Flow → Prop
  | .crash | .provisionFailed => EntriesCovered w.disk w.issued
  | .provisionDone entry =>
    EntriesCovered w.disk w.issued ∧ Covered w.issued (w.disk.restored entry ⟨none⟩)
  | .createEntry entry data =>
    ∀ p, w.process = some p → Covered w.issued (max p.store.seq (w.disk.restored entry data))
  | .configure _ data => ∀ p, w.process = some p → Covered w.issued (max p.store.seq data.initial)
  | _ => True

/-! ### The invariant -/

theorem Covered.mono {issued : List Issue} {a b : Nat} (covered : Covered issued a) (le : a ≤ b) :
    Covered issued b :=
  NumberRange.Below.mono covered le

theorem covered_nil (bound : Nat) : Covered [] bound := NumberRange.below_nil bound

theorem covered_snoc {issued : List Issue} {i : Issue} (covered : Covered issued i.range.start) :
    Covered (issued ++ [i]) i.range.stop := by
  simp only [Covered, List.map_append, List.map_cons, List.map_nil]
  rw [NumberRange.below_append, NumberRange.below_singleton]
  exact ⟨covered.mono (Nat.le_add_right _ _), Nat.le_refl _⟩

/-- A process that has not restored the counter yet, and in which nothing can be sent:
each entry's set-up will carry the counter past the issued numbers. -/
structure Pending (disk : Disk Entry) (issued : List Issue) (p : Process Entry Flow) : Prop where
  entries : ∀ entry data, disk.entries entry = some data →
    Covered issued (max p.store.seq (disk.restored entry data))
  network : p.store.networkLoaded = true →
    HASequenceStore.recordFloor disk.network ≤ p.store.seq
  legacy : ∀ entry ∈ p.store.loadedLegacyEntries,
    HASequenceStore.recordFloor (disk.legacy entry) ≤ p.store.seq
  configured : ∀ entry c, p.coordinators entry = some c →
    ∃ data, disk.entries entry = some data ∧ data.initial ≤ p.store.seq
  inactive : ∀ entry c, p.coordinators entry = some c → ¬ active c
  merged : ∀ entry c, p.coordinators entry = some c → c.status = .loading →
    p.store.networkLoaded = true
  flows : ∀ flow, p.flows flow = none
  writes : p.writes = []

/-- Before the shared store exists, nothing that works on it does. -/
structure Idle (p : Process Entry Flow) : Prop where
  coordinators : ∀ entry, p.coordinators entry = none
  flows : ∀ flow, p.flows flow = none
  writes : p.writes = []

structure ProcessFresh (disk : Disk Entry) (issued : List Issue) (p : Process Entry Flow) :
    Prop where
  idle : p.sequenceStore = none → Idle p
  provisioning : ∀ store, p.provisioning = some store →
    p.sequenceStore = none ∧ Covered issued store.seq
  phase : p.provisioning = none → Covered issued p.store.seq ∨ Pending disk issued p

/-- Issued no later, and below. -/
def Before (a b : Issue) : Prop := a.boot ≤ b.boot ∧ a.range.stop ≤ b.range.start

structure Fresh (w : World Entry Flow) : Prop where
  ordered : w.issued.Pairwise Before
  boots : ∀ i ∈ w.issued, i.boot ≤ w.boots
  offline : w.process = none → EntriesCovered w.disk w.issued
  online : ∀ p, w.process = some p → ProcessFresh w.disk w.issued p

theorem fresh_init (disk : Disk Entry) : Fresh (init disk : World Entry Flow) := by
  refine ⟨List.Pairwise.nil, ?_, ?_, ?_⟩
  · intro i member
    cases member
  · intro _ entry data _
    exact covered_nil _
  · intro p running
    cases running

/-! ### What the invariant says about a working process -/

section Working

variable {disk : Disk Entry} {issued : List Issue} {p : Process Entry Flow}

theorem not_idle_of_coordinator {entry : Entry} {c : Coordinator}
    (present : p.coordinators entry = some c) : ¬ Idle p := by
  intro idle
  rw [idle.coordinators entry] at present
  cases present

theorem not_idle_of_flow {flow : Flow} {status : FlowStatus}
    (present : p.flows flow = some status) : ¬ Idle p := by
  intro idle
  rw [idle.flows flow] at present
  cases present

theorem ProcessFresh.store_of (fresh : ProcessFresh disk issued p) (busy : ¬ Idle p) :
    ∃ store, p.sequenceStore = some store := by
  cases created : p.sequenceStore with
  | none => exact absurd (fresh.idle created) busy
  | some store => exact ⟨store, rfl⟩

theorem ProcessFresh.manual (fresh : ProcessFresh disk issued p)
    {store : HASequenceStore Entry} (created : p.sequenceStore = some store) :
    p.provisioning = none := by
  cases running : p.provisioning with
  | none => rfl
  | some inMemory =>
    have missing := (fresh.provisioning inMemory running).1
    rw [created] at missing
    cases missing

/-- Where an entry can send, a flow runs or a write is on its way, the shared counter is
past every number issued. -/
theorem ProcessFresh.settled (fresh : ProcessFresh disk issued p)
    {store : HASequenceStore Entry} (created : p.sequenceStore = some store)
    (working : ¬ Pending disk issued p) : Covered issued p.store.seq := by
  rcases fresh.phase (fresh.manual created) with settled | pending
  · exact settled
  · exact absurd pending working

theorem not_pending_of_active {entry : Entry} {c : Coordinator}
    (present : p.coordinators entry = some c) (sending : active c) : ¬ Pending disk issued p :=
  fun pending => pending.inactive entry c present sending

theorem not_pending_of_flow {flow : Flow} {status : FlowStatus}
    (present : p.flows flow = some status) : ¬ Pending disk issued p := by
  intro pending
  rw [pending.flows flow] at present
  cases present

/-- A process with a store needs to be fresh in its phase only. -/
theorem ProcessFresh.ofStore {store : HASequenceStore Entry}
    (created : p.sequenceStore = some store) (manual : p.provisioning = none)
    (phase : Covered issued p.store.seq ∨ Pending disk issued p) :
    ProcessFresh disk issued p := by
  refine ⟨?_, ?_, fun _ => phase⟩
  · intro missing
    rw [created] at missing
    cases missing
  · intro inMemory running
    rw [manual] at running
    cases running

theorem ProcessFresh.ofIdle (idle : Idle p) (created : p.sequenceStore = none)
    (manual : p.provisioning = none) (entries : EntriesCovered disk issued) :
    ProcessFresh disk issued p := by
  have new : p.store = { seq := 0 } := by rw [Process.store, created, Option.getD_none]
  refine ⟨fun _ => idle, ?_, fun _ => .inr ?_⟩
  · intro inMemory running
    rw [manual] at running
    cases running
  · -- nothing is loaded or configured, so only the entries matter
    refine ⟨?_, ?_, ?_, ?_, ?_, ?_, idle.flows, idle.writes⟩
    · intro entry data stored
      exact (entries entry data stored).mono (Nat.le_max_right _ _)
    · intro loaded
      rw [new] at loaded
      cases loaded
    · intro entry loaded
      rw [new] at loaded
      exact absurd loaded (Finset.notMem_empty entry)
    all_goals
      intro entry c present
      exact absurd idle (not_idle_of_coordinator present)

end Working

/-! ### One step -/

section Step

variable {w w' : World Entry Flow} {p : Process Entry Flow}

theorem Fresh.withProcess (fresh : Fresh w) (disk : Disk Entry) (p : Process Entry Flow)
    (online : ProcessFresh disk w.issued p) :
    Fresh { w with disk := disk, process := some p } := by
  refine ⟨fresh.ordered, fresh.boots, ?_, ?_⟩
  · intro stopped
    cases stopped
  · intro p' running
    cases running
    exact online

/-- Drawing from a counter that is past every number issued. -/
theorem Fresh.issue (fresh : Fresh w) (p : Process Entry Flow) (r : NumberRange)
    (past : Covered w.issued r.start)
    (online : Covered (w.issued ++ [⟨w.boots, r⟩]) r.stop →
      ProcessFresh w.disk (w.issued ++ [⟨w.boots, r⟩]) p) :
    Fresh { w with process := some p, issued := w.issued ++ [⟨w.boots, r⟩] } := by
  have covered : Covered (w.issued ++ [⟨w.boots, r⟩]) r.stop := covered_snoc past
  refine ⟨?_, ?_, ?_, ?_⟩
  · -- the new range starts past every number, and no process is later than this one
    refine List.pairwise_append.mpr ⟨fresh.ordered, List.pairwise_singleton _ _, ?_⟩
    intro i member j last
    rw [List.mem_singleton] at last
    subst last
    exact ⟨fresh.boots i member, past i.range (List.mem_map_of_mem member)⟩
  · intro i member
    rcases List.mem_append.mp member with old | new
    · exact fresh.boots i old
    · rw [List.mem_singleton.mp new]
  · intro stopped
    cases stopped
  · intro p' running
    cases running
    exact online covered

theorem Fresh.drawShared (fresh : Fresh w) (running : w.process = some p)
    {store : HASequenceStore Entry} (created : p.sequenceStore = some store)
    (settled : Covered w.issued p.store.seq) (draw : Draw) :
    Fresh (w.drawShared p store draw) := by
  have manual := (fresh.online p running).manual created
  unfold World.drawShared
  split
  · next r store' drawn =>
    obtain ⟨start, _, _, store'⟩ := draw.run_ha store store' r drawn
    subst store'
    apply fresh.issue
    · rwa [start, ← Process.store_some created]
    · intro covered
      exact .ofStore rfl manual (.inl covered)
  · exact fresh

theorem Fresh.drawProvisioning (fresh : Fresh w) (running : w.process = some p)
    {store : InMemorySeqStore} (provisioning : p.provisioning = some store) (draw : Draw) :
    Fresh (w.drawProvisioning p store draw) := by
  obtain ⟨missing, past⟩ := (fresh.online p running).provisioning store provisioning
  have idle := (fresh.online p running).idle missing
  unfold World.drawProvisioning
  split
  · next r store' drawn =>
    obtain ⟨start, _, _, counter, _⟩ := draw.run_ok store store' r drawn
    apply fresh.issue
    · rwa [start]
    · intro covered
      -- the shared store is still missing: the flow draws from its own
      refine ⟨fun _ => ⟨idle.coordinators, idle.flows, idle.writes⟩, ?_, ?_⟩
      · intro inMemory same
        cases same
        refine ⟨missing, ?_⟩
        change Covered _ (SeqStore.getSeq store')
        rwa [counter]
      · intro absent
        cases absent
  · exact fresh

end Step

/-! ### Set-up -/

section Setup

variable {disk : Disk Entry} {issued : List Issue} {p : Process Entry Flow}

theorem getHaSequenceStore_eq (p : Process Entry Flow) (data : EntryData) :
    p.getHaSequenceStore data = p.store.setSeq data.initial := by
  cases created : p.sequenceStore with
  | none => simp [Process.getHaSequenceStore, Process.store, HASequenceStore.setSeq, created]
  | some store => simp [Process.getHaSequenceStore, Process.store, created]

/-- Setting the initial sequence on the new device once more changes nothing. -/
theorem createDevice_sequenceStore (p : Process Entry Flow) (data : EntryData) :
    (p.createDevice data).sequenceStore = some (p.store.setSeq data.initial) := by
  simp [Process.createDevice, getHaSequenceStore_eq, HASequenceStore.setSeq]

variable [DecidableEq Entry]

theorem coordinators_update {entry other : Entry} {new : Option Coordinator} {c : Coordinator}
    (present : Function.update p.coordinators entry new other = some c) :
    (other = entry ∧ new = some c) ∨ p.coordinators other = some c := by
  by_cases same : other = entry
  · subst same
    rw [Function.update_self] at present
    exact .inl ⟨rfl, present⟩
  · rw [Function.update_of_ne same] at present
    exact .inr present

theorem Pending.setup (pending : Pending disk issued p) {entry : Entry} {data : EntryData}
    (stored : disk.entries entry = some data) :
    Pending disk issued ((p.createDevice data).setCoordinator entry
      (some { status := .created })) := by
  have store : ((p.createDevice data).setCoordinator entry (some { status := .created })).store =
      p.store.setSeq data.initial :=
    Process.store_some (createDevice_sequenceStore p data)
  -- the initial sequence can only raise the counter, and the records stay unmerged
  refine ⟨?_, ?_, ?_, ?_, ?_, ?_, pending.flows, pending.writes⟩
  · intro other data' stored'
    rw [store]
    apply (pending.entries other data' stored').mono
    simp only [HASequenceStore.setSeq_seq]
    omega
  · rw [store]
    intro loaded
    exact Nat.le_trans (pending.network loaded) (Nat.le_max_left _ _)
  · rw [store]
    intro other loaded
    exact Nat.le_trans (pending.legacy other loaded) (Nat.le_max_left _ _)
  · intro other c present
    rw [store]
    rcases coordinators_update present with ⟨rfl, _⟩ | before
    · exact ⟨data, stored, Nat.le_max_right _ _⟩
    · obtain ⟨data', stored', bound⟩ := pending.configured other c before
      exact ⟨data', stored', Nat.le_trans bound (Nat.le_max_left _ _)⟩
  · intro other c present
    rcases coordinators_update present with ⟨_, new⟩ | before
    · cases new
      decide
    · exact pending.inactive other c before
  · intro other c present loading
    rw [store]
    rcases coordinators_update present with ⟨_, new⟩ | before
    · cases new
      cases loading
    · exact pending.merged other c before loading

theorem loadNetwork_store (p : Process Entry Flow) (disk : Disk Entry) (entry : Entry)
    (c : Coordinator) (store : HASequenceStore Entry) :
    (p.loadNetwork disk entry c store).store =
      if store.networkLoaded then store else store.networkRead disk.network :=
  Process.store_some rfl

theorem loadLegacy_store_seq (p : Process Entry Flow) (disk : Disk Entry) (entry : Entry)
    (c : Coordinator) (store : HASequenceStore Entry) :
    (p.loadLegacy disk entry c store).store.seq =
      if entry ∈ store.loadedLegacyEntries then store.seq
      else max store.seq (HASequenceStore.recordFloor (disk.legacy entry)) := by
  simp only [Process.loadLegacy, Process.store, Option.getD_some]
  split <;> simp

theorem le_loadNetwork (p : Process Entry Flow) (disk : Disk Entry) (entry : Entry)
    (c : Coordinator) (store : HASequenceStore Entry) :
    store.seq ≤ (p.loadNetwork disk entry c store).store.seq := by
  rw [loadNetwork_store]
  split
  · exact Nat.le_refl _
  · exact store.le_mergeRecord disk.network

theorem le_loadLegacy (p : Process Entry Flow) (disk : Disk Entry) (entry : Entry)
    (c : Coordinator) (store : HASequenceStore Entry) :
    store.seq ≤ (p.loadLegacy disk entry c store).store.seq := by
  rw [loadLegacy_store_seq]
  split
  · exact Nat.le_refl _
  · exact Nat.le_max_left _ _

theorem Pending.loadNetwork (pending : Pending disk issued p) {entry : Entry} {c : Coordinator}
    (present : p.coordinators entry = some c) :
    Pending disk issued (p.loadNetwork disk entry c p.store) := by
  have grows := le_loadNetwork p disk entry c p.store
  have merged :
      HASequenceStore.recordFloor disk.network ≤ (p.loadNetwork disk entry c p.store).store.seq ∧
      (p.loadNetwork disk entry c p.store).store.networkLoaded = true ∧
      (p.loadNetwork disk entry c p.store).store.loadedLegacyEntries =
        p.store.loadedLegacyEntries := by
    -- the record is merged now, or was merged by an earlier set-up
    rw [loadNetwork_store]
    split
    · next loaded => exact ⟨pending.network loaded, loaded, rfl⟩
    · simp
  obtain ⟨floor, loaded, legacy⟩ := merged
  refine ⟨?_, ?_, ?_, ?_, ?_, ?_, pending.flows, pending.writes⟩
  · intro other data stored
    apply (pending.entries other data stored).mono
    omega
  · intro _
    exact floor
  · rw [legacy]
    intro other member
    exact Nat.le_trans (pending.legacy other member) grows
  · intro other c' present'
    have configured : ∃ c, p.coordinators other = some c := by
      rcases coordinators_update present' with ⟨rfl, _⟩ | before
      · exact ⟨c, present⟩
      · exact ⟨c', before⟩
    obtain ⟨c, before⟩ := configured
    obtain ⟨data, stored, bound⟩ := pending.configured other c before
    exact ⟨data, stored, Nat.le_trans bound grows⟩
  · intro other c' present'
    rcases coordinators_update present' with ⟨_, new⟩ | before
    · cases new
      simp [active]
    · exact pending.inactive other c' before
  · intro _ _ _ _
    exact loaded

/-- The end of `async_load`: the counter has passed the entry's initial sequence and both
its records, and so every number issued. -/
theorem Pending.loadLegacy (pending : Pending disk issued p) {entry : Entry} {c : Coordinator}
    (present : p.coordinators entry = some c) (loading : c.status = .loading) :
    Covered issued (p.loadLegacy disk entry c p.store).store.seq := by
  obtain ⟨data, stored, initial⟩ := pending.configured entry c present
  have network := pending.network (pending.merged entry c present loading)
  -- initial sequence, network record and legacy record are all below the counter
  apply (pending.entries entry data stored).mono
  rw [loadLegacy_store_seq, Disk.restored]
  split
  · next loaded =>
    have legacy := pending.legacy entry loaded
    omega
  · omega

theorem Pending.setupFailed (pending : Pending disk issued p) (entry : Entry)
    (lock : Option Entry) :
    Pending disk issued { p.setCoordinator entry none with loadLock := lock } := by
  have still : ∀ other c, Function.update p.coordinators entry none other = some c →
      p.coordinators other = some c := by
    intro other c present
    rcases coordinators_update present with ⟨_, new⟩ | before
    · cases new
    · exact before
  refine ⟨pending.entries, pending.network, pending.legacy, ?_, ?_, ?_, pending.flows,
    pending.writes⟩
  · intro other c present
    exact pending.configured other c (still other c present)
  · intro other c present
    exact pending.inactive other c (still other c present)
  · intro other c present
    exact pending.merged other c (still other c present)

end Setup

/-! ### Every step -/

section Update

variable {w : World Entry Flow} {p : Process Entry Flow}

/-- A step of a process that may send or runs a flow, and that leaves its store alone. -/
private theorem Fresh.settled_update (fresh : Fresh w) (running : w.process = some p)
    (busy : ¬ Idle p) (working : ¬ Pending w.disk w.issued p) (disk : Disk Entry)
    (p' : Process Entry Flow) (store : p'.sequenceStore = p.sequenceStore)
    (provisioning : p'.provisioning = p.provisioning) :
    Fresh { w with disk := disk, process := some p' } := by
  have online := fresh.online p running
  obtain ⟨shared, created⟩ := online.store_of busy
  have settled := online.settled created working
  apply fresh.withProcess
  apply ProcessFresh.ofStore (store.trans created) (provisioning.trans (online.manual created))
  left
  rwa [Process.store, store]

private theorem Fresh.active_update (fresh : Fresh w) (running : w.process = some p)
    {entry : Entry} {c : Coordinator} (present : p.coordinators entry = some c)
    (sending : active c) (p' : Process Entry Flow) (store : p'.sequenceStore = p.sequenceStore)
    (provisioning : p'.provisioning = p.provisioning) : Fresh (w.withProcess p') :=
  fresh.settled_update running (not_idle_of_coordinator present)
    (not_pending_of_active present sending) w.disk p' store provisioning

private theorem Fresh.flow_update (fresh : Fresh w) (running : w.process = some p) {flow : Flow}
    {status : FlowStatus} (present : p.flows flow = some status) (disk : Disk Entry)
    (p' : Process Entry Flow) (store : p'.sequenceStore = p.sequenceStore)
    (provisioning : p'.provisioning = p.provisioning) :
    Fresh { w with disk := disk, process := some p' } :=
  fresh.settled_update running (not_idle_of_flow present) (not_pending_of_flow present) disk p'
    store provisioning

private theorem Fresh.store_update (fresh : Fresh w) (p' : Process Entry Flow)
    (manual : p'.provisioning = none) {store : HASequenceStore Entry}
    (created : p'.sequenceStore = some store)
    (phase : Covered w.issued p'.store.seq ∨ Pending w.disk w.issued p') :
    Fresh (w.withProcess p') :=
  fresh.withProcess w.disk p' (.ofStore created manual phase)

private theorem Fresh.crash (fresh : Fresh w) (covered : EntriesCovered w.disk w.issued) :
    Fresh ({ w with process := none } : World Entry Flow) := by
  refine ⟨fresh.ordered, fresh.boots, fun _ => covered, ?_⟩
  intro p running
  cases running

/-- The end of a provisioning run, which leaves its store behind. -/
private theorem Fresh.provisionEnd (fresh : Fresh w) (running : w.process = some p)
    {store : InMemorySeqStore} (provisioning : p.provisioning = some store) (disk : Disk Entry)
    (entries : EntriesCovered disk w.issued) :
    Fresh { w with disk := disk, process := some { p with provisioning := none } } := by
  have online := fresh.online p running
  have missing := (online.provisioning store provisioning).1
  have idle := online.idle missing
  apply fresh.withProcess
  exact .ofIdle ⟨idle.coordinators, idle.flows, idle.writes⟩ missing rfl entries

variable [DecidableEq Entry]

theorem maybePersistSeq_frame (p : Process Entry Flow) (entry : Entry) (c : Coordinator)
    (store : HASequenceStore Entry) :
    (p.maybePersistSeq entry c store).sequenceStore = p.sequenceStore ∧
      (p.maybePersistSeq entry c store).provisioning = p.provisioning := by
  simp only [Process.maybePersistSeq]
  split <;> exact ⟨rfl, rfl⟩

/-- Changing a stored entry that has no coordinator. -/
private theorem Fresh.setEntry (fresh : Fresh w) (running : w.process = some p) (entry : Entry)
    (data : Option EntryData)
    (unused : Pending w.disk w.issued p → p.coordinators entry = none)
    (covered : ∀ d, data = some d → Covered w.issued (max p.store.seq (w.disk.restored entry d))) :
    Fresh (w.setEntry entry data) := by
  have online := fresh.online p running
  refine ⟨fresh.ordered, fresh.boots, ?_, ?_⟩
  · intro stopped
    cases running.symm.trans stopped
  · intro p' running'
    cases running.symm.trans running'
    refine ⟨online.idle, online.provisioning, fun manual => ?_⟩
    rcases online.phase manual with settled | pending
    · exact .inl settled
    · right
      refine ⟨?_, pending.network, pending.legacy, ?_, pending.inactive, pending.merged,
        pending.flows, pending.writes⟩
      · intro other d stored
        simp only [World.setEntry] at stored
        by_cases same : other = entry
        · subst same
          rw [Function.update_self] at stored
          exact covered d stored
        · rw [Function.update_of_ne same] at stored
          exact pending.entries other d stored
      · intro other c present
        have different : other ≠ entry := by
          intro same
          rw [same, unused pending] at present
          cases present
        simp only [World.setEntry, Function.update_of_ne different]
        exact pending.configured other c present

end Update

section Step

variable [DecidableEq Entry] [DecidableEq Flow] {w w' : World Entry Flow} {p : Process Entry Flow}

theorem fresh_processStep (fresh : Fresh w) (running : w.process = some p)
    (e : WorldEvent Entry Flow) (safe : Safe w e) (stepped : w.processStep p e = some w') :
    Fresh w' := by
  have online := fresh.online p running
  cases e with
  | boot => cases stepped
  | crash =>
    cases stepped
    exact fresh.crash safe
  | setupEntry entry =>
    simp only [processStep] at stepped
    split at stepped
    · next data stored absent manual =>
      cases stepped
      have created := createDevice_sequenceStore p data
      refine fresh.store_update _ manual created ?_
      -- a set-up only raises the counter: settled stays settled, and pending stays pending
      rcases online.phase manual with settled | pending
      · left
        rw [Process.store_some (p := (p.createDevice data).setCoordinator entry _) created]
        exact settled.mono (Nat.le_max_left _ _)
      · exact .inr (pending.setup stored)
    · cases stepped
  | loadNetwork entry =>
    simp only [processStep] at stepped
    split at stepped
    · next c store present created =>
      split at stepped
      · cases stepped
        obtain rfl := Process.store_some created
        have manual := online.manual created
        refine fresh.store_update _ manual rfl ?_
        rcases online.phase manual with settled | pending
        · exact .inl (settled.mono (le_loadNetwork p w.disk entry c p.store))
        · exact .inr (pending.loadNetwork present)
      · cases stepped
    · cases stepped
  | loadLegacy entry =>
    simp only [processStep] at stepped
    split at stepped
    · next c store present created =>
      split at stepped
      · next ready =>
        cases stepped
        obtain rfl := Process.store_some created
        have manual := online.manual created
        refine fresh.store_update _ manual rfl ?_
        left
        rcases online.phase manual with settled | pending
        · exact settled.mono (le_loadLegacy p w.disk entry c p.store)
        · exact pending.loadLegacy present ready.1
      · cases stepped
    · cases stepped
  | setupFailed entry =>
    simp only [processStep] at stepped
    split at stepped
    · next c present =>
      cases stepped
      obtain ⟨store, created⟩ := online.store_of (not_idle_of_coordinator present)
      have manual := online.manual created
      refine fresh.store_update _ manual created ?_
      rcases online.phase manual with settled | pending
      · exact .inl settled
      · exact .inr (pending.setupFailed entry _)
    · cases stepped
  | send entry draw =>
    simp only [processStep] at stepped
    split at stepped
    · next c store present created =>
      split at stepped
      · next sending =>
        cases stepped
        have settled := online.settled created (not_pending_of_active present sending)
        exact fresh.drawShared running created settled draw
      · cases stepped
    · cases stepped
  | notify entry =>
    simp only [processStep] at stepped
    split at stepped
    · next c store present created =>
      split at stepped
      · next sending =>
        cases stepped
        obtain ⟨same, provisioning⟩ := maybePersistSeq_frame p entry c store
        exact fresh.active_update running present sending _ same provisioning
      · cases stepped
    · cases stepped
  | save entry =>
    simp only [processStep] at stepped
    split at stepped
    · next c store present created =>
      split at stepped
      · next sending =>
        cases stepped
        exact fresh.active_update running present sending _ rfl rfl
      · cases stepped
    · cases stepped
  | commit k =>
    simp only [processStep] at stepped
    split at stepped
    · next seq written =>
      cases stepped
      -- a write is on its way, so that the process is neither idle nor pending
      refine fresh.settled_update running ?_ ?_ _ _ rfl rfl
      · intro idle
        rw [idle.writes] at written
        cases written
      · intro pending
        rw [pending.writes] at written
        cases written
    · cases stepped
  | stop entry =>
    simp only [processStep] at stepped
    split at stepped
    · next c store present created =>
      split at stepped
      · next sending =>
        cases stepped
        exact fresh.active_update running present (.inl sending) _ rfl rfl
      · cases stepped
    · cases stepped
  | stopped entry =>
    simp only [processStep] at stepped
    split at stepped
    · next c present =>
      split at stepped
      · next sending =>
        cases stepped
        exact fresh.active_update running present (.inr sending) _ rfl rfl
      · cases stepped
    · cases stepped
  | createEntry entry data =>
    simp only [processStep] at stepped
    split at stepped
    · next absent manual =>
      cases stepped
      -- a new entry has no coordinator: those of a pending process have stored entries
      apply fresh.setEntry running
      · intro pending
        cases present : p.coordinators entry with
        | none => rfl
        | some c =>
          obtain ⟨data', stored, _⟩ := pending.configured entry c present
          cases absent.symm.trans stored
      · intro d same
        cases same
        exact safe p running
    · cases stepped
  | removeEntry entry =>
    simp only [processStep] at stepped
    split at stepped
    · next absent =>
      cases stepped
      apply fresh.setEntry running entry none (fun _ => absent)
      intro d same
      cases same
    · cases stepped
  | configure flow data =>
    simp only [processStep] at stepped
    split at stepped
    · next absent manual =>
      cases stepped
      have created := createDevice_sequenceStore p data
      refine fresh.store_update _ manual created ?_
      left
      rw [Process.store_some (p := setFlow (p.createDevice data) flow _) created]
      exact safe p running
    · cases stepped
  | configureDraw flow =>
    simp only [processStep] at stepped
    split at stepped
    · next bound store present created =>
      cases stepped
      have settled := online.settled created (not_pending_of_flow present)
      exact fresh.drawShared running created settled .one
    · cases stepped
  | configureBound flow =>
    simp only [processStep] at stepped
    split at stepped
    · next bound present =>
      cases stepped
      exact fresh.flow_update running present _ _ rfl rfl
    · cases stepped
  | configureReturn flow =>
    simp only [processStep] at stepped
    split at stepped
    · next store present created =>
      cases stepped
      exact fresh.flow_update running present _ _ rfl rfl
    · cases stepped
  | configureDone flow entry =>
    simp only [processStep] at stepped
    split at stepped
    · next seq present absent =>
      cases stepped
      exact fresh.flow_update running present _ _ rfl rfl
    · cases stepped
  | configureFailed flow =>
    simp only [processStep] at stepped
    split at stepped
    · next status present =>
      cases stepped
      exact fresh.flow_update running present _ _ rfl rfl
    · cases stepped
  | provision =>
    simp only [processStep] at stepped
    split at stepped
    · next manual missing unissued =>
      cases stepped
      have idle := online.idle missing
      apply fresh.withProcess w.disk
      refine ⟨fun _ => ⟨idle.coordinators, idle.flows, idle.writes⟩, ?_, ?_⟩
      · -- nothing was issued under the new NetKey
        intro store _
        rw [unissued]
        exact ⟨missing, covered_nil _⟩
      · intro absent
        cases absent
    · cases stepped
  | provisionDraw draw =>
    simp only [processStep] at stepped
    split at stepped
    · next store provisioning =>
      cases stepped
      exact fresh.drawProvisioning running provisioning draw
    · cases stepped
  | provisionDone entry =>
    simp only [processStep] at stepped
    split at stepped
    · next store provisioning absent =>
      cases stepped
      -- the new entry restores nothing of the flow, so its records must cover the numbers
      refine fresh.provisionEnd running provisioning _ ?_
      intro other data stored
      simp only [World.setEntry] at stored
      by_cases same : other = entry
      · subst same
        rw [Function.update_self] at stored
        cases stored
        exact safe.2
      · rw [Function.update_of_ne same] at stored
        exact safe.1 other data stored
    · cases stepped
  | provisionFailed =>
    simp only [processStep] at stepped
    split at stepped
    · next store provisioning =>
      cases stepped
      exact fresh.provisionEnd running provisioning w.disk safe
    · cases stepped

theorem fresh_step (fresh : Fresh w) (e : WorldEvent Entry Flow) (safe : Safe w e)
    (stepped : w.step e = some w') : Fresh w' := by
  cases running : w.process with
  | some p =>
    simp only [step, running] at stepped
    exact fresh_processStep fresh running e safe stepped
  | none =>
    simp only [step, running] at stepped
    split at stepped
    · cases stepped
      -- a process boots with nothing but the files
      have idle : Idle ({} : Process Entry Flow) := ⟨fun _ => rfl, fun _ => rfl, rfl⟩
      refine ⟨fresh.ordered, ?_, ?_, ?_⟩
      · intro i member
        exact Nat.le_succ_of_le (fresh.boots i member)
      · intro stopped
        cases stopped
      · intro p booted
        cases booted
        exact .ofIdle idle rfl rfl (fresh.offline running)
    · cases stepped

theorem fresh_run (disk : Disk Entry) (es : List (WorldEvent Entry Flow))
    (w : World Entry Flow) (guarded : (system Entry Flow).Guarded Safe (init disk) es)
    (ran : (system Entry Flow).exec (init disk) es = some w) : Fresh w :=
  (system Entry Flow).exec_invariant Fresh
    (fun _ e _ fresh safe stepped => fresh_step fresh e safe stepped) (fresh_init disk) guarded ran

end Step

/-! ### Restarts -/

/-- The numbers issued so far, in the order of issue. -/
def numbers (w : World Entry Flow) : List Nat :=
  NumberRange.allNumbers (w.issued.map (·.range))

/-- Every number of a later process is above every number of an earlier one. -/
def FreshAcrossRestarts (w : World Entry Flow) : Prop :=
  ∀ i ∈ w.issued, ∀ j ∈ w.issued, i.boot < j.boot →
    ∀ q ∈ i.range.numbers, ∀ q' ∈ j.range.numbers, q < q'

theorem Fresh.numbers_nodup {w : World Entry Flow} (fresh : Fresh w) : w.numbers.Nodup := by
  apply NumberRange.Ascending.allNumbers_nodup
  apply List.pairwise_map.mpr
  exact fresh.ordered.imp fun before => before.2

theorem Fresh.acrossRestarts {w : World Entry Flow} (fresh : Fresh w) :
    FreshAcrossRestarts w := by
  have ordered : ∀ ⦃i⦄, i ∈ w.issued → ∀ ⦃j⦄, j ∈ w.issued → i.boot < j.boot →
      i.range.stop ≤ j.range.start := by
    apply List.Pairwise.forall_of_forall_of_flip
    · intro i _ restarted
      exact absurd restarted (Nat.lt_irrefl _)
    · exact fresh.ordered.imp fun before _ => before.2
    · -- in the order of the list no process comes after a later one
      exact fresh.ordered.imp fun before restarted => absurd restarted (Nat.not_lt.mpr before.1)
  intro i earlier j later restarted q inI q' inJ
  have apart := ordered earlier later restarted
  rw [NumberRange.mem_numbers] at inI inJ
  omega

/-! ### The entries of one network -/

/-- The events of entries that exist already: set-up, sending, notifications, saving,
stopping, crashes and restarts. -/
def ofEntry : WorldEvent Entry Flow → Bool
  | .boot | .crash | .setupEntry _ | .loadNetwork _ | .loadLegacy _ | .setupFailed _ | .send _ _
  | .notify _ | .save _ | .commit _ | .stop _ | .stopped _ => true
  | _ => false

/-- The process ends only while each entry's initial sequence and stored records, with
the margin, are past every number issued. -/
def CrashCovered (w : World Entry Flow) (e : WorldEvent Entry Flow) : Prop :=
  e = .crash → EntriesCovered w.disk w.issued

theorem safe_of_crashCovered (e : WorldEvent Entry Flow) (entryEvent : ofEntry e = true)
    (w : World Entry Flow) (covered : CrashCovered w e) : Safe w e := by
  cases e <;> first | exact covered rfl | trivial

section Results

variable [DecidableEq Entry] [DecidableEq Flow]

end Results

def emptyDisk : Disk Nat :=
  { network := none, legacy := fun _ => none, entries := fun _ => none }

/-- One network with entry 0, which has no records yet. -/
def newDisk : Disk Nat :=
  { emptyDisk with entries := Function.update emptyDisk.entries 0 (some ⟨none⟩) }

/-- Set-up of an entry up to the end of `_load_seq`. -/
def setUp (entry : Nat) : List (WorldEvent Nat Nat) :=
  [.setupEntry entry, .loadNetwork entry, .loadLegacy entry]

/-- A crash between the first command and the first save. -/
def unsavedRun : List (WorldEvent Nat Nat) :=
  .boot :: setUp 0 ++ [.send 0 .one, .crash, .boot] ++ setUp 0 ++ [.send 0 .one]

/-- Two commands and ten notifications; the save of the tenth reaches the file, and one
more command follows. -/
def savedRun : List (WorldEvent Nat Nat) :=
  .boot :: setUp 0 ++ [.send 0 .one, .send 0 (.range 3)] ++ List.replicate 10 (.notify 0) ++
    [.commit 0, .send 0 .one]

def restartedRun : List (WorldEvent Nat Nat) := .boot :: setUp 0 ++ [.send 0 .one]

private theorem crashCovered_of_ne {es : List (WorldEvent Nat Nat)} (quiet : ∀ e ∈ es, e ≠ .crash)
    (w : World Nat Nat) : (system Nat Nat).Guarded CrashCovered w es := by
  apply EventSystem.guarded_of_all
  intro e member m crash
  exact absurd crash (quiet e member)

/-- Only entry 0 of `newDisk` is stored, so it alone needs to be covered. -/
private theorem entriesCovered_newDisk {issued : List Issue} {network : Option Nat}
    (below : ∀ r ∈ issued.map (·.range), r.stop ≤ HASequenceStore.recordFloor network) :
    EntriesCovered { newDisk with network } issued := by
  intro entry data _ r member
  have bound := below r member
  simp only [Disk.restored]
  omega

private theorem savedRun_covered :
    (system Nat Nat).Guarded CrashCovered (init newDisk) (savedRun ++ .crash :: restartedRun) := by
  apply EventSystem.Guarded.append
  · exact crashCovered_of_ne (by decide) _
  · intro m reached
    cases reached
    constructor
    · intro _
      -- the file says 4, and the numbers 0 to 4 are issued
      exact entriesCovered_newDisk (by decide)
    · intro m' _
      exact crashCovered_of_ne (by decide) _

/-- `run_provision` talks to its device from an in-memory store, and the entry made of it
starts from 0 again. -/
def provisionRun : List (WorldEvent Nat Nat) :=
  [.boot, .provision, .provisionDraw .one, .provisionDone 1] ++ setUp 1 ++ [.send 1 .one]

/-- A flow that binds its two models through the shared store and hands its counter over
to the entry it creates. -/
def handoverRun : List (WorldEvent Nat Nat) :=
  [.boot, .configure 5 ⟨some 40⟩, .configureDraw 5, .configureDraw 5, .configureBound 5,
    .configureDraw 5, .configureBound 5, .configureReturn 5, .configureDone 5 1] ++ setUp 1 ++
    [.send 1 (.range 4)]

private theorem handoverRun_safe :
    (system Nat Nat).Guarded Safe (init emptyDisk) handoverRun := by
  refine ⟨trivial, fun m booted => ?_⟩
  cases booted
  refine ⟨?_, fun m' _ => ?_⟩
  · -- the flow starts before any number is issued
    intro p _
    exact covered_nil _
  · apply EventSystem.guarded_of_all
    intro e member m''
    have unguarded : ∀ e ∈ handoverRun.drop 2, ∀ w : World Nat Nat, Safe w e := by
      simp [handoverRun, setUp, Safe]
    exact unguarded e member m''

end World

end TuyaBleMesh
