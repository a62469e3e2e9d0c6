import Mathlib.Algebra.Order.Ring.Rat
import Mathlib.Data.Finset.Option
import Mathlib.Logic.Function.Basic
import Mathlib.Tactic.Linarith
import TuyaBleMesh.Connection.ErrorClass
import TuyaBleMesh.Lib.BoundedLog
import TuyaBleMesh.Lib.EventSystem
import TuyaBleMesh.Transport.Metrics

/-!
# Repair issues

The part of `connection_manager.py` that tells the user about a connection that fails:
the repair issues of `repairs.py`, at most one of a kind between two recoveries, and the
detection of reconnect storms. The issues are created by background tasks, and the
registry that they are created in outlives the managers.
-/

namespace TuyaBleMesh

def STORM_WINDOW_SECONDS : Nat := 300

def STORM_DEFAULT_THRESHOLD : Nat := 10

/-- The issues that a connection manager creates, and deletes on recovery. -/
inductive RepairIssue
  | bridgeUnreachable
  | authOrMeshMismatch
  | deviceNotFound
  | timeout
  | reconnectStorm
  deriving DecidableEq

inductive IssueSeverity
  | error
  | warning
  deriving DecidableEq

/-- What `ir.async_create_issue` stores under an issue id. -/
structure IssueRecord where
  isFixable : Bool
  severity : IssueSeverity
  translationKey : String
  translationPlaceholders : List (String × String)
  deriving DecidableEq

namespace RepairIssue

/-- `ISSUE_BRIDGE_UNREACHABLE` and the others. -/
def baseId : RepairIssue → String
  | .bridgeUnreachable => "bridge_unreachable"
  | .authOrMeshMismatch => "auth_or_mesh_mismatch"
  | .deviceNotFound => "device_not_found"
  | .timeout => "timeout"
  | .reconnectStorm => "reconnect_storm"

/-- The id under which the issue of an entry is created and deleted. -/
def fullId (issue : RepairIssue) (entryId : String) : String :=
  if entryId = "" then issue.baseId else issue.baseId ++ "_" ++ entryId

def isFixable : RepairIssue → Bool
  | .bridgeUnreachable => true
  | .authOrMeshMismatch => true
  | _ => false

def severity : RepairIssue → IssueSeverity
  | .authOrMeshMismatch => .error
  | _ => .warning

def translationKey : RepairIssue → String
  | .bridgeUnreachable => "bridge_unreachable"
  | .authOrMeshMismatch => "auth_failed"
  | .deviceNotFound => "device_not_found"
  | .timeout => "connection_timeout"
  | .reconnectStorm => "reconnect_storm"

end RepairIssue

/-- `_CLASS_TO_ISSUE`. -/
def ErrorClass.issue : ErrorClass → Option RepairIssue
  | .bridgeDown => some .bridgeUnreachable
  | .meshAuth => some .authOrMeshMismatch
  | .deviceOffline => some .deviceNotFound
  | .transient => some .timeout
  | _ => none

/-! ### The manager -/

/-- What an issue says of its device. -/
structure DeviceIdentity where
  entryName : String
  address : String
  host : String
  port : Nat
  deriving DecidableEq

def DeviceIdentity.name (identity : DeviceIdentity) : String :=
  if identity.entryName = "" then identity.address else identity.entryName

/-- The fields of `ConnectionManager` that the issues are about. -/
structure RepairManager where
  identity : DeviceIdentity
  stormThreshold : Nat := STORM_DEFAULT_THRESHOLD
  /-- `_raised_repair_issues`. -/
  raised : Finset RepairIssue := ∅
  reconnectTimes : List Rat := []
  stormDetected : Bool := false
  /-- `_background_tasks`: what the tasks that have not run yet create. -/
  background : List (RepairIssue × IssueRecord) := []

namespace RepairManager

variable (m : RepairManager)

/-- The record that the function for the issue creates. -/
def record (issue : RepairIssue) (count : Nat) : IssueRecord where
  isFixable := issue.isFixable
  severity := issue.severity
  translationKey := issue.translationKey
  translationPlaceholders :=
    match issue with
    | .bridgeUnreachable => [("host", m.identity.host), ("port", toString m.identity.port)]
    | .reconnectStorm => [("device", m.identity.name), ("count", toString count)]
    | _ => [("device", m.identity.name)]

/-- `asyncio.create_task` for the creation of an issue. -/
def createTask (issue : RepairIssue) : RepairManager :=
  { m with background := m.background ++ [(issue, m.record issue m.reconnectTimes.length)] }

/-- `_maybe_create_repair_issue`. -/
def maybeCreateRepairIssue (errorClass : ErrorClass) : RepairManager :=
  match errorClass.issue with
  | none => m
  | some issue =>
    if issue ∈ m.raised then m
    else { m with raised := insert issue m.raised }.createTask issue

/-- `_check_reconnect_storm`: what is left of the times, and whether they make a storm. -/
def checkReconnectStorm (now : Rat) : RepairManager × Bool :=
  let cutoff := now - STORM_WINDOW_SECONDS
  let m := { m with reconnectTimes := m.reconnectTimes.dropWhile fun t => decide (t < cutoff) }
  (m, m.stormThreshold ≤ m.reconnectTimes.length)

/-- `_reconnect_loop`, behind a connect call that has raised: `time` is that of the attempt, `now`
that of the check. -/
def failed (errorClass : ErrorClass) (time now : Rat) : RepairManager :=
  let m := { m with reconnectTimes := appendBounded 50 m.reconnectTimes time }
  if errorClass = .permanent then m
  else
    let (m, storm) := (m.maybeCreateRepairIssue errorClass).checkReconnectStorm now
    if storm && !m.stormDetected then { m with stormDetected := true }.createTask .reconnectStorm
    else m

/-- `_reconnect_loop`, behind a connect call that has returned. -/
def reconnected (time : Rat) : RepairManager :=
  { m with
    reconnectTimes := appendBounded 50 m.reconnectTimes time
    stormDetected := false
    raised := ∅ }

end RepairManager

/-! ### The registry and the managers of all entries -/

structure IssueWorld where
  /-- The issues of the integration. -/
  registry : String → Option IssueRecord := fun _ => none
  /-- The connection managers by their entry ids. -/
  managers : String → Option RepairManager := fun _ => none
  /-- The latest reading of the clock. -/
  clock : Rat := 0

inductive IssueEvent
  /-- An entry is set up, with a new manager. -/
  | setup (entryId : String) (identity : DeviceIdentity) (stormThreshold : Nat)
  | failed (entryId : String) (errorClass : ErrorClass) (time now : Rat)
  | reconnected (entryId : String) (time : Rat)
  /-- A background task runs. -/
  | task (entryId : String) (i : Nat)
  /-- The entry is unloaded; `async_cancel_tasks` cancels the tasks that are left. -/
  | unload (entryId : String)
  /-- The user fixes an issue, or it is deleted otherwise. -/
  | dismiss (issueId : String)
  /-- Home Assistant starts again, without the issues of its last run. -/
  | boot

namespace IssueWorld

variable (w : IssueWorld)

def setManager (entryId : String) (manager : Option RepairManager) : IssueWorld :=
  { w with managers := Function.update w.managers entryId manager }

def setIssue (issueId : String) (record : Option IssueRecord) : IssueWorld :=
  { w with registry := Function.update w.registry issueId record }

/-- `_clear_repair_issues_on_recovery`, in the registry. -/
def clearIssues (entryId : String) : IssueWorld :=
  [RepairIssue.bridgeUnreachable, .authOrMeshMismatch, .deviceNotFound, .timeout,
    .reconnectStorm].foldl (fun w issue => w.setIssue (issue.fullId entryId) none) w

def step : IssueEvent → Option IssueWorld
  | .setup entryId identity stormThreshold =>
    match w.managers entryId with
    | none => some (w.setManager entryId (some { identity, stormThreshold }))
    | some _ => none
  | .failed entryId errorClass time now =>
    (w.managers entryId).map fun m =>
      { w with clock := now }.setManager entryId (some (m.failed errorClass time now))
  | .reconnected entryId time =>
    (w.managers entryId).map fun m =>
      ({ w with clock := time }.clearIssues entryId).setManager entryId (some (m.reconnected time))
  | .task entryId i => do
    let m ← w.managers entryId
    let (issue, record) ← m.background[i]?
    return (w.setIssue (issue.fullId entryId) (some record)).setManager entryId
      (some { m with background := m.background.eraseIdx i })
  | .unload entryId => (w.managers entryId).map fun _ => w.setManager entryId none
  | .dismiss issueId => some (w.setIssue issueId none)
  | .boot => some { clock := w.clock }

/-- The issue of the entry is shown. -/
def isOpen (entryId : String) (issue : RepairIssue) : Prop :=
  w.registry (issue.fullId entryId) ≠ none

/-- A task that creates the issue of the entry has not run yet. -/
def isPending (entryId : String) (issue : RepairIssue) : Prop :=
  ∃ m, w.managers entryId = some m ∧ ∃ record, (issue, record) ∈ m.background

end IssueWorld

def issueSystem : EventSystem IssueWorld IssueEvent where
  step := IssueWorld.step

/-! ### What an entry has to show -/

/-- The troubles of one entry: all attempts of the manager at hand, the issues of what has failed
since the last recovery, and those of them that have been taken away. -/
structure Trouble where
  threshold : Nat := STORM_DEFAULT_THRESHOLD
  attempts : List Rat := []
  due : Finset RepairIssue := ∅
  dismissed : Finset RepairIssue := ∅

namespace Trouble

variable (entryId : String)

/-- The attempts of the last five minutes are many enough; 50 are counted at most. -/
def storm (t : Trouble) (now : Rat) : Prop :=
  t.threshold ≤ min 50 (t.attempts.countP fun time => decide (now - STORM_WINDOW_SECONDS ≤ time))

instance (t : Trouble) (now : Rat) : Decidable (t.storm now) :=
  inferInstanceAs (Decidable (_ ≤ _))

def attempted (t : Trouble) (time : Rat) : Trouble := { t with attempts := t.attempts ++ [time] }

/-- The issues that a failure makes due. -/
def caused (t : Trouble) (errorClass : ErrorClass) (now : Rat) : Finset RepairIssue :=
  if errorClass = .permanent then ∅
  else errorClass.issue.toFinset ∪ if t.storm now then {.reconnectStorm} else ∅

def after (t : Trouble) : IssueEvent → Trouble
  | .setup id _ threshold => if id = entryId then { t with threshold, attempts := [] } else t
  | .failed id errorClass time now =>
    if id = entryId then
      let t := t.attempted time
      { t with due := t.due ∪ t.caused errorClass now }
    else t
  | .reconnected id time =>
    if id = entryId then { t.attempted time with due := ∅, dismissed := ∅ } else t
  | .dismiss issueId =>
    { t with dismissed := t.dismissed ∪ t.due.filter fun issue => issue.fullId entryId = issueId }
  | .boot => {}
  | _ => t

end Trouble

def troubleOf (entryId : String) (events : List IssueEvent) : Trouble :=
  events.foldl (Trouble.after entryId) {}

/-! ### Ids -/

namespace RepairIssue

theorem baseId_head_inj {issue issue' : RepairIssue}
    (same : issue.baseId.toList.head? = issue'.baseId.toList.head?) : issue = issue' := by
  cases issue <;> cases issue' <;> first | rfl | exact absurd same (by decide)

theorem fullId_head (issue : RepairIssue) (entryId : String) :
    (issue.fullId entryId).toList.head? = issue.baseId.toList.head? := by
  unfold fullId
  split
  · rfl
  · simp only [String.toList_append, List.head?_append]
    cases issue <;> rfl

/-- No two issues of any entries share an id. -/
theorem fullId_inj {issue issue' : RepairIssue} {entryId entryId' : String}
    (same : issue.fullId entryId = issue'.fullId entryId') :
    issue = issue' ∧ entryId = entryId' := by
  have base : issue = issue' := by
    apply baseId_head_inj
    rw [← fullId_head issue entryId, same, fullId_head]
  subst base
  refine ⟨rfl, ?_⟩
  have shapes (id : String) :
      (issue.fullId id).toList = issue.baseId.toList ++ if id = "" then [] else '_' :: id.toList := by
    unfold fullId
    split
    · rw [List.append_nil]
    · simp only [String.toList_append, List.append_assoc]
      rfl
  have tails := congrArg String.toList same
  rw [shapes, shapes] at tails
  have tails := List.append_cancel_left tails
  by_cases one : entryId = "" <;> by_cases two : entryId' = ""
  · rw [one, two]
  · rw [if_pos one, if_neg two] at tails
    cases tails
  · rw [if_neg one, if_pos two] at tails
    cases tails
  · rw [if_neg one, if_neg two] at tails
    exact String.toList_inj.mp (List.cons.inj tails).2

end RepairIssue

/-! ### What one event does to the issues of an entry -/

namespace RepairManager

/-- A task that creates the issue has not run yet. -/
def Pending (m : RepairManager) (issue : RepairIssue) : Prop :=
  ∃ record, (issue, record) ∈ m.background

theorem pending_createTask {m : RepairManager} {issue issue' : RepairIssue} :
    (m.createTask issue).Pending issue' ↔ m.Pending issue' ∨ issue' = issue := by
  constructor
  · rintro ⟨record, member⟩
    rcases List.mem_append.mp member with earlier | last
    · exact .inl ⟨record, earlier⟩
    · exact .inr (congrArg Prod.fst (List.mem_singleton.mp last))
  · rintro (⟨record, member⟩ | rfl)
    · exact ⟨record, List.mem_append_left _ member⟩
    · exact ⟨_, List.mem_append_right _ List.mem_cons_self⟩

/-- A new issue is raised and gets its task; nothing else changes. -/
theorem maybeCreateRepairIssue_spec (m : RepairManager) (errorClass : ErrorClass) :
    (m.maybeCreateRepairIssue errorClass).reconnectTimes = m.reconnectTimes ∧
    (m.maybeCreateRepairIssue errorClass).stormThreshold = m.stormThreshold ∧
    (m.maybeCreateRepairIssue errorClass).stormDetected = m.stormDetected ∧
    (m.maybeCreateRepairIssue errorClass).raised = errorClass.issue.toFinset ∪ m.raised ∧
    ∀ issue, (m.maybeCreateRepairIssue errorClass).Pending issue ↔
      m.Pending issue ∨ (errorClass.issue = some issue ∧ issue ∉ m.raised) := by
  unfold maybeCreateRepairIssue
  cases errorClass.issue with
  | none =>
    refine ⟨rfl, rfl, rfl, (Finset.empty_union _).symm, fun issue => ?_⟩
    exact ⟨.inl, fun pending => pending.resolve_right nofun⟩
  | some raising =>
    by_cases raised : raising ∈ m.raised
    · simp only [if_pos raised]
      refine ⟨trivial, trivial, trivial, ?_, fun issue => ⟨.inl, fun pending => ?_⟩⟩
      · rw [Option.toFinset_some, Finset.union_eq_right.mpr (Finset.singleton_subset_iff.mpr raised)]
      · rcases pending with pending | ⟨same, new⟩
        · exact pending
        · cases same
          exact absurd raised new
    · simp only [if_neg raised]
      refine ⟨rfl, rfl, rfl, rfl, fun issue => pending_createTask.trans (or_congr .rfl ?_)⟩
      constructor
      · rintro rfl
        exact ⟨rfl, raised⟩
      · rintro ⟨same, -⟩
        exact (Option.some.inj same).symm

/-- What a failure does: the times follow the attempts, and what it makes due is created now or
has been raised before. -/
structure Failed (m m' : RepairManager) (t : Trouble) (errorClass : ErrorClass) (now : Rat) :
    Prop where
  follows : BoundedLog.Follows 50 t.attempts (now - STORM_WINDOW_SECONDS) m'.reconnectTimes
  threshold : m'.stormThreshold = m.stormThreshold
  raised : ∀ issue ∈ m'.raised, issue ∈ m.raised ∨ issue ∈ t.caused errorClass now
  detected : m'.stormDetected = true →
    m.stormDetected = true ∨ .reconnectStorm ∈ t.caused errorClass now
  kept : ∀ issue, m.Pending issue → m'.Pending issue
  started : ∀ issue, m'.Pending issue → m.Pending issue ∨ issue ∈ t.caused errorClass now
  covered : ∀ issue ∈ t.caused errorClass now, m'.Pending issue ∨ issue ∈ m.raised ∨
    (issue = .reconnectStorm ∧ m.stormDetected = true)

theorem failed_spec {m : RepairManager} {t : Trouble} {floor time now : Rat}
    (follows : BoundedLog.Follows 50 t.attempts floor m.reconnectTimes)
    (threshold : m.stormThreshold = t.threshold) (earlier : ∀ s ∈ t.attempts, s ≤ time)
    (later : floor ≤ now - STORM_WINDOW_SECONDS) (errorClass : ErrorClass) :
    m.Failed (m.failed errorClass time now) (t.attempted time) errorClass now := by
  have pushed : BoundedLog.Follows 50 (t.attempted time).attempts floor
      (appendBounded 50 m.reconnectTimes time) := follows.push earlier
  obtain ⟨expired, length⟩ := pushed.expire later
  by_cases permanent : errorClass = .permanent
  · subst permanent
    exact {
      follows := pushed.later later
      threshold := rfl
      raised := fun issue member => .inl member
      detected := .inl
      kept := fun issue pending => pending
      started := fun issue pending => .inl pending
      covered := nofun }
  · let pushing : RepairManager :=
      { m with reconnectTimes := appendBounded 50 m.reconnectTimes time }
    let raising := pushing.maybeCreateRepairIssue errorClass
    let checked := (raising.checkReconnectStorm now).1
    obtain ⟨times, sameThreshold, detected, raised, pending⟩ :=
      pushing.maybeCreateRepairIssue_spec errorClass
    have left : checked.reconnectTimes =
        BoundedLog.expire (now - STORM_WINDOW_SECONDS) (appendBounded 50 m.reconnectTimes time) :=
      congrArg (BoundedLog.expire _) times
    have storm : (raising.checkReconnectStorm now).2 = true ↔ (t.attempted time).storm now := by
      rw [checkReconnectStorm, decide_eq_true_iff, sameThreshold]
      change m.stormThreshold ≤ checked.reconnectTimes.length ↔ _
      rw [left, length, threshold]
      rfl
    have caused : (t.attempted time).caused errorClass now = errorClass.issue.toFinset ∪
        if (t.attempted time).storm now then {.reconnectStorm} else ∅ := if_neg permanent
    have own {issue : RepairIssue} (is : errorClass.issue = some issue) :
        issue ∈ (t.attempted time).caused errorClass now := by
      rw [caused]
      exact Finset.mem_union_left _ (Option.mem_toFinset.mpr is)
    have follows' : BoundedLog.Follows 50 (t.attempted time).attempts (now - STORM_WINDOW_SECONDS)
        checked.reconnectTimes := left ▸ expired
    have raised' : ∀ issue ∈ checked.raised, issue ∈ m.raised ∨
        issue ∈ (t.attempted time).caused errorClass now := by
      intro issue member
      rcases Finset.mem_union.mp (raised ▸ member : issue ∈ errorClass.issue.toFinset ∪ m.raised) with
        new | old
      · exact .inr (own (Option.mem_toFinset.mp new))
      · exact .inl old
    have kept {issue : RepairIssue} (before : m.Pending issue) : checked.Pending issue :=
      (pending issue).mpr (.inl before)
    have started {issue : RepairIssue} (after : checked.Pending issue) : m.Pending issue ∨
        issue ∈ (t.attempted time).caused errorClass now :=
      ((pending issue).mp after).imp_right fun new => own new.1
    have covered {issue : RepairIssue} (is : errorClass.issue = some issue) :
        checked.Pending issue ∨ issue ∈ m.raised := by
      by_cases already : issue ∈ m.raised
      · exact .inr already
      · exact .inl ((pending issue).mpr (.inr ⟨is, already⟩))
    have result : m.failed errorClass time now =
        if (raising.checkReconnectStorm now).2 && !checked.stormDetected then
          { checked with stormDetected := true }.createTask .reconnectStorm
        else checked := if_neg permanent
    rw [result]
    by_cases storming : (t.attempted time).storm now
    · rw [if_pos storming] at caused
      have stormy : RepairIssue.reconnectStorm ∈ (t.attempted time).caused errorClass now := by
        rw [caused]
        exact Finset.mem_union_right _ (Finset.mem_singleton_self _)
      rw [storm.mpr storming, Bool.true_and]
      cases known : checked.stormDetected with
      | true =>
        have known' : m.stormDetected = true := detected.symm.trans known
        refine {
          follows := follows'
          threshold := sameThreshold
          raised := raised'
          detected := fun _ => .inl known'
          kept := fun _ => kept
          started := fun _ => started
          covered := fun issue member => ?_ }
        rw [caused] at member
        rcases Finset.mem_union.mp member with is | is
        · exact (covered (Option.mem_toFinset.mp is)).imp_right .inl
        · exact .inr (.inr ⟨Finset.mem_singleton.mp is, known'⟩)
      | false =>
        refine {
          follows := follows'
          threshold := sameThreshold
          raised := raised'
          detected := fun _ => .inr stormy
          kept := fun _ before => pending_createTask.mpr (.inl (kept before))
          started := fun issue after => ?_
          covered := fun issue member => ?_ }
        · rcases pending_createTask.mp after with before | rfl
          · exact started before
          · exact .inr stormy
        · rw [caused] at member
          rcases Finset.mem_union.mp member with is | is
          · exact (covered (Option.mem_toFinset.mp is)).imp
              (fun new => pending_createTask.mpr (.inl new)) .inl
          · exact .inl (pending_createTask.mpr (.inr (Finset.mem_singleton.mp is)))
    · rw [if_neg storming, Finset.union_empty] at caused
      rw [Bool.eq_false_iff.mpr fun is => storming (storm.mp is), Bool.false_and]
      refine {
        follows := follows'
        threshold := sameThreshold
        raised := raised'
        detected := fun known => .inl (detected.symm.trans known)
        kept := fun _ => kept
        started := fun _ => started
        covered := fun issue member => ?_ }
      rw [caused] at member
      exact (covered (Option.mem_toFinset.mp member)).imp_right .inl

end RepairManager

namespace IssueWorld

variable {w : IssueWorld} {entryId other : String} {issue issue' : RepairIssue}

theorem managers_setManager_self (w : IssueWorld) (entryId : String) (m : Option RepairManager) :
    (w.setManager entryId m).managers entryId = m := by
  simp only [setManager, Function.update_self]

theorem managers_setManager_ne (w : IssueWorld) (different : entryId ≠ other)
    (m : Option RepairManager) : (w.setManager other m).managers entryId = w.managers entryId := by
  simp only [setManager, Function.update_of_ne different]

theorem isOpen_setIssue_self (w : IssueWorld) (entryId : String) (issue : RepairIssue)
    (record : Option IssueRecord) :
    (w.setIssue (issue.fullId entryId) record).isOpen entryId issue ↔ record ≠ none := by
  simp only [isOpen, setIssue, Function.update_self]

theorem isOpen_setIssue_ne {issueId : String} (different : issue.fullId entryId ≠ issueId)
    (record : Option IssueRecord) :
    (w.setIssue issueId record).isOpen entryId issue ↔ w.isOpen entryId issue := by
  simp only [isOpen, setIssue, Function.update_of_ne different]

theorem managers_clearIssues (w : IssueWorld) (entryId : String) :
    (w.clearIssues entryId).managers = w.managers := rfl

/-- Recovery deletes the issues of its entry and no others. -/
theorem isOpen_clearIssues :
    (w.clearIssues other).isOpen entryId issue ↔ entryId ≠ other ∧ w.isOpen entryId issue := by
  by_cases same : entryId = other
  · subst same
    refine iff_of_false ?_ fun holds => holds.1 rfl
    have cleared : ∀ (issues : List RepairIssue) (w : IssueWorld),
        (issue ∈ issues ∨ ¬w.isOpen entryId issue) →
        ¬(issues.foldl (fun w issue => w.setIssue (issue.fullId entryId) none) w).isOpen entryId
          issue := by
      intro issues
      induction issues with
      | nil =>
        intro w closed
        exact closed.resolve_left nofun
      | cons first rest ih =>
        intro w closed
        rw [List.foldl_cons]
        apply ih
        by_cases this : issue = first
        · subst this
          right
          rw [isOpen_setIssue_self]
          exact fun open_ => open_ rfl
        · refine closed.imp (fun member => (List.mem_cons.mp member).resolve_left this) fun closed => ?_
          rwa [isOpen_setIssue_ne fun same => this (RepairIssue.fullId_inj same).1]
    exact cleared _ w (.inl (by cases issue <;> decide))
  · rw [and_iff_right same]
    have kept : ∀ (issues : List RepairIssue) (w : IssueWorld),
        (issues.foldl (fun w issue => w.setIssue (issue.fullId other) none) w).isOpen entryId issue ↔
          w.isOpen entryId issue := by
      intro issues
      induction issues with
      | nil => exact fun _ => .rfl
      | cons first rest ih =>
        intro w
        rw [List.foldl_cons, ih]
        exact isOpen_setIssue_ne (fun id => same (RepairIssue.fullId_inj id).2) none
    exact kept _ w

end IssueWorld

/-- The clock does not go back, and the tasks of an entry have run when it reconnects or is
unloaded. -/
def Settled (w : IssueWorld) : IssueEvent → Prop
  | .failed _ _ time now => w.clock ≤ time ∧ time ≤ now
  | .reconnected entryId time => w.clock ≤ time ∧ ∀ issue, ¬w.isPending entryId issue
  | .unload entryId => ∀ issue, ¬w.isPending entryId issue
  | _ => True

/-! ### The issues that are shown -/

/-- The manager of an entry knows the troubles that it has seen. -/
structure RepairManager.Aware (m : RepairManager) (t : Trouble) (clock : Rat) : Prop where
  follows : BoundedLog.Follows 50 t.attempts (clock - STORM_WINDOW_SECONDS) m.reconnectTimes
  past : ∀ time ∈ t.attempts, time ≤ clock
  threshold : m.stormThreshold = t.threshold
  raised : ∀ issue ∈ m.raised, issue ∈ t.due
  detected : m.stormDetected = true → .reconnectStorm ∈ t.due
  pending : ∀ issue, m.Pending issue → issue ∈ t.due

structure IssueWorld.Shows (w : IssueWorld) (entryId : String) (t : Trouble) : Prop where
  aware : ∀ m, w.managers entryId = some m → m.Aware t w.clock
  shown : ∀ issue, w.isOpen entryId issue → issue ∈ t.due
  due : ∀ issue ∈ t.due,
    w.isOpen entryId issue ∨ w.isPending entryId issue ∨ issue ∈ t.dismissed

namespace IssueWorld.Shows

variable {w w' : IssueWorld} {entryId : String} {t : Trouble}

theorem boot (clock : Rat) : ({ clock } : IssueWorld).Shows entryId {} where
  aware := nofun
  shown _ shown := absurd rfl shown
  due := nofun

/-- What happens elsewhere changes nothing, and the clock may go on. -/
theorem elsewhere (shows_ : w.Shows entryId t) (later : w.clock ≤ w'.clock)
    (managers : w'.managers entryId = w.managers entryId)
    (registry : ∀ issue, w'.isOpen entryId issue ↔ w.isOpen entryId issue) :
    w'.Shows entryId t where
  aware m here := by
    have aware := shows_.aware m (managers ▸ here)
    exact { aware with
      follows := aware.follows.later (by linarith)
      past := fun time member => (aware.past time member).trans later }
  shown issue shown := shows_.shown issue ((registry issue).mp shown)
  due issue member := by
    rcases shows_.due issue member with shown | pending | dismissed
    · exact .inl ((registry issue).mpr shown)
    · refine .inr (.inl ?_)
      rwa [isPending, managers]
    · exact .inr (.inr dismissed)

theorem setup (shows_ : w.Shows entryId t) (nobody : w.managers entryId = none)
    (identity : DeviceIdentity) (stormThreshold : Nat) :
    (w.setManager entryId (some { identity, stormThreshold })).Shows entryId
      { t with threshold := stormThreshold, attempts := [] } where
  aware m here := by
    rw [managers_setManager_self] at here
    cases here
    exact {
      follows := .nil 50 _
      past := nofun
      threshold := rfl
      raised := nofun
      detected := nofun
      pending := fun _ pending => nomatch pending.choose_spec }
  shown := shows_.shown
  due issue member := by
    rcases shows_.due issue member with shown | ⟨m, here, _⟩ | dismissed
    · exact .inl shown
    · cases nobody.symm.trans here
    · exact .inr (.inr dismissed)

theorem failed (shows_ : w.Shows entryId t) {m : RepairManager} (here : w.managers entryId = some m)
    (errorClass : ErrorClass) {time now : Rat} (first : w.clock ≤ time) (second : time ≤ now) :
    ({ w with clock := now }.setManager entryId (some (m.failed errorClass time now))).Shows entryId
      { t.attempted time with due := t.due ∪ (t.attempted time).caused errorClass now } where
  aware m' there := by
    rw [managers_setManager_self] at there
    cases there
    have aware := shows_.aware m here
    have spec := RepairManager.failed_spec aware.follows aware.threshold
      (fun s member => (aware.past s member).trans first) (by linarith) errorClass
    refine {
      follows := spec.follows
      past := fun s member => ?_
      threshold := spec.threshold.trans aware.threshold
      raised := fun issue member => Finset.mem_union.mpr
        ((spec.raised issue member).imp_left (aware.raised issue))
      detected := fun is => Finset.mem_union.mpr ((spec.detected is).imp_left aware.detected)
      pending := fun issue pending => Finset.mem_union.mpr
        ((spec.started issue pending).imp_left (aware.pending issue)) }
    rcases List.mem_append.mp member with earlier | last
    · exact (aware.past s earlier).trans (first.trans second)
    · cases List.mem_singleton.mp last
      exact second
  shown issue shown := Finset.mem_union_left _ (shows_.shown issue shown)
  due issue member := by
    have aware := shows_.aware m here
    have spec := RepairManager.failed_spec aware.follows aware.threshold
      (fun s member => (aware.past s member).trans first) (by linarith) errorClass
    have pending (after : (m.failed errorClass time now).Pending issue) :
        ({ w with clock := now }.setManager entryId
          (some (m.failed errorClass time now))).isPending entryId issue :=
      ⟨_, managers_setManager_self _ entryId _, after⟩
    -- what was due before is still shown, on its way or taken away
    have before (was : issue ∈ t.due) := shows_.due issue was
    have still (was : issue ∈ t.due) :
        ({ w with clock := now }.setManager entryId
          (some (m.failed errorClass time now))).isOpen entryId issue ∨
        ({ w with clock := now }.setManager entryId
          (some (m.failed errorClass time now))).isPending entryId issue ∨
        issue ∈ t.dismissed := by
      rcases shows_.due issue was with shown | ⟨m', there, before⟩ | dismissed
      · exact .inl shown
      · cases here.symm.trans there
        exact .inr (.inl (pending (spec.kept issue before)))
      · exact .inr (.inr dismissed)
    rcases Finset.mem_union.mp member with was | new
    · exact still was
    · rcases spec.covered issue new with started | raised | ⟨rfl, detected⟩
      · exact .inr (.inl (pending started))
      · exact still (aware.raised issue raised)
      · exact still (aware.detected detected)

theorem reconnected (shows_ : w.Shows entryId t) {m : RepairManager}
    (here : w.managers entryId = some m) {time : Rat} (later : w.clock ≤ time)
    (ran : ∀ issue, ¬w.isPending entryId issue) :
    (({ w with clock := time }.clearIssues entryId).setManager entryId
      (some (m.reconnected time))).Shows entryId
      { t.attempted time with due := ∅, dismissed := ∅ } where
  aware m' there := by
    rw [managers_setManager_self] at there
    cases there
    have aware := shows_.aware m here
    have pushed : BoundedLog.Follows 50 (t.attempted time).attempts
        (w.clock - STORM_WINDOW_SECONDS) (m.reconnected time).reconnectTimes :=
      aware.follows.push fun s member => (aware.past s member).trans later
    refine {
      follows := pushed.later (show w.clock - _ ≤ time - _ by linarith)
      past := fun s member => ?_
      threshold := aware.threshold
      raised := nofun
      detected := nofun
      pending := fun issue pending => absurd ⟨m, here, pending⟩ (ran issue) }
    rcases List.mem_append.mp member with earlier | last
    · exact (aware.past s earlier).trans later
    · cases List.mem_singleton.mp last
      exact le_refl _
  shown issue shown := absurd rfl (isOpen_clearIssues.mp shown).1
  due := nofun

theorem task (shows_ : w.Shows entryId t) {m : RepairManager} (here : w.managers entryId = some m)
    {i : Nat} {ran : RepairIssue} {record : IssueRecord}
    (found : m.background[i]? = some (ran, record)) :
    ((w.setIssue (ran.fullId entryId) (some record)).setManager entryId
      (some { m with background := m.background.eraseIdx i })).Shows entryId t where
  aware m' there := by
    rw [managers_setManager_self] at there
    cases there
    have aware := shows_.aware m here
    exact { aware with
      pending := fun issue ⟨record, member⟩ =>
        aware.pending issue ⟨record, List.mem_of_mem_eraseIdx member⟩ }
  shown issue shown := by
    by_cases this : issue = ran
    · subst this
      exact (shows_.aware m here).pending issue ⟨record, List.mem_of_getElem? found⟩
    · refine shows_.shown issue ((isOpen_setIssue_ne (fun same => this ?_) (some record)).mp shown)
      exact (RepairIssue.fullId_inj same).1
  due issue member := by
    by_cases this : issue = ran
    · subst this
      exact .inl ((isOpen_setIssue_self w entryId issue (some record)).mpr (Option.some_ne_none _))
    · have other (same : issue.fullId entryId = ran.fullId entryId) : False :=
        this (RepairIssue.fullId_inj same).1
      rcases shows_.due issue member with shown | ⟨m', there, record', listed⟩ | dismissed
      · exact .inl ((isOpen_setIssue_ne other (some record)).mpr shown)
      · cases here.symm.trans there
        refine .inr (.inl ⟨_, managers_setManager_self _ entryId _, record', ?_⟩)
        obtain ⟨j, bound, at_j⟩ := List.mem_iff_getElem.mp listed
        refine List.mem_eraseIdx_iff_getElem.mpr ⟨j, bound, ?_, at_j⟩
        rintro rfl
        rw [List.getElem?_eq_getElem bound, at_j] at found
        cases found
        exact this rfl
      · exact .inr (.inr dismissed)

theorem unload (shows_ : w.Shows entryId t) (ran : ∀ issue, ¬w.isPending entryId issue) :
    (w.setManager entryId none).Shows entryId t where
  aware m there := by
    rw [managers_setManager_self] at there
    cases there
  shown := shows_.shown
  due issue member := by
    rcases shows_.due issue member with shown | pending | dismissed
    · exact .inl shown
    · exact absurd pending (ran issue)
    · exact .inr (.inr dismissed)

theorem dismiss (shows_ : w.Shows entryId t) (issueId : String) :
    (w.setIssue issueId none).Shows entryId
      { t with dismissed := t.dismissed ∪
        t.due.filter fun issue => issue.fullId entryId = issueId } where
  aware m there := { shows_.aware m there with }
  shown issue shown := by
    by_cases this : issue.fullId entryId = issueId
    · subst this
      exact absurd rfl ((isOpen_setIssue_self w entryId issue none).mp shown)
    · exact shows_.shown issue ((isOpen_setIssue_ne this none).mp shown)
  due issue member := by
    by_cases this : issue.fullId entryId = issueId
    · exact .inr (.inr (Finset.mem_union_right _ (Finset.mem_filter.mpr ⟨member, this⟩)))
    · rcases shows_.due issue member with shown | pending | dismissed
      · exact .inl ((isOpen_setIssue_ne this none).mpr shown)
      · exact .inr (.inl pending)
      · exact .inr (.inr (Finset.mem_union_left _ dismissed))

/-- One event of any entry. -/
theorem step (shows_ : w.Shows entryId t) {event : IssueEvent} (settled : Settled w event)
    (stepped : w.step event = some w') : w'.Shows entryId (t.after entryId event) := by
  cases event with
  | setup id identity stormThreshold =>
    simp only [IssueWorld.step] at stepped
    split at stepped
    · next nobody =>
      cases stepped
      simp only [Trouble.after]
      split
      · next same =>
        subst same
        exact shows_.setup nobody identity stormThreshold
      · next different =>
        exact shows_.elsewhere (le_refl _) (managers_setManager_ne w (Ne.symm different) _)
          fun _ => .rfl
    · cases stepped
  | failed id errorClass time now =>
    obtain ⟨m, here, rfl⟩ := Option.map_eq_some_iff.mp stepped
    simp only [Trouble.after]
    split
    · next same =>
      subst same
      exact shows_.failed here errorClass settled.1 settled.2
    · next different =>
      exact shows_.elsewhere (settled.1.trans settled.2)
        (managers_setManager_ne _ (Ne.symm different) _) fun _ => .rfl
  | reconnected id time =>
    obtain ⟨m, here, rfl⟩ := Option.map_eq_some_iff.mp stepped
    simp only [Trouble.after]
    split
    · next same =>
      subst same
      exact shows_.reconnected here settled.1 settled.2
    · next different =>
      refine shows_.elsewhere settled.1 (managers_setManager_ne _ (Ne.symm different) _) ?_
      exact fun issue => isOpen_clearIssues.trans (and_iff_right (Ne.symm different))
  | task id i =>
    obtain ⟨m, here, rest⟩ := Option.bind_eq_some_iff.mp stepped
    obtain ⟨⟨ran, record⟩, found, done⟩ := Option.bind_eq_some_iff.mp rest
    cases done
    by_cases same : id = entryId
    · subst same
      exact shows_.task here found
    · refine shows_.elsewhere (le_refl _) (managers_setManager_ne _ (Ne.symm same) _) fun issue => ?_
      exact isOpen_setIssue_ne (fun ids => same (RepairIssue.fullId_inj ids).2.symm) _
  | unload id =>
    obtain ⟨m, here, rfl⟩ := Option.map_eq_some_iff.mp stepped
    by_cases same : id = entryId
    · subst same
      exact shows_.unload settled
    · exact shows_.elsewhere (le_refl _) (managers_setManager_ne w (Ne.symm same) _) fun _ => .rfl
  | dismiss issueId =>
    cases stepped
    exact shows_.dismiss issueId
  | boot =>
    cases stepped
    exact boot w.clock

end IssueWorld.Shows

/-- Two failures, which are a storm here, and the tasks that they start. -/
def sampleTroubles : List IssueEvent :=
  [.setup "e1" ⟨"Lamp", "DC:23:4D:21:43:A5", "", 0⟩ 2, .failed "e1" .deviceOffline 7 7,
    .failed "e1" .deviceOffline 18 18, .task "e1" 0, .task "e1" 0]

/-- Nobody reconnects and nothing is unloaded. -/
private def NoRecovery (w : IssueWorld) : IssueEvent → Prop
  | .failed _ _ time now => w.clock ≤ time ∧ time ≤ now
  | .reconnected _ _ => False
  | .unload _ => False
  | _ => True

private instance (w : IssueWorld) (event : IssueEvent) : Decidable (NoRecovery w event) := by
  unfold NoRecovery
  split <;> infer_instance

end TuyaBleMesh
