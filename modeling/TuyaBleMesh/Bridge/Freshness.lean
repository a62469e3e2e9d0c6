import TuyaBleMesh.Bridge.Client

/-!
# Whose result a call accepts

A call recognises its result by the action, and by the device type if it is one of a
Telink device. It accepts no result but its own when no other command that would
give such a result is about while it is open.
-/

namespace TuyaBleMesh

namespace Watcher

/-- The command that the iteration has read, before its result is there. -/
def command? : Watcher → Option Command
  | .read command => some command
  | .executing command => some command
  | _ => none

/-- The result that is not in the file yet. -/
def result? : Watcher → Option BridgeResult
  | .executed result => some result
  | .writing result => some result
  | _ => none

end Watcher

namespace BridgeCall

/-- The call would take a complete result of the command for its own. -/
def fits (call : BridgeCall) (cmd : Json) : Bool :=
  match cmd.getD "action" (.string ""), cmd.getD "device_type" (.string "sig_mesh") with
  | .ok action, .ok deviceType =>
    action.is call.action &&
      match call.device with
      | .sigMesh _ => true
      | .telink _ => deviceType.is "telink"
  | _, _ => false

/-- The call takes the result for its own. -/
def takes (call : BridgeCall) (result : BridgeResult) : Bool :=
  match call.recognises result.body with
  | .ok recognised => recognised
  | .error _ => false

end BridgeCall

/-- The result is what executing its command has given. -/
def BridgeResult.Genuine (result : BridgeResult) : Prop :=
  ∃ execution, executeBleCommand result.command.body execution = .ok result.body

/-- A result that a call takes for its own comes from a command that fits. -/
theorem BridgeCall.fits_of_takes {call : BridgeCall} {result : BridgeResult}
    (genuine : result.Genuine) (taken : call.takes result = true) :
    call.fits result.command.body = true := by
  obtain ⟨execution, done⟩ := genuine
  unfold takes recognises at taken
  rcases executeBleCommand_cases done with ⟨error, failed⟩ | ⟨ran, labels, body, action, deviceType⟩
  · -- a bare failure has no action
    rw [failed] at taken
    cases taken
  · have found : ∀ name value, labels.fields.lookup name = some value →
        result.body.get name = .ok (some value) := by
      intro name value labelled
      rw [body, Json.get, Json.lookup_update labelled]
    rw [found "action" _ rfl, found "device_type" _ rfl, found "timestamp" _ rfl] at taken
    simp only [bind, Except.bind, pure, Except.pure, Option.any_some, Bool.and_eq_true] at taken
    rw [fits, action, deviceType]
    exact Bool.and_eq_true_iff.mpr taken.1

/-! ### What a call may meet -/

/-- Whatever a call would take for its own in the daemon is its own. -/
structure Mine (daemon : Daemon) (call : BridgeCall) (own : Option Command) : Prop where
  written : ∀ result ∈ daemon.lastResult.whole?, call.takes result = true →
    own = some result.command
  executing : ∀ command ∈ daemon.watcher.command?, call.fits command.body = true →
    own = some command
  executed : ∀ result ∈ daemon.watcher.result?, call.takes result = true →
    own = some result.command

/-- The results that are not older than the last one written. -/
structure Daemon.Results (daemon : Daemon) : Prop where
  written : ∀ result ∈ daemon.lastResult.whole?, result.Genuine
  executed : ∀ result ∈ daemon.watcher.result?, result.Genuine

section Mine

variable {daemon daemon' : Daemon} {event : DaemonEvent} {call : BridgeCall}
  {own : Option Command}

theorem Daemon.Results.step (results : daemon.Results)
    (stepped : daemon.step event = some daemon') : daemon'.Results := by
  cases daemon.step_cases stepped with
  | returns command executing execution body result =>
    refine ⟨results.written, ?_⟩
    intro made member
    cases member
    exact ⟨execution, result⟩
  | opensResult result executed =>
    refine ⟨nofun, ?_⟩
    intro made member
    exact results.executed made (by rw [executed]; exact member)
  | writesResult result writing =>
    refine ⟨?_, nofun⟩
    intro made member
    cases member
    exact results.executed result (by rw [writing]; rfl)
  | refused body fails idle => exact ⟨results.written, results.executed⟩
  | opened value idle => exact ⟨results.written, results.executed⟩
  | unwritten command linked posts => exact ⟨results.written, results.executed⟩
  | written command linked posts => exact ⟨results.written, results.executed⟩
  | nothing idle absent => exact results
  | _ => exact ⟨results.written, nofun⟩

/-- A step keeps what the call may meet, when it takes up no other command that fits. -/
theorem Mine.step (mine : Mine daemon call own)
    (stepped : daemon.step event = some daemon')
    (taken : ∀ fails, event = .read fails → ∀ command ∈ daemon.pending.whole?,
      call.fits command.body = true → own = some command) : Mine daemon' call own := by
  cases daemon.step_cases stepped with
  | refused body fails idle => exact ⟨mine.written, mine.executing, mine.executed⟩
  | opened value idle => exact ⟨mine.written, mine.executing, mine.executed⟩
  | unwritten command linked posts => exact ⟨mine.written, mine.executing, mine.executed⟩
  | written command linked posts => exact ⟨mine.written, mine.executing, mine.executed⟩
  | nothing idle absent => exact mine
  | reads found command whole =>
    refine ⟨mine.written, ?_, nofun⟩
    intro command' member
    cases member
    exact taken false rfl command (StateFile.whole?_eq_some.mpr whole)
  | executes command reads object =>
    refine ⟨mine.written, ?_, nofun⟩
    intro command' member
    exact mine.executing command' (by rw [reads]; exact member)
  | returns command executing execution body result =>
    refine ⟨mine.written, nofun, ?_⟩
    intro made member takes
    cases member
    -- what the call recognises comes from a command that fits
    have fits := BridgeCall.fits_of_takes ⟨execution, result⟩ takes
    exact mine.executing command (by rw [executing]; rfl) fits
  | opensResult result executed =>
    refine ⟨nofun, nofun, ?_⟩
    intro made member
    exact mine.executed made (by rw [executed]; exact member)
  | writesResult result writing =>
    refine ⟨?_, nofun, nofun⟩
    intro made member
    cases member
    exact mine.executed result (by rw [writing]; rfl)
  | _ => exact ⟨mine.written, nofun, nofun⟩

/-- Nothing in the daemon would pass for a result of the call. -/
def Daemon.Clear (daemon : Daemon) (call : BridgeCall) : Prop :=
  (∀ result ∈ daemon.lastResult.whole?, call.takes result = false) ∧
    (∀ command ∈ daemon.watcher.command?, call.fits command.body = false) ∧
    ∀ result ∈ daemon.watcher.result?, call.takes result = false

instance : Decidable (daemon.Clear call) := by unfold Daemon.Clear; infer_instance

theorem Daemon.Clear.mine (clear : daemon.Clear call) : Mine daemon call own where
  written result member takes := by
    rw [clear.1 result member] at takes
    cases takes
  executing command member fits := by
    rw [clear.2.1 command member] at fits
    cases fits
  executed result member takes := by
    rw [clear.2.2 result member] at takes
    cases takes

end Mine

/-! ### Runs -/

/-- What holds of a call and its phase. -/
structure CallPhase.Fresh (daemon : Daemon) (call : BridgeCall) (phase : CallPhase) : Prop where
  posted : ∀ command ∈ phase.own, command.body = call.command
  mine : phase.isOpen = true → Mine daemon call phase.own
  answered : ∀ own attempt file, phase = .answered own attempt file →
    ∀ result ∈ file.whole?, result.Genuine ∧ (call.takes result = true → own = some result.command)
  accepted : ∀ result ∈ phase.accepted?, phase.own = some result.command ∧ result.Genuine

namespace Bridge

/-- The daemon handles the request of a call when there is no result that would pass for its own,
nor one under way, and takes up no other command that would give one while the call is open. -/
def Undisputed (s : Bridge) : BridgeEvent → Prop
  | .post id _ _ => ∀ entry ∈ s.calls.get? id, s.daemon.Clear entry.1
  | .daemon (.read _) => ∀ command ∈ s.daemon.pending.whole?, ∀ entry ∈ s.calls.entries,
      entry.2.2.isOpen = true → entry.2.1.fits command.body = true →
        entry.2.2.own = some command
  | _ => True

instance (s : Bridge) (event : BridgeEvent) : Decidable (s.Undisputed event) := by
  cases event with
  | post id whole fails => exact inferInstanceAs (Decidable (∀ entry ∈ s.calls.get? id, _))
  | daemon event =>
    cases event with
    | read fails => exact inferInstanceAs (Decidable (∀ command ∈ s.daemon.pending.whole?, _))
    | _ => exact isTrue trivial
  | _ => exact isTrue trivial

structure Fresh (s : Bridge) : Prop where
  results : s.daemon.Results
  calls : ∀ id call phase, s.calls.get? id = some (call, phase) → phase.Fresh s.daemon call

section Fresh

variable {s s' : Bridge} {event : BridgeEvent}

theorem Fresh.setPhase (fresh : s.Fresh) {id : Nat} {call : BridgeCall} {phase : CallPhase}
    (own : phase.Fresh s.daemon call) : (s.setPhase id call phase).Fresh := by
  refine ⟨fresh.results, ?_⟩
  intro other call' phase' found
  have found' := (OrderedDict.get?_set _ _ _ _).symm.trans found
  split at found'
  · cases found'
    exact own
  · exact fresh.calls other call' phase' found'

/-- The daemon does something that the calls do not notice. -/
private theorem Fresh.works (fresh : s.Fresh) {work : DaemonEvent} {daemon : Daemon}
    (stepped : s.daemon.step work = some daemon)
    (taken : ∀ fails, work = .read fails → ∀ command ∈ s.daemon.pending.whole?,
      ∀ entry ∈ s.calls.entries, entry.2.2.isOpen = true →
        entry.2.1.fits command.body = true → entry.2.2.own = some command) :
    ({ s with daemon } : Bridge).Fresh := by
  refine ⟨fresh.results.step stepped, ?_⟩
  intro id call phase found
  have before := fresh.calls id call phase found
  refine ⟨before.posted, fun isOpen => ?_, before.answered, before.accepted⟩
  apply (before.mine isOpen).step stepped
  intro fails isRead command whole fits
  have member := OrderedDict.get?_eq_some_iff.mp found
  exact taken fails isRead command whole (id, call, phase) member isOpen fits

private theorem fresh_posting {daemon : Daemon} {call : BridgeCall} :
    CallPhase.posting.Fresh daemon call where
  posted := nofun
  mine := nofun
  answered := nofun
  accepted := nofun

private theorem fresh_handled {daemon : Daemon} {call : BridgeCall} {own : Option Command}
    (posted : ∀ command ∈ own, command.body = call.command) (mine : Mine daemon call own) :
    (CallPhase.handled own).Fresh daemon call where
  posted := posted
  mine _ := mine
  answered := nofun
  accepted := nofun

private theorem fresh_polling {daemon : Daemon} {call : BridgeCall} {own : Option Command}
    {attempt : Nat} (posted : ∀ command ∈ own, command.body = call.command)
    (mine : Mine daemon call own) : (CallPhase.polling own attempt).Fresh daemon call where
  posted := posted
  mine _ := mine
  answered := nofun
  accepted := nofun

private theorem fresh_answered {daemon : Daemon} {call : BridgeCall} {own : Option Command}
    {attempt : Nat} {file : StateFile BridgeResult}
    (posted : ∀ command ∈ own, command.body = call.command) (mine : Mine daemon call own)
    (read : ∀ result ∈ file.whole?, result.Genuine ∧
      (call.takes result = true → own = some result.command)) :
    (CallPhase.answered own attempt file).Fresh daemon call where
  posted := posted
  mine _ := mine
  answered _ _ _ same := by
    cases same
    exact read
  accepted := nofun

/-- A call that ends without a result. -/
private theorem fresh_ended {daemon : Daemon} {call : BridgeCall} {own : Option Command}
    {outcome : CallOutcome} (posted : ∀ command ∈ own, command.body = call.command)
    (unaccepted : ∀ result, outcome ≠ .accepted result) :
    (CallPhase.ended own outcome).Fresh daemon call where
  posted := posted
  mine := nofun
  answered := nofun
  accepted result member := by
    cases outcome with
    | accepted other => exact absurd rfl (unaccepted other)
    | timedOut => cases member
    | raised error => cases member

private theorem fresh_pollAgain {daemon : Daemon} {call : BridgeCall} {own : Option Command}
    {attempt : Nat} (posted : ∀ command ∈ own, command.body = call.command)
    (mine : Mine daemon call own) : (CallPhase.pollAgain own attempt).Fresh daemon call := by
  unfold CallPhase.pollAgain
  split
  · exact fresh_polling posted mine
  · exact fresh_ended posted nofun

/-- A call accepts nothing but its own result. -/
private theorem fresh_poll {daemon : Daemon} {call : BridgeCall} {own : Option Command}
    {attempt : Nat} {file : StateFile BridgeResult}
    (before : (CallPhase.answered own attempt file).Fresh daemon call) :
    (call.poll own attempt file).Fresh daemon call := by
  have posted : ∀ command ∈ own, command.body = call.command := before.posted
  have mine : Mine daemon call own := before.mine rfl
  cases file with
  | absent => exact fresh_pollAgain posted mine
  | broken => exact fresh_ended posted nofun
  | whole result =>
    obtain ⟨genuine, isOwn⟩ := before.answered own attempt _ rfl result rfl
    rw [BridgeCall.takes] at isOwn
    unfold BridgeCall.poll
    dsimp only
    split
    · exact fresh_ended posted nofun
    · next recognised =>
      rw [recognised] at isOwn
      refine ⟨posted, nofun, nofun, ?_⟩
      intro accepted member
      cases member
      exact ⟨isOwn rfl, genuine⟩
    · exact fresh_pollAgain posted mine

theorem Fresh.step (fresh : s.Fresh) (undisputed : s.Undisputed event)
    (stepped : s.step event = some s') : s'.Fresh := by
  cases event with
  | submit call =>
    simp only [Bridge.step] at stepped
    split at stepped <;> cases stepped
    exact fresh.setPhase fresh_posting
  | post id whole fails =>
    simp only [Bridge.step] at stepped
    split at stepped
    · next call found =>
      simp only [Option.map_eq_some_iff] at stepped
      obtain ⟨daemon, posted, rfl⟩ := stepped
      have works : ({ s with daemon } : Bridge).Fresh := by
        apply fresh.works posted
        intro fails isRead
        cases isRead
      have clear : s.daemon.Clear call := undisputed (call, .posting) found
      apply works.setPhase
      apply fresh_handled
      · intro command member
        cases whole with
        | true =>
          cases member
          rfl
        | false => cases member
      · apply clear.mine.step posted
        intro fails isRead
        cases isRead
    · cases stepped
  | daemon work =>
    simp only [Bridge.step, Option.map_eq_some_iff] at stepped
    obtain ⟨daemon, worked, rfl⟩ := stepped
    apply fresh.works worked
    rintro fails rfl
    exact undisputed
  | respond id =>
    simp only [Bridge.step] at stepped
    split at stepped
    · next call own found =>
      split at stepped <;> cases stepped
      have before := fresh.calls id call _ found
      exact fresh.setPhase (fresh_polling before.posted (before.mine rfl))
    · cases stepped
  | serve id =>
    simp only [Bridge.step] at stepped
    split at stepped
    · next call own attempt found =>
      split at stepped <;> cases stepped
      have before := fresh.calls id call _ found
      have mine : Mine s.daemon call own := before.mine rfl
      apply fresh.setPhase
      apply fresh_answered before.posted mine
      intro result member
      exact ⟨fresh.results.written result member, mine.written result member⟩
    · cases stepped
  | deliver id =>
    simp only [Bridge.step] at stepped
    split at stepped
    · next call own attempt file found =>
      cases stepped
      exact fresh.setPhase (fresh_poll (fresh.calls id call _ found))
    · cases stepped
  | miss id =>
    simp only [Bridge.step] at stepped
    split at stepped
    · next call own attempt found =>
      cases stepped
      have before := fresh.calls id call _ found
      exact fresh.setPhase (fresh_pollAgain before.posted (before.mine rfl))
    · cases stepped
  | abort id error =>
    simp only [Bridge.step] at stepped
    split at stepped
    · next call phase found =>
      split at stepped <;> cases stepped
      have unaccepted : ∀ result, CallOutcome.raised error ≠ .accepted result := by
        intro result same
        cases same
      exact fresh.setPhase (fresh_ended (fresh.calls id call phase found).posted unaccepted)
    · cases stepped

end Fresh

/-- In every run in which no other result can pass for that of a call, a call accepts the result
of executing the very command that it has posted. -/
theorem accepted_own {events : List BridgeEvent} {s : Bridge}
    (ran : bridgeSystem.exec {} events = some s)
    (undisputed : bridgeSystem.Guarded Undisputed {} events) {id : Nat} {call : BridgeCall}
    {phase : CallPhase} (made : s.calls.get? id = some (call, phase)) {result : BridgeResult}
    (accepted : phase.accepted? = some result) :
    phase.own = some result.command ∧ result.command.body = call.command ∧ result.Genuine := by
  have fresh : s.Fresh := by
    apply bridgeSystem.exec_invariant Fresh _ _ undisputed ran
    · intro m event m' fresh undisputed stepped
      exact fresh.step undisputed stepped
    · refine ⟨⟨nofun, nofun⟩, ?_⟩
      intro id call phase found
      cases found
  have own := fresh.calls id call phase made
  obtain ⟨isOwn, genuine⟩ := own.accepted result accepted
  exact ⟨isOwn, own.posted result.command isOwn, genuine⟩

/-- A call that switches the plug `00B0`. -/
def sampleCall (action : String) : BridgeCall where
  client := 0
  device := .sigMesh 0xB0
  address := "DC:23:4F:10:52:C4"
  action

/-- The daemon executes the command of call `0` before the call polls. -/
def servedRun : List BridgeEvent :=
  [.submit (sampleCall "on"), .post 0 true false, .daemon (.postWrite false), .respond 0,
    .daemon .check, .daemon (.read false), .daemon .unlink,
    .daemon (.execute (sampleExecution 1)), .daemon (.openResult false),
    .daemon (.writeResult false), .serve 0, .deliver 0]

theorem servedRun_accepts : ∃ s ∈ bridgeSystem.exec {} servedRun,
    ∃ entry ∈ s.calls.get? 0, ∃ result ∈ entry.2.accepted?,
      entry.2.own = some result.command ∧ result.command.body = entry.1.command := by
  have ran : ∃ s ∈ bridgeSystem.exec {} servedRun, ∃ entry ∈ s.calls.get? 0,
      entry.2.accepted?.isSome = true := by decide +kernel
  obtain ⟨s, ran, ⟨call, phase⟩, made, accepts⟩ := ran
  obtain ⟨result, accepted⟩ := Option.isSome_iff_exists.mp accepts
  obtain ⟨isOwn, body, _⟩ := accepted_own ran (by decide +kernel) made accepted
  exact ⟨s, ran, (call, phase), made, result, accepted, isOwn, body⟩

/-- A second call with the same action: its first poll accepts the result of the first one, and
its own command has not been looked at. -/
theorem earlierResult_accepted : ∃ s ∈ bridgeSystem.exec {} (servedRun ++
      [.submit (sampleCall "on"), .post 1 true false, .daemon (.postWrite false), .respond 1,
        .serve 1, .deliver 1]),
    ∃ entry ∈ s.calls.get? 1, ∃ result ∈ entry.2.accepted?,
      result.command.number = 0 ∧ entry.2.own.map Command.number = some 1 ∧
        s.daemon.executed = [0] := by
  decide +kernel

end Bridge

end TuyaBleMesh
