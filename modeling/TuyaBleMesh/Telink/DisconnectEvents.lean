import TuyaBleMesh.Telink.LinkRules

/-!
# One disconnect event for each session

A session is a period in which the connection is READY. Its end is reported through
the disconnect callbacks, once, and not when `disconnect` ended it.
-/

namespace TuyaBleMesh

/-- The session, as far as its report goes. -/
structure SessionPhase where
  /-- No report is to come: the end was reported, or `disconnect` was called. -/
  closed : Bool := true
  /-- The task that will report the end. -/
  handling : Option TaskId := none
  deriving DecidableEq

namespace SessionPhase

def release (p : SessionPhase) (task : TaskId) : SessionPhase :=
  if p.handling = some task then { p with handling := none } else p

def after (p : SessionPhase) : Moment → SessionPhase
  -- who is READY already does not begin another session
  | .becomesReady _ state => if state = .ready then p else { p with closed := false }
  | .disconnectBegins _ state => if state = .ready then { p with closed := true } else p
  | .lossBegins task _ => { p with handling := some task }
  | .lossEnds task => p.release task
  | .callbacks task => { p.release task with closed := true }
  | _ => p

end SessionPhase

/-- A session begins. -/
def Moment.isSession : Moment → Bool
  | .becomesReady _ state => state ≠ .ready
  | _ => false

/-- The session is reported, or ended by `disconnect`. -/
def Moment.isEnd : Moment → Bool
  | .callbacks _ => true
  | .disconnectBegins _ state => state = .ready
  | _ => false

namespace MeshDevice

def session (s : MeshDevice) : SessionPhase := s.history.foldl SessionPhase.after {}

/-- A session has begun, and nothing has ended it since. -/
def Begun (history : List Moment) : Prop :=
  ∃ past begin since, history = past ++ begin :: since ∧ begin.isSession = true ∧
    ∀ moment ∈ since, moment.isEnd = false

/-- The callbacks are invoked for a session that is not reported yet, nor ended by
`disconnect`. -/
def ReportsOnce (history : List Moment) : Prop :=
  ∀ before task after, history = before ++ .callbacks task :: after → Begun before

end MeshDevice

/-! ### The condition -/

/-- A write fails with an `OSError` only while the link is being disconnected, or in a session
whose end nobody has reported or is about to report and which no `disconnect` ended; and
`disconnect` does not end a session that is about to be reported. -/
def oneReport : LoopGuard telinkSignature where
  starts
    | .linkDisconnect, s => s.state = .ready → s.session.handling = none
    | .disconnect, s => s.state = .ready → s.session.handling = none
    | _, _ => True
  answers
    | .writeCommand _ _, .error error, s => error.isOsError = true →
        s.state = .disconnecting ∨ s.session = { closed := false, handling := none }
    | .writeKeepAlive _ _, .error error, s => error.isOsError = true →
        s.state = .disconnecting ∨ s.session = { closed := false, handling := none }
    | _, _, _ => True
  joins
    | .stop, _, s => s.state = .ready → s.session.handling = none
    | _, _, _ => True

/-! ### The proof outline -/

namespace OneReport

open MeshDevice (Begun)

/-- The history is one of single reports, and who is about to report may do so. -/
structure Inv (s : MeshDevice) : Prop where
  once : MeshDevice.ReportsOnce s.history
  begun : s.session.closed = false → Begun s.history
  due : s.session.handling ≠ none → s.session.closed = false

/-- Who is about to report remains so. -/
def Rely (task : TaskId) (s s' : MeshDevice) : Prop :=
  s.session.handling = some task → s'.session.handling = some task

def outline : Discipline telinkSignature where
  toLoopGuard := oneReport
  inv := Inv
  rely := Rely
  pre _ code s := oneReport.starts code s
  rely_refl _ _ := id
  rely_trans first second := second ∘ first

variable {me task : TaskId} {s s' : MeshDevice} {moment : Moment}

/-! ### The history -/

theorem session_append (moment : Moment) (history : s'.history = s.history ++ [moment]) :
    s'.session = s.session.after moment := by
  rw [MeshDevice.session, history, List.foldl_append]
  rfl

theorem session_of_history (history : s'.history = s.history) : s'.session = s.session := by
  rw [MeshDevice.session, history]
  rfl

/-- A session is open because it begins, or because it was and nothing ends it. -/
theorem SessionPhase.opened (p : SessionPhase) (moment : Moment)
    (opened : (p.after moment).closed = false) :
    moment.isSession = true ∨ p.closed = false ∧ moment.isEnd = false := by
  cases moment with
  | becomesReady task state =>
    by_cases ready : state = .ready
    · rw [SessionPhase.after, if_pos ready] at opened
      exact .inr ⟨opened, rfl⟩
    · exact .inl (decide_eq_true ready)
  | disconnectBegins task state =>
    by_cases ready : state = .ready
    · rw [SessionPhase.after, if_pos ready] at opened
      cases opened
    · rw [SessionPhase.after, if_neg ready] at opened
      exact .inr ⟨opened, decide_eq_false ready⟩
  | lossEnds task =>
    refine .inr ⟨?_, rfl⟩
    rw [SessionPhase.after, SessionPhase.release] at opened
    split at opened <;> exact opened
  | callbacks task => cases opened
  | _ => exact .inr ⟨opened, rfl⟩

/-- What has begun and is not ended is open. -/
theorem begun_opened {history : List Moment} (begun : Begun history) :
    (history.foldl SessionPhase.after {}).closed = false := by
  obtain ⟨past, begin, since, rfl, session, goesOn⟩ := begun
  rw [List.foldl_append, List.foldl_cons]
  have opens : ∀ p : SessionPhase, (p.after begin).closed = false := by
    intro p
    cases begin with
    | becomesReady task state => rw [SessionPhase.after, if_neg (of_decide_eq_true session)]
    | _ => cases session
  -- only an end closes the session that has been opened
  have stays : ∀ (p : SessionPhase) (moment : Moment), p.closed = false → moment.isEnd = false →
      (p.after moment).closed = false := by
    intro p moment opened last
    cases moment with
    | becomesReady task state =>
      rw [SessionPhase.after]
      split
      · exact opened
      · rfl
    | disconnectBegins task state =>
      rw [SessionPhase.after, if_neg (of_decide_eq_false last)]
      exact opened
    | lossEnds task =>
      rw [SessionPhase.after, SessionPhase.release]
      split <;> exact opened
    | callbacks task => cases last
    | _ => exact opened
  generalize past.foldl SessionPhase.after {} = p
  have opened := opens p
  generalize p.after begin = q at opened
  induction since generalizing q with
  | nil => exact opened
  | cons moment since ih =>
    rw [List.foldl_cons]
    refine ih (fun other member => goesOn other (List.mem_cons_of_mem moment member)) _ ?_
    exact stays q moment opened (goesOn moment List.mem_cons_self)

theorem begun_append {history : List Moment} (begun : Begun history)
    (goesOn : moment.isEnd = false) : Begun (history ++ [moment]) := by
  obtain ⟨past, begin, since, rfl, session, open_⟩ := begun
  refine ⟨past, begin, since ++ [moment], by rw [List.append_assoc, List.cons_append], session, ?_⟩
  intro other member
  rcases List.mem_append.mp member with member | member
  · exact open_ other member
  · rw [List.mem_singleton.mp member]
    exact goesOn

theorem reportsOnce_append {history : List Moment} (before : MeshDevice.ReportsOnce history)
    (last : ∀ task, moment = .callbacks task → Begun history) :
    MeshDevice.ReportsOnce (history ++ [moment]) := by
  intro first task after split
  rcases List.eq_nil_or_concat after with rfl | ⟨init, final, rfl⟩
  · obtain ⟨rfl, same⟩ := List.append_inj' split rfl
    exact last task (List.cons.inj same).1
  · rw [List.concat_eq_append, ← List.cons_append, ← List.append_assoc] at split
    exact before first task init (List.append_inj' split rfl).1

/-- One more moment. -/
theorem Inv.append (inv : Inv s) (history : s'.history = s.history ++ [moment])
    (last : ∀ task, moment = .callbacks task → s.session.closed = false)
    (due : (s.session.after moment).handling ≠ none → (s.session.after moment).closed = false) :
    Inv s' := by
  have session := session_append moment history
  refine ⟨?_, fun opened => ?_, ?_⟩
  · rw [history]
    exact reportsOnce_append inv.once fun task same => inv.begun (last task same)
  · rw [session] at opened
    rw [history]
    rcases SessionPhase.opened s.session moment opened with begins | ⟨before, goesOn⟩
    · exact ⟨s.history, moment, [], rfl, begins, by rintro _ ⟨⟩⟩
    · exact begun_append (inv.begun before) goesOn
  · rw [session]
    exact due

theorem Inv.of_history (inv : Inv s) (history : s'.history = s.history) : Inv s' where
  once := by
    rw [history]
    exact inv.once
  begun := by
    rw [session_of_history history, history]
    exact inv.begun
  due := by
    rw [session_of_history history]
    exact inv.due

/-- Who reports does not change, and a session stays open. -/
theorem quiet_append (inv : Inv s) (history : s'.history = s.history ++ [moment])
    (last : ∀ task, moment ≠ .callbacks task)
    (handling : (s.session.after moment).handling = s.session.handling)
    (opened : s.session.closed = false → (s.session.after moment).closed = false) :
    outline.Guarantees me s s' ∧ Inv s' := by
  refine ⟨fun task _ reports => ?_, inv.append history (fun task same => ?_) fun due => ?_⟩
  · rw [session_append moment history, handling]
    exact reports
  · exact absurd same (last task)
  · rw [handling] at due
    exact opened (inv.due due)

theorem of_history (inv : Inv s) (history : s'.history = s.history) :
    outline.Guarantees me s s' ∧ Inv s' := by
  refine ⟨fun task _ reports => ?_, inv.of_history history⟩
  rw [session_of_history history]
  exact reports

/-! ### What changes nothing about the reports -/

theorem aside (change : Telink.Aside s s') (inv : Inv s) :
    outline.Guarantees me s s' ∧ Inv s' := by
  rcases change.history with same | ⟨moment, grown, beside⟩
  · exact of_history inv same
  · have unchanged : s.session.after moment = s.session := by
      cases moment <;> first | rfl | cases beside
    refine quiet_append inv grown ?_ (by rw [unchanged]) (by rw [unchanged]; exact id)
    rintro task rfl
    cases beside

/-- Connecting opens sessions, and does not change who reports. -/
theorem after_link (p : SessionPhase) (link : moment.isLink = true) :
    (p.after moment).handling = p.handling ∧
      (p.closed = false → (p.after moment).closed = false) := by
  cases moment with
  | becomesReady task state =>
    rw [SessionPhase.after]
    split
    · exact ⟨rfl, id⟩
    · exact ⟨rfl, fun _ => rfl⟩
  | _ => first | exact ⟨rfl, id⟩ | cases link

theorem link (change : Telink.LinkChange s s') (inv : Inv s) :
    outline.Guarantees me s s' ∧ Inv s' := by
  rcases change.history with same | ⟨moment, grown, link⟩
  · exact of_history inv same
  · obtain ⟨handling, opened⟩ := after_link s.session link
    refine quiet_append inv grown ?_ handling opened
    rintro task rfl
    cases link

/-! ### Reporting -/

/-- A task that is about to report. -/
def Reporting (me : TaskId) (s : MeshDevice) : Prop := Inv s ∧ s.session.handling = some me

theorem reporting_fact (me : TaskId) : Telink.LinkFact outline me (Reporting me) where
  inv _ reporting := reporting.1
  later _ _ reporting inv rely := ⟨inv, rely reporting.2⟩
  link s s' change reporting := by
    obtain ⟨guarantees, inv⟩ := link change reporting.1
    refine ⟨guarantees, inv, ?_⟩
    rcases change.history with same | ⟨moment, grown, link⟩
    · rw [session_of_history same]
      exact reporting.2
    · rw [session_append moment grown, (after_link s.session link).1]
      exact reporting.2

/-- Nobody else loses the task to report by what the task gives up. -/
theorem release_handling (p : SessionPhase) (other : task ≠ me)
    (reports : p.handling = some task) : (p.release me).handling = some task := by
  rw [SessionPhase.release, if_neg]
  · exact reports
  · rw [reports]
    exact fun same => other (Option.some.inj same)

theorem ends_loss (inv : Inv s) :
    (Telink.note (.lossEnds me)).wp outline me (fun _ s => Inv s) s := by
  refine ⟨fun task other reports => ?_, inv.append rfl (by rintro _ ⟨⟩) fun due => ?_⟩
  · rw [session_append (.lossEnds me) rfl]
    exact release_handling s.session other reports
  · rw [SessionPhase.after, SessionPhase.release] at due ⊢
    split
    · next mine =>
      rw [if_pos mine] at due
      exact absurd rfl due
    · next others =>
      rw [if_neg others] at due
      exact inv.due due

theorem wp_onDisconnect (reporting : Reporting me s) :
    (Telink.onDisconnect me).wp outline me (fun _ s => Inv s) s := by
  obtain ⟨inv, handling⟩ := reporting
  have still : s.session.closed = false := inv.due (by rw [handling]; exact Option.some_ne_none me)
  have cleared : outline.Guarantees me s { s with connectedEvent := false } ∧
      Inv { s with connectedEvent := false } := of_history inv rfl
  refine ⟨cleared.1, fun task other reports => ?_, cleared.2.append rfl (fun _ _ => still) ?_⟩
  · exact absurd (Option.some.inj (handling.symm.trans reports)).symm other
  · intro due
    have released : (s.session.release me).handling = none := by
      rw [SessionPhase.release, if_pos handling]
    exact absurd released due

/-- `_handle_disconnect`, where a failed write may lead to it. -/
theorem wp_handleDisconnect (inv : Inv s)
    (free : s.state = .disconnecting ∨ s.session = { closed := false, handling := none }) :
    Telink.handleDisconnect.wp outline me (fun _ s => Inv s) s := by
  unfold Telink.handleDisconnect
  rw [Coroutine.wp_read_bind]
  split
  · exact inv
  · next connected =>
    -- nobody is handling the loss yet, and now this task is
    have fresh := free.resolve_left connected
    have session : ({ s with history := s.history ++ [.lossBegins me s.state] } :
        MeshDevice).session = { closed := false, handling := some me } := by
      rw [session_append (.lossBegins me s.state) rfl, SessionPhase.after, fresh]
    have reporting : Reporting me { s with history := s.history ++ [.lossBegins me s.state] } := by
      refine ⟨inv.append rfl (by rintro _ ⟨⟩) fun _ => ?_, by rw [session]⟩
      rw [SessionPhase.after, fresh]
    rw [Coroutine.wp_currentTask_bind, Coroutine.wp_modify_bind]
    refine ⟨fun task _ reports => ?_, Coroutine.wp_ensuring (Coroutine.wp_bind ?_)⟩
    · rw [fresh] at reports
      cases reports
    · have ends : ∀ (result : Except PyError Unit) (s' : MeshDevice), Inv s' →
          (Telink.note (.lossEnds me)).wp outline me
            (Coroutine.wpFinal (fun _ s => Inv s) result) s' :=
        fun _ _ inv' => ends_loss inv'
      refine (reporting_fact me).cleanup.wp reporting fun result s₁ reporting₁ => ?_
      cases result with
      | error error => exact ends _ s₁ reporting₁.1
      | ok _ =>
        exact Coroutine.wp_mono (fun result s₂ inv₂ => ends result s₂ inv₂)
          (wp_onDisconnect reporting₁)

theorem freeLink : Telink.FreeLink outline where
  link _ _ _ change inv := link change inv
  loops _ code _ loop := by
    cases code with
    | keepAliveLoop => trivial
    | keepAliveAwake _ => trivial
    | _ => cases loop
  written _ _ _ _ _ inv answers os := wp_handleDisconnect inv (answers os)
  probed _ _ _ _ _ inv answers os := wp_handleDisconnect inv (answers os)

theorem noteWritten (command : Option QueuedCommand) :
    (Telink.noteWritten command).Keeps outline me Inv := by
  cases command with
  | none => exact Coroutine.keeps_pure _
  | some command =>
    exact Coroutine.keeps_modify fun _ inv => quiet_append inv rfl (by rintro _ ⟨⟩) rfl id

theorem linkOutline : Telink.LinkOutline outline where
  aside _ _ _ change inv := aside change inv
  waits _ _ inv _ _ := quiet_append inv rfl (by rintro _ ⟨⟩) rfl id
  loops _ code _ link device := by
    cases code with
    | linkDisconnect => cases link
    | disconnect => cases device
    | _ => trivial
  write _ c command packet := freeLink.writeCommand c command packet (noteWritten command)
  loss := freeLink.probed

theorem keeps_start : Telink.start.Keeps outline me Inv :=
  fun _ inv => linkOutline.wp_start inv fun _ => of_history inv rfl

/-! ### `disconnect` -/

theorem wp_linkDisconnect (inv : Inv s)
    (free : s.state = .ready → s.session.handling = none) :
    Telink.linkDisconnect.wp outline me (fun _ s => Inv s) s := by
  refine freeLink.wp_linkDisconnect inv fun _ => ⟨fun task _ reports => ?_, ?_⟩
  · rw [session_append (.disconnectBegins me s.state) rfl, SessionPhase.after]
    split <;> exact reports
  · refine inv.append rfl (by rintro _ ⟨⟩) fun due => ?_
    rw [SessionPhase.after] at due ⊢
    split
    · next ready =>
      rw [if_pos ready] at due
      exact absurd (free ready) due
    · next other =>
      rw [if_neg other] at due
      exact inv.due due

theorem wp_disconnect (inv : Inv s) (free : s.state = .ready → s.session.handling = none) :
    Telink.disconnect.wp outline me (fun _ s => Inv s) s := by
  unfold Telink.disconnect
  apply Coroutine.wp_bind
  refine linkOutline.wp_stop inv (fun _ => ?_) (fun _ => ?_) ?_ fun _ _ inv' => inv'
  · exact wp_linkDisconnect inv free
  · exact wp_linkDisconnect (inv.of_history rfl) free
  · exact fun _ s' inv' free' => wp_linkDisconnect (inv'.of_history rfl) free'

/-! ### Runs -/

theorem verifies (c : TelinkConfig) (entries : TelinkCode → Bool) :
    outline.Verifies (telinkProgram c entries) where
  body code me s inv pre := by
    have O := linkOutline
    cases code with
    | linkConnect maxRetries => exact freeLink.linkConnect c maxRetries s inv
    | linkDisconnect => exact wp_linkDisconnect inv pre
    | linkWrite packet => exact freeLink.writeCommand c none packet (noteWritten none) s inv
    | connect maxRetries => exact freeLink.connect c maxRetries keeps_start s inv
    | disconnect => exact wp_disconnect inv pre
    | sendCommand opcode params destId => exact O.enqueue c opcode params destId s inv
    | keepAliveLoop => exact O.keepAlive.keepAliveLoop s inv
    | keepAliveAwake answer => exact O.keepAlive.keepAliveAwake c answer s inv
    | worker => exact O.workerHead s inv
    | workerGot answer => exact O.workerGot c answer s inv
    | workerWaited command answer => exact O.workerWaited c command answer s inv
    | workerRested answer => exact O.workerRested answer s inv
  entry _ _ _ _ _ starts := starts
  environment duration s s' inv happens := by
    obtain ⟨_, rfl⟩ : 0 ≤ duration ∧ { s with now := s.now + duration } = s' := by
      simpa [telinkProgram, Telink.elapse] using happens
    exact ⟨inv.of_history rfl, fun task reports => reports⟩

theorem inv_idle : Inv {} where
  once := by
    intro before task after split
    cases before <;> cases split
  begun := by rintro ⟨⟩
  due := fun due => absurd rfl due

end OneReport

instance (code : TelinkCode) (s : MeshDevice) : Decidable (oneReport.starts code s) :=
  match code with
  | .linkConnect _ => isTrue trivial
  | .linkDisconnect => inferInstanceAs (Decidable (_ → _))
  | .linkWrite _ => isTrue trivial
  | .connect _ => isTrue trivial
  | .disconnect => inferInstanceAs (Decidable (_ → _))
  | .sendCommand _ _ _ => isTrue trivial
  | .keepAliveLoop => isTrue trivial
  | .keepAliveAwake _ => isTrue trivial
  | .worker => isTrue trivial
  | .workerGot _ => isTrue trivial
  | .workerWaited _ _ => isTrue trivial
  | .workerRested _ => isTrue trivial

instance (op : TelinkOp) (answer : Except PyError op.Answer) (s : MeshDevice) :
    Decidable (oneReport.answers op answer s) :=
  match op, answer with
  | .writeCommand _ _, .error _ => inferInstanceAs (Decidable (_ = true → _))
  | .writeKeepAlive _ _, .error _ => inferInstanceAs (Decidable (_ = true → _))
  | .writeCommand _ _, .ok _ => isTrue trivial
  | .writeKeepAlive _ _, .ok _ => isTrue trivial
  | .findDevice, _ => isTrue trivial
  | .establishConnection, _ => isTrue trivial
  | .connectPause _ _, _ => isTrue trivial
  | .provision _, _ => isTrue trivial
  | .readFirmware _, _ => isTrue trivial
  | .startNotify _, _ => isTrue trivial
  | .disconnectClient _ _, _ => isTrue trivial
  | .keepAliveSleep, _ => isTrue trivial
  | .queueGet, _ => isTrue trivial
  | .connectedWait _, _ => isTrue trivial
  | .retrySleep _ _, _ => isTrue trivial
  | .errorSleep, _ => isTrue trivial

instance (site : CallSite) (result : Except PyError Unit) (s : MeshDevice) :
    Decidable (oneReport.joins site result s) :=
  match site with
  | .disconnect => isTrue trivial
  | .loss => isTrue trivial
  | .provisioning => isTrue trivial
  | .connect => isTrue trivial
  | .restart => isTrue trivial
  | .stop => inferInstanceAs (Decidable (_ → _))

namespace MeshDevice

/-- In every run in which failed writes do not overlap with each other or with the end of their
session, each session is reported at most once, and not when `disconnect` ended it. -/
theorem reportsOnce {c : TelinkConfig} {events : List (LoopEvent telinkSignature Rat)}
    {w : EventLoop telinkSignature}
    (guarded : (telinkLinkSystem c).Guarded oneReport.Permits idle events)
    (ran : (telinkLinkSystem c).exec idle events = some w) : ReportsOnce w.shared.history :=
  ((OneReport.verifies c _).exec OneReport.inv_idle guarded ran).once

/-- A client that two callers write to. -/
def writersRun : List (LoopEvent telinkSignature Rat) :=
  [.enter (.linkConnect 5), .start 0] ++ connectAnswers 0 7 ++
    [.answer 0 (.startNotify 7) (.ok ()), .start 1, .enter (.linkWrite [0x01]),
      .enter (.linkWrite [0x02]), .start 2, .start 3]

/-- A write fails, and its caller reports the end of the session. -/
def lossAnswers (task : TaskId) (packet : Bytes) : List (LoopEvent telinkSignature Rat) :=
  [.answer task (.writeCommand 7 packet) (.error .osError),
    .answer 1 .keepAliveSleep (.error .cancelledError), .joined task,
    .answer task (.disconnectClient 7 .loss) (.ok ())]

theorem lostWrite_reportsOnce :
    ∃ w ∈ (telinkLinkSystem sampleTelink).exec idle (writersRun ++ lossAnswers 2 [0x01]),
      .callbacks 2 ∈ w.shared.history ∧ ReportsOnce w.shared.history := by
  have runs : ∃ w ∈ (telinkLinkSystem sampleTelink).exec idle (writersRun ++ lossAnswers 2 [0x01]),
      .callbacks 2 ∈ w.shared.history := by
    decide +kernel
  obtain ⟨w, ran, reported⟩ := runs
  exact ⟨w, ran, reported, reportsOnce (by decide +kernel) ran⟩

/-- Both writes to the client fail. -/
def twoWritesRun : List (LoopEvent telinkSignature Rat) :=
  writersRun ++ lossAnswers 2 [0x01] ++ [.answer 3 (.writeCommand 7 [0x02]) (.error .osError)]

/-- A write fails after `disconnect`. -/
def lateWriteRun : List (LoopEvent telinkSignature Rat) :=
  writersRun ++ [.enter .linkDisconnect, .start 4,
    .answer 1 .keepAliveSleep (.error .cancelledError), .joined 4,
    .answer 4 (.disconnectClient 7 .disconnect) (.ok ()),
    .answer 3 (.writeCommand 7 [0x02]) (.error .osError)]

/-- Both callers report the end of the session; and a session is reported that `disconnect` has
ended. -/
theorem twoWrites_notOnce :
    (∃ w ∈ (telinkLinkSystem sampleTelink).exec idle twoWritesRun,
      w.shared.history = [.connectBegins 0, .becomesReady 0 .pairing, .connectReturns 0 .ready,
          .lossBegins 2 .ready, .callbacks 2, .lossEnds 2, .lossBegins 3 .disconnected] ++
            .callbacks 3 :: [.lossEnds 3] ∧ ¬ReportsOnce w.shared.history) ∧
    ∃ w ∈ (telinkLinkSystem sampleTelink).exec idle lateWriteRun,
      w.shared.history = [.connectBegins 0, .becomesReady 0 .pairing, .connectReturns 0 .ready,
          .disconnectBegins 4 .ready, .disconnectEnds 4, .lossBegins 3 .disconnected] ++
            .callbacks 3 :: [.lossEnds 3] ∧ ¬ReportsOnce w.shared.history := by
  -- the session is closed when task 3 reports
  constructor
  · have reported : ∃ w ∈ (telinkLinkSystem sampleTelink).exec idle twoWritesRun,
        w.shared.history = [.connectBegins 0, .becomesReady 0 .pairing, .connectReturns 0 .ready,
          .lossBegins 2 .ready, .callbacks 2, .lossEnds 2, .lossBegins 3 .disconnected] ++
            .callbacks 3 :: [.lossEnds 3] := by
      decide +kernel
    obtain ⟨w, ran, history⟩ := reported
    refine ⟨w, ran, history, fun once => ?_⟩
    cases OneReport.begun_opened (once _ 3 _ history)
  · have reported : ∃ w ∈ (telinkLinkSystem sampleTelink).exec idle lateWriteRun,
        w.shared.history = [.connectBegins 0, .becomesReady 0 .pairing, .connectReturns 0 .ready,
          .disconnectBegins 4 .ready, .disconnectEnds 4, .lossBegins 3 .disconnected] ++
            .callbacks 3 :: [.lossEnds 3] := by
      decide +kernel
    obtain ⟨w, ran, history⟩ := reported
    refine ⟨w, ran, history, fun once => ?_⟩
    cases OneReport.begun_opened (once _ 3 _ history)

end MeshDevice

end TuyaBleMesh
