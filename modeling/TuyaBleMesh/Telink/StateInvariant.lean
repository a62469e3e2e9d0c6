import TuyaBleMesh.Telink.Rules

/-!
# The state of the connection

READY stands for a client and a session key, DISCONNECTED for none of the two and no
keep-alive task. Connecting and cleaning up change the four fields in several steps
with awaits in between, so this holds as long as the two do not overlap.
-/

namespace TuyaBleMesh

/-- Who is connecting and who is cleaning up. -/
structure LinkPhase where
  /-- The call of `connect` that has yet to become READY. -/
  opening : Option TaskId := none
  /-- The calls of `disconnect` and `_handle_disconnect` that are cleaning up. -/
  closing : List TaskId := []
  deriving DecidableEq

namespace LinkPhase

def after (p : LinkPhase) : Moment → LinkPhase
  | .connectBegins task => { p with opening := some task }
  | .becomesReady _ _ => { p with opening := none }
  | .connectRaises task => { p with opening := if p.opening = some task then none else p.opening }
  | .disconnectBegins task _ => { p with closing := task :: p.closing }
  | .disconnectEnds task => { p with closing := p.closing.erase task }
  | .lossBegins task _ => { p with closing := task :: p.closing }
  | .lossEnds task => { p with closing := p.closing.erase task }
  | _ => p

end LinkPhase

/-- A disconnect, by a call or after a failed write. -/
def Moment.isDrop : Moment → Bool
  | .disconnectBegins _ _ => true
  | .lossBegins _ _ => true
  | _ => false

namespace MeshDevice

def phase (s : MeshDevice) : LinkPhase := s.history.foldl LinkPhase.after {}

/-- READY means that the client and a key that the device gave are there. -/
def ReadyHolds (s : MeshDevice) : Prop :=
  s.state = .ready → s.client.isSome = true ∧ ∃ key ∈ s.keys, s.sessionKey = some key

/-- DISCONNECTED with no `connect` on its way to READY means that nothing is left. -/
def DisconnectedHolds (s : MeshDevice) : Prop :=
  s.state = .disconnected → s.phase.opening = none →
    s.client = none ∧ s.sessionKey = none ∧ s.keepAliveTask = none

/-- Each call of `connect` that has returned left the state READY, unless a disconnect came
after it had become READY. -/
def ReturnsReady (history : List Moment) : Prop :=
  ∀ before task state after, history = before ++ .connectReturns task state :: after →
    state = .ready ∨ ∃ past earlier since, before = past ++ .becomesReady task earlier :: since ∧
      ∃ moment ∈ since, moment.isDrop = true

/-- The fields of the connection are in order. -/
structure InOrder (s : MeshDevice) : Prop where
  ready : s.ReadyHolds
  disconnected : s.DisconnectedHolds
  returns : ReturnsReady s.history

/-- Nobody is connecting or cleaning up, and nothing is left of an earlier connection that the
attempts do not replace. -/
def Vacant (s : MeshDevice) (maxRetries : Nat) : Prop :=
  s.phase.opening = none ∧ s.phase.closing = [] ∧ s.sessionKey = none ∧ s.keepAliveTask = none ∧
    (maxRetries = 0 → s.client = none)

instance (s : MeshDevice) (maxRetries : Nat) : Decidable (s.Vacant maxRetries) :=
  inferInstanceAs (Decidable (_ ∧ _))

end MeshDevice

/-! ### The condition -/

/-- `connect` goes on only when no other call is connecting or cleaning up and nothing is left of
an earlier one; `disconnect` only when no call is connecting; no write fails while the state is
READY or a call is connecting, unless the link is being disconnected; and the keep-alive timer is
started again only while the state is READY. -/
def separateCalls : LoopGuard telinkSignature where
  starts
    | .linkConnect maxRetries, s => s.state = .ready ∨ s.Vacant maxRetries
    | .connect maxRetries, s => s.state = .ready ∨ s.Vacant maxRetries
    | .linkDisconnect, s => s.state = .disconnected ∨ s.phase.opening = none
    | .disconnect, s => s.state = .disconnected ∨ s.phase.opening = none
    | _, _ => True
  answers
    | .writeCommand _ _, .error error, s => error.isOsError = true →
        s.state = .disconnecting ∨ s.state ≠ .ready ∧ s.phase.opening = none
    | .writeKeepAlive _ _, .error error, s => error.isOsError = true →
        s.state = .disconnecting ∨ s.state ≠ .ready ∧ s.phase.opening = none
    | _, _, _ => True
  joins
    | .restart, _, s => s.state = .ready
    | .stop, _, s => s.state = .disconnected ∨ s.phase.opening = none
    | _, _, _ => True

/-! ### The proof outline -/

namespace LinkOrder

/-- Between two states: the history has grown, and READY was left only by a disconnect. -/
def Stays (s s' : MeshDevice) : Prop :=
  ∃ since, s'.history = s.history ++ since ∧
    (s.state = .ready → s'.state = .ready ∨ ∃ moment ∈ since, moment.isDrop = true)

/-- What a task that is connecting counts on. -/
def Reserved (task : TaskId) (s s' : MeshDevice) : Prop :=
  s.phase.opening = some task → s'.phase.opening = some task ∧ s'.state = s.state ∧
    s'.client = s.client ∧ s'.sessionKey = s.sessionKey ∧ s'.keepAliveTask = s.keepAliveTask

/-- A task that is not connecting does not find itself connecting. -/
def Apart (task : TaskId) (s s' : MeshDevice) : Prop :=
  s.phase.opening ≠ some task → s'.phase.opening ≠ some task

/-- What a task that is cleaning up counts on. -/
def Emptied (task : TaskId) (s s' : MeshDevice) : Prop :=
  task ∈ s.phase.closing → task ∈ s'.phase.closing ∧
    (s.sessionKey = none → s'.sessionKey = none) ∧
      (s.keepAliveTask = none → s'.keepAliveTask = none)

structure Rely (task : TaskId) (s s' : MeshDevice) : Prop where
  stays : Stays s s'
  reserved : Reserved task s s'
  apart : Apart task s s'
  emptied : Emptied task s s'

structure Inv (s : MeshDevice) : Prop extends s.InOrder where
  key : ∀ key, s.sessionKey = some key → key ∈ s.keys
  opening : s.phase.opening ≠ none → s.phase.closing = [] ∧ s.state ≠ .ready
  closing : s.phase.closing ≠ [] → s.state ≠ .ready

theorem Rely.refl (task : TaskId) (s : MeshDevice) : Rely task s s where
  stays := ⟨[], (List.append_nil _).symm, .inl⟩
  reserved opening := ⟨opening, rfl, rfl, rfl, rfl⟩
  apart := id
  emptied closing := ⟨closing, id, id⟩

theorem Stays.trans {s s' s'' : MeshDevice} (first : Stays s s') (second : Stays s' s'') :
    Stays s s'' := by
  obtain ⟨since, history, ready⟩ := first
  obtain ⟨since', history', ready'⟩ := second
  refine ⟨since ++ since', by rw [history', history, List.append_assoc], fun before => ?_⟩
  -- READY until the first drop of either stretch
  rcases ready before with still | ⟨moment, member, drop⟩
  · rcases ready' still with still | ⟨moment, member, drop⟩
    · exact .inl still
    · exact .inr ⟨moment, List.mem_append_right _ member, drop⟩
  · exact .inr ⟨moment, List.mem_append_left _ member, drop⟩

theorem Rely.trans {task : TaskId} {s s' s'' : MeshDevice} (first : Rely task s s')
    (second : Rely task s' s'') : Rely task s s'' where
  stays := first.stays.trans second.stays
  reserved opening := by
    obtain ⟨opening', state, client, key, keepAlive⟩ := first.reserved opening
    obtain ⟨opening'', state', client', key', keepAlive'⟩ := second.reserved opening'
    exact ⟨opening'', state'.trans state, client'.trans client, key'.trans key,
      keepAlive'.trans keepAlive⟩
  apart := second.apart ∘ first.apart
  emptied closing := by
    obtain ⟨closing', key, keepAlive⟩ := first.emptied closing
    obtain ⟨closing'', key', keepAlive'⟩ := second.emptied closing'
    exact ⟨closing'', key' ∘ key, keepAlive' ∘ keepAlive⟩

/-- The outline: connecting and cleaning up exclude each other. -/
def outline : Discipline telinkSignature where
  toLoopGuard := separateCalls
  inv := Inv
  rely := Rely
  pre _ code s := separateCalls.starts code s
  rely_refl := Rely.refl
  rely_trans := Rely.trans

variable {me task : TaskId} {s s' : MeshDevice}

/-! ### Steps that the others count on -/

theorem Stays.of_history (history : s'.history = s.history)
    (ready : s.state = .ready → s'.state = .ready) : Stays s s' :=
  ⟨[], by rw [history, List.append_nil], fun before => .inl (ready before)⟩

theorem phase_of_history (history : s'.history = s.history) : s'.phase = s.phase := by
  rw [MeshDevice.phase, history]
  rfl

theorem apart_of_history (history : s'.history = s.history) : Apart task s s' := by
  unfold Apart
  rw [phase_of_history history]
  exact id

/-- While nobody connects and the state is not READY, all may be changed as long as nothing is
created. -/
theorem guarantees_closing (opening : s.phase.opening = none) (notReady : s.state ≠ .ready)
    (history : s'.history = s.history) (key : s.sessionKey = none → s'.sessionKey = none)
    (keepAlive : s.keepAliveTask = none → s'.keepAliveTask = none) :
    outline.Guarantees me s s' := by
  intro task other
  refine ⟨Stays.of_history history fun ready => absurd ready notReady, ?_, ?_, ?_⟩
  · intro reserved
    rw [opening] at reserved
    cases reserved
  · exact apart_of_history history
  · intro closing
    rw [phase_of_history history]
    exact ⟨closing, key, keepAlive⟩

/-- The task that is connecting may change all. -/
theorem guarantees_opening (opening : s.phase.opening = some me) (closing : s.phase.closing = [])
    (notReady : s.state ≠ .ready) (history : s'.history = s.history) :
    outline.Guarantees me s s' := by
  intro task other
  refine ⟨Stays.of_history history fun ready => absurd ready notReady, ?_, ?_, ?_⟩
  -- the reservation is for this task, so no other one counts on it
  · intro reserved
    rw [opening] at reserved
    exact absurd (Option.some.inj reserved).symm other
  · exact apart_of_history history
  · intro member
    rw [closing] at member
    cases member

/-- In READY the keep-alive timer may be replaced. -/
theorem guarantees_ready (opening : s.phase.opening = none) (closing : s.phase.closing = [])
    (history : s'.history = s.history) (state : s'.state = s.state) :
    outline.Guarantees me s s' := by
  intro task other
  refine ⟨Stays.of_history history fun ready => state.trans ready, ?_, ?_, ?_⟩
  · intro reserved
    rw [opening] at reserved
    cases reserved
  · exact apart_of_history history
  · intro member
    rw [closing] at member
    cases member

/-! ### The history -/

/-- One more moment. -/
theorem phase_append (moment : Moment) (history : s'.history = s.history ++ [moment]) :
    s'.phase = s.phase.after moment := by
  rw [MeshDevice.phase, history, List.foldl_append]
  rfl

theorem returnsReady_append {history : List Moment} {moment : Moment}
    (before : MeshDevice.ReturnsReady history)
    (last : ∀ task state, moment = .connectReturns task state → state = .ready ∨
      ∃ past earlier since, history = past ++ .becomesReady task earlier :: since ∧
        ∃ moment ∈ since, moment.isDrop = true) :
    MeshDevice.ReturnsReady (history ++ [moment]) := by
  intro first task state after split
  -- the last moment is a return of its own, or the return was there before
  rcases List.eq_nil_or_concat after with rfl | ⟨init, final, rfl⟩
  · obtain ⟨rfl, same⟩ := List.append_inj' split rfl
    exact last task state (List.cons.inj same).1
  · rw [List.concat_eq_append, ← List.cons_append, ← List.append_assoc] at split
    exact before first task state init (List.append_inj' split rfl).1

/-- Nothing of the connection changes. -/
structure Alike (s s' : MeshDevice) : Prop where
  state : s'.state = s.state
  client : s'.client = s.client
  sessionKey : s'.sessionKey = s.sessionKey
  keepAliveTask : s'.keepAliveTask = s.keepAliveTask
  keys : s'.keys = s.keys
  history : s'.history = s.history ∨ ∃ moment, s'.history = s.history ++ [moment] ∧
    s.phase.after moment = s.phase ∧ ∀ task state, moment ≠ .connectReturns task state

/-- The queue and the worker leave the connection alone. -/
theorem Alike.of_aside (aside : Telink.Aside s s') : Alike s s' where
  state := aside.state
  client := aside.client
  sessionKey := aside.sessionKey
  keepAliveTask := aside.keepAliveTask
  keys := aside.keys
  history := by
    rcases aside.history with same | ⟨moment, grown, beside⟩
    · exact .inl same
    · refine .inr ⟨moment, grown, ?_, ?_⟩
      · cases moment <;> first | rfl | cases beside
      · rintro task state rfl
        cases beside

theorem Alike.phase (alike : Alike s s') : s'.phase = s.phase := by
  rcases alike.history with same | ⟨moment, grown, quiet, _⟩
  · exact phase_of_history same
  · rw [phase_append moment grown, quiet]

theorem Alike.rely (alike : Alike s s') : Rely task s s' where
  stays := by
    rcases alike.history with same | ⟨moment, grown, _, _⟩
    · exact Stays.of_history same fun ready => alike.state.trans ready
    · exact ⟨[moment], grown, fun ready => .inl (alike.state.trans ready)⟩
  reserved opening := by
    rw [alike.phase]
    exact ⟨opening, alike.state, alike.client, alike.sessionKey, alike.keepAliveTask⟩
  apart := by
    unfold Apart
    rw [alike.phase]
    exact id
  emptied closing := by
    rw [alike.phase, alike.sessionKey, alike.keepAliveTask]
    exact ⟨closing, id, id⟩

theorem Alike.inv (alike : Alike s s') (inv : Inv s) : Inv s' where
  ready := by
    unfold MeshDevice.ReadyHolds
    rw [alike.state, alike.client, alike.sessionKey, alike.keys]
    exact inv.ready
  disconnected := by
    unfold MeshDevice.DisconnectedHolds
    rw [alike.state, alike.phase, alike.client, alike.sessionKey, alike.keepAliveTask]
    exact inv.disconnected
  returns := by
    rcases alike.history with same | ⟨moment, grown, _, quiet⟩
    · rw [same]
      exact inv.returns
    · rw [grown]
      exact returnsReady_append inv.returns fun task state same => absurd same (quiet task state)
  key := by
    rw [alike.sessionKey, alike.keys]
    exact inv.key
  opening := by
    rw [alike.phase, alike.state]
    exact inv.opening
  closing := by
    rw [alike.phase, alike.state]
    exact inv.closing

theorem keeps_update {f : MeshDevice → MeshDevice} (alike : ∀ s, Alike s (f s)) :
    (Telink.update f).Keeps outline me Inv :=
  Coroutine.keeps_modify fun s inv => ⟨fun _ _ => (alike s).rely, (alike s).inv inv⟩

theorem keeps_note {moment : Moment} (quiet : ∀ p : LinkPhase, p.after moment = p)
    (silent : ∀ task state, moment ≠ .connectReturns task state) :
    (Telink.note moment).Keeps outline me Inv :=
  keeps_update fun _ => ⟨rfl, rfl, rfl, rfl, rfl, .inr ⟨moment, rfl, quiet _, silent⟩⟩

/-! ### Cleaning up -/

/-- A task that cleans up can go on. -/
def Cleaning (me : TaskId) (s : MeshDevice) : Prop := Inv s ∧ me ∈ s.phase.closing

theorem Cleaning.calm (cleaning : Cleaning me s) :
    s.phase.opening = none ∧ s.state ≠ .ready := by
  obtain ⟨inv, member⟩ := cleaning
  refine ⟨?_, inv.closing (List.ne_nil_of_mem member)⟩
  -- somebody connecting means that nobody cleans up
  by_contra opening
  rw [(inv.opening opening).1] at member
  cases member

/-- What other tasks leave to a task that cleans up. -/
theorem Cleaning.later (cleaning : Cleaning me s) (inv : Inv s') (rely : Rely me s s') :
    Cleaning me s' := ⟨inv, (rely.emptied cleaning.2).1⟩

theorem wp_stopKeepAlive {site : CallSite} {post : Except PyError Unit → MeshDevice → Prop}
    (cleaning : Cleaning me s)
    (failed : ∀ error s', Cleaning me s' → post (.error error) s')
    (stopped : ∀ s', Cleaning me s' → s'.keepAliveTask = none → post (.ok ()) s') :
    (Telink.stopKeepAlive site).wp outline me post s := by
  refine Telink.wp_stopKeepAlive (stopped s cleaning) (fun _ => cleaning.1) ?_ ?_
  · intro _ _ s' inv rely _
    have cleaning' := cleaning.later inv rely
    obtain ⟨opening, notReady⟩ := cleaning'.calm
    refine ⟨guarantees_closing opening notReady rfl id fun _ => rfl, stopped _ ⟨?_, cleaning'.2⟩ rfl⟩
    -- giving up the timer is what DISCONNECTED asks for anyway
    refine { inv with disconnected := fun state opening => ?_ }
    obtain ⟨client, key, _⟩ := inv.disconnected state opening
    exact ⟨client, key, rfl⟩
  · intro _ error s' inv rely _
    exact failed error s' (cleaning.later inv rely)

/-- Cleaning up empties the fields, and sets the state when it is done. -/
theorem wp_cleanup {site : CallSite} {post : Except PyError Unit → MeshDevice → Prop}
    (cleaning : Cleaning me s) (ends : ∀ result s', Cleaning me s' → post result s') :
    (Telink.cleanup site).wp outline me post s := by
  unfold Telink.cleanup
  apply Coroutine.wp_bind
  refine wp_stopKeepAlive cleaning (fun error s' cleaning' => ends _ s' cleaning') ?_
  intro s₁ cleaning₁ timer
  obtain ⟨opening, notReady⟩ := cleaning₁.calm
  unfold Telink.clearSessionKey
  rw [Coroutine.wpRest_ok, Coroutine.wp_modify_bind]
  refine ⟨guarantees_closing opening notReady rfl id id, ?_⟩
  -- the key is overwritten and given up in one step
  apply Coroutine.wp_bind
  rw [Coroutine.wp_modify_bind, Coroutine.wp_modify]
  refine ⟨guarantees_closing opening notReady rfl (fun absent => by rw [absent]; rfl) id,
    guarantees_closing opening notReady rfl (fun _ => rfl) id, ?_⟩
  rw [Coroutine.wpRest_ok]
  -- without a key nothing is said of the keys any more
  have cleared : Cleaning me { s₁ with notifyActive := false, sessionKey := none } := by
    refine ⟨{ cleaning₁.1 with ready := ?_, disconnected := ?_, key := ?_ }, cleaning₁.2⟩
    · exact fun ready => absurd ready notReady
    · intro state opening
      exact ⟨(cleaning₁.1.disconnected state opening).1, rfl, timer⟩
    · rintro key ⟨⟩
  -- the last step sets DISCONNECTED, when all three fields are empty
  have finishes : ∀ s' : MeshDevice, Cleaning me s' → s'.client = none → s'.sessionKey = none →
      s'.keepAliveTask = none →
        (Telink.update fun s => { s with state := .disconnected }).wp outline me post s' := by
    intro s' cleaning' client key timer
    obtain ⟨opening, notReady⟩ := cleaning'.calm
    refine ⟨guarantees_closing opening notReady rfl id id, ends _ _ ⟨?_, cleaning'.2⟩⟩
    exact
      { cleaning'.1 with
        ready := by rintro ⟨⟩
        disconnected := fun _ _ => ⟨client, key, timer⟩
        opening := fun taken => absurd opening taken
        closing := by rintro _ ⟨⟩ }
  apply Coroutine.wp_bind
  refine Telink.wp_dropClient (fun client => finishes _ cleared client rfl timer)
    (fun _ => cleared.1) ?_ ?_
  · intro _ _ s₂ inv rely _ _
    have cleaning₂ := cleared.later inv rely
    -- other tasks leave empty what the cleaning has emptied
    obtain ⟨_, key, timer'⟩ := rely.emptied cleared.2
    obtain ⟨opening, notReady⟩ := cleaning₂.calm
    refine ⟨guarantees_closing opening notReady rfl id id, ?_⟩
    refine finishes _ ⟨?_, cleaning₂.2⟩ rfl (key rfl) (timer' timer)
    exact
      { inv with
        ready := fun ready => absurd ready notReady
        disconnected := fun state opening =>
          ⟨rfl, (inv.disconnected state opening).2⟩ }
  · intro error s₂ inv rely
    exact ends _ s₂ (cleared.later inv rely)

theorem Alike.cleaning (alike : Alike s s') (cleaning : Cleaning me s) : Cleaning me s' := by
  refine ⟨alike.inv cleaning.1, ?_⟩
  rw [alike.phase]
  exact cleaning.2

/-- A call begins to clean up. -/
theorem begins_cleaning {state : ConnectionState} (moment : Moment) (inv : Inv s)
    (opening : s.phase.opening = none)
    (after : ∀ p : LinkPhase, p.after moment = { p with closing := me :: p.closing })
    (drop : moment.isDrop = true)
    (leaves : state = .disconnecting ∨ state = s.state ∧ s.state ≠ .ready) :
    outline.Guarantees me s { s with state, history := s.history ++ [moment] } ∧
      Cleaning me { s with state, history := s.history ++ [moment] } := by
  have phase : ({ s with state, history := s.history ++ [moment] } : MeshDevice).phase =
      { s.phase with closing := me :: s.phase.closing } := by
    rw [phase_append moment rfl, after]
  -- `disconnect` sets the state, `_handle_disconnect` finds it so
  have notReady : state ≠ .ready := by
    rcases leaves with rfl | ⟨rfl, notReady⟩
    · rintro ⟨⟩
    · exact notReady
  refine ⟨fun task other => ⟨⟨[moment], rfl, fun _ => ?_⟩, ?_, ?_, ?_⟩, ⟨?_, ?_⟩⟩
  · exact .inr ⟨moment, List.mem_singleton_self _, drop⟩
  · intro reserved
    rw [opening] at reserved
    cases reserved
  · unfold Apart
    rw [phase]
    exact id
  · intro member
    rw [phase]
    exact ⟨List.mem_cons_of_mem me member, id, id⟩
  · exact
      { ready := fun ready => absurd ready notReady
        disconnected := by
          intro disconnected _
          rcases leaves with rfl | ⟨rfl, _⟩
          · cases disconnected
          · exact inv.disconnected disconnected opening
        returns := by
          refine returnsReady_append inv.returns ?_
          rintro task st rfl
          cases drop
        key := inv.key
        opening := by
          rw [phase]
          exact fun taken => absurd opening taken
        closing := fun _ => notReady }
  · rw [phase]
    exact List.mem_cons_self

/-- A call ends to clean up. -/
theorem ends_cleaning {moment : Moment} (cleaning : Cleaning me s)
    (after : ∀ p : LinkPhase, p.after moment = { p with closing := p.closing.erase me })
    (silent : ∀ task state, moment ≠ .connectReturns task state) :
    outline.Guarantees me s { s with history := s.history ++ [moment] } ∧
      Inv { s with history := s.history ++ [moment] } := by
  obtain ⟨opening, notReady⟩ := cleaning.calm
  have phase : ({ s with history := s.history ++ [moment] } : MeshDevice).phase =
      { s.phase with closing := s.phase.closing.erase me } := by
    rw [phase_append moment rfl, after]
  refine ⟨fun task other => ⟨⟨[moment], rfl, .inl⟩, ?_, ?_, ?_⟩, ?_⟩
  · intro reserved
    rw [opening] at reserved
    cases reserved
  · unfold Apart
    rw [phase]
    exact id
  · intro member
    rw [phase]
    exact ⟨(List.mem_erase_of_ne other).mpr member, id, id⟩
  · exact
      { ready := cleaning.1.ready
        disconnected := fun disconnected _ => cleaning.1.disconnected disconnected opening
        returns := returnsReady_append cleaning.1.returns fun task state same =>
          absurd same (silent task state)
        key := cleaning.1.key
        opening := by
          rw [phase]
          exact fun taken => absurd opening taken
        closing := fun _ => notReady }

/-- `disconnect`, when nobody is connecting. -/
theorem wp_linkDisconnect (inv : Inv s) (free : s.state = .disconnected ∨ s.phase.opening = none) :
    Telink.linkDisconnect.wp outline me (fun _ s => Inv s) s := by
  unfold Telink.linkDisconnect
  rw [Coroutine.wp_read_bind]
  split
  · exact inv
  -- the state is DISCONNECTING before the first pause
  · next connected =>
    have opening := free.resolve_left connected
    obtain ⟨guarantees, cleaning⟩ := begins_cleaning (.disconnectBegins me s.state) inv opening
      (fun _ => rfl) rfl (.inl rfl)
    rw [Coroutine.wp_currentTask_bind, Coroutine.wp_modify_bind]
    refine ⟨guarantees, Coroutine.wp_ensuring (wp_cleanup cleaning fun result s' cleaning' => ?_)⟩
    exact ends_cleaning cleaning' (fun _ => rfl) (by rintro _ _ ⟨⟩)

/-- `_handle_disconnect`, where a failed write may lead to it. -/
theorem wp_handleDisconnect (inv : Inv s)
    (free : s.state = .disconnecting ∨ s.state ≠ .ready ∧ s.phase.opening = none) :
    Telink.handleDisconnect.wp outline me (fun _ s => Inv s) s := by
  unfold Telink.handleDisconnect
  rw [Coroutine.wp_read_bind]
  split
  · exact inv
  · next connected =>
    obtain ⟨notReady, opening⟩ := free.resolve_left connected
    obtain ⟨guarantees, cleaning⟩ := begins_cleaning (.lossBegins me s.state) inv opening
      (fun _ => rfl) rfl (.inr ⟨rfl, notReady⟩)
    rw [Coroutine.wp_currentTask_bind, Coroutine.wp_modify_bind]
    refine ⟨guarantees, Coroutine.wp_ensuring ?_⟩
    have ends : ∀ (result : Except PyError Unit) (s' : MeshDevice), Cleaning me s' →
        (Telink.note (.lossEnds me)).wp outline me
          (Coroutine.wpFinal (fun _ s => Inv s) result) s' :=
      fun _ _ cleaning' => ends_cleaning cleaning' (fun _ => rfl) (by rintro _ _ ⟨⟩)
    apply Coroutine.wp_bind
    refine wp_cleanup cleaning fun result s₁ cleaning₁ => ?_
    cases result with
    | error error => exact ends _ s₁ cleaning₁
    | ok _ =>
      -- the callbacks leave the connection alone
      have cleared : Alike s₁ { s₁ with connectedEvent := false } :=
        ⟨rfl, rfl, rfl, rfl, rfl, .inl rfl⟩
      have called : Alike { s₁ with connectedEvent := false }
          { s₁ with connectedEvent := false, history := s₁.history ++ [.callbacks me] } :=
        ⟨rfl, rfl, rfl, rfl, rfl, .inr ⟨_, rfl, rfl, by rintro _ _ ⟨⟩⟩⟩
      exact ⟨fun _ _ => cleared.rely, fun _ _ => called.rely,
        ends _ _ (called.cleaning (cleared.cleaning cleaning₁))⟩

/-! ### The keep-alive timer and writes -/

/-- In READY nobody is connecting or cleaning up. -/
theorem Inv.settled (inv : Inv s) (ready : s.state = .ready) :
    s.phase.opening = none ∧ s.phase.closing = [] := by
  constructor
  · by_contra opening
    exact (inv.opening opening).2 ready
  · by_contra closing
    exact inv.closing closing ready

/-- In READY the keep-alive timer may be replaced. -/
theorem Inv.timer (inv : Inv s) (ready : s.state = .ready) (timer : Option TaskId) :
    outline.Guarantees me s { s with keepAliveTask := timer } ∧
      Inv { s with keepAliveTask := timer } := by
  obtain ⟨opening, closing⟩ := inv.settled ready
  refine ⟨guarantees_ready opening closing rfl rfl, { inv with disconnected := ?_ }⟩
  intro disconnected
  rw [show s.state = _ from disconnected] at ready
  cases ready

/-- A new keep-alive timer is started in READY. -/
theorem wp_startKeepAlive {site : CallSite} {post : Except PyError Unit → MeshDevice → Prop}
    (inv : Inv s) (ready : s.state = .ready) (waits : s.keepAliveTask = none ∨ site = .restart)
    (ends : ∀ result s', Inv s' → Stays s s' → Apart me s s' → post result s') :
    (Telink.startKeepAlive site).wp outline me post s := by
  -- the new timer is created and noted in one step
  have starts : ∀ s' : MeshDevice, Inv s' → s'.state = .ready → Stays s s' → Apart me s s' →
      ∀ task, task ≠ me → outline.Startable task .keepAliveLoop s' ∧
        (Telink.update fun s => { s with keepAliveTask := some task }).wp outline me post s' := by
    intro s' inv' ready' stays apart task _
    obtain ⟨guarantees, inv''⟩ := inv'.timer ready' (some task)
    refine ⟨fun _ _ _ _ => trivial, guarantees, ends _ _ inv'' ?_ apart⟩
    exact stays.trans (Stays.of_history rfl id)
  unfold Telink.startKeepAlive
  apply Coroutine.wp_bind
  refine Telink.wp_stopKeepAlive (fun _ => ?_) (fun _ => inv) ?_ ?_
  · exact starts s inv ready (Stays.of_history rfl id) id
  · intro present _ s' inv' rely joins
    -- only the restart waits for an old timer, and finds READY again
    obtain rfl := waits.resolve_left present
    have ready' : s'.state = .ready := joins
    obtain ⟨guarantees, inv''⟩ := inv'.timer ready' none
    refine ⟨guarantees, starts _ inv'' ready' ?_ rely.apart⟩
    exact rely.stays.trans (Stays.of_history rfl id)
  · intro _ error s' inv' rely _
    exact ends _ s' inv' rely.stays rely.apart

theorem keeps_restartKeepAlive : Telink.restartKeepAlive.Keeps outline me Inv := by
  apply Coroutine.keeps_read_bind
  intro s inv
  split
  · next ready => exact wp_startKeepAlive inv ready (.inr rfl) fun _ _ inv' _ _ => inv'
  · exact inv

theorem keeps_writeCommand {c : TelinkConfig} {command : Option QueuedCommand} {packet : Bytes} :
    (Telink.writeCommand c command packet).Keeps outline me Inv := by
  apply Coroutine.keeps_read_bind
  intro s inv
  split
  · next client _ _ =>
    apply Coroutine.wp_bind
    apply Coroutine.wp_onError
    refine Coroutine.wp_call.mpr ⟨inv, fun result s' inv' _ answers => ?_⟩
    cases result with
    | ok _ =>
      have noted : (Telink.noteWritten command).Keeps outline me Inv := by
        cases command with
        | some command => exact keeps_note (fun _ => rfl) (by rintro _ _ ⟨⟩)
        | none => exact Coroutine.keeps_pure _
      exact noted.bind (fun _ => keeps_restartKeepAlive) s' inv'
    | error error =>
      rw [Coroutine.wpHandler_error]
      split
      -- an `OSError` is taken for the loss of the link
      · next os =>
        apply Coroutine.wp_bind
        refine Coroutine.wp_mono ?_ (wp_handleDisconnect inv' (answers os))
        intro handled s'' inv''
        cases handled with
        | ok _ => exact inv''
        | error _ => exact inv''
      · exact inv'
  · exact inv

theorem linkOutline : Telink.LinkOutline outline where
  aside me s s' aside inv :=
    ⟨fun _ _ => (Alike.of_aside aside).rely, (Alike.of_aside aside).inv inv⟩
  waits me s inv _ _ := by
    have keeps : (Telink.note (.waits s.connectedEvent)).Keeps outline me Inv :=
      keeps_note (fun _ => rfl) (by rintro _ _ ⟨⟩)
    exact keeps s inv
  loops me code s link device := by
    cases code with
    | linkConnect _ => cases link
    | linkDisconnect => trivial
    | connect _ => cases device
    | disconnect => cases device
    | _ => trivial
  write me c command packet := keeps_writeCommand
  loss me client packet error s inv answers os := wp_handleDisconnect inv (answers os)

end LinkOrder

end TuyaBleMesh
