import TuyaBleMesh.Telink.Rules

/-!
# Rules for connecting and cleaning up

For outlines that do not care about the fields of the connection: connecting, writing
and cleaning up keep whatever the discipline asks for, except where a disconnect or the
loss of the connection begins.
-/

namespace TuyaBleMesh

/-- A moment of connecting, or the end of `disconnect`. -/
def Moment.isLink : Moment → Bool
  | .connectBegins _ => true
  | .becomesReady _ _ => true
  | .connectReturns _ _ => true
  | .connectRaises _ => true
  | .disconnectEnds _ => true
  | _ => false

namespace Telink

open Coroutine

variable {D : Discipline telinkSignature} {me : TaskId} {s : MeshDevice}

/-- Nothing of the queue and the worker changes. -/
structure LinkChange (s s' : MeshDevice) : Prop where
  queue : s'.queue = s.queue
  workerTask : s'.workerTask = s.workerTask
  running : s'.running = s.running
  created : s'.created = s.created
  now : s'.now = s.now
  history : s'.history = s.history ∨ ∃ moment, s'.history = s.history ++ [moment] ∧
    moment.isLink = true

/-- A fact that changes of the connection leave alone, the own ones and those of others. -/
structure LinkFact (D : Discipline telinkSignature) (me : TaskId) (fact : MeshDevice → Prop) :
    Prop extends D.Stable me fact where
  link : ∀ s s', LinkChange s s' → fact s → D.Guarantees me s s' ∧ fact s'

namespace LinkFact

variable {fact : MeshDevice → Prop} (F : LinkFact D me fact) (c : TelinkConfig)

include F

theorem update {f : MeshDevice → MeshDevice} (change : ∀ s, LinkChange s (f s)) :
    (Telink.update f).Keeps D me fact :=
  keeps_modify fun s holds => F.link s (f s) (change s) holds

theorem note {moment : Moment} (link : moment.isLink = true) :
    (Telink.note moment).Keeps D me fact :=
  F.update fun _ => ⟨rfl, rfl, rfl, rfl, rfl, .inr ⟨moment, rfl, link⟩⟩

theorem call (op : TelinkOp) : (Telink.call op).Keeps D me fact := keeps_call F.toStable op

/-! ### Cleaning up -/

theorem stopKeepAlive {site : CallSite} : (Telink.stopKeepAlive site).Keeps D me fact := by
  intro s holds
  refine Telink.wp_stopKeepAlive (fun _ => holds) (fun _ => F.inv s holds) ?_ ?_
  · intro _ _ s' inv rely _
    exact F.link s' _ ⟨rfl, rfl, rfl, rfl, rfl, .inl rfl⟩ (F.later s s' holds inv rely)
  · intro _ _ s' inv rely _
    exact F.later s s' holds inv rely

theorem clearSessionKey : Telink.clearSessionKey.Keeps D me fact := by
  refine Keeps.bind (F.update ?_) fun _ => F.update ?_
  · exact fun _ => ⟨rfl, rfl, rfl, rfl, rfl, .inl rfl⟩
  · exact fun _ => ⟨rfl, rfl, rfl, rfl, rfl, .inl rfl⟩

theorem dropClient {site : CallSite} : (Telink.dropClient site).Keeps D me fact := by
  intro s holds
  refine Telink.wp_dropClient (fun _ => holds) (fun _ => F.inv s holds) ?_ ?_
  · intro _ _ s' inv rely _ _
    exact F.link s' _ ⟨rfl, rfl, rfl, rfl, rfl, .inl rfl⟩ (F.later s s' holds inv rely)
  · intro _ s' inv rely
    exact F.later s s' holds inv rely

theorem cleanup {site : CallSite} : (Telink.cleanup site).Keeps D me fact := by
  refine F.stopKeepAlive.bind fun _ => .bind (F.update ?_) fun _ => ?_
  · exact fun _ => ⟨rfl, rfl, rfl, rfl, rfl, .inl rfl⟩
  · refine F.clearSessionKey.bind fun _ => F.dropClient.bind fun _ => F.update ?_
    exact fun _ => ⟨rfl, rfl, rfl, rfl, rfl, .inl rfl⟩

/-! ### Connecting -/

theorem connectAttempt : (Telink.connectAttempt c).Keeps D me fact := by
  apply (F.call .findDevice).bind
  intro found
  split
  · exact keeps_raise _
  · refine (F.call .establishConnection).bind fun client => F.update ?_
    exact fun _ => ⟨rfl, rfl, rfl, rfl, rfl, .inl rfl⟩

/-- The client is given up. -/
private theorem noClient :
    (Telink.update fun s => { s with client := none }).Keeps D me fact :=
  F.update fun _ => ⟨rfl, rfl, rfl, rfl, rfl, .inl rfl⟩

theorem connectWithRetry (maxRetries left : Nat) :
    (Telink.connectWithRetry c maxRetries left).Keeps D me fact := by
  induction left with
  | zero => exact keeps_raise _
  | succ left ih =>
    unfold Telink.connectWithRetry
    apply Keeps.bind
    · apply Keeps.onError
      · exact (F.connectAttempt c).bind fun _ => keeps_pure _
      · intro error
        split
        · exact F.noClient.bind fun _ => keeps_raise _
        · split
          · exact F.noClient.bind fun _ => (F.call _).bind fun _ => keeps_pure _
          · exact keeps_raise _
    · intro connected
      split
      · exact keeps_pure _
      · exact ih

theorem readFirmwareVersion : Telink.readFirmwareVersion.Keeps D me fact := by
  apply keeps_read_bind
  intro s holds
  split
  · exact holds
  · refine Keeps.onError (F.call _) (fun error => ?_) s holds
    split
    · exact keeps_pure _
    · exact keeps_raise _

theorem startNotifySafe : Telink.startNotifySafe.Keeps D me fact := by
  apply keeps_read_bind
  intro s holds
  split
  · exact holds
  · refine Keeps.onError ((F.call _).bind fun _ => F.update ?_) (fun error => ?_) s holds
    · exact fun _ => ⟨rfl, rfl, rfl, rfl, rfl, .inl rfl⟩
    · split
      · refine F.update ?_
        exact fun _ => ⟨rfl, rfl, rfl, rfl, rfl, .inl rfl⟩
      · exact keeps_raise _

theorem pair (client : Client) : (Telink.pair c client).Keeps D me fact := by
  apply Keeps.onError
  · refine (F.call (.provision client)).bind fun key => F.update ?_
    exact fun _ => ⟨rfl, rfl, rfl, rfl, rfl, .inl rfl⟩
  · intro error
    split
    · exact F.cleanup.bind fun _ => keeps_raise _
    · exact keeps_raise _

end LinkFact

/-- An outline that leaves the fields of the connection to whoever changes them. -/
structure FreeLink (D : Discipline telinkSignature) : Prop where
  link : ∀ me s s', LinkChange s s' → D.inv s → D.Guarantees me s s' ∧ D.inv s'
  loops : ∀ me code s, code.isKeepAlive = true → D.pre me code s
  written : ∀ me client packet error s, D.inv s →
    D.answers (.writeCommand client packet) (.error error) s → error.isOsError = true →
      handleDisconnect.wp D me (fun _ s => D.inv s) s
  probed : ∀ me client packet error s, D.inv s →
    D.answers (.writeKeepAlive client packet) (.error error) s → error.isOsError = true →
      handleDisconnect.wp D me (fun _ s => D.inv s) s

namespace FreeLink

variable (O : FreeLink D) (c : TelinkConfig)

include O

theorem fact (me : TaskId) : LinkFact D me D.inv where
  toStable := D.stable_inv me
  link := O.link me

theorem keepAlive : KeepAliveOutline D where
  advance me s inv := O.link me s _ ⟨rfl, rfl, rfl, rfl, rfl, .inl rfl⟩ inv
  loops := O.loops
  loss := O.probed

/-! ### The keep-alive timer and writes -/

theorem startKeepAlive {site : CallSite} : (Telink.startKeepAlive site).Keeps D me D.inv := by
  apply (O.fact me).stopKeepAlive.bind
  intro _ s inv task _
  refine ⟨fun s' _ _ _ => O.loops task _ s' rfl, ?_⟩
  exact O.link me s _ ⟨rfl, rfl, rfl, rfl, rfl, .inl rfl⟩ inv

theorem restartKeepAlive : Telink.restartKeepAlive.Keeps D me D.inv := by
  apply keeps_read_bind
  intro s inv
  split
  · exact O.startKeepAlive s inv
  · exact inv

theorem writeCommand (command : Option QueuedCommand) (packet : Bytes)
    (noted : (noteWritten command).Keeps D me D.inv) :
    (Telink.writeCommand c command packet).Keeps D me D.inv := by
  apply keeps_read_bind
  intro s inv
  split
  · next client _ _ =>
    apply wp_bind
    apply wp_onError
    refine wp_call.mpr ⟨inv, fun result s' inv' _ answers => ?_⟩
    cases result with
    | ok _ => exact noted.bind (fun _ => O.restartKeepAlive) s' inv'
    | error error =>
      rw [wpHandler_error]
      split
      · next os =>
        apply wp_bind
        refine wp_mono ?_ (O.written me client packet error s' inv' answers os)
        intro handled s'' inv''
        cases handled with
        | ok _ => exact inv''
        | error _ => exact inv''
      · exact inv'
  · exact inv

/-! ### `connect` -/

theorem establish (maxRetries : Nat) : (Telink.establish c me maxRetries).Keeps D me D.inv := by
  have F := O.fact me
  -- the state goes back, or on
  have state : ∀ state : ConnectionState,
      (Telink.update fun s => { s with state }).Keeps D me D.inv :=
    fun _ => F.update fun _ => ⟨rfl, rfl, rfl, rfl, rfl, .inl rfl⟩
  apply Keeps.bind
  · refine Keeps.onError (F.connectWithRetry c maxRetries maxRetries) fun error => ?_
    split
    · exact (state .disconnected).bind fun _ => keeps_raise _
    · exact keeps_raise _
  · intro _
    apply keeps_read_bind
    intro s inv
    split
    · exact (state .disconnected).bind (fun _ => keeps_raise _) s inv
    · next client _ =>
      refine (state .pairing).bind (fun _ => (F.pair c client).bind fun _ => ?_) s inv
      refine F.readFirmwareVersion.bind fun _ => .bind (F.update ?_) fun _ => ?_
      · exact fun _ => ⟨rfl, rfl, rfl, rfl, rfl, .inr ⟨_, rfl, rfl⟩⟩
      · exact O.startKeepAlive.bind fun _ => F.startNotifySafe

theorem linkConnect (maxRetries : Nat) : (Telink.linkConnect c maxRetries).Keeps D me D.inv := by
  have F := O.fact me
  apply keeps_read_bind
  intro s inv
  show (if s.state = .ready then _ else _ : Telink Unit).wp D me _ s
  split
  · exact F.note rfl s inv
  · refine Keeps.bind (F.update ?_) (fun _ => Keeps.bind ?_ fun _ => ?_) s inv
    · exact fun _ => ⟨rfl, rfl, rfl, rfl, rfl, .inr ⟨_, rfl, rfl⟩⟩
    · exact Keeps.onError (O.establish c maxRetries) fun error =>
        (F.note rfl).bind fun _ => keeps_raise _
    · exact keeps_read_bind fun s inv => F.note rfl s inv

theorem connect (maxRetries : Nat) (start : Telink.start.Keeps D me D.inv) :
    (Telink.connect c maxRetries).Keeps D me D.inv := by
  refine (O.linkConnect c maxRetries).bind fun _ => .bind ((O.fact me).update ?_) fun _ => start
  exact fun _ => ⟨rfl, rfl, rfl, rfl, rfl, .inl rfl⟩

/-! ### `disconnect` -/

/-- It is for the outline to say how a disconnect begins. -/
theorem wp_linkDisconnect (inv : D.inv s) (begins : s.state ≠ .disconnected →
      D.Guarantees me s { s with state := .disconnecting,
                                 history := s.history ++ [.disconnectBegins me s.state] } ∧
        D.inv { s with state := .disconnecting,
                       history := s.history ++ [.disconnectBegins me s.state] }) :
    Telink.linkDisconnect.wp D me (fun _ s => D.inv s) s := by
  have F := O.fact me
  unfold Telink.linkDisconnect
  rw [wp_read_bind]
  split
  · exact inv
  · next connected =>
    obtain ⟨guarantees, inv'⟩ := begins connected
    rw [wp_currentTask_bind, wp_modify_bind]
    exact ⟨guarantees, F.cleanup.ensuring (F.note rfl) _ inv'⟩

end FreeLink

end Telink

end TuyaBleMesh
