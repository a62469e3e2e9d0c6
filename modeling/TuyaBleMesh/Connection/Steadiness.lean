import TuyaBleMesh.Connection.Availability

/-!
# A connected device and its statistics

Whether `_handle_conn_state_update` leaves a connected device available. It decides from
the class of the last failure and from the number of failures, which nothing resets when
the set-up connects and of which a reconnect resets only the second.
-/

namespace TuyaBleMesh

/-- A connection has succeeded, and the device was not disconnected since. -/
def isConnected : List ConnectionMoment → Bool
  | [] => false
  | .connected _ true :: _ => true
  | .disconnected :: _ => false
  | .closed :: _ => false
  | _ :: rest => isConnected rest

/-- The last failure that was counted. -/
def lastFailure : List ConnectionMoment → Option ConnectFailure
  | [] => none
  | .failed err :: _ => some err
  | _ :: rest => lastFailure rest

/-- How many failures were counted since a reconnect loop has succeeded. -/
def countedFailures : List ConnectionMoment → Nat
  | [] => 0
  | .connected true _ :: _ => 0
  | .failed _ :: rest => countedFailures rest + 1
  | _ :: rest => countedFailures rest

/-- The last failure that was counted is permanent. -/
def lastIsPermanent (history : List ConnectionMoment) : Bool :=
  (lastFailure history).any fun err => classifyError err = .permanent

namespace Ledger

variable {c : EntryConfig} {l : Ledger}

/-- The statistics are those of the failures that were counted. -/
structure Recorded (l : Ledger) : Prop where
  failures : l.consecutiveFailures = countedFailures l.history
  lastErrorClass : l.lastErrorClass = ((lastFailure l.history).map classifyError).getD .unknown

theorem Recorded.of_same {l' : Ledger} (recorded : l.Recorded)
    (failures : l'.consecutiveFailures = l.consecutiveFailures)
    (lastErrorClass : l'.lastErrorClass = l.lastErrorClass)
    (counted : countedFailures l'.history = countedFailures l.history)
    (last : lastFailure l'.history = lastFailure l.history) : l'.Recorded where
  failures := by rw [failures, counted, recorded.failures]
  lastErrorClass := by rw [lastErrorClass, last, recorded.lastErrorClass]

theorem recorded_stateUpdate (recorded : l.Recorded) : l.stateUpdate.Recorded := by
  unfold stateUpdate
  split
  · exact recorded.of_same rfl rfl rfl rfl
  · split
    · exact recorded.of_same rfl rfl rfl rfl
    · exact recorded

theorem Recorded.post (recorded : l.Recorded) (posting : Posting) : (l.post c posting).Recorded := by
  cases posting with
  | failed err =>
    constructor
    · change l.consecutiveFailures + 1 = countedFailures l.history + 1
      rw [recorded.failures]
    · rfl
  | connected again link =>
    cases again with
    | true => exact ⟨rfl, recorded.lastErrorClass⟩
    | false => exact ⟨recorded.failures, recorded.lastErrorClass⟩
  | stateUpdate => exact recorded_stateUpdate recorded
  | _ => exact recorded.of_same rfl rfl rfl rfl

theorem Recorded.postAll (recorded : l.Recorded) (postings : List Posting) :
    (l.postAll c postings).Recorded := by
  induction postings generalizing l with
  | nil => exact recorded
  | cons posting postings ih => exact ih (recorded.post posting)

/-- A state update that finds no permanent failure, and no failures of an unavailable device. -/
def Calm (available : Bool) (history : List ConnectionMoment) : Prop :=
  lastIsPermanent history = false ∧ (available = true ∨ countedFailures history = 0)

instance (available : Bool) (history : List ConnectionMoment) :
    Decidable (Calm available history) := inferInstanceAs (Decidable (_ ∧ _))

theorem stateUpdate_calm (recorded : l.Recorded) (calm : Calm l.available l.history) :
    l.stateUpdate = l := by
  have passing : l.lastErrorClass ≠ .permanent := by
    rw [recorded.lastErrorClass]
    have last := calm.1
    unfold lastIsPermanent at last
    cases found : lastFailure l.history with
    | none => exact ErrorClass.noConfusion
    | some err =>
      rw [found, Option.any_some, decide_eq_false_iff_not] at last
      exact last
  rcases calm.2 with available | none
  · exact stateUpdate_available passing available
  · exact stateUpdate_uncounted passing (recorded.failures.trans none)

/-- State updates leave a calm ledger as it is. -/
theorem postAll_calm {postings : List Posting} (recorded : l.Recorded)
    (calm : Calm l.available l.history) (updates : ∀ posting ∈ postings, posting = .stateUpdate) :
    l.postAll c postings = l := by
  induction postings with
  | nil => rfl
  | cons posting postings ih =>
    rw [postAll_cons, updates posting List.mem_cons_self, post, stateUpdate_calm recorded calm]
    exact ih fun other member => updates other (List.mem_cons_of_mem posting member)

end Ledger

namespace MeshEntry

variable {c : EntryConfig} {s s' : MeshEntry} {now : Rat} {event : EntryEvent}

/-- In every run the statistics are those of the failures that were counted. -/
theorem recorded_of_run {events : List (Rat × EntryEvent)}
    (ran : (entrySystem c).exec {} events = some s) : s.ledger.Recorded := by
  refine (entrySystem c).exec_invariant_of_step (fun s => s.ledger.Recorded) ?_ ⟨rfl, rfl⟩ ran
  rintro m ⟨now, event⟩ m' recorded stepped
  have posted : m'.ledger = m.ledger.postAll c (m.postings c event) := ledger_step stepped
  rw [posted]
  exact recorded.postAll _

/-- What has happened when the state callback of the event is called. -/
def historyAt (s : MeshEntry) : EntryEvent → List ConnectionMoment
  | .connect (.loop _) (.raised err) => .failed err :: s.history
  | _ => s.history

/-- The event calls `_handle_conn_state_update`. -/
def updatesState (c : EntryConfig) (s : MeshEntry) (event : EntryEvent) : Bool :=
  (s.postings c event).contains .stateUpdate

/-- While the device is connected, the state callback is not called after a permanent failure, nor
after a failure when the device counts as unavailable. -/
def Undisturbed (c : EntryConfig) (s : MeshEntry) (timed : Rat × EntryEvent) : Prop :=
  isConnected s.history = true → s.updatesState c timed.2 = true →
    Ledger.Calm s.state.available (s.historyAt timed.2)

instance (c : EntryConfig) (s : MeshEntry) (timed : Rat × EntryEvent) :
    Decidable (s.Undisturbed c timed) := inferInstanceAs (Decidable (_ → _ → _))

/-- The state callback neither makes a connected device unavailable nor calls it failed. -/
structure StaysAvailable (s s' : MeshEntry) : Prop where
  available : s.state.available = true → s'.state.available = true
  deviceAvailability : s'.state.deviceAvailability.isFailed = true →
    s.state.deviceAvailability.isFailed = true

/-- The state callback is called for a value of the RSSI, when a loop gives up, and for a failure
that has just been counted. -/
theorem updatesState_cases (updates : s.updatesState c event = true) :
    (s.postings c event = [.stateUpdate] ∧ s.historyAt event = s.history) ∨
      ∃ err rest, s.postings c event = .failed err :: rest ∧
        s.historyAt event = .failed err :: s.history ∧
        ∀ posting ∈ rest, posting = .stateUpdate := by
  have member : .stateUpdate ∈ s.postings c event := List.contains_iff_mem.mp updates
  cases event with
  | rssiPolled rssi => exact .inl ⟨rfl, rfl⟩
  | debounced loop =>
    simp only [postings, headPostings] at member ⊢
    split at member
    · next limit =>
      rw [if_pos limit]
      exact .inl ⟨rfl, rfl⟩
    · cases member
  | waited loop =>
    simp only [postings] at member
    split at member
    · split at member
      · rcases List.mem_cons.mp member with other | member
        · cases other
        · unfold retryPostings at member
          split at member
          · cases List.mem_singleton.mp member
          · cases member
      · cases member
    · cases member
  | linkLost =>
    simp only [postings, disconnectPostings] at member
    split at member
    · cases List.mem_singleton.mp member
    · cases member
  | processed task =>
    simp only [postings] at member
    split at member
    · obtain ⟨update, -, other⟩ := List.mem_map.mp member
      cases other
    · cases member
  | connect task event =>
    simp only [postings] at member ⊢
    unfold connectPostings at member ⊢
    split at member
    · split at member
      · unfold dropPostings disconnectPostings at member
        split at member
        · rcases List.mem_cons.mp member with other | member
          · cases other
          · split at member
            · cases List.mem_singleton.mp member
            · cases member
        · split at member
          · cases List.mem_singleton.mp member
          · cases member
      · unfold retryPostings at member
        split at member
        · cases List.mem_singleton.mp member
        · cases member
      · cases member
    · cases List.mem_singleton.mp member
    · cases List.mem_singleton.mp member
    · next err left loop failed =>
      obtain ⟨phase, -, advanced⟩ := Option.bind_eq_some_iff.mp failed
      cases advance_fails advanced
      right
      unfold failPostings at member ⊢
      split at member
      · cases List.mem_singleton.mp member
      · next counted =>
        rw [if_neg counted]
        by_cases permanent : classifyError err = .permanent
        · rw [if_pos permanent]
          refine ⟨err, [.stateUpdate], rfl, rfl, ?_⟩
          exact fun posting member => List.mem_singleton.mp member
        · rw [if_neg permanent]
          refine ⟨err, _, rfl, rfl, ?_⟩
          intro posting member
          rcases List.mem_cons.mp member with same | member
          · exact same
          · split at member
            · exact List.mem_singleton.mp member
            · cases member
    · cases member
  | stopped =>
    simp only [postings, List.mem_cons, List.not_mem_nil, or_false] at member
    rcases member with other | other <;> cases other
  | closed => cases List.mem_singleton.mp member
  | wentStale => cases List.mem_singleton.mp member
  | assumed readings => cases List.mem_singleton.mp member
  | _ => cases member

/-- A calm state update changes nothing about the availability. -/
theorem staysAvailable_of_calm (recorded : s.ledger.Recorded)
    (updates : s.updatesState c event = true)
    (calm : Ledger.Calm s.state.available (s.historyAt event))
    (stepped : s.step c (now, event) = some s') : s.StaysAvailable s' := by
  have same : s'.ledger.available = s.ledger.available ∧
      s'.ledger.deviceAvailability = s.ledger.deviceAvailability := by
    rw [ledger_step stepped]
    rcases updatesState_cases updates with ⟨posted, history⟩ | ⟨err, rest, posted, history, only⟩
    · rw [posted]
      rw [history] at calm
      rw [Ledger.postAll_calm recorded calm fun posting member => List.mem_singleton.mp member]
      exact ⟨rfl, rfl⟩
    · rw [posted, Ledger.postAll_cons]
      rw [history] at calm
      rw [Ledger.postAll_calm (recorded.post (.failed err)) calm only]
      exact ⟨rfl, rfl⟩
  constructor
  · intro available
    exact same.1.trans available
  · intro failed
    have kept : s'.state.deviceAvailability = s.state.deviceAvailability := same.2
    rw [← kept]
    exact failed

/-- In an undisturbed run no RSSI poll and no other call of the state callback makes a connected
device unavailable or calls it failed. -/
theorem undisturbed_staysAvailable (c : EntryConfig) {events : List (Rat × EntryEvent)}
    (undisturbed : (entrySystem c).Guarded (Undisturbed c) {} events) {m m' : MeshEntry}
    {timed : Rat × EntryEvent} (occurs : (entrySystem c).StepOf {} events m timed m')
    (connected : isConnected m.history = true) (updates : m.updatesState c timed.2 = true) :
    m.StaysAvailable m' := by
  obtain ⟨before, after, rfl, reached, stepped⟩ := occurs
  have calm := EventSystem.Guarded.at_step _ undisturbed reached connected updates
  obtain ⟨now, event⟩ := timed
  exact staysAvailable_of_calm (recorded_of_run reached) updates calm stepped

/-! ### Sample runs -/

/-- The link of a connected device is lost, and an attempt to connect it again has a link. -/
def reconnectRun : List EntryEvent :=
  [.linkLost, .debounced .current, .waited .current, .connect (.loop .current) .linkUp]

/-- The next attempt of an entry that an advertisement has woken. -/
def wokenRun : List EntryEvent :=
  [.advertised, .debounced .current, .waited .current, .connect (.loop .current) .linkUp,
    .connect (.loop .current) .returned]

def telinkEntry : EntryConfig := { kind := .telink }

def timeoutFailure : ConnectFailure := ⟨.timeoutError, "TimeoutError", ""⟩

def unsupportedFailure : ConnectFailure := ⟨.bleakError, "BleakError", "Unsupported feature"⟩

/-- The attempt fails, and the next one succeeds. -/
def recoveredRun (err : ConnectFailure) : List (Rat × EntryEvent) :=
  atOnce (setupRun ++ reconnectRun ++ .connect (.loop .current) (.raised err) :: wokenRun)

/-- After a timeout the device stays available. -/
theorem timeoutRun_staysAvailable : ∃ m m',
    (entrySystem telinkEntry).StepOf {}
      (recoveredRun timeoutFailure ++ [(0, .rssiPolled (-60))]) m (0, .rssiPolled (-60)) m' ∧
      m.StaysAvailable m' ∧ m'.state.available = true := by
  have ran : ∃ m, (entrySystem telinkEntry).exec {} (recoveredRun timeoutFailure) = some m :=
    Option.isSome_iff_exists.mp (by decide +kernel)
  obtain ⟨m, ran⟩ := ran
  have known : ∀ m, (entrySystem telinkEntry).exec {} (recoveredRun timeoutFailure) = some m →
      isConnected m.history = true ∧ m.updatesState telinkEntry (.rssiPolled (-60)) = true ∧
        m.state.available = true ∧ (m.step telinkEntry (0, .rssiPolled (-60))).isSome = true := by
    decide +kernel
  obtain ⟨connected, updates, available, polls⟩ := known m ran
  obtain ⟨m', stepped⟩ := Option.isSome_iff_exists.mp polls
  have occurs : (entrySystem telinkEntry).StepOf {}
      (recoveredRun timeoutFailure ++ [(0, .rssiPolled (-60))]) m (0, .rssiPolled (-60)) m' :=
    ⟨recoveredRun timeoutFailure, [], rfl, ran, stepped⟩
  have stays := undisturbed_staysAvailable telinkEntry (by decide +kernel) occurs connected updates
  exact ⟨m, m', occurs, stays, stays.available available⟩

/-- After a permanent failure the first value of the RSSI makes a connected device unavailable. -/
theorem permanentRun_unavailable :
    ∃ m ∈ (entrySystem telinkEntry).exec {} (recoveredRun unsupportedFailure),
      isConnected m.history = true ∧ m.state.available = true ∧
        ∃ m' ∈ m.step telinkEntry (0, .rssiPolled (-60)),
          m'.state.available = false ∧ m'.state.deviceAvailability = .reprovisionRequired := by
  decide +kernel

end MeshEntry

end TuyaBleMesh
