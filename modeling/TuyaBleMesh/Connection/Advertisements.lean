import TuyaBleMesh.Connection.SingleAttempt
import TuyaBleMesh.Lib.Restart

/-!
# Advertisements of an unavailable device

An advertisement schedules a reconnect, which replaces the reconnect loop with its delays or
its attempt. From any state of an entry on, the next connect call is compared with the one
that comes without the advertisements; apart from them only the timers of the loop run.
-/

namespace TuyaBleMesh

/-- An entry, and when the sleep of its reconnect loop is over, or was over when it called
`connect`. -/
structure TimedEntry where
  entry : MeshEntry
  wakes : Rat

namespace TimedEntry

section

variable (c : EntryConfig) (s : TimedEntry)

/-- The sleep is over. -/
def wake : TimedEntry :=
  match s.entry.manager.reconnectTask with
  | some .debouncing =>
    match s.entry.step c (s.wakes, .debounced .current) with
    | some entry => ⟨entry, s.wakes + s.entry.manager.backoff⟩
    | none => s
  | some (.waiting _) =>
    match s.entry.step c (s.wakes, .waited .current) with
    | some entry => ⟨entry, s.wakes⟩
    | none => s
  | _ => s

/-- The sleep is over if it is so by the time. -/
def wakeBy (limit : Option Rat) : TimedEntry :=
  if ∀ time ∈ limit, s.wakes ≤ time then s.wake c else s

/-- The entry at the time: a loop sleeps at most twice before it calls `connect`. -/
def runBy (limit : Option Rat) : TimedEntry := (s.wakeBy c limit).wakeBy c limit

/-- `_on_ble_device_found` is called. -/
def heard (time : Rat) : TimedEntry :=
  match s.entry.step c (time, .advertised) with
  | some entry => ⟨entry, if s.entry.manager.running then time + DEBOUNCE_DELAY else s.wakes⟩
  | none => s

def isConnecting : Bool := s.entry.manager.reconnectTask.any LoopStage.isConnecting

/-- Up to the next call of `connect` by the loop, and the advertisements that are left then. -/
def untilConnect : TimedEntry → (adverts : List Rat) → TimedEntry × List Rat
  | s, [] => (s.runBy c none, [])
  | s, advert :: adverts =>
    let s := s.runBy c (some advert)
    if s.isConnecting then (s, advert :: adverts) else untilConnect (s.heard c advert) adverts

/-- When the loop calls `connect` the next time. -/
def nextConnect (adverts : List Rat) : Option Rat :=
  let s := (s.untilConnect c adverts).1
  if s.isConnecting then some s.wakes else none

/-- The next call comes no later than without the advertisements, and they leave its attempt alone
as long as it lasts. The set-up and cancelled loops may call `connect` as well. -/
structure OnlyHelp (others : Option Rat) (lasts : Rat) (adverts : List Rat) : Prop where
  sooner : NoLater (others.merge min (s.nextConnect c adverts))
    (others.merge min (s.nextConnect c []))
  goesOn : ∀ phase, let (s, left) := s.untilConnect c adverts
    s.entry.manager.reconnectTask = some (.connecting phase) →
      ((left.filter (· < s.wakes + lasts)).foldl (heard c) s).entry.manager.reconnectTask =
        some (.connecting phase)

/-! ### The condition -/

/-- The limit of failures is reached. -/
def givesUp : Bool :=
  0 < c.maxReconnectFailures && c.maxReconnectFailures ≤ s.entry.manager.consecutiveFailures

/-- From an advertisement to the next call. -/
def delay : Option Rat :=
  if s.givesUp c then none else some (DEBOUNCE_DELAY + s.entry.manager.backoff)

/-- When the loop calls `connect` if there is no advertisement. -/
def start : Option Rat :=
  match s.entry.manager.reconnectTask with
  | none => none
  | some .debouncing => if s.givesUp c then none else some (s.wakes + s.entry.manager.backoff)
  | some (.waiting _) => some s.wakes
  | some (.connecting _) => some s.wakes

/-- The manager has stopped; or an attempt is in progress, and over before the advertisements
come; or they do no harm to the timers that are running. -/
def Spared (others : Option Rat) (lasts : Rat) (adverts : List Rat) : Prop :=
  s.entry.manager.running = false ∨
    if s.isConnecting then ∀ advert ∈ adverts, s.wakes + lasts ≤ advert
    else Harmless (s.delay c) others lasts (s.start c) adverts

end

/-! ### The timers of the loop -/

section

variable {c : EntryConfig} {s : TimedEntry} {limit start delay : Option Rat}

theorem isConnecting_iff : s.isConnecting = true ↔
    ∃ phase, s.entry.manager.reconnectTask = some (.connecting phase) := by
  unfold isConnecting
  constructor
  · intro connecting
    cases here : s.entry.manager.reconnectTask with
    | none =>
      rw [here] at connecting
      cases connecting
    | some stage =>
      rw [here] at connecting
      cases stage with
      | connecting phase => exact ⟨phase, rfl⟩
      | debouncing => cases connecting
      | waiting backoff => cases connecting
  · rintro ⟨phase, here⟩
    rw [here]
    rfl

theorem wakeBy_connecting (connecting : s.isConnecting = true) : s.wakeBy c limit = s := by
  unfold isConnecting at connecting
  unfold wakeBy wake
  split
  · split
    · next here =>
      rw [here] at connecting
      cases connecting
    · next here =>
      rw [here] at connecting
      cases connecting
    · rfl
  · rfl

/-- The manager of an unavailable device runs, and its loop calls `connect` at the time if no
advertisement comes. -/
structure Scheduled (c : EntryConfig) (delay start : Option Rat) (s : TimedEntry) : Prop where
  running : s.entry.manager.running = true
  unavailable : s.entry.state.available = false
  delay_eq : s.delay c = delay
  start_eq : s.start c = start

theorem givesUp_iff : s.givesUp c = true ↔ 0 < c.maxReconnectFailures ∧
    c.maxReconnectFailures ≤ s.entry.manager.consecutiveFailures := by
  simp [givesUp]

theorem unavailable_handleConnStateUpdate {entry : MeshEntry}
    (unavailable : entry.state.available = false) :
    entry.handleConnStateUpdate.state.available = false := by
  simp only [MeshEntry.handleConnStateUpdate]
  split
  · rfl
  · split
    · rfl
    · exact unavailable

theorem wake_debouncing (debounces : s.entry.manager.reconnectTask = some .debouncing) :
    s.wake c = ⟨s.entry.loopHead c .current, s.wakes + s.entry.manager.backoff⟩ := by
  unfold wake
  rw [debounces]
  simp only [MeshEntry.step, MeshEntry.loop?, debounces]

theorem wake_waiting {backoff : Nat}
    (waits : s.entry.manager.reconnectTask = some (.waiting backoff))
    (running : s.entry.manager.running = true) :
    s.wake c = ⟨(s.entry.note (.attempted backoff)).setLoop .current
      (some (.connecting (.trying 1))), s.wakes⟩ := by
  unfold wake
  rw [waits]
  simp only [MeshEntry.step, MeshEntry.loop?, waits, MeshEntry.loopWaited, running, if_true,
    MeshEntry.noteRetry, ite_self]

theorem Scheduled.wake (scheduled : Scheduled c delay start s) :
    Scheduled c delay start (s.wake c) := by
  obtain ⟨running, unavailable, delay_eq, start_eq⟩ := scheduled
  cases here : s.entry.manager.reconnectTask with
  | none =>
    rw [TimedEntry.wake, here]
    exact ⟨running, unavailable, delay_eq, start_eq⟩
  | some stage =>
    unfold TimedEntry.start at start_eq
    rw [here] at start_eq
    cases stage with
    | debouncing =>
      rw [wake_debouncing here, MeshEntry.loopHead, if_pos running]
      by_cases gives : s.givesUp c = true
      · rw [if_pos (givesUp_iff.mp gives)]
        simp only [gives, if_true] at start_eq
        exact ⟨running, unavailable_handleConnStateUpdate unavailable, delay_eq, start_eq⟩
      · rw [if_neg (mt givesUp_iff.mpr gives)]
        simp only [gives] at start_eq
        exact ⟨running, unavailable, delay_eq, start_eq⟩
    | waiting backoff =>
      rw [wake_waiting here running]
      exact ⟨running, unavailable, delay_eq, start_eq⟩
    | connecting phase =>
      rw [TimedEntry.wake, here]
      exact ⟨running, unavailable, delay_eq, by rw [← start_eq, TimedEntry.start, here]⟩

theorem Scheduled.runBy (scheduled : Scheduled c delay start s) (limit : Option Rat) :
    Scheduled c delay start (s.runBy c limit) := by
  have once : ∀ {s}, Scheduled c delay start s → Scheduled c delay start (s.wakeBy c limit) := by
    intro s scheduled
    unfold wakeBy
    split
    · exact scheduled.wake
    · exact scheduled
  exact once (once scheduled)

theorem wakeBy_waiting {backoff : Nat} (limit : Option Rat)
    (waits : s.entry.manager.reconnectTask = some (.waiting backoff))
    (running : s.entry.manager.running = true) :
    (s.wakeBy c limit).isConnecting = true ↔ ∀ bound ∈ limit, s.wakes ≤ bound := by
  by_cases due : ∀ bound ∈ limit, s.wakes ≤ bound
  · rw [wakeBy, if_pos due, wake_waiting waits running]
    exact iff_of_true rfl due
  · rw [wakeBy, if_neg due, isConnecting, waits]
    exact iff_of_false nofun due

/-- The loop calls `connect` once its time has come. -/
theorem Scheduled.runBy_isConnecting (scheduled : Scheduled c delay start s)
    (sleeps : s.isConnecting = false) (limit : Option Rat) :
    (s.runBy c limit).isConnecting = true ↔ ∃ time ∈ start, ∀ bound ∈ limit, time ≤ bound := by
  obtain ⟨running, unavailable, -, rfl⟩ := scheduled
  -- by the stage of the loop: it sleeps twice, once, or not at all
  cases here : s.entry.manager.reconnectTask with
  | none =>
    have never : s.start c = none := by rw [TimedEntry.start, here]
    have stays : s.wakeBy c limit = s := by
      rw [wakeBy, TimedEntry.wake, here, ite_self]
    rw [TimedEntry.runBy, stays, stays, sleeps, never]
    simp
  | some stage =>
    cases stage with
    | debouncing =>
      have delayed : s.start c =
          if s.givesUp c then none else some (s.wakes + s.entry.manager.backoff) := by
        rw [TimedEntry.start, here]
      by_cases due : ∀ bound ∈ limit, s.wakes ≤ bound
      · have woken : s.wakeBy c limit = s.wake c := if_pos due
        rw [TimedEntry.runBy, woken, wake_debouncing here, MeshEntry.loopHead, if_pos running]
        by_cases gives : s.givesUp c = true
        · -- the loop ends after the first delay
          rw [if_pos (givesUp_iff.mp gives), wakeBy, TimedEntry.wake, delayed, if_pos gives]
          simp [MeshEntry.setLoop, MeshEntry.withManager, isConnecting]
        · rw [if_neg (mt givesUp_iff.mpr gives), delayed, if_neg gives]
          have waits := wakeBy_waiting (c := c) (s := ⟨s.entry.setLoop .current
            (some (.waiting s.entry.manager.backoff)), s.wakes + s.entry.manager.backoff⟩) limit rfl
            running
          simpa using waits
      · -- the whole delay is not over before the first part of it
        have stays : s.wakeBy c limit = s := if_neg due
        rw [TimedEntry.runBy, stays, stays, sleeps]
        refine iff_of_false Bool.false_ne_true ?_
        rintro ⟨time, is, finished⟩
        refine due fun bound member => le_trans ?_ (finished bound member)
        by_cases gives : s.givesUp c = true
        · rw [delayed, if_pos gives] at is
          cases is
        · rw [delayed, if_neg gives] at is
          cases is
          exact le_add_of_nonneg_right (Nat.cast_nonneg _)
    | waiting backoff =>
      have due : s.start c = some s.wakes := by rw [TimedEntry.start, here]
      have connects := wakeBy_waiting (c := c) limit here running
      -- the second look finds the attempt, or the same sleep
      have once : s.runBy c limit = s.wakeBy c limit := by
        by_cases due : ∀ bound ∈ limit, s.wakes ≤ bound
        · exact wakeBy_connecting (connects.mpr due)
        · have stays : s.wakeBy c limit = s := if_neg due
          rw [TimedEntry.runBy, stays, stays]
      rw [once, connects, due]
      simp
    | connecting phase =>
      rw [isConnecting, here] at sleeps
      cases sleeps

/-- An advertisement starts the loop again. -/
theorem heard_eq (running : s.entry.manager.running = true)
    (unavailable : s.entry.state.available = false) (time : Rat) :
    (s.heard c time).entry.manager =
        { s.entry.manager with reconnectTask := some .debouncing } ∧
      (s.heard c time).entry.state = s.entry.state ∧
      (s.heard c time).wakes = time + DEBOUNCE_DELAY := by
  have steps : s.entry.step c (time, .advertised) = some ((s.entry.cancelReconnect c).withManager
      fun m => { m with reconnectTask := some .debouncing }) := by
    simp only [MeshEntry.step, unavailable, MeshEntry.scheduleReconnect, running]
    rfl
  have kept : (s.entry.cancelReconnect c).manager = s.entry.manager ∧
      (s.entry.cancelReconnect c).state = s.entry.state := by
    unfold MeshEntry.cancelReconnect
    split <;> exact ⟨rfl, rfl⟩
  unfold heard
  rw [steps]
  refine ⟨?_, kept.2, if_pos running⟩
  rw [← kept.1]
  rfl

theorem Scheduled.heard (scheduled : Scheduled c delay start s) (time : Rat) :
    Scheduled c delay (delay.map (time + ·)) (s.heard c time) := by
  obtain ⟨running, unavailable, delay_eq, -⟩ := scheduled
  obtain ⟨manager, state, wakes⟩ := heard_eq (c := c) running unavailable time
  have gives : (s.heard c time).givesUp c = s.givesUp c := by
    rw [givesUp, givesUp, manager]
  refine ⟨by rw [manager]; exact running, by rw [state]; exact unavailable, ?_, ?_⟩
  · rw [TimedEntry.delay, gives, manager, ← delay_eq]
    rfl
  · rw [TimedEntry.start, manager, gives, wakes, ← delay_eq, TimedEntry.delay]
    dsimp only
    split
    · rfl
    · rw [Option.map_some, add_assoc]

theorem delay_positive : ∀ d ∈ s.delay c, 0 < d := by
  intro d is
  unfold delay at is
  split at is
  · cases is
  · cases is
    have debounce : (0 : Rat) < DEBOUNCE_DELAY := by decide +kernel
    exact add_pos_of_pos_of_nonneg debounce (Nat.cast_nonneg _)

/-- When the loop calls `connect`, and which advertisements come after that. -/
theorem Scheduled.untilConnect {adverts : List Rat} (scheduled : Scheduled c delay start s)
    (sleeps : s.isConnecting = false) (positive : ∀ d ∈ delay, 0 < d) (ordered : Ordered adverts) :
    let reached := s.untilConnect c adverts
    Scheduled c delay (firesAt delay start adverts) reached.1 ∧
      (reached.1.isConnecting = true ↔ (firesAt delay start adverts).isSome) ∧
        ∀ time ∈ firesAt delay start adverts, ∀ advert,
          advert ∈ reached.2 ↔ advert ∈ adverts ∧ time ≤ advert := by
  induction adverts generalizing s start with
  | nil =>
    simp only [TimedEntry.untilConnect]
    refine ⟨scheduled.runBy none, ?_, fun _ _ _ => by simp⟩
    rw [scheduled.runBy_isConnecting sleeps, firesAt]
    simp [Option.isSome_iff_exists]
  | cons advert adverts ih =>
    have later : ∀ other ∈ adverts, advert ≤ other := fun _ => List.rel_of_pairwise_cons ordered
    have run := scheduled.runBy (some advert)
    have connects := scheduled.runBy_isConnecting sleeps (some advert)
    -- the timer has run out by the first advertisement, or is started again by it
    by_cases connecting : (s.runBy c (some advert)).isConnecting = true
    · obtain ⟨time, rfl, due⟩ := connects.mp connecting
      have fires : firesAt delay (some time) (advert :: adverts) = some time :=
        if_pos (due advert rfl)
      simp only [TimedEntry.untilConnect, if_pos connecting, fires]
      refine ⟨run, iff_of_true connecting rfl, ?_⟩
      rintro _ ⟨⟩ other
      refine ⟨fun member => ⟨member, ?_⟩, And.left⟩
      rcases List.mem_cons.mp member with rfl | member
      · exact due other rfl
      · exact le_trans (due advert rfl) (later other member)
    · have fires : firesAt delay start (advert :: adverts) =
          firesAt delay (delay.map (advert + ·)) adverts := by
        cases start with
        | none => rfl
        | some time =>
          exact if_neg fun due => connecting (connects.mpr ⟨time, rfl, by simpa using due⟩)
      have heard := run.heard advert
      have sleeps' : ((s.runBy c (some advert)).heard c advert).isConnecting = false := by
        rw [isConnecting, (heard_eq run.running run.unavailable advert).1]
        rfl
      simp only [TimedEntry.untilConnect, if_neg connecting, fires]
      obtain ⟨runs, ends, left⟩ := ih heard sleeps' (List.Pairwise.of_cons ordered)
      refine ⟨runs, ends, fun time is other => ?_⟩
      -- the advertisement that was heard is before the call
      have after : advert < time := firesAt_after positive ordered time is
      rw [left time is other]
      constructor
      · rintro ⟨member, le⟩
        exact ⟨List.mem_cons_of_mem advert member, le⟩
      · rintro ⟨member, le⟩
        rcases List.mem_cons.mp member with rfl | member
        · exact absurd le (not_le_of_gt after)
        · exact ⟨member, le⟩

theorem Scheduled.nextConnect {adverts : List Rat} (scheduled : Scheduled c delay start s)
    (sleeps : s.isConnecting = false) (positive : ∀ d ∈ delay, 0 < d) (ordered : Ordered adverts) :
    s.nextConnect c adverts = firesAt delay start adverts := by
  obtain ⟨runs, ends, -⟩ := scheduled.untilConnect sleeps positive ordered
  unfold TimedEntry.nextConnect
  dsimp only
  split
  · next connecting =>
    obtain ⟨phase, here⟩ := isConnecting_iff.mp connecting
    rw [← runs.start_eq, TimedEntry.start, here]
  · next sleeps =>
    rw [ends, Option.not_isSome_iff_eq_none] at sleeps
    exact sleeps.symm

theorem foldl_heard_debouncing (running : s.entry.manager.running = true)
    (unavailable : s.entry.state.available = false)
    (debounces : s.entry.manager.reconnectTask = some .debouncing)
    (adverts : List Rat) :
    (adverts.foldl (TimedEntry.heard c) s).entry.manager.reconnectTask = some .debouncing := by
  induction adverts generalizing s with
  | nil => exact debounces
  | cons advert adverts ih =>
    obtain ⟨manager, state, -⟩ := heard_eq (c := c) running unavailable advert
    exact ih (by rw [manager]; exact running) (by rw [state]; exact unavailable) (by rw [manager])

/-- The first advertisement aborts the attempt. -/
theorem foldl_heard_connecting {phase : ConnectPhase} {adverts : List Rat}
    (running : s.entry.manager.running = true) (unavailable : s.entry.state.available = false)
    (connecting : s.entry.manager.reconnectTask = some (.connecting phase)) :
    (adverts.foldl (TimedEntry.heard c) s).entry.manager.reconnectTask = some (.connecting phase) ↔
      adverts = [] := by
  cases adverts with
  | nil => exact iff_of_true connecting rfl
  | cons advert adverts =>
    obtain ⟨manager, state, -⟩ := heard_eq (c := c) running unavailable advert
    have debounces := foldl_heard_debouncing (c := c) (s := s.heard c advert)
      (by rw [manager]; exact running) (by rw [state]; exact unavailable) (by rw [manager]) adverts
    rw [List.foldl_cons, debounces]
    exact iff_of_false nofun nofun

theorem goesOn_iff {phase : ConnectPhase}
    (running : s.entry.manager.running = true) (unavailable : s.entry.state.available = false)
    (connecting : s.entry.manager.reconnectTask = some (.connecting phase))
    (left : List Rat) (finished : Rat) :
    ((left.filter (· < finished)).foldl (TimedEntry.heard c) s).entry.manager.reconnectTask =
        some (.connecting phase) ↔ ∀ advert ∈ left, finished ≤ advert := by
  rw [foldl_heard_connecting running unavailable connecting, List.filter_eq_nil_iff]
  simp only [decide_eq_true_eq, not_lt]

theorem untilConnect_connecting (connecting : s.isConnecting = true) (adverts : List Rat) :
    s.untilConnect c adverts = (s, adverts) := by
  have stays : ∀ limit, s.runBy c limit = s := by
    intro limit
    rw [runBy, wakeBy_connecting connecting, wakeBy_connecting connecting]
  cases adverts with
  | nil => rw [TimedEntry.untilConnect, stays]
  | cons advert adverts => rw [TimedEntry.untilConnect, stays, if_pos connecting]

/-! ### A manager that has stopped -/

theorem heard_stopped (stopped : s.entry.manager.running = false) (time : Rat) :
    s.heard c time = s := by
  unfold TimedEntry.heard MeshEntry.step
  by_cases available : s.entry.state.available = true
  · simp only [available, if_true]
  · simp [available, MeshEntry.scheduleReconnect, stopped]

/-- The loop ends when its sleep is over. -/
theorem wakeBy_stopped (stopped : s.entry.manager.running = false)
    (sleeps : s.isConnecting = false) (limit : Option Rat) :
    (s.wakeBy c limit).entry.manager.running = false ∧ (s.wakeBy c limit).isConnecting = false := by
  unfold wakeBy wake
  split
  · split
    · next here =>
      simp only [MeshEntry.step, MeshEntry.loop?, here, MeshEntry.loopHead, stopped]
      exact ⟨stopped, rfl⟩
    · next here =>
      simp only [MeshEntry.step, MeshEntry.loop?, here, MeshEntry.loopWaited, stopped,
        Bool.false_eq_true, if_false, MeshEntry.noteRetry, ite_self]
      exact ⟨stopped, rfl⟩
    · exact ⟨stopped, sleeps⟩
  · exact ⟨stopped, sleeps⟩

theorem untilConnect_stopped (stopped : s.entry.manager.running = false)
    (sleeps : s.isConnecting = false) (adverts : List Rat) :
    (s.untilConnect c adverts).1.isConnecting = false := by
  have run : ∀ {s : TimedEntry} limit, s.entry.manager.running = false → s.isConnecting = false →
      (s.runBy c limit).entry.manager.running = false ∧ (s.runBy c limit).isConnecting = false :=
    fun limit stopped sleeps =>
      have once := wakeBy_stopped (c := c) stopped sleeps limit
      wakeBy_stopped once.1 once.2 limit
  induction adverts generalizing s with
  | nil => exact (run none stopped sleeps).2
  | cons advert adverts ih =>
    obtain ⟨stopped', sleeps'⟩ := run (some advert) stopped sleeps
    rw [TimedEntry.untilConnect, sleeps', heard_stopped stopped']
    exact ih stopped' sleeps'

theorem onlyHelp_stopped (stopped : s.entry.manager.running = false) (others : Option Rat)
    (lasts : Rat) (adverts : List Rat) : s.OnlyHelp c others lasts adverts := by
  by_cases connecting : s.isConnecting = true
  · constructor
    · rw [nextConnect, nextConnect, untilConnect_connecting connecting,
        untilConnect_connecting connecting]
      exact NoLater.refl _
    · intro phase
      rw [untilConnect_connecting connecting]
      intro here
      -- an advertisement changes nothing any more
      have same : ∀ times : List Rat, times.foldl (TimedEntry.heard c) s = s := by
        intro times
        induction times with
        | nil => rfl
        | cons time times ih => rw [List.foldl_cons, heard_stopped stopped, ih]
      rw [same, here]
  · rw [Bool.not_eq_true] at connecting
    constructor
    · rw [nextConnect, nextConnect, untilConnect_stopped stopped connecting,
        untilConnect_stopped stopped connecting]
      exact NoLater.refl _
    · intro phase here
      have never := untilConnect_stopped (c := c) stopped connecting adverts
      rw [isConnecting, here] at never
      cases never

/-! ### A manager that runs -/

/-- An attempt is in progress. -/
theorem onlyHelp_connecting {others : Option Rat} {lasts : Rat} {adverts : List Rat}
    (running : s.entry.manager.running = true) (unavailable : s.entry.state.available = false)
    (connecting : s.isConnecting = true) :
    s.OnlyHelp c others lasts adverts ↔ ∀ advert ∈ adverts, s.wakes + lasts ≤ advert := by
  obtain ⟨phase, here⟩ := isConnecting_iff.mp connecting
  have all := untilConnect_connecting (c := c) connecting
  rw [← goesOn_iff (c := c) running unavailable here adverts (s.wakes + lasts)]
  constructor
  · intro help
    have goesOn := help.goesOn phase
    rw [all] at goesOn
    exact goesOn here
  · intro goesOn
    constructor
    · rw [nextConnect, nextConnect, all, all]
      exact NoLater.refl _
    · intro phase'
      rw [all]
      intro here'
      rw [here] at here'
      cases here'
      exact goesOn

/-- No attempt is in progress, and the loop is no more than a timer. -/
theorem onlyHelp_sleeping {others : Option Rat} {lasts : Rat} {adverts : List Rat}
    (running : s.entry.manager.running = true) (unavailable : s.entry.state.available = false)
    (sleeps : s.isConnecting = false) (ordered : Ordered adverts) :
    s.OnlyHelp c others lasts adverts ↔ Spares (s.delay c) others lasts (s.start c) adverts := by
  have scheduled : Scheduled c (s.delay c) (s.start c) s := ⟨running, unavailable, rfl, rfl⟩
  have next := scheduled.nextConnect sleeps delay_positive ordered
  have silent := scheduled.nextConnect sleeps delay_positive List.Pairwise.nil
  obtain ⟨runs, ends, left⟩ := scheduled.untilConnect sleeps delay_positive ordered
  constructor
  · rintro ⟨sooner, goesOn⟩
    rw [next, silent] at sooner
    refine ⟨sooner, fun time is advert member => ?_⟩
    obtain ⟨phase, here⟩ := isConnecting_iff.mp (ends.mpr (is ▸ rfl))
    have wakes := runs.start_eq
    rw [is, TimedEntry.start, here] at wakes
    have finished := (goesOn_iff runs.running runs.unavailable here _ _).mp (goesOn phase here)
    rw [Option.some.inj wakes] at finished
    -- what comes before the call has been heard by then
    by_cases before : advert < time
    · exact .inl before
    · exact .inr (finished advert ((left time is advert).mpr ⟨member, le_of_not_gt before⟩))
  · rintro ⟨sooner, undisturbed⟩
    constructor
    · rw [next, silent]
      exact sooner
    · intro phase here
      have wakes := runs.start_eq
      rw [TimedEntry.start, here] at wakes
      refine (goesOn_iff runs.running runs.unavailable here _ _).mpr fun advert member => ?_
      obtain ⟨member', after⟩ := (left _ wakes.symm advert).mp member
      exact (undisturbed _ wakes.symm advert member').resolve_left (not_lt_of_ge after)

/-- The advertisements only help exactly when they come at such times. -/
theorem onlyHelp_iff {others : Option Rat} {lasts : Rat} {adverts : List Rat}
    (unavailable : s.entry.state.available = false) (long : 0 ≤ lasts)
    (ordered : Ordered adverts) :
    s.OnlyHelp c others lasts adverts ↔ s.Spared c others lasts adverts := by
  unfold Spared
  by_cases running : s.entry.manager.running = true
  · rw [or_iff_right (ne_false_of_eq_true running)]
    by_cases connecting : s.isConnecting = true
    · rw [if_pos connecting]
      exact onlyHelp_connecting running unavailable connecting
    · rw [if_neg connecting, ← spares_iff delay_positive long ordered]
      exact onlyHelp_sleeping running unavailable (Bool.not_eq_true _ ▸ connecting) ordered
  · rw [Bool.not_eq_true] at running
    exact iff_of_true (onlyHelp_stopped running others lasts adverts) (.inl running)

end

/-! ### Sample runs -/

/-- A loop that has waited for long, and could begin with a shorter delay. -/
def restedEntry : TimedEntry where
  entry := { setup := .done, manager := { running := true, reconnectTask := some (.waiting 300) } }
  wakes := 300

/-- The device is heard twice, and again when it has been connected. -/
theorem restedEntry_onlyHelp :
    restedEntry.OnlyHelp MeshEntry.telinkEntry none 20 [2, 7, 60] := by
  have spared : restedEntry.Spared MeshEntry.telinkEntry none 20 [2, 7, 60] := by
    have delay : restedEntry.delay MeshEntry.telinkEntry = some (13 / 2) := by decide +kernel
    have settles : Settles (13 / 2) 20 [2, 7, 60] 7 :=
      ⟨by decide +kernel, by decide +kernel, by decide +kernel⟩
    rw [Spared, delay]
    refine .inr (.inr ⟨⟨2, ?_, ?_⟩, 7, settles, .inr ?_⟩) <;> decide +kernel
  exact (onlyHelp_iff rfl (by decide +kernel) (by decide +kernel)).mpr spared

/-- The link is lost, and a loop waits to connect it again. -/
def lostRun : List (Rat × EntryEvent) :=
  MeshEntry.atOnce (MeshEntry.setupRun ++ [.linkLost, .debounced .current])

/-- An advertisement comes a second before the loop would call `connect`, or while it connects. -/
theorem lostRun_disturbed :
    (∃ entry ∈ (entrySystem MeshEntry.telinkEntry).exec {} lostRun,
      (TimedEntry.mk entry 5).nextConnect MeshEntry.telinkEntry [] = some 5 ∧
        (TimedEntry.mk entry 5).nextConnect MeshEntry.telinkEntry [4] = some (21 / 2) ∧
          ¬(TimedEntry.mk entry 5).OnlyHelp MeshEntry.telinkEntry none 20 [4]) ∧
      ∃ entry ∈ (entrySystem MeshEntry.telinkEntry).exec {} (lostRun ++ [(5, .waited .current)]),
        ¬(TimedEntry.mk entry 5).OnlyHelp MeshEntry.telinkEntry none 20 [6] := by
  have waits : ∃ entry ∈ (entrySystem MeshEntry.telinkEntry).exec {} lostRun,
      (TimedEntry.mk entry 5).nextConnect MeshEntry.telinkEntry [] = some 5 ∧
        (TimedEntry.mk entry 5).nextConnect MeshEntry.telinkEntry [4] = some (21 / 2) := by
    decide +kernel
  have connects : ∃ entry ∈
      (entrySystem MeshEntry.telinkEntry).exec {} (lostRun ++ [(5, .waited .current)]),
      entry.manager.reconnectTask = some (.connecting (.trying 1)) ∧
        entry.manager.running = true ∧ entry.state.available = false := by
    decide +kernel
  obtain ⟨waiting, waited, five, later⟩ := waits
  obtain ⟨connecting, called, here, running, unavailable⟩ := connects
  refine ⟨⟨waiting, waited, five, later, fun help => ?_⟩, connecting, called, fun help => ?_⟩
  · have sooner := help.sooner
    rw [five, later] at sooner
    obtain ⟨_, ⟨⟩, le⟩ := sooner 5 rfl
    exact absurd le (by decide +kernel)
  · have goesOn := help.goesOn (.trying 1)
    rw [untilConnect_connecting (isConnecting_iff.mpr ⟨_, here⟩)] at goesOn
    have finished : (5 : Rat) + 20 ≤ 6 :=
      (goesOn_iff running unavailable here _ _).mp (goesOn here) 6 List.mem_cons_self
    exact absurd finished (by decide +kernel)

end TimedEntry

end TuyaBleMesh
