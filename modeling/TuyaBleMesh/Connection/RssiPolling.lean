import Mathlib.Algebra.Order.Ring.Rat
import Mathlib.Tactic.Linarith
import TuyaBleMesh.Transport.Metrics

/-!
# Adaptive RSSI polling

The polling interval of `ConnectionManager`: `_rssi_loop`, `record_state_change` and
`adjust_polling_interval`, which both of them call. The intervals are exact: the ones that
are reached are floats without rounding.
-/

namespace TuyaBleMesh

def RSSI_MIN_INTERVAL : Rat := 30

def RSSI_MAX_INTERVAL : Rat := 300

def RSSI_DEFAULT_INTERVAL : Rat := 60

def RSSI_STABILITY_THRESHOLD : Nat := 3

/-- The fields of `ConnectionManager` that the polling reads and writes. -/
structure RssiPolling where
  rssiInterval : Rat := RSSI_DEFAULT_INTERVAL
  stateChangeCounter : Nat := 0
  stableCycles : Nat := 0
  /-- `ConnectionStatistics.rssi_history`, without its times. -/
  rssiHistory : List Int := []

namespace RssiPolling

def adjustPollingInterval (s : RssiPolling) : RssiPolling :=
  let adjusted :=
    if 2 ≤ s.stateChangeCounter then
      { s with rssiInterval := max RSSI_MIN_INTERVAL (s.rssiInterval * (3 / 4)) }
    else if RSSI_STABILITY_THRESHOLD ≤ s.stableCycles then
      { s with rssiInterval := min RSSI_MAX_INTERVAL (s.rssiInterval * (3 / 2)) }
    else s
  -- whoever calls this starts the count of the changes again
  { adjusted with stateChangeCounter := 0 }

def recordStateChange (s : RssiPolling) : RssiPolling :=
  adjustPollingInterval
    { s with stateChangeCounter := s.stateChangeCounter + 1, stableCycles := 0 }

def appendRssi (s : RssiPolling) (rssi : Int) : RssiPolling :=
  { s with rssiHistory := appendBounded 50 s.rssiHistory rssi }

/-- The end of a round of `_rssi_loop`, with the new reading in the history. -/
def trackStability (s : RssiPolling) (rssi : Int) : RssiPolling :=
  match s.rssiHistory.reverse with
  | _ :: prevRssi :: _ =>
    if |rssi - prevRssi| ≤ 2 then
      let counted := { s with stableCycles := s.stableCycles + 1 }
      if RSSI_STABILITY_THRESHOLD ≤ counted.stableCycles then counted.adjustPollingInterval
      else counted
    else { s with stableCycles := 0 }
  | _ => s

/-- A round of `_rssi_loop` that finds the device. If `_on_state_update` raises, the round ends
there. -/
def reading (s : RssiPolling) (rssi : Int) (raises : Bool) : RssiPolling :=
  if raises then s.appendRssi rssi else (s.appendRssi rssi).trackStability rssi

end RssiPolling

/-- What moves the polling state. -/
inductive RssiEvent
  /-- A notification that changes the state. -/
  | stateChange
  /-- A reading of `_rssi_loop`. -/
  | reading (rssi : Int) (raises : Bool)
  /-- `connect` has succeeded, with what the client says of the signal. -/
  | connected (rssi : Int)
  deriving DecidableEq

def RssiPolling.step (s : RssiPolling) : RssiEvent → RssiPolling
  | .stateChange => s.recordStateChange
  | .reading rssi raises => s.reading rssi raises
  | .connected rssi => s.appendRssi rssi

namespace RssiEvent

/-- The polling state after a history, which is latest first. -/
def polling : List RssiEvent → RssiPolling
  | [] => {}
  | event :: earlier => (polling earlier).step event

def interval (history : List RssiEvent) : Rat := (polling history).rssiInterval

def isReading : RssiEvent → Bool
  | .reading _ _ => true
  | _ => false

/-- What has happened since the last reading. -/
def sinceReading (history : List RssiEvent) : List RssiEvent :=
  history.takeWhile fun event => !event.isReading

/-- The history up to its last reading. -/
def atReading (history : List RssiEvent) : List RssiEvent :=
  history.dropWhile fun event => !event.isReading

/-- The state changes since the last reading. -/
def changesSinceReading (history : List RssiEvent) : Nat :=
  (sinceReading history).count .stateChange

def lastRssi : List RssiEvent → Option Int
  | [] => none
  | .stateChange :: earlier => lastRssi earlier
  | .reading rssi _ :: _ => some rssi
  | .connected rssi :: _ => some rssi

/-- The readings that were close to what came before them. -/
def stableReadings : List RssiEvent → Nat
  | [] => 0
  | .reading rssi false :: earlier =>
    if (lastRssi earlier).any fun prevRssi => |rssi - prevRssi| ≤ 2 then stableReadings earlier + 1
    else stableReadings earlier
  | _ :: earlier => stableReadings earlier

/-- The last `n` stable readings came without a state change. -/
def SteadyFor (n : Nat) (history : List RssiEvent) : Prop :=
  ∃ recent earlier, history = recent ++ earlier ∧ RssiEvent.stateChange ∉ recent ∧
    stableReadings earlier + n ≤ stableReadings history

/-- What adaptive polling is to do. -/
structure Adapts (history : List RssiEvent) : Prop where
  lower : RSSI_MIN_INTERVAL ≤ interval history
  upper : interval history ≤ RSSI_MAX_INTERVAL
  shortened : 2 ≤ changesSinceReading history →
    interval history < interval (atReading history) ∨
      interval (atReading history) = RSSI_MIN_INTERVAL
  lengthened : ∀ event earlier, history = event :: earlier →
    interval earlier < interval history → SteadyFor RSSI_STABILITY_THRESHOLD history

end RssiEvent

/-! ### What a step does -/

namespace RssiPolling

variable {s : RssiPolling}

theorem adjust_uncounted (uncounted : s.stateChangeCounter < 2)
    (unsteady : s.stableCycles < RSSI_STABILITY_THRESHOLD) :
    s.adjustPollingInterval = { s with stateChangeCounter := 0 } := by
  simp only [adjustPollingInterval]
  rw [if_neg (Nat.not_le.mpr uncounted), if_neg (Nat.not_le.mpr unsteady)]

theorem adjust_steady (uncounted : s.stateChangeCounter < 2)
    (steady : RSSI_STABILITY_THRESHOLD ≤ s.stableCycles) :
    s.adjustPollingInterval =
      { s with rssiInterval := min RSSI_MAX_INTERVAL (s.rssiInterval * (3 / 2))
               stateChangeCounter := 0 } := by
  simp only [adjustPollingInterval]
  rw [if_neg (Nat.not_le.mpr uncounted), if_pos steady]

/-- The call in `record_state_change` finds a count of one, and sets it back to zero. -/
theorem recordStateChange_eq (uncounted : s.stateChangeCounter = 0) :
    s.recordStateChange = { s with stableCycles := 0 } := by
  rw [recordStateChange,
    adjust_uncounted (by simp [uncounted]) (by simp [RSSI_STABILITY_THRESHOLD]), ← uncounted]

theorem appendRssi_reverse (rssi : Int) :
    (s.appendRssi rssi).rssiHistory.reverse = rssi :: s.rssiHistory.reverse.take 49 := by
  simp only [appendRssi, appendBounded, List.reverse_drop, List.reverse_append, List.length_append,
    List.length_singleton, List.reverse_singleton, List.singleton_append]
  -- the deque is not full yet, or drops its oldest reading
  by_cases short : s.rssiHistory.length ≤ 49
  · rw [Nat.sub_eq_zero_of_le (show s.rssiHistory.length + 1 ≤ 50 by omega), Nat.sub_zero,
      List.take_succ_cons, List.take_of_length_le (by simp),
      List.take_of_length_le (by simpa using short)]
  · rw [show s.rssiHistory.length + 1 - (s.rssiHistory.length + 1 - 50) = 49 + 1 by omega,
      List.take_succ_cons]

/-- A round that is not cut short compares the reading with the one before it. -/
theorem reading_eq (rssi : Int) (uncounted : s.stateChangeCounter = 0) :
    s.reading rssi false =
      match s.rssiHistory.reverse.head? with
      | none => s.appendRssi rssi
      | some prevRssi =>
        if |rssi - prevRssi| ≤ 2 then
          { s.appendRssi rssi with
            stableCycles := s.stableCycles + 1
            rssiInterval := if RSSI_STABILITY_THRESHOLD ≤ s.stableCycles + 1 then
              min RSSI_MAX_INTERVAL (s.rssiInterval * (3 / 2)) else s.rssiInterval }
        else { s.appendRssi rssi with stableCycles := 0 } := by
  simp only [reading, Bool.false_eq_true, if_false, trackStability, appendRssi_reverse]
  cases s.rssiHistory.reverse with
  | nil => rfl
  | cons prevRssi rest =>
    simp only [List.take_succ_cons, List.head?_cons]
    split
    · by_cases steady : RSSI_STABILITY_THRESHOLD ≤ s.stableCycles + 1
      · simp only [appendRssi, steady, if_true]
        rw [adjust_steady (by simp [uncounted]) steady, ← uncounted]
      · simp only [appendRssi, steady, if_false]
    · rfl

end RssiPolling

namespace RssiEvent

/-- What every reachable state keeps. -/
structure Kept (history : List RssiEvent) : Prop where
  counter : (polling history).stateChangeCounter = 0
  last : (polling history).rssiHistory.reverse.head? = lastRssi history
  steady : SteadyFor (polling history).stableCycles history

variable {history earlier : List RssiEvent} {event : RssiEvent}

theorem steadyFor_zero (history : List RssiEvent) : SteadyFor 0 history :=
  ⟨[], history, rfl, List.not_mem_nil, Nat.le_refl _⟩

theorem SteadyFor.mono {m n : Nat} (steady : SteadyFor n history) (le : m ≤ n) :
    SteadyFor m history := by
  obtain ⟨recent, before, split, still, enough⟩ := steady
  exact ⟨recent, before, split, still, (Nat.add_le_add_left le _).trans enough⟩

/-- What is no state change goes on with the stable readings. -/
theorem SteadyFor.cons {m n : Nat} (steady : SteadyFor m earlier) (unchanged : event ≠ .stateChange)
    (counted : stableReadings earlier + n ≤ stableReadings (event :: earlier) + m) :
    SteadyFor n (event :: earlier) := by
  obtain ⟨recent, before, split, still, enough⟩ := steady
  refine ⟨event :: recent, before, by rw [split, List.cons_append], ?_, by omega⟩
  simp only [List.mem_cons, not_or]
  exact ⟨fun same => unchanged same.symm, still⟩

theorem kept_nil : Kept [] := ⟨rfl, rfl, steadyFor_zero []⟩

theorem Kept.append (kept : Kept earlier) {rssi : Int}
    (appended : polling (event :: earlier) = (polling earlier).appendRssi rssi)
    (last : lastRssi (event :: earlier) = some rssi) (unchanged : event ≠ .stateChange)
    (counted : stableReadings earlier ≤ stableReadings (event :: earlier)) :
    Kept (event :: earlier) where
  counter := by
    rw [appended]
    exact kept.counter
  last := by rw [appended, RssiPolling.appendRssi_reverse, last, List.head?_cons]
  steady := by
    rw [appended]
    exact kept.steady.cons unchanged (Nat.add_le_add_right counted _)

/-- What a step does to the counters and the interval. -/
theorem Kept.step (kept : Kept earlier) (event : RssiEvent) :
    Kept (event :: earlier) ∧ (interval (event :: earlier) = interval earlier ∨
      event.isReading = true ∧
        RSSI_STABILITY_THRESHOLD ≤ (polling (event :: earlier)).stableCycles ∧
        interval (event :: earlier) = min RSSI_MAX_INTERVAL (interval earlier * (3 / 2))) := by
  cases event with
  | stateChange =>
    -- the count comes back as zero, so only the stable readings start again
    have eq : polling (.stateChange :: earlier) = { polling earlier with stableCycles := 0 } :=
      RssiPolling.recordStateChange_eq kept.counter
    refine ⟨⟨?_, ?_, ?_⟩, .inl ?_⟩
    · rw [eq]
      exact kept.counter
    · rw [eq]
      exact kept.last
    · rw [eq]
      exact steadyFor_zero _
    · rw [interval, eq]
      rfl
  | connected rssi => exact ⟨kept.append rfl rfl RssiEvent.noConfusion (Nat.le_refl _), .inl rfl⟩
  | reading rssi raises =>
    cases raises with
    -- a callback that raises leaves the reading in the history, and that is all
    | true => exact ⟨kept.append rfl rfl RssiEvent.noConfusion (Nat.le_refl _), .inl rfl⟩
    | false =>
      have eq : polling (.reading rssi false :: earlier) = _ :=
        RssiPolling.reading_eq rssi kept.counter
      rw [kept.last] at eq
      cases found : lastRssi earlier with
      | none =>
        rw [found] at eq
        refine ⟨kept.append eq rfl RssiEvent.noConfusion ?_, .inl ?_⟩
        · simp [stableReadings, found]
        · rw [interval, eq]
          rfl
      | some prevRssi =>
        simp only [found] at eq
        by_cases near : |rssi - prevRssi| ≤ 2
        · rw [if_pos near] at eq
          have counted : stableReadings (.reading rssi false :: earlier) =
              stableReadings earlier + 1 := by
            simp [stableReadings, found, near]
          refine ⟨⟨?_, ?_, ?_⟩, ?_⟩
          · rw [eq]
            exact kept.counter
          · rw [eq]
            exact (congrArg List.head? (RssiPolling.appendRssi_reverse rssi)).trans rfl
          · rw [eq]
            refine kept.steady.cons RssiEvent.noConfusion ?_
            rw [counted]
            dsimp only
            omega
          · rw [interval, eq]
            by_cases steady : RSSI_STABILITY_THRESHOLD ≤ (polling earlier).stableCycles + 1
            · exact .inr ⟨rfl, steady, if_pos steady⟩
            · exact .inl (if_neg steady)
        · -- the reading ends what was stable
          rw [if_neg near] at eq
          refine ⟨⟨?_, ?_, ?_⟩, .inl ?_⟩
          · rw [eq]
            exact kept.counter
          · rw [eq]
            exact (congrArg List.head? (RssiPolling.appendRssi_reverse rssi)).trans rfl
          · rw [eq]
            exact steadyFor_zero _
          · rw [interval, eq]
            rfl

theorem kept (history : List RssiEvent) : Kept history := by
  induction history with
  | nil => exact kept_nil
  | cons event earlier ih => exact (ih.step event).1

/-! ### Runs -/

theorem interval_bounds (history : List RssiEvent) :
    RSSI_DEFAULT_INTERVAL ≤ interval history ∧ interval history ≤ RSSI_MAX_INTERVAL := by
  induction history with
  | nil =>
    constructor
    · exact le_refl _
    · norm_num [interval, polling, RSSI_DEFAULT_INTERVAL, RSSI_MAX_INTERVAL]
  | cons event earlier ih =>
    rcases ((kept earlier).step event).2 with same | ⟨_, _, longer⟩
    · rw [same]
      exact ih
    · rw [longer]
      refine ⟨le_min (ih.1.trans ih.2) ?_, min_le_left _ _⟩
      have floor : RSSI_DEFAULT_INTERVAL ≤ interval earlier := ih.1
      unfold RSSI_DEFAULT_INTERVAL at floor ⊢
      linarith

/-- Nothing but a reading moves the interval. -/
theorem interval_atReading (history : List RssiEvent) :
    interval history = interval (atReading history) := by
  induction history with
  | nil => rfl
  | cons event earlier ih =>
    rcases ((kept earlier).step event).2 with same | ⟨reading, _⟩
    · cases isReading : event.isReading with
      | false => rw [same, ih, atReading, atReading, List.dropWhile_cons, isReading]; rfl
      | true => rw [atReading, List.dropWhile_cons, isReading]; rfl
    · rw [atReading, List.dropWhile_cons, reading]
      rfl

/-- Two state changes in a row do not shorten the interval. -/
theorem adapts_iff (history : List RssiEvent) :
    Adapts history ↔ changesSinceReading history < 2 := by
  obtain ⟨lower, upper⟩ := interval_bounds history
  have default : RSSI_MIN_INTERVAL < RSSI_DEFAULT_INTERVAL := by
    norm_num [RSSI_MIN_INTERVAL, RSSI_DEFAULT_INTERVAL]
  constructor
  · -- the interval is what it was at the last reading, and never the minimal one
    intro adapts
    by_contra twice
    rcases adapts.shortened (Nat.not_lt.mp twice) with shorter | minimal
    · exact absurd shorter (not_lt.mpr (interval_atReading history).ge)
    · rw [← interval_atReading] at minimal
      exact absurd minimal (default.trans_le lower).ne'
  · intro few
    refine ⟨(default.trans_le lower).le, upper, fun twice => absurd few (Nat.not_lt.mpr twice), ?_⟩
    rintro event earlier rfl longer
    rcases ((kept earlier).step event).2 with same | ⟨_, steady, _⟩
    · exact absurd longer (not_lt.mpr same.le)
    · exact (kept (event :: earlier)).steady.mono steady

/-- Polling adapts at every moment of a run just when the run never has two state changes
between readings: the count of the changes does not get that far. -/
theorem polling_adapts_iff (history : List RssiEvent) :
    (∀ past, past <:+ history → Adapts past) ↔
      ∀ past, past <:+ history → changesSinceReading past < 2 :=
  forall₂_congr fun past _ => adapts_iff past

/-- The state changes twice right after the start. -/
theorem two_changes_not_adapted :
    ¬ ∀ history past : List RssiEvent, past <:+ history → Adapts past := by
  intro adapts
  have both := adapts [.stateChange, .stateChange] _ List.suffix_rfl
  rcases both.shortened (by decide) with shorter | minimal
  · exact absurd shorter (lt_irrefl (60 : Rat))
  · have same : (60 : Rat) = 30 := minimal
    norm_num at same

end RssiEvent

end TuyaBleMesh
