import TuyaBleMesh.Lib.OrderedDict
import TuyaBleMesh.Transport.Request

/-!
# Transport metrics

`metrics.py`: what `record_result` and `record_in_flight` count.
-/

namespace TuyaBleMesh

/-- `deque(maxlen=maxlen).append(item)`. -/
def appendBounded {α : Type} (maxlen : Nat) (items : List α) (item : α) : List α :=
  (items ++ [item]).drop (items.length + 1 - maxlen)

def _SAMPLES_MAX : Nat := 100

structure OpcodeStats where
  sent : Nat := 0
  succeeded : Nat := 0
  failed : Nat := 0
  timedOut : Nat := 0
  latencySamples : List Rat := []
  deriving DecidableEq

def OpcodeStats.count (stats : OpcodeStats) : Status → OpcodeStats
  | .success => { stats with succeeded := stats.succeeded + 1 }
  | .timeout => { stats with timedOut := stats.timedOut + 1 }
  | .error => { stats with failed := stats.failed + 1 }
  | .cancelled => stats
  | .coalesced => stats

structure TransportMetrics where
  commandsSent : Nat := 0
  commandsSucceeded : Nat := 0
  commandsFailed : Nat := 0
  commandsTimedOut : Nat := 0
  commandsCancelled : Nat := 0
  commandsCoalesced : Nat := 0
  retriesTotal : Nat := 0
  inFlightMax : Nat := 0
  latencySamples : List Rat := []
  perOpcodeStats : OrderedDict Nat OpcodeStats := .empty

namespace TransportMetrics

/-- `_per_opcode_stats[opcode]`, a `defaultdict`. -/
def opcodeStats (metrics : TransportMetrics) (opcode : Nat) : OpcodeStats :=
  (metrics.perOpcodeStats.get? opcode).getD {}

def count (metrics : TransportMetrics) : Status → TransportMetrics
  | .success => { metrics with commandsSucceeded := metrics.commandsSucceeded + 1 }
  | .timeout => { metrics with commandsTimedOut := metrics.commandsTimedOut + 1 }
  | .error => { metrics with commandsFailed := metrics.commandsFailed + 1 }
  | .cancelled => { metrics with commandsCancelled := metrics.commandsCancelled + 1 }
  | .coalesced => { metrics with commandsCoalesced := metrics.commandsCoalesced + 1 }

/-- `record_result`. -/
def recordResult (metrics : TransportMetrics) (result : CommandResult) (opcode : Nat) :
    TransportMetrics :=
  let stats := (metrics.opcodeStats opcode).count result.status
  let sampled (samples : List Rat) : List Rat :=
    if result.latencyMs > 0 then appendBounded _SAMPLES_MAX samples result.latencyMs else samples
  let metrics := metrics.count result.status
  { metrics with
    commandsSent := metrics.commandsSent + 1
    retriesTotal := metrics.retriesTotal + result.retriesUsed
    latencySamples := sampled metrics.latencySamples
    perOpcodeStats := metrics.perOpcodeStats.set opcode
      { stats with latencySamples := sampled stats.latencySamples, sent := stats.sent + 1 } }

/-- `record_in_flight`. -/
def recordInFlight (metrics : TransportMetrics) (count : Nat) : TransportMetrics :=
  if count > metrics.inFlightMax then { metrics with inFlightMax := count } else metrics

/-- The counters count the recorded results. -/
structure Tallies (metrics : TransportMetrics) (recorded : List (CommandResult × Nat)) : Prop where
  sent : metrics.commandsSent = recorded.length
  succeeded : metrics.commandsSucceeded = recorded.countP fun entry => entry.1.status = .success
  timedOut : metrics.commandsTimedOut = recorded.countP fun entry => entry.1.status = .timeout
  failed : metrics.commandsFailed = recorded.countP fun entry => entry.1.status = .error

variable {metrics : TransportMetrics} {recorded : List (CommandResult × Nat)}

theorem Tallies.recordResult (tallies : metrics.Tallies recorded) (result : CommandResult)
    (opcode : Nat) :
    (metrics.recordResult result opcode).Tallies (recorded ++ [(result, opcode)]) := by
  obtain ⟨sent, succeeded, timedOut, failed⟩ := tallies
  simp only [TransportMetrics.recordResult]
  cases status : result.status <;>
    constructor <;>
    simp [count, status, sent, succeeded, timedOut, failed]

theorem Tallies.recordInFlight (tallies : metrics.Tallies recorded) (inFlight : Nat) :
    (metrics.recordInFlight inFlight).Tallies recorded := by
  unfold TransportMetrics.recordInFlight
  split
  · exact ⟨tallies.sent, tallies.succeeded, tallies.timedOut, tallies.failed⟩
  · exact tallies

end TransportMetrics

end TuyaBleMesh
