import Mathlib.Algebra.Order.Field.Rat
import Mathlib.Data.Rat.Floor
import Mathlib.Tactic.Linarith
import Hmmp.Wire.MetricsPack

/-!
# The metrics collector

Counters of connections and requests, the smoothed latency, and the metrics
pack that a heartbeat takes from them.  Clock readings and latencies are exact
rationals in milliseconds; what the providers of CPU and memory usage return is
an argument.
-/

namespace Hmmp
namespace Resilience

open Wire

namespace MetricsCollector

def errorRateThreshold : Rat := 1 / 2

def ewmaAlpha : Rat := 3 / 10

def defaultPreheatDurationMs : Int := 120000

end MetricsCollector

structure MetricsCollector where
  activeConnections : Int
  ewmaDelayMs : Rat
  totalRequests : Int
  failedRequests : Int
  errorFlagOverride : Bool
  preheatFlagOverride : Option Bool
  preheatDurationMs : Int
  startTimeMs : Rat
  deriving DecidableEq

namespace MetricsCollector

/-- A new collector, constructed at clock reading {lit}`now`; a duration of
zero counts as none. -/
def new (preheatDurationMs : Option Int) (now : Rat) : MetricsCollector where
  activeConnections := 0
  ewmaDelayMs := 0
  totalRequests := 0
  failedRequests := 0
  errorFlagOverride := false
  preheatFlagOverride := none
  preheatDurationMs :=
    match preheatDurationMs with
    | some ms => if ms = 0 then defaultPreheatDurationMs else ms
    | none => defaultPreheatDurationMs
  startTimeMs := now

/-!
# Counters
-/

def incrementConnections (c : MetricsCollector) : MetricsCollector :=
  { c with activeConnections := c.activeConnections + 1 }

def decrementConnections (c : MetricsCollector) : MetricsCollector :=
  { c with activeConnections := max 0 (c.activeConnections - 1) }

def recordLatency (c : MetricsCollector) (latencyMs : Rat) :
    MetricsCollector :=
  if c.ewmaDelayMs = 0 then { c with ewmaDelayMs := latencyMs }
  else
    { c with
      ewmaDelayMs :=
        ewmaAlpha * latencyMs + (1 - ewmaAlpha) * c.ewmaDelayMs }

def recordRequest (c : MetricsCollector) (success : Bool) :
    MetricsCollector :=
  let c := { c with totalRequests := c.totalRequests + 1 }
  if success then c else { c with failedRequests := c.failedRequests + 1 }

def setErrorFlag (c : MetricsCollector) (flag : Bool) : MetricsCollector :=
  { c with errorFlagOverride := flag }

def errorRate (c : MetricsCollector) : Rat :=
  if c.totalRequests = 0 then 0
  else (c.failedRequests : Rat) / (c.totalRequests : Rat)

def resetErrorCounters (c : MetricsCollector) : MetricsCollector :=
  { c with totalRequests := 0, failedRequests := 0 }

def setPreheatFlag (c : MetricsCollector) (flag : Option Bool) :
    MetricsCollector :=
  { c with preheatFlagOverride := flag }

def setPreheatDurationMs (c : MetricsCollector) (ms : Int) :
    MetricsCollector :=
  { c with preheatDurationMs := ms }

/-!
# The pack
-/

def computeErrorFlag (c : MetricsCollector) : Bool :=
  if c.errorFlagOverride then true
  else decide (c.errorRate >= errorRateThreshold)

def computePreheatFlag (c : MetricsCollector) (now : Rat) : Bool :=
  match c.preheatFlagOverride with
  | some flag => flag
  | none => decide (now - c.startTimeMs < (c.preheatDurationMs : Rat))

/-- The integer part of a number; {lit}`int` truncates towards zero. -/
def truncate (q : Rat) : Int :=
  if q < 0 then -⌊-q⌋ else ⌊q⌋

/-- The pack for readings of the providers and the clock. -/
def collectMetricsPack (c : MetricsCollector) (cpu memory now : Rat) : Nat :=
  let cpuQuantized := min 31 (truncate (cpu / loadStep))
  let memQuantized := min 31 (truncate (memory / loadStep))
  let connsClipped := min 1023 c.activeConnections
  let ewmaClipped := min 511 (truncate c.ewmaDelayMs)
  packMetricsPack cpuQuantized memQuantized connsClipped ewmaClipped
    c.computeErrorFlag (c.computePreheatFlag now) false

end MetricsCollector

/-!
# Histories
-/

/-- A call of a collector. -/
inductive MetricsCall where
  | incrementConnections
  | decrementConnections
  | recordLatency (latencyMs : Rat)
  | recordRequest (success : Bool)
  | setErrorFlag (flag : Bool)
  | resetErrorCounters
  | setPreheatFlag (flag : Option Bool)
  | setPreheatDurationMs (ms : Int)

namespace MetricsCollector

def after (c : MetricsCollector) : MetricsCall -> MetricsCollector
  | MetricsCall.incrementConnections => c.incrementConnections
  | MetricsCall.decrementConnections => c.decrementConnections
  | MetricsCall.recordLatency latencyMs => c.recordLatency latencyMs
  | MetricsCall.recordRequest success => c.recordRequest success
  | MetricsCall.setErrorFlag flag => c.setErrorFlag flag
  | MetricsCall.resetErrorCounters => c.resetErrorCounters
  | MetricsCall.setPreheatFlag flag => c.setPreheatFlag flag
  | MetricsCall.setPreheatDurationMs ms => c.setPreheatDurationMs ms

def run (c : MetricsCollector) (calls : List MetricsCall) :
    MetricsCollector :=
  calls.foldl after c

end MetricsCollector

/-- What a collector is told by its calls. -/
structure MetricsHistory where
  /-- Connections that are open; there is none below zero. -/
  connections : Nat := 0
  /-- The latencies so far. -/
  latencies : List Rat := []
  /-- Whether each request since the last reset succeeded. -/
  outcomes : List Bool := []
  /-- Whether the error flag is set by hand. -/
  overridden : Bool := false

namespace MetricsHistory

def add (h : MetricsHistory) : MetricsCall -> MetricsHistory
  | MetricsCall.incrementConnections =>
      { h with connections := h.connections + 1 }
  | MetricsCall.decrementConnections =>
      { h with connections := h.connections - 1 }
  | MetricsCall.recordLatency latencyMs =>
      { h with latencies := h.latencies ++ [latencyMs] }
  | MetricsCall.recordRequest success =>
      { h with outcomes := h.outcomes ++ [success] }
  | MetricsCall.setErrorFlag flag => { h with overridden := flag }
  | MetricsCall.resetErrorCounters => { h with outcomes := [] }
  | _ => h

def of (calls : List MetricsCall) : MetricsHistory :=
  calls.foldl add {}

/-- Overridden, or at least half of the counted requests failed. -/
def Erroneous (h : MetricsHistory) : Prop :=
  h.overridden = true ∨
    h.outcomes ≠ [] ∧ h.outcomes.length <= 2 * h.outcomes.count false

end MetricsHistory

def BetweenLatencies (latencies : List Rat) (value : Rat) : Prop :=
  exists low high, low ∈ latencies ∧ high ∈ latencies ∧ low <= value ∧
    value <= high

namespace MetricsCollector

/-- The collector holds what its history says. -/
structure Tracks (h : MetricsHistory) (c : MetricsCollector) : Prop where
  connections : c.activeConnections = (h.connections : Int)
  total : c.totalRequests = (h.outcomes.length : Int)
  failed : c.failedRequests = (h.outcomes.count false : Int)
  overridden : c.errorFlagOverride = h.overridden
  idle : h.latencies = [] -> c.ewmaDelayMs = 0
  between : h.latencies ≠ [] -> BetweenLatencies h.latencies c.ewmaDelayMs

variable {h : MetricsHistory} {c : MetricsCollector}

theorem tracks_new (preheatDurationMs : Option Int) (now : Rat) :
    Tracks {} (new preheatDurationMs now) where
  connections := rfl
  total := rfl
  failed := rfl
  overridden := rfl
  idle _ := rfl
  between hne := absurd rfl hne

/-!
# Smoothed latencies
-/

theorem between_smoothed {latencies : List Rat} {value : Rat}
    (hbetween : BetweenLatencies latencies value) (latencyMs : Rat) :
    BetweenLatencies (latencies ++ [latencyMs])
      (ewmaAlpha * latencyMs + (1 - ewmaAlpha) * value) := by
  have hlast : latencyMs ∈ latencies ++ [latencyMs] :=
    List.mem_append_right _ List.mem_cons_self
  rcases hbetween with ⟨low, high, hlow, hhigh, hle, hge⟩
  have hlow := List.mem_append_left [latencyMs] hlow
  have hhigh := List.mem_append_left [latencyMs] hhigh
  unfold ewmaAlpha
  -- The mean is between the new latency and the old value.
  rcases le_total latencyMs value with hsmall | hlarge
  · exact ⟨latencyMs, high, hlast, hhigh, by linarith, by linarith⟩
  · exact ⟨low, latencyMs, hlow, hlast, by linarith, by linarith⟩

theorem recordLatency_between (htracks : Tracks h c) (latencyMs : Rat) :
    BetweenLatencies (h.latencies ++ [latencyMs])
      (c.recordLatency latencyMs).ewmaDelayMs := by
  have hlast : latencyMs ∈ h.latencies ++ [latencyMs] :=
    List.mem_append_right _ List.mem_cons_self
  unfold recordLatency
  by_cases hzero : c.ewmaDelayMs = 0
  · -- A value of zero starts again, whether or not it is the first one.
    rw [if_pos hzero]
    exact ⟨latencyMs, latencyMs, hlast, hlast, le_refl _, le_refl _⟩
  · rw [if_neg hzero]
    have hne : h.latencies ≠ [] := fun hnil => hzero (htracks.idle hnil)
    exact between_smoothed (htracks.between hne) latencyMs

theorem recordLatency_others (c : MetricsCollector) (latencyMs : Rat) :
    (c.recordLatency latencyMs).activeConnections = c.activeConnections ∧
      (c.recordLatency latencyMs).totalRequests = c.totalRequests ∧
      (c.recordLatency latencyMs).failedRequests = c.failedRequests ∧
      (c.recordLatency latencyMs).errorFlagOverride = c.errorFlagOverride := by
  unfold recordLatency
  split
  · exact ⟨rfl, rfl, rfl, rfl⟩
  · exact ⟨rfl, rfl, rfl, rfl⟩

/-!
# Calls and histories
-/

theorem Tracks.after (htracks : Tracks h c) (call : MetricsCall) :
    Tracks (h.add call) (c.after call) := by
  have hconnections := htracks.connections
  cases call with
  | incrementConnections =>
      refine { htracks with connections := ?_ }
      show c.activeConnections + 1 = ((h.connections + 1 : Nat) : Int)
      omega
  | decrementConnections =>
      refine { htracks with connections := ?_ }
      show max 0 (c.activeConnections - 1) = ((h.connections - 1 : Nat) : Int)
      omega
  | recordLatency latencyMs =>
      have hbetween := recordLatency_between htracks latencyMs
      rcases recordLatency_others c latencyMs with
        ⟨hconns, htotal, hfailed, hover⟩
      exact
        { connections := hconns.trans htracks.connections
          total := htotal.trans htracks.total
          failed := hfailed.trans htracks.failed
          overridden := hover.trans htracks.overridden
          idle := fun hnil => absurd hnil (by simp [MetricsHistory.add])
          between := fun _ => hbetween }
  | recordRequest success =>
      have htotal : c.totalRequests + 1 =
          ((h.outcomes ++ [success]).length : Int) := by
        rw [htracks.total, List.length_append]
        rfl
      cases success with
      | true =>
          refine { htracks with total := htotal, failed := ?_ }
          show c.failedRequests = ((h.outcomes ++ [true]).count false : Int)
          rw [htracks.failed, List.count_append]
          rfl
      | false =>
          refine { htracks with total := htotal, failed := ?_ }
          show c.failedRequests + 1 =
            ((h.outcomes ++ [false]).count false : Int)
          rw [htracks.failed, List.count_append]
          rfl
  | setErrorFlag flag => exact { htracks with overridden := rfl }
  | resetErrorCounters => exact { htracks with total := rfl, failed := rfl }
  | setPreheatFlag flag => exact { htracks with }
  | setPreheatDurationMs ms => exact { htracks with }

theorem Tracks.run (htracks : Tracks h c) (calls : List MetricsCall) :
    Tracks (calls.foldl MetricsHistory.add h) (c.run calls) := by
  induction calls generalizing h c with
  | nil => exact htracks
  | cons call calls ih => exact ih (htracks.after call)

/-!
# What a pack reports
-/

theorem truncate_of_nonneg {q : Rat} (h : 0 <= q) : truncate q = ⌊q⌋ := by
  unfold truncate
  rw [if_neg (not_lt.mpr h)]

theorem Tracks.ewma_nonneg (htracks : Tracks h c)
    (hlatencies : forall latency, latency ∈ h.latencies -> 0 <= latency) :
    0 <= c.ewmaDelayMs := by
  by_cases hnil : h.latencies = []
  · rw [htracks.idle hnil]
  · rcases htracks.between hnil with ⟨low, _, hlow, _, hle, _⟩
    exact le_trans (hlatencies low hlow) hle

theorem Tracks.errorRate_ge_iff (htracks : Tracks h c) :
    c.errorRate >= errorRateThreshold <->
      h.outcomes ≠ [] ∧ h.outcomes.length <= 2 * h.outcomes.count false := by
  unfold errorRate errorRateThreshold
  rw [htracks.total, htracks.failed]
  by_cases hnil : h.outcomes = []
  · rw [hnil]
    norm_num
  · have hpos : 0 < h.outcomes.length := List.length_pos_of_ne_nil hnil
    have hcast : (0 : Rat) < (h.outcomes.length : Rat) :=
      Nat.cast_pos.mpr hpos
    rw [if_neg (by omega), Int.cast_natCast, Int.cast_natCast, ge_iff_le,
      le_div_iff₀ hcast]
    constructor
    · intro hle
      refine ⟨hnil, ?_⟩
      have hdouble : (h.outcomes.length : Rat) <=
          ((2 * h.outcomes.count false : Nat) : Rat) := by
        push_cast
        linarith
      exact Nat.cast_le.mp hdouble
    · rintro ⟨_, hle⟩
      have hdouble : (h.outcomes.length : Rat) <=
          ((2 * h.outcomes.count false : Nat) : Rat) :=
        Nat.cast_le.mpr hle
      push_cast at hdouble
      linarith

theorem Tracks.computeErrorFlag (htracks : Tracks h c) :
    c.computeErrorFlag = true <-> h.Erroneous := by
  unfold MetricsCollector.computeErrorFlag MetricsHistory.Erroneous
  rw [htracks.overridden]
  cases h.overridden with
  | true =>
      rw [if_pos rfl]
      exact ⟨fun _ => Or.inl rfl, fun _ => rfl⟩
  | false =>
      rw [if_neg (by decide), decide_eq_true_iff, htracks.errorRate_ge_iff]
      constructor
      · exact Or.inr
      · rintro (hfalse | hfailed)
        · cases hfalse
        · exact hfailed

theorem lowBits_min (width : Nat) {most value : Int} (hzero : 0 <= most)
    (hmost : most < (2 ^ width : Nat)) (hnonneg : 0 <= value) :
    (lowBits width (min most value) : Int) = min most value :=
  lowBits_of_lt (le_min hzero hnonneg)
    (lt_of_le_of_lt (min_le_left most value) hmost)

/-- What the components of a pack say about the history and the readings. -/
structure Reports (h : MetricsHistory) (c : MetricsCollector)
    (cpu memory now : Rat) (m : Metrics) : Prop where
  cpu : (m.cpu : Int) = min 31 ⌊cpu / loadStep⌋
  memory : (m.memory : Int) = min 31 ⌊memory / loadStep⌋
  activeConns : m.activeConns = min 1023 h.connections
  ewmaDelay : (m.ewmaDelay : Int) = min 511 ⌊c.ewmaDelayMs⌋
  error : m.error = true <-> h.Erroneous
  preheating : m.preheating = c.computePreheatFlag now
  delayScale : m.delayScale = false

theorem Tracks.reports (htracks : Tracks h c)
    (hlatencies : forall latency, latency ∈ h.latencies -> 0 <= latency)
    {cpu memory : Rat} (hcpu : 0 <= cpu) (hmemory : 0 <= memory)
    (now : Rat) :
    Reports h c cpu memory now
      (unpackMetricsPack (c.collectMetricsPack cpu memory now)) := by
  have hstep : (0 : Rat) <= loadStep := by norm_num [loadStep]
  have hcpu := div_nonneg hcpu hstep
  have hmemory := div_nonneg hmemory hstep
  have hewma := htracks.ewma_nonneg hlatencies
  unfold collectMetricsPack
  simp only
  rw [unpackMetricsPack_pack, truncate_of_nonneg hcpu,
    truncate_of_nonneg hmemory, truncate_of_nonneg hewma, htracks.connections]
  have hconns : (lowBits 10 (min 1023 (h.connections : Int)) : Int) =
      min 1023 (h.connections : Int) :=
    lowBits_min 10 (by decide) (by decide) (Int.natCast_nonneg _)
  have hconns : lowBits 10 (min 1023 (h.connections : Int)) =
      min 1023 h.connections := by
    omega
  exact
    { cpu := lowBits_min 5 (by decide) (by decide) (Int.floor_nonneg.mpr hcpu)
      memory :=
        lowBits_min 5 (by decide) (by decide) (Int.floor_nonneg.mpr hmemory)
      activeConns := hconns
      ewmaDelay :=
        lowBits_min 9 (by decide) (by decide) (Int.floor_nonneg.mpr hewma)
      error := htracks.computeErrorFlag
      preheating := rfl
      delayScale := rfl }

/-- After any calls the smoothed latency lies between latencies that were
recorded, and the pack reports every component of the history exactly. -/
theorem collectMetricsPack_history (preheatDurationMs : Option Int)
    (start : Rat) (calls : List MetricsCall)
    (hlatencies : forall latency,
      latency ∈ (MetricsHistory.of calls).latencies -> 0 <= latency) :
    ((MetricsHistory.of calls).latencies ≠ [] ->
      BetweenLatencies (MetricsHistory.of calls).latencies
        ((new preheatDurationMs start).run calls).ewmaDelayMs) ∧
    forall cpu memory now, 0 <= cpu -> 0 <= memory ->
      Reports (MetricsHistory.of calls)
        ((new preheatDurationMs start).run calls) cpu memory now
        (unpackMetricsPack
          (((new preheatDurationMs start).run calls).collectMetricsPack cpu
            memory now)) := by
  have htracks : Tracks (MetricsHistory.of calls)
      ((new preheatDurationMs start).run calls) :=
    (tracks_new preheatDurationMs start).run calls
  constructor
  · exact htracks.between
  · intro cpu memory now hcpu hmemory
    exact htracks.reports hlatencies hcpu hmemory now

/-- A collector in use: an open connection, latencies of 0 and 900, and one of
two requests failed. -/
def sampleCalls : List MetricsCall :=
  [MetricsCall.incrementConnections, MetricsCall.recordLatency 0,
    MetricsCall.recordLatency 900, MetricsCall.recordRequest true,
    MetricsCall.recordRequest false]

theorem collectMetricsPack_history_sample :
    BetweenLatencies [0, 900]
        ((new none 0).run sampleCalls).ewmaDelayMs ∧
      Reports (MetricsHistory.of sampleCalls) ((new none 0).run sampleCalls)
        50 60 10 (unpackMetricsPack
          (((new none 0).run sampleCalls).collectMetricsPack 50 60 10)) := by
  have hlatencies : forall latency,
      latency ∈ (MetricsHistory.of sampleCalls).latencies -> 0 <= latency := by
    intro latency hmem
    have hmem : latency ∈ [0, 900] := hmem
    rcases List.mem_cons.mp hmem with rfl | hmem
    · exact le_refl _
    · rw [List.mem_singleton.mp hmem]
      norm_num
  have hhistory := collectMetricsPack_history none 0 sampleCalls hlatencies
  exact ⟨hhistory.1 (List.cons_ne_nil _ _),
    hhistory.2 50 60 10 (by norm_num) (by norm_num)⟩

end MetricsCollector

end Resilience
end Hmmp
