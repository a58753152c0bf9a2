import Hmmp.Models.SnapshotReading
import Hmmp.Resilience.MetricsCollector
import Hmmp.Resilience.RegistryPushes
import Hmmp.Wire.BodyReading

/-!
# Error reports

An instance counts its requests, packs whether it is in error into its metrics,
and the server passes the pack on in the snapshots of the service.  From the
requests of an instance to the breakers its clients keep of it nothing is lost
on the way.
-/

namespace Hmmp
namespace Resilience

open Foundation
open Models
open Wire

namespace MetricsHistory

instance (h : MetricsHistory) : Decidable h.Erroneous :=
  inferInstanceAs (Decidable (_ ∨ _))

end MetricsHistory

namespace MetricsCollector

theorem collectMetricsPack_lt (c : MetricsCollector) (cpu memory now : Rat) :
    c.collectMetricsPack cpu memory now < 2 ^ 32 := by
  unfold collectMetricsPack
  simp only
  generalize min 31 (truncate (cpu / loadStep)) = cpuQuantized
  generalize min 31 (truncate (memory / loadStep)) = memQuantized
  generalize min 1023 c.activeConnections = connsClipped
  generalize min 511 (truncate c.ewmaDelayMs) = ewmaClipped
  have hcpu := lowBits_lt 5 cpuQuantized
  have hmemory := lowBits_lt 5 memQuantized
  have hconns := lowBits_lt 10 connsClipped
  have hdelay := lowBits_lt 9 ewmaClipped
  have herror := c.computeErrorFlag.toNat_lt
  have hpreheating := (c.computePreheatFlag now).toNat_lt
  rw [packMetricsPack_eq]
  simp only [Bool.toNat_false]
  omega

theorem collectMetricsPack_error (c : MetricsCollector)
    (cpu memory now : Rat) :
    (unpackMetricsPack (c.collectMetricsPack cpu memory now)).error =
      c.computeErrorFlag := by
  unfold collectMetricsPack
  simp only
  rw [unpackMetricsPack_pack]

end MetricsCollector

/-- What an instance has been doing, and what it reads when it reports. -/
structure ErrorReport where
  /-- The instance as the server lists it, but for its metrics. -/
  listed : SnapshotItem
  preheatDurationMs : Option Int
  start : Rat
  calls : List MetricsCall
  cpu : Rat
  memory : Rat
  now : Rat

namespace ErrorReport

def pack (r : ErrorReport) : Nat :=
  ((MetricsCollector.new r.preheatDurationMs r.start).run
    r.calls).collectMetricsPack r.cpu r.memory r.now

/-- The item in which the server passes the pack on. -/
def item (r : ErrorReport) : SnapshotItem :=
  { r.listed with metricsPack := UInt32.ofNat r.pack }

/-- The name under which a client keeps the breaker of the instance. -/
def name (lib : IpLib) (r : ErrorReport) : Text :=
  instanceId
    (bytesToIp lib r.listed.octets r.listed.ipType) r.listed.port.toNat

/-- The instance is in error: it says so itself, or at least half of its
requests failed. -/
def Erroneous (r : ErrorReport) : Prop :=
  (MetricsHistory.of r.calls).Erroneous

instance (r : ErrorReport) : Decidable r.Erroneous :=
  inferInstanceAs (Decidable (MetricsHistory.Erroneous _))

theorem errorFlag_item (lib : IpLib) (serviceName : Text) (r : ErrorReport) :
    CircuitBreakerRegistry.errorFlag (r.item.instanceOf lib serviceName) =
      decide r.Erroneous := by
  have hpack : (UInt32.ofNat r.pack).toNat = r.pack := by
    rw [UInt32.toNat_ofNat']
    exact Nat.mod_eq_of_lt (MetricsCollector.collectMetricsPack_lt _ _ _ _)
  have htracks := (MetricsCollector.tracks_new r.preheatDurationMs r.start).run
    r.calls
  show (unpackMetricsPack (UInt32.ofNat r.pack).toNat).error = _
  rw [hpack, pack, MetricsCollector.collectMetricsPack_error,
    Bool.eq_iff_iff, decide_eq_true_iff]
  exact htracks.computeErrorFlag

end ErrorReport

/-- The snapshot in which a server passes reports on. -/
structure ReportedSnapshot where
  serviceName : SizedText 2
  topologyVersion : UInt64
  reports : List ErrorReport
  few : reports.length < 256 ^ 2

namespace ReportedSnapshot

def body (s : ReportedSnapshot) : SnapshotBody where
  serviceName := s.serviceName
  topologyVersion := s.topologyVersion
  items := s.reports.map ErrorReport.item
  few := by
    rw [List.length_map]
    exact s.few

theorem listedFlags_body (lib : IpLib) (s : ReportedSnapshot) (name : Text) :
    CircuitBreakerRegistry.listedFlags name (s.body.snapshot lib).instances =
      (s.reports.filter fun r => decide (r.name lib = name)).map fun r =>
        decide r.Erroneous := by
  show CircuitBreakerRegistry.listedFlags name
    ((s.reports.map ErrorReport.item).map
      (SnapshotItem.instanceOf lib s.serviceName.text)) = _
  unfold CircuitBreakerRegistry.listedFlags
  rw [List.map_map, List.filter_map, List.map_map]
  have hname : (fun i : ServiceInstance UInt32 =>
      decide (instanceId i.ip i.port = name)) ∘
        (SnapshotItem.instanceOf lib s.serviceName.text ∘ ErrorReport.item) =
      fun r => decide (r.name lib = name) := rfl
  rw [hname]
  apply List.map_congr_left
  intro r _
  exact r.errorFlag_item lib s.serviceName.text

end ReportedSnapshot

namespace CircuitBreakerRegistry

open CircuitBreaker

/-- From the requests of an instance to the breaker a client keeps of it: the
client reads the snapshot, and afterwards a breaker whose instance is in error
by its last report is flagged and not closed once its own failures reach half
of its threshold, one whose instance is not in error is neither flagged nor
open, and the counters of both are kept. -/
theorem error_reports_reach_breakers (r : CircuitBreakerRegistry)
    (clock : Nat -> Rat) (lib : IpLib) (s : ReportedSnapshot) :
    exists snapshot,
      ServiceSnapshot.fromBytes lib s.body.layout = Except.ok snapshot ∧
      forall (before after : List ErrorReport) (report : ErrorReport)
        (b : CircuitBreaker),
        s.reports = before ++ report :: after ->
        (forall other, other ∈ after -> other.name lib ≠ report.name lib) ->
        breakerOf (report.name lib) r = some b ->
        exists b', breakerOf (report.name lib)
            (r.onServiceSnapshotUpdated clock (some snapshot)) = some b' ∧
          b'.failureCount = b.failureCount ∧
          b'.totalRequests = b.totalRequests ∧
          (report.Erroneous -> b'.remoteErrorFlag = true ∧
            (max 1 (b.config.failureThreshold / 2) <= b.failureCount ->
              b'.state ≠ CircuitState.closed)) ∧
          (¬ report.Erroneous -> b'.remoteErrorFlag = false ∧
            b'.state ≠ CircuitState.open_) := by
  have hread := (ReadsBack.of_reads (SnapshotBody.reads lib)).exact s.body
  refine ⟨s.body.snapshot lib, hread, ?_⟩
  intro before after report b hreports hlast hb
  have hflags : listedFlags (report.name lib) (s.body.snapshot lib).instances =
      ((before.filter fun r => decide (r.name lib = report.name lib)).map
        fun r => decide r.Erroneous) ++ [decide report.Erroneous] := by
    have hnone : (after.filter fun r =>
        decide (r.name lib = report.name lib)) = [] := by
      rw [List.filter_eq_nil_iff]
      intro other hother hname
      exact hlast other hother (of_decide_eq_true hname)
    rw [s.listedFlags_body lib, hreports, List.filter_append,
      List.filter_cons_of_pos (by simp), hnone, List.map_append]
    rfl
  rw [← map_fst_toldAt (report.name lib) clock] at hflags
  have hsettled := b.settled_told hflags
  have hkept := b.kept_told
    ((readings clock (s.body.snapshot lib).instances).flatMap
      (toldAt (report.name lib)))
  refine ⟨_, by rw [breakerOf_pushed, hb]; rfl, hkept.failureCount,
    hkept.totalRequests, ?_, ?_⟩
  · intro herroneous
    refine ⟨hsettled.flag_eq.trans (decide_eq_true herroneous), ?_⟩
    intro henough hclosed
    have hfew := hsettled.tripped (decide_eq_true herroneous) hclosed
    rw [hkept.config, hkept.failureCount] at hfew
    exact absurd hfew (not_lt_of_ge henough)
  · intro hwell
    exact ⟨hsettled.flag_eq.trans (decide_eq_false hwell),
      hsettled.recovering (decide_eq_false hwell)⟩

/-- An instance of a host, with the outcomes of its requests. -/
def portReport (port : UInt16) (outcomes : List Bool) : ErrorReport where
  listed := { ipv4Item with port := port }
  preheatDurationMs := none
  start := 0
  calls := outcomes.map .recordRequest
  cpu := 0
  memory := 0
  now := 60000

/-- Two of three requests failed on one port, and one of three on the other. -/
def twoPorts : ReportedSnapshot where
  serviceName := SizedText.letter 1
  topologyVersion := 7
  reports :=
    [portReport 80 [true, false, false], portReport 81 [true, false, true]]
  few := by decide

/-- A closed breaker with half as many failures as its threshold, and an open
one. -/
def portBreakers : CircuitBreakerRegistry where
  breakers := (Dict.empty.set ((portReport 80 []).name plainIpLib)
    { CircuitBreaker.new {} 0 with failureCount := 2, totalRequests := 2 }).set
      ((portReport 81 []).name plainIpLib)
      { CircuitBreaker.new {} 0 with
        state := CircuitState.open_
        remoteErrorFlag := true }

theorem error_reports_reach_breakers_twoPorts :
    exists snapshot failing well,
      ServiceSnapshot.fromBytes plainIpLib twoPorts.body.layout =
        Except.ok snapshot ∧
      breakerOf ((portReport 80 []).name plainIpLib)
          (portBreakers.onServiceSnapshotUpdated (fun _ => 5)
            (some snapshot)) = some failing ∧
        failing.state ≠ CircuitState.closed ∧
      breakerOf ((portReport 81 []).name plainIpLib)
          (portBreakers.onServiceSnapshotUpdated (fun _ => 5)
            (some snapshot)) = some well ∧
        well.state ≠ CircuitState.open_ := by
  rcases error_reports_reach_breakers portBreakers (fun _ => 5) plainIpLib
    twoPorts with ⟨snapshot, hread, hreach⟩
  have hother : forall other,
      other ∈ [portReport 81 [true, false, true]] ->
        other.name plainIpLib ≠
          (portReport 80 [true, false, false]).name plainIpLib := by
    intro other hmem
    rw [List.mem_singleton.mp hmem]
    decide +kernel
  rcases hreach [] _ (portReport 80 [true, false, false]) _ rfl hother rfl with
    ⟨failing, hfailing, _, _, herroneous, _⟩
  rcases hreach [_] [] (portReport 81 [true, false, true]) _ rfl
    (fun _ hmem => nomatch hmem) rfl with ⟨well, hwell, _, _, _, hrecovers⟩
  refine ⟨snapshot, failing, well, hread, hfailing, ?_, hwell, ?_⟩
  · exact (herroneous (by decide +kernel)).2 (by decide +kernel)
  · exact (hrecovers (by decide +kernel)).2

end CircuitBreakerRegistry

end Resilience
end Hmmp
