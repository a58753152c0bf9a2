import Mathlib.Tactic.Linarith
import Mathlib.Tactic.Ring
import Hmmp.Resilience.LoadBalancer

/-!
# How load turns into weight

Every factor of an effective weight is a positive number up to one that does
not grow with the load.  The latency factor is taken from the delay field as it
stands, without the bit that says in which unit the field counts.
-/

namespace Hmmp
namespace Resilience

open Models
open Wire

/-!
# Factors
-/

theorem cpuFactor_antitone : Antitone cpuFactor := by
  intro x y h
  unfold cpuFactor
  apply max_le_max le_rfl
  split_ifs <;> linarith

theorem memoryFactor_antitone : Antitone memoryFactor := by
  intro x y h
  unfold memoryFactor
  apply max_le_max le_rfl
  split_ifs <;> linarith

theorem connFactor_antitone : Antitone connFactor := by
  intro x y h
  unfold connFactor
  apply max_le_max le_rfl
  split_ifs <;> linarith

theorem latencyFactor_antitone : Antitone latencyFactor := by
  intro x y h
  unfold latencyFactor
  apply max_le_max le_rfl
  split_ifs <;> linarith

theorem antitone_of_penalty {penalty : Bool -> Rat}
    (h : penalty true <= penalty false) : Antitone penalty := by
  intro x y hle
  cases x with
  | false =>
      cases y with
      | false => exact le_rfl
      | true => exact h
  | true =>
      cases y with
      | false => cases hle rfl
      | true => exact le_rfl

theorem errorPenalty_antitone : Antitone errorPenalty := by
  apply antitone_of_penalty
  norm_num [errorPenalty]

theorem preheatPenalty_antitone : Antitone preheatPenalty := by
  apply antitone_of_penalty
  norm_num [preheatPenalty]

/-- A factor that is never negative, and never makes a weight larger. -/
def Damps (factor : Rat) : Prop :=
  0 < factor ∧ factor <= 1

theorem Damps.mul {x y : Rat} (hx : Damps x) (hy : Damps y) :
    Damps (x * y) :=
  ⟨mul_pos hx.1 hy.1, mul_le_one₀ hx.2 (le_of_lt hy.1) hy.2⟩

theorem Damps.mul_le_mul {x x' y y' : Rat} (hx : Damps x) (hy' : Damps y')
    (h : x' <= x) (h' : y' <= y) : x' * y' <= x * y :=
  (mul_le_mul_of_nonneg_right h (le_of_lt hy'.1)).trans
    (mul_le_mul_of_nonneg_left h' (le_of_lt hx.1))

theorem damps_of_clamped {curve : Rat} (h : curve <= 1) :
    Damps (max (1 / 20) curve) :=
  ⟨lt_max_of_lt_left (by norm_num), max_le (by norm_num) h⟩

theorem cpuFactor_damps (cpu : Rat) : Damps (cpuFactor cpu) := by
  apply damps_of_clamped
  split_ifs <;> linarith

theorem memoryFactor_damps (memory : Rat) : Damps (memoryFactor memory) := by
  apply damps_of_clamped
  split_ifs <;> linarith

theorem connFactor_damps (activeConns : Rat) :
    Damps (connFactor activeConns) := by
  apply damps_of_clamped
  split_ifs <;> linarith

theorem latencyFactor_damps (ewmaDelay : Rat) :
    Damps (latencyFactor ewmaDelay) := by
  apply damps_of_clamped
  split_ifs <;> linarith

theorem errorPenalty_damps (error : Bool) : Damps (errorPenalty error) := by
  cases error with
  | false => norm_num [errorPenalty, Damps]
  | true => norm_num [errorPenalty, Damps]

theorem preheatPenalty_damps (preheating : Bool) :
    Damps (preheatPenalty preheating) := by
  cases preheating with
  | false => norm_num [preheatPenalty, Damps]
  | true => norm_num [preheatPenalty, Damps]

/-!
# Load
-/

/-- What is left of a declared weight under a load. -/
def loadFactor (metrics : Metrics) : Rat :=
  cpuFactor metrics.cpuPercent * memoryFactor metrics.memoryPercent *
    connFactor metrics.activeConns * latencyFactor metrics.ewmaDelay *
    errorPenalty metrics.error * preheatPenalty metrics.preheating

/-- The first load is no worse than the second in any dimension. -/
structure NoWorse (metrics metrics' : Metrics) : Prop where
  cpu : metrics.cpu <= metrics'.cpu
  memory : metrics.memory <= metrics'.memory
  activeConns : metrics.activeConns <= metrics'.activeConns
  ewmaDelay : metrics.ewmaDelay <= metrics'.ewmaDelay
  error : metrics.error = true -> metrics'.error = true
  preheating : metrics.preheating = true -> metrics'.preheating = true

theorem loadFactor_damps (metrics : Metrics) : Damps (loadFactor metrics) :=
  ((((cpuFactor_damps _).mul (memoryFactor_damps _)).mul
    (connFactor_damps _)).mul (latencyFactor_damps _)).mul
      (errorPenalty_damps _) |>.mul (preheatPenalty_damps _)

theorem percent_le {n n' : Nat} (h : n <= n') :
    (n : Rat) * loadStep <= (n' : Rat) * loadStep := by
  have hcast : (n : Rat) <= n' := Nat.cast_le.mpr h
  exact mul_le_mul_of_nonneg_right hcast (by norm_num [loadStep])

theorem loadFactor_le_of_noWorse {pack pack' : Nat}
    (h : NoWorse (unpackMetricsPack pack) (unpackMetricsPack pack')) :
    loadFactor (unpackMetricsPack pack') <=
      loadFactor (unpackMetricsPack pack) := by
  have hcpu : cpuFactor (unpackMetricsPack pack').cpuPercent <=
      cpuFactor (unpackMetricsPack pack).cpuPercent :=
    cpuFactor_antitone (percent_le h.cpu)
  have hmemory : memoryFactor (unpackMetricsPack pack').memoryPercent <=
      memoryFactor (unpackMetricsPack pack).memoryPercent :=
    memoryFactor_antitone (percent_le h.memory)
  have hconns : connFactor (unpackMetricsPack pack').activeConns <=
      connFactor (unpackMetricsPack pack).activeConns :=
    connFactor_antitone (Nat.cast_le.mpr h.activeConns)
  have hlatency : latencyFactor (unpackMetricsPack pack').ewmaDelay <=
      latencyFactor (unpackMetricsPack pack).ewmaDelay :=
    latencyFactor_antitone (Nat.cast_le.mpr h.ewmaDelay)
  have herror := errorPenalty_antitone h.error
  have hpreheat := preheatPenalty_antitone h.preheating
  -- The products on the side of the smaller load, one factor at a time.
  have hcpu' := cpuFactor_damps (unpackMetricsPack pack).cpuPercent
  have hmemory' := hcpu'.mul
    (memoryFactor_damps (unpackMetricsPack pack).memoryPercent)
  have hconns' := hmemory'.mul
    (connFactor_damps (unpackMetricsPack pack).activeConns)
  have hlatency' := hconns'.mul
    (latencyFactor_damps (unpackMetricsPack pack).ewmaDelay)
  have herror' := hlatency'.mul
    (errorPenalty_damps (unpackMetricsPack pack).error)
  have htwo := hcpu'.mul_le_mul (memoryFactor_damps _) hcpu hmemory
  have hthree := hmemory'.mul_le_mul (connFactor_damps _) htwo hconns
  have hfour := hconns'.mul_le_mul (latencyFactor_damps _) hthree hlatency
  have hfive := hlatency'.mul_le_mul (errorPenalty_damps _) hfour herror
  exact herror'.mul_le_mul (preheatPenalty_damps _) hfive hpreheat

theorem declaredWeight_pos (i : Instance) : 0 < declaredWeight i := by
  unfold declaredWeight
  split
  · assumption
  · exact one_pos

theorem computeEffectiveWeight_of_metrics {i : Instance}
    (h : i.metricsPack ≠ 0) :
    computeEffectiveWeight i = max (1 / 1000)
      (declaredWeight i * loadFactor (unpackMetricsPack i.metricsPack)) := by
  unfold computeEffectiveWeight loadFactor
  rw [if_neg h]
  simp only [mul_assoc]

theorem declaredWeight_congr {i j : Instance} (h : i.weight = j.weight) :
    declaredWeight i = declaredWeight j := by
  unfold declaredWeight
  rw [h]

/--
Load is held against an instance: with the declared weight and the unit of the
delay the same, the one that is no worse in any dimension has no smaller
weight, and every weight lies between the floor and the declared weight.
-/
theorem effectiveWeight_monotone :
    (forall i j : Instance, i.weight = j.weight ->
      i.metricsPack ≠ 0 -> j.metricsPack ≠ 0 ->
      (unpackMetricsPack i.metricsPack).delayScale =
        (unpackMetricsPack j.metricsPack).delayScale ->
      NoWorse (unpackMetricsPack i.metricsPack)
        (unpackMetricsPack j.metricsPack) ->
      computeEffectiveWeight j <= computeEffectiveWeight i) ∧
    forall i : Instance, i.metricsPack ≠ 0 ->
      1 / 1000 <= computeEffectiveWeight i ∧
        computeEffectiveWeight i <= max (1 / 1000) (declaredWeight i) := by
  constructor
  · intro i j hweight hi hj _ hload
    rw [computeEffectiveWeight_of_metrics hi,
      computeEffectiveWeight_of_metrics hj, declaredWeight_congr hweight]
    apply max_le_max le_rfl
    exact mul_le_mul_of_nonneg_left (loadFactor_le_of_noWorse hload)
      (le_of_lt (declaredWeight_pos j))
  · intro i hi
    rw [computeEffectiveWeight_of_metrics hi]
    constructor
    · exact le_max_left _ _
    · apply max_le_max le_rfl
      exact mul_le_of_le_one_right (le_of_lt (declaredWeight_pos i))
        (loadFactor_damps _).2

/-- An instance of a declared weight that reports a pack. -/
def reporting (weight : Rat) (pack : Nat) : Instance where
  serviceName := []
  ip := []
  port := 0
  weight := weight
  metricsPack := pack

theorem effectiveWeight_monotone_delays :
    computeEffectiveWeight (reporting 1 (300 <<< 20)) <=
      computeEffectiveWeight (reporting 1 (100 <<< 20)) :=
  effectiveWeight_monotone.1 _ _ rfl (by decide) (by decide) rfl
    ⟨by decide, by decide, by decide, by decide, id, id⟩

/-!
# Delay

The delay field counts milliseconds, or tens of them.
-/

def realDelay (metrics : Metrics) : Nat :=
  metrics.ewmaDelay * (if metrics.delayScale then 10 else 1)

/-- The loads are the same in all but the delay. -/
structure SameButDelay (metrics metrics' : Metrics) : Prop where
  cpu : metrics.cpu = metrics'.cpu
  memory : metrics.memory = metrics'.memory
  activeConns : metrics.activeConns = metrics'.activeConns
  error : metrics.error = metrics'.error
  preheating : metrics.preheating = metrics'.preheating

/-- What is left of a declared weight, the delay apart. -/
def restFactor (metrics : Metrics) : Rat :=
  cpuFactor metrics.cpuPercent * memoryFactor metrics.memoryPercent *
    connFactor metrics.activeConns * errorPenalty metrics.error *
    preheatPenalty metrics.preheating

theorem restFactor_pos (metrics : Metrics) : 0 < restFactor metrics :=
  (((((cpuFactor_damps _).mul (memoryFactor_damps _)).mul
    (connFactor_damps _)).mul (errorPenalty_damps _)).mul
      (preheatPenalty_damps _)).1

theorem loadFactor_eq (metrics : Metrics) :
    loadFactor metrics =
      restFactor metrics * latencyFactor metrics.ewmaDelay := by
  unfold loadFactor restFactor
  ring

theorem restFactor_congr {pack pack' : Nat}
    (h : SameButDelay (unpackMetricsPack pack) (unpackMetricsPack pack')) :
    restFactor (unpackMetricsPack pack) =
      restFactor (unpackMetricsPack pack') := by
  have hcpu : (unpackMetricsPack pack).cpuPercent =
      (unpackMetricsPack pack').cpuPercent :=
    congrArg (fun n : Nat => (n : Rat) * loadStep) h.cpu
  have hmemory : (unpackMetricsPack pack).memoryPercent =
      (unpackMetricsPack pack').memoryPercent :=
    congrArg (fun n : Nat => (n : Rat) * loadStep) h.memory
  unfold restFactor
  rw [hcpu, hmemory, h.activeConns, h.error, h.preheating]

theorem ewmaDelay_le (pack : Nat) :
    (unpackMetricsPack pack).ewmaDelay <= 511 :=
  Nat.and_le_right

theorem latencyFactor_lt {n n' : Nat} (hlt : n' < n) (hlong : 50 < n)
    (hfield : n <= 511) : latencyFactor n < latencyFactor n' := by
  have hlt : (n' : Rat) < n := Nat.cast_lt.mpr hlt
  have hlong : (50 : Rat) < n := by exact_mod_cast hlong
  have hfield : (n : Rat) <= 511 := by exact_mod_cast hfield
  unfold latencyFactor
  apply lt_max_of_lt_right
  apply max_lt
  · split_ifs <;> linarith
  · split_ifs <;> linarith

theorem latencyFactor_le_iff {n n' : Nat} (hfield : n <= 511) :
    latencyFactor n' <= latencyFactor n <-> n <= n' ∨ n <= 50 := by
  constructor
  · intro h
    by_contra hneither
    push Not at hneither
    exact absurd h (not_le.mpr
      (latencyFactor_lt hneither.1 hneither.2 hfield))
  · rintro (hle | hshort)
    · exact latencyFactor_antitone (Nat.cast_le.mpr hle)
    · have hfull : latencyFactor n = 1 := by
        have hshort : (n : Rat) <= 50 := by exact_mod_cast hshort
        unfold latencyFactor
        rw [if_pos hshort]
        norm_num
      rw [hfull]
      exact (latencyFactor_damps _).2

/-- Between instances that differ in their delays only, the weights are in the
order of the delay fields reversed, unless the smaller one is the floor. -/
theorem effectiveWeight_le_iff {i j : Instance} (hweight : i.weight = j.weight)
    (hi : i.metricsPack ≠ 0) (hj : j.metricsPack ≠ 0)
    (hsame : SameButDelay (unpackMetricsPack i.metricsPack)
      (unpackMetricsPack j.metricsPack)) :
    computeEffectiveWeight j <= computeEffectiveWeight i <->
      ((unpackMetricsPack i.metricsPack).ewmaDelay <=
          (unpackMetricsPack j.metricsPack).ewmaDelay ∨
        (unpackMetricsPack i.metricsPack).ewmaDelay <= 50) ∨
      declaredWeight j * loadFactor (unpackMetricsPack j.metricsPack) <=
        1 / 1000 := by
  have hbase : 0 < declaredWeight j *
      restFactor (unpackMetricsPack j.metricsPack) :=
    mul_pos (declaredWeight_pos j) (restFactor_pos _)
  rw [computeEffectiveWeight_of_metrics hi,
    computeEffectiveWeight_of_metrics hj, declaredWeight_congr hweight,
    loadFactor_eq, loadFactor_eq, restFactor_congr hsame, ← mul_assoc,
    ← mul_assoc, ← latencyFactor_le_iff (ewmaDelay_le i.metricsPack),
    max_le_iff, le_max_iff (a := _ * _), mul_le_mul_iff_right₀ hbase]
  constructor
  · rintro ⟨_, hfloor | hle⟩
    · exact Or.inr hfloor
    · exact Or.inl hle
  · rintro (hle | hfloor)
    · exact ⟨le_max_left _ _, Or.inr hle⟩
    · exact ⟨le_max_left _ _, Or.inl hfloor⟩

theorem exists_above_floor (pack : Nat) :
    exists weight, 1 / 1000 < declaredWeight (reporting weight pack) *
      loadFactor (unpackMetricsPack pack) := by
  have hpos := (loadFactor_damps (unpackMetricsPack pack)).1
  refine ⟨(loadFactor (unpackMetricsPack pack))⁻¹, ?_⟩
  have hweight : declaredWeight
      (reporting (loadFactor (unpackMetricsPack pack))⁻¹ pack) =
        (loadFactor (unpackMetricsPack pack))⁻¹ :=
    if_pos (inv_pos.mpr hpos)
  rw [hweight, inv_mul_cancel₀ (ne_of_gt hpos)]
  norm_num

/--
When the slower of two instances is not preferred.  With one declared weight,
exactly when the delay field of the faster one is not above that of the slower
one or not above fifty, or the slower one is at the floor; with every declared
weight, exactly in the first two cases.
-/
theorem slower_not_preferred_iff (pack pack' : Nat) (hp : pack ≠ 0)
    (hp' : pack' ≠ 0)
    (hsame : SameButDelay (unpackMetricsPack pack)
      (unpackMetricsPack pack'))
    (hslower : realDelay (unpackMetricsPack pack) <
      realDelay (unpackMetricsPack pack')) :
    (forall i j : Instance, i.weight = j.weight -> i.metricsPack = pack ->
      j.metricsPack = pack' ->
      (computeEffectiveWeight j <= computeEffectiveWeight i <->
        ((unpackMetricsPack pack).ewmaDelay <=
            (unpackMetricsPack pack').ewmaDelay ∨
          (unpackMetricsPack pack).ewmaDelay <= 50) ∨
        declaredWeight j * loadFactor (unpackMetricsPack pack') <=
          1 / 1000)) ∧
    ((forall i j : Instance, i.weight = j.weight -> i.metricsPack = pack ->
      j.metricsPack = pack' ->
      computeEffectiveWeight j <= computeEffectiveWeight i) <->
        (unpackMetricsPack pack).ewmaDelay <=
            (unpackMetricsPack pack').ewmaDelay ∨
          (unpackMetricsPack pack).ewmaDelay <= 50) := by
  have heach : forall i j : Instance, i.weight = j.weight ->
      i.metricsPack = pack -> j.metricsPack = pack' ->
      (computeEffectiveWeight j <= computeEffectiveWeight i <->
        ((unpackMetricsPack pack).ewmaDelay <=
            (unpackMetricsPack pack').ewmaDelay ∨
          (unpackMetricsPack pack).ewmaDelay <= 50) ∨
        declaredWeight j * loadFactor (unpackMetricsPack pack') <=
          1 / 1000) := by
    rintro i j hweight rfl rfl
    exact effectiveWeight_le_iff hweight hp hp' hsame
  refine ⟨heach, ?_⟩
  constructor
  · intro hall
    rcases exists_above_floor pack' with ⟨weight, habove⟩
    have hpair := hall (reporting weight pack) (reporting weight pack') rfl
      rfl rfl
    have hiff := heach (reporting weight pack) (reporting weight pack') rfl
      rfl rfl
    exact (hiff.mp hpair).resolve_right (not_le.mpr habove)
  · intro hcase i j hweight hi hj
    exact (heach i j hweight hi hj).mpr (Or.inl hcase)

/-!
A delay of 100 ms, and one of 200 ms that is counted in tens.
-/

def fastPack : Nat := 100 <<< 20

def slowPack : Nat := 20 <<< 20 ||| 1 <<< 31

theorem fast_slow_sameButDelay :
    SameButDelay (unpackMetricsPack fastPack) (unpackMetricsPack slowPack) :=
  ⟨rfl, rfl, rfl, rfl, rfl⟩

theorem slower_not_preferred_iff_fast_slow :
    (forall i j : Instance, i.weight = j.weight -> i.metricsPack = fastPack ->
      j.metricsPack = slowPack ->
      (computeEffectiveWeight j <= computeEffectiveWeight i <->
        ((unpackMetricsPack fastPack).ewmaDelay <=
            (unpackMetricsPack slowPack).ewmaDelay ∨
          (unpackMetricsPack fastPack).ewmaDelay <= 50) ∨
        declaredWeight j * loadFactor (unpackMetricsPack slowPack) <=
          1 / 1000)) ∧
    ((forall i j : Instance, i.weight = j.weight -> i.metricsPack = fastPack ->
      j.metricsPack = slowPack ->
      computeEffectiveWeight j <= computeEffectiveWeight i) <->
        (unpackMetricsPack fastPack).ewmaDelay <=
            (unpackMetricsPack slowPack).ewmaDelay ∨
          (unpackMetricsPack fastPack).ewmaDelay <= 50) :=
  slower_not_preferred_iff fastPack slowPack (by decide) (by decide)
    fast_slow_sameButDelay (by decide)

theorem loadFactor_slow : loadFactor (unpackMetricsPack slowPack) = 1 := by
  have hcpu : (unpackMetricsPack slowPack).cpuPercent = 0 :=
    zero_mul loadStep
  have hmemory : (unpackMetricsPack slowPack).memoryPercent = 0 :=
    zero_mul loadStep
  have hconns : (unpackMetricsPack slowPack).activeConns = 0 := rfl
  have hdelay : (unpackMetricsPack slowPack).ewmaDelay = 20 := rfl
  have herror : (unpackMetricsPack slowPack).error = false := rfl
  have hpreheat : (unpackMetricsPack slowPack).preheating = false := rfl
  unfold loadFactor
  rw [hcpu, hmemory, hconns, hdelay, herror, hpreheat]
  norm_num [cpuFactor, memoryFactor, connFactor, latencyFactor, errorPenalty,
    preheatPenalty]

/-- The slower instance has the larger weight. -/
theorem slower_preferred :
    ¬ forall i j : Instance, i.weight = j.weight -> i.metricsPack ≠ 0 ->
      j.metricsPack ≠ 0 ->
      SameButDelay (unpackMetricsPack i.metricsPack)
        (unpackMetricsPack j.metricsPack) ->
      realDelay (unpackMetricsPack i.metricsPack) <
        realDelay (unpackMetricsPack j.metricsPack) ->
      computeEffectiveWeight j <= computeEffectiveWeight i := by
  intro hall
  have hpair := hall (reporting 1 fastPack) (reporting 1 slowPack) rfl
    (by decide) (by decide) fast_slow_sameButDelay (by decide)
  have hfast : (reporting 1 fastPack).metricsPack ≠ 0 := by decide
  have hslow : (reporting 1 slowPack).metricsPack ≠ 0 := by decide
  have hweight : (reporting 1 fastPack).weight =
      (reporting 1 slowPack).weight := rfl
  rcases (effectiveWeight_le_iff hweight hfast hslow
      fast_slow_sameButDelay).mp hpair with (hle | hshort) | hfloor
  · exact absurd hle (by decide)
  · exact absurd hshort (by decide)
  · have hfull : declaredWeight (reporting 1 slowPack) = 1 :=
      if_pos one_pos
    have hload : loadFactor
        (unpackMetricsPack (reporting 1 slowPack).metricsPack) = 1 :=
      loadFactor_slow
    rw [hfull, hload] at hfloor
    norm_num at hfloor

end Resilience
end Hmmp
