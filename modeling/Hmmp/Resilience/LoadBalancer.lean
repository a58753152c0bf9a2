import Mathlib.Algebra.Order.Field.Rat
import Mathlib.Tactic.Positivity
import Hmmp.Foundation.WeightedChoice
import Hmmp.Models.Service
import Hmmp.Wire.MetricsPack

/-!
# The adaptive load balancer

Effective weights, the weighted random selection, and the selection behind an
availability test.  Weights and random draws are exact rationals.  The test is
a callback that may change a state of its own.
-/

namespace Hmmp
namespace Resilience

open Foundation
open Models
open Wire

abbrev Instance := ServiceInstance Rat

/-!
# Effective weights
-/

def cpuFactor (cpu : Rat) : Rat :=
  max (1 / 20)
    (if cpu <= 60 then 1
    else if cpu <= 80 then 1 - (cpu - 60) * (15 / 1000)
    else 7 / 10 - (cpu - 80) * (3 / 100))

def memoryFactor (memory : Rat) : Rat :=
  max (1 / 20)
    (if memory <= 70 then 1
    else if memory <= 90 then 1 - (memory - 70) * (1 / 100)
    else 8 / 10 - (memory - 90) * (6 / 100))

def connFactor (activeConns : Rat) : Rat :=
  max (1 / 20)
    (if activeConns <= 200 then 1
    else if activeConns <= 600 then 1 - (activeConns - 200) * (1 / 1000)
    else 6 / 10 - (activeConns - 600) * (1 / 1000))

def latencyFactor (ewmaDelay : Rat) : Rat :=
  max (1 / 20)
    (if ewmaDelay <= 50 then 1
    else if ewmaDelay <= 200 then 1 - (ewmaDelay - 50) * (2 / 1000)
    else if ewmaDelay <= 1000 then 7 / 10 - (ewmaDelay - 200) * (5 / 10000)
    else 3 / 10 - (ewmaDelay - 1000) * (1 / 10000))

def errorPenalty (error : Bool) : Rat :=
  if error then 1 / 10 else 1

def preheatPenalty (preheating : Bool) : Rat :=
  if preheating then 3 / 10 else 1

/-- The declared weight, or one when it is not positive. -/
def declaredWeight (i : Instance) : Rat :=
  if i.weight > 0 then i.weight else 1

def computeEffectiveWeight (i : Instance) : Rat :=
  if i.metricsPack = 0 then declaredWeight i
  else
    let metrics := unpackMetricsPack i.metricsPack
    max (1 / 1000)
      (declaredWeight i * cpuFactor metrics.cpuPercent *
        memoryFactor metrics.memoryPercent *
        connFactor metrics.activeConns * latencyFactor metrics.ewmaDelay *
        errorPenalty metrics.error * preheatPenalty metrics.preheating)

theorem computeEffectiveWeight_pos (i : Instance) :
    0 < computeEffectiveWeight i := by
  unfold computeEffectiveWeight
  split
  · unfold declaredWeight
    split
    · assumption
    · exact one_pos
  · exact lt_max_of_lt_left (by norm_num)

/-!
# Selection
-/

/-- What the random number generator answers: a number in the half-open unit
interval, and a choice from any non-empty sequence. -/
structure RandomDraw where
  random : Rat
  choice : Nat
  nonneg : 0 <= random
  lt_one : random < 1

def RandomDraw.choose (draw : RandomDraw) (first : Instance)
    (rest : List Instance) : Instance :=
  (first :: rest).getD (draw.choice % (rest.length + 1)) first

def healthyWeight (instances : List Instance) : Rat :=
  totalWeight computeEffectiveWeight (instances.filter (·.healthy))

def select (draw : RandomDraw) (instances : List Instance) :
    Option Instance :=
  match instances with
  | [] => none
  | [only] => some only
  | first :: second :: others =>
      match (first :: second :: others).filter (·.healthy) with
      | [] => some first
      | candidate :: candidates =>
          let total :=
            totalWeight computeEffectiveWeight (candidate :: candidates)
          if total <= 0 then some (draw.choose candidate candidates)
          else
            match pick computeEffectiveWeight (draw.random * total) 0
              (candidate :: candidates) with
            | some i => some i
            | none => some ((candidate :: candidates).getLastD candidate)

/-- An availability test over a state. -/
abbrev AvailabilityTest (σ : Type) := Text -> Nat -> σ -> Bool × σ

/-- The available instances among those that are eligible, tested one after
another. -/
def filterAvailable {σ : Type} (isAvailable : AvailabilityTest σ)
    (eligible : Instance -> Bool) :
    List Instance -> σ -> List Instance × σ
  | [], s => ([], s)
  | i :: rest, s =>
      if eligible i then
        let (available, s) := isAvailable i.ip i.port s
        let (kept, s) := filterAvailable isAvailable eligible rest s
        (if available then i :: kept else kept, s)
      else filterAvailable isAvailable eligible rest s

/-- The instances to select from: those that are healthy and available, or all
that are available. -/
def availableInstances {σ : Type} (isAvailable : AvailabilityTest σ)
    (instances : List Instance) (s : σ) : List Instance × σ :=
  match filterAvailable isAvailable (·.healthy) instances s with
  | ([], s) => filterAvailable isAvailable (fun _ => true) instances s
  | found => found

def selectWithCircuitBreaker {σ : Type} (isAvailable : AvailabilityTest σ)
    (draw : RandomDraw) (snapshot : ServiceSnapshot Rat) (s : σ) :
    Option Instance × σ :=
  match snapshot.instances with
  | [] => (none, s)
  | first :: others =>
      match availableInstances isAvailable (first :: others) s with
      | ([], s) => (some first, s)
      | (available, s) => (select draw available, s)

/-!
# Where a draw points
-/

/-- The instance a draw selects from a list: the only one, the first one if all
are unhealthy, or the healthy one in whose interval the draw lies. -/
inductive Drawn (draw : RandomDraw) : List Instance -> Instance -> Prop where
  | only (i : Instance) : Drawn draw [i] i
  | sick {first second : Instance} {others : List Instance}
      (hsick : (first :: second :: others).filter (·.healthy) = []) :
      Drawn draw (first :: second :: others) first
  | weighted {instances : List Instance} {i : Instance}
      (hmany : 2 <= instances.length)
      (hpoints : PointsAt computeEffectiveWeight
        (draw.random * healthyWeight instances)
        (instances.filter (·.healthy)) i) :
      Drawn draw instances i

theorem healthyWeight_pos {instances : List Instance}
    (h : instances.filter (·.healthy) ≠ []) : 0 < healthyWeight instances := by
  unfold healthyWeight totalWeight
  apply List.sum_pos
  · intro w hw
    rcases List.mem_map.mp hw with ⟨i, _, rfl⟩
    exact computeEffectiveWeight_pos i
  · exact fun hnil => h (List.map_eq_nil_iff.mp hnil)

theorem exists_pointsAt (draw : RandomDraw) {instances : List Instance}
    (h : instances.filter (·.healthy) ≠ []) :
    exists i, pick computeEffectiveWeight
      (draw.random * healthyWeight instances) 0
      (instances.filter (·.healthy)) = some i := by
  apply pick_of_le_total h
  rw [zero_add]
  have hpos := healthyWeight_pos h
  calc draw.random * healthyWeight instances
      <= 1 * healthyWeight instances :=
        mul_le_mul_of_nonneg_right (le_of_lt draw.lt_one) (le_of_lt hpos)
    _ = healthyWeight instances := one_mul _

theorem select_of_healthy (draw : RandomDraw) {instances : List Instance}
    (hmany : 2 <= instances.length)
    (hhealthy : instances.filter (·.healthy) ≠ []) :
    select draw instances =
      pick computeEffectiveWeight (draw.random * healthyWeight instances) 0
        (instances.filter (·.healthy)) := by
  rcases exists_pointsAt draw hhealthy with ⟨chosen, hchosen⟩
  have hpos := healthyWeight_pos hhealthy
  match instances, hmany with
  | first :: second :: others, _ =>
      unfold healthyWeight at hchosen hpos ⊢
      unfold select
      cases hfilter : (first :: second :: others).filter (·.healthy) with
      | nil => exact absurd hfilter hhealthy
      | cons candidate candidates =>
          rw [hfilter] at hchosen hpos
          simp only [hfilter]
          rw [if_neg (not_le.mpr hpos), hchosen]

theorem select_eq_some_iff (draw : RandomDraw) (instances : List Instance)
    (i : Instance) :
    select draw instances = some i <-> Drawn draw instances i := by
  constructor
  · intro h
    match instances with
    | [] => cases h
    | [only] =>
        injection h with h
        rw [← h]
        exact Drawn.only only
    | first :: second :: others =>
        by_cases hsick : (first :: second :: others).filter (·.healthy) = []
        · unfold select at h
          simp only [hsick] at h
          injection h with h
          rw [← h]
          exact Drawn.sick hsick
        · rw [select_of_healthy draw (by simp) hsick] at h
          apply Drawn.weighted (by simp)
          apply (pick_eq_some_iff ?_).mp h
          intro b _
          exact le_of_lt (computeEffectiveWeight_pos b)
  · intro h
    cases h with
    | only => rfl
    | sick hsick =>
        unfold select
        simp only [hsick]
    | weighted hmany hpoints =>
        rcases hpoints with ⟨before, after, hsplit, hinterval⟩
        have hhealthy : instances.filter (·.healthy) ≠ [] := by
          rw [hsplit]
          exact List.append_ne_nil_of_right_ne_nil _ (List.cons_ne_nil _ _)
        rw [select_of_healthy draw hmany hhealthy]
        apply (pick_eq_some_iff ?_).mpr ⟨before, after, hsplit, hinterval⟩
        intro b _
        exact le_of_lt (computeEffectiveWeight_pos b)

theorem select_isSome (draw : RandomDraw) {instances : List Instance}
    (h : instances ≠ []) : exists i, select draw instances = some i := by
  match instances with
  | [] => exact absurd rfl h
  | [only] => exact ⟨only, rfl⟩
  | first :: second :: others =>
      by_cases hsick : (first :: second :: others).filter (·.healthy) = []
      · exact ⟨first, (select_eq_some_iff draw _ _).mpr (Drawn.sick hsick)⟩
      · rw [select_of_healthy draw (by simp) hsick]
        exact exists_pointsAt draw hsick

end Resilience
end Hmmp
