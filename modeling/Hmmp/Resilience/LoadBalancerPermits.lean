import Hmmp.Resilience.CircuitBreakerRegistry
import Hmmp.Resilience.LoadBalancer

/-!
# Permits spent by a selection

A selection behind a registry tests every healthy instance, and every instance
once more if none of them is available.  Each test of a probing breaker spends
a permit, while the selection returns one instance only.
-/

namespace Hmmp
namespace Resilience

open Foundation
open Models

/-- The name under which the breaker of an instance is registered. -/
def address (i : Instance) : Text :=
  instanceId i.ip i.port

def healthyOf (instances : List Instance) : List Instance :=
  instances.filter (·.healthy)

/-- The selection with the registry as its availability test. -/
def registrySelection (r : CircuitBreakerRegistry) (now : Rat)
    (draw : RandomDraw) (snapshot : ServiceSnapshot Rat) :
    Option Instance × CircuitBreakerRegistry :=
  selectWithCircuitBreaker (CircuitBreakerRegistry.isInstanceAvailable now)
    draw snapshot r

/-!
# What is tested, and what is available

Both are functions of the registry before the call: an answer depends on the
breaker then and on the number of tests of the same instance before it.
-/

/-- The instances of a list that are found available, when the given addresses
have been tested before. -/
def available (r : CircuitBreakerRegistry) (now : Rat) :
    List Text -> List Instance -> List Instance
  | _, [] => []
  | tested, i :: rest =>
      if r.answerAfter now tested (address i) then
        i :: available r now (tested ++ [address i]) rest
      else available r now (tested ++ [address i]) rest

def contenders (r : CircuitBreakerRegistry) (now : Rat)
    (instances : List Instance) : List Instance :=
  match available r now [] (healthyOf instances) with
  | [] => available r now ((healthyOf instances).map address) instances
  | found => found

def testedAddresses (r : CircuitBreakerRegistry) (now : Rat)
    (instances : List Instance) : List Text :=
  match available r now [] (healthyOf instances) with
  | [] => (healthyOf instances).map address ++ instances.map address
  | _ => (healthyOf instances).map address

/-- The instance a draw points at: the drawn contender, or the first instance
when nothing is available. -/
def PointedAt (r : CircuitBreakerRegistry) (now : Rat) (draw : RandomDraw)
    (instances : List Instance) (i : Instance) : Prop :=
  match contenders r now instances with
  | [] => instances.head? = some i
  | found => Drawn draw found i

variable {r r' : CircuitBreakerRegistry} {now : Rat}

theorem filterAvailable_after {tested : List Text} (eligible : Instance -> Bool)
    (instances : List Instance)
    (h : CircuitBreakerRegistry.After now tested r r') :
    (filterAvailable (CircuitBreakerRegistry.isInstanceAvailable now) eligible
        instances r').1 =
        available r now tested (instances.filter eligible) ∧
      CircuitBreakerRegistry.After now
        (tested ++ (instances.filter eligible).map address) r
        (filterAvailable (CircuitBreakerRegistry.isInstanceAvailable now)
          eligible instances r').2 := by
  induction instances generalizing tested r' with
  | nil => simpa [filterAvailable, available] using h
  | cons i rest ih =>
      by_cases heligible : eligible i = true
      · rcases CircuitBreakerRegistry.isInstanceAvailable_after h i.ip i.port
          with ⟨hanswer, hafter⟩
        rcases ih hafter with ⟨hkept, hrest⟩
        rw [List.append_assoc] at hrest
        simp only [filterAvailable, heligible, if_true,
          List.filter_cons_of_pos, List.map_cons]
        refine ⟨?_, hrest⟩
        rw [hanswer, hkept]
        rfl
      · simp only [filterAvailable, heligible, List.filter_cons_of_neg,
          not_false_eq_true, Bool.false_eq_true, if_false]
        exact ih h

theorem availableInstances_after (r : CircuitBreakerRegistry) (now : Rat)
    (instances : List Instance) :
    (availableInstances (CircuitBreakerRegistry.isInstanceAvailable now)
        instances r).1 = contenders r now instances ∧
      CircuitBreakerRegistry.After now (testedAddresses r now instances) r
        (availableInstances (CircuitBreakerRegistry.isInstanceAvailable now)
          instances r).2 := by
  rcases filterAvailable_after (·.healthy) instances
    (CircuitBreakerRegistry.after_nil now r) with ⟨hfound, hafter⟩
  unfold availableInstances contenders testedAddresses
  cases hpass : filterAvailable
      (CircuitBreakerRegistry.isInstanceAvailable now) (·.healthy) instances r
    with
  | mk kept s =>
      rw [hpass] at hfound hafter
      have hkept : available r now [] (healthyOf instances) = kept :=
        hfound.symm
      cases kept with
      | nil =>
          have hall := filterAvailable_after (fun _ => true) instances hafter
          rw [List.filter_true] at hall
          simp only [hkept]
          exact hall
      | cons i rest =>
          simp only [hkept]
          exact ⟨trivial, hafter⟩

theorem registrySelection_eq (r : CircuitBreakerRegistry) (now : Rat)
    (draw : RandomDraw) (snapshot : ServiceSnapshot Rat) :
    (forall i, (registrySelection r now draw snapshot).1 = some i <->
        PointedAt r now draw snapshot.instances i) ∧
      CircuitBreakerRegistry.After now
        (testedAddresses r now snapshot.instances) r
        (registrySelection r now draw snapshot).2 := by
  rcases availableInstances_after r now snapshot.instances with
    ⟨hcontenders, hafter⟩
  unfold registrySelection selectWithCircuitBreaker PointedAt
  cases hinstances : snapshot.instances with
  | nil =>
      refine ⟨fun i => ?_, CircuitBreakerRegistry.after_nil now r⟩
      simp [contenders, available, healthyOf]
  | cons first others =>
      rw [hinstances] at hcontenders hafter
      simp only
      cases hpass : availableInstances
          (CircuitBreakerRegistry.isInstanceAvailable now) (first :: others) r
        with
      | mk found s =>
          rw [hpass] at hcontenders hafter
          simp only at hcontenders
          rw [← hcontenders]
          cases found with
          | nil => exact ⟨fun i => Iff.rfl, hafter⟩
          | cons candidate rest =>
              exact ⟨select_eq_some_iff draw _, hafter⟩

theorem exists_pointedAt (r : CircuitBreakerRegistry) (now : Rat)
    (draw : RandomDraw) {instances : List Instance} (h : instances ≠ []) :
    exists i, PointedAt r now draw instances i := by
  unfold PointedAt
  split
  · exact ⟨instances.head h, List.head?_eq_some_head h⟩
  · rename_i hfound
    have hsome : contenders r now instances ≠ [] := fun hnil => hfound hnil
    rcases select_isSome draw hsome with ⟨i, hi⟩
    exact ⟨i, (select_eq_some_iff draw _ i).mp hi⟩

/-!
# Permits
-/

def probedBreaker : CircuitBreaker :=
  { CircuitBreaker.new { permittedCallsInHalfOpen := 1 } 0 with
    state := CircuitState.halfOpen
    halfOpenPermits := 1 }

def localInstance (port : Nat) : Instance where
  serviceName := text "orders"
  ip := text "10.0.0.1"
  port := port
  weight := 1

def probedRegistry : CircuitBreakerRegistry where
  breakers :=
    (Dict.empty.set (address (localInstance 80)) probedBreaker).set
      (address (localInstance 81)) probedBreaker

def probedSnapshot : ServiceSnapshot Rat where
  serviceName := text "orders"
  topologyVersion := 1
  instances := [localInstance 80, localInstance 81]

def lowestDraw : RandomDraw where
  random := 0
  choice := 0
  nonneg := le_refl 0
  lt_one := one_pos

end Resilience
end Hmmp
