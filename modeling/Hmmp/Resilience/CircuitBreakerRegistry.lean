import Hmmp.Foundation.Dict
import Hmmp.Foundation.Utf8
import Hmmp.Resilience.CircuitBreaker

/-!
# The circuit breaker registry

One breaker per service instance.  Asking whether an instance is available
tests its breaker, and the test is an attempt to acquire: a breaker that lets
probes through spends a permit on each.
-/

namespace Hmmp
namespace Resilience

open Foundation

/-!
# Repeated attempts
-/

namespace CircuitBreaker

/-- The breaker after a number of attempts at one clock reading. -/
def attempted (b : CircuitBreaker) (now : Rat) : Nat -> CircuitBreaker
  | 0 => b
  | n + 1 => ((b.attempted now n).tryAcquire now now).2

/-- An attempt at this clock reading is a probe: the breaker is half open, or
becomes so. -/
def Probing (b : CircuitBreaker) (now : Rat) : Prop :=
  b.state = CircuitState.halfOpen ∨
    (b.state = CircuitState.open_ ∧ b.waitElapsed now)

instance (b : CircuitBreaker) (now : Rat) : Decidable (b.Probing now) :=
  inferInstanceAs (Decidable (_ ∨ _))

/-- The permits of a breaker at the first of its probes. -/
def probePermits (b : CircuitBreaker) : Int :=
  if b.state = CircuitState.open_ then b.config.permittedCallsInHalfOpen
  else b.halfOpenPermits

/-- The answer to the next attempt after {lit}`n` attempts. -/
def answerAfter (b : CircuitBreaker) (now : Rat) (n : Nat) : Bool :=
  match b.state with
  | CircuitState.closed => true
  | _ => decide (b.Probing now ∧ (n : Int) < b.probePermits)

theorem tryAcquire_of_not_probing {b : CircuitBreaker} {now : Rat}
    (h : ¬ b.Probing now) :
    b.tryAcquire now now =
      (decide (b.state = CircuitState.closed), b) := by
  cases hstate : b.state with
  | closed =>
      rw [tryAcquire_of_closed now now hstate]
      rfl
  | open_ =>
      rw [tryAcquire_of_waiting now hstate]
      · rfl
      · exact fun hwait => h (Or.inr ⟨hstate, hwait⟩)
  | halfOpen => exact absurd (Or.inl hstate) h

theorem attempted_of_not_probing {b : CircuitBreaker} {now : Rat}
    (h : ¬ b.Probing now) (n : Nat) : b.attempted now n = b := by
  induction n with
  | zero => rfl
  | succ n ih =>
      unfold attempted
      rw [ih, tryAcquire_of_not_probing h]

theorem tryAcquire_of_probing {b : CircuitBreaker} {now : Rat}
    (h : b.Probing now) :
    (b.tryAcquire now now).1 = decide (0 < b.probePermits) ∧
      (b.tryAcquire now now).2.state = CircuitState.halfOpen ∧
      (b.tryAcquire now now).2.config = b.config ∧
      (b.tryAcquire now now).2.halfOpenPermits = b.probePermits - 1 := by
  rcases h with hhalf | ⟨hopen, hwait⟩
  · have hpermits : b.probePermits = b.halfOpenPermits := by
      simp [probePermits, hhalf]
    rw [tryAcquire_of_halfOpen now now hhalf, hpermits]
    refine ⟨?_, hhalf, rfl, rfl⟩
    rw [Bool.eq_iff_iff, tryAcquireHalfOpen_admits, decide_eq_true_eq]
    exact Iff.rfl
  · have hpermits : b.probePermits = b.config.permittedCallsInHalfOpen := by
      simp [probePermits, hopen]
    rw [tryAcquire_of_elapsed now hopen hwait, hpermits]
    refine ⟨?_, rfl, rfl, rfl⟩
    rw [Bool.eq_iff_iff, tryAcquireHalfOpen_admits, decide_eq_true_eq]
    exact Iff.rfl

theorem attempted_of_probing {b : CircuitBreaker} {now : Rat}
    (h : b.Probing now) (n : Nat) :
    (b.attempted now (n + 1)).state = CircuitState.halfOpen ∧
      (b.attempted now (n + 1)).config = b.config ∧
      (b.attempted now (n + 1)).halfOpenPermits =
        b.probePermits - (n + 1 : Nat) := by
  induction n with
  | zero => exact (tryAcquire_of_probing h).2
  | succ n ih =>
      rcases ih with ⟨hstate, hconfig, hpermits⟩
      have hprobing : (b.attempted now (n + 1)).Probing now :=
        Or.inl hstate
      rcases tryAcquire_of_probing hprobing with
        ⟨_, hstate', hconfig', hpermits'⟩
      refine ⟨hstate', hconfig'.trans hconfig, ?_⟩
      show ((b.attempted now (n + 1)).tryAcquire now now).2.halfOpenPermits = _
      rw [hpermits', probePermits, if_neg (by rw [hstate]; decide), hpermits]
      omega

theorem attempted_probePermits {b : CircuitBreaker} {now : Rat}
    (h : b.Probing now) (n : Nat) :
    (b.attempted now n).Probing now ∧
      (b.attempted now n).probePermits = b.probePermits - n := by
  cases n with
  | zero => exact ⟨h, (Int.sub_zero _).symm⟩
  | succ n =>
      rcases attempted_of_probing h n with ⟨hstate, _, hpermits⟩
      refine ⟨Or.inl hstate, ?_⟩
      have hopen : (b.attempted now (n + 1)).state ≠ CircuitState.open_ := by
        rw [hstate]
        exact CircuitState.noConfusion
      unfold probePermits at hpermits ⊢
      rw [if_neg hopen]
      exact hpermits

theorem tryAcquire_attempted (b : CircuitBreaker) (now : Rat) (n : Nat) :
    ((b.attempted now n).tryAcquire now now).1 = b.answerAfter now n := by
  by_cases h : b.Probing now
  · rcases attempted_probePermits h n with ⟨hprobing, hpermits⟩
    rw [(tryAcquire_of_probing hprobing).1, hpermits]
    have hclosed : b.state ≠ CircuitState.closed := by
      rcases h with hhalf | ⟨hopen, _⟩
      · rw [hhalf]
        exact CircuitState.noConfusion
      · rw [hopen]
        exact CircuitState.noConfusion
    unfold answerAfter
    split
    · rename_i hstate
      exact absurd hstate hclosed
    · simp only [h, true_and, decide_eq_decide]
      omega
  · rw [attempted_of_not_probing h, tryAcquire_of_not_probing h]
    cases hstate : b.state <;> simp [answerAfter, hstate, h]

end CircuitBreaker

/-!
# The registry
-/

structure CircuitBreakerRegistry where
  breakers : Dict Text CircuitBreaker := Dict.empty

/-- The name of the instance at a host and a port. -/
def instanceId (host : Text) (port : Nat) : Text :=
  host ++ text ":" ++ decimal port

namespace CircuitBreakerRegistry

/-- Test an instance at a clock reading; an instance without a breaker is
available. -/
def isInstanceAvailable (now : Rat) (host : Text) (port : Nat)
    (r : CircuitBreakerRegistry) : Bool × CircuitBreakerRegistry :=
  let id := instanceId host port
  match r.breakers.get? id with
  | none => (true, r)
  | some breaker =>
      let (available, breaker) := breaker.tryAcquire now now
      (available, { r with breakers := r.breakers.set id breaker })

/-- The registry {lit}`r'` is {lit}`r` after the instances of the list have been
tested. -/
def After (now : Rat) (tested : List Text)
    (r r' : CircuitBreakerRegistry) : Prop :=
  forall id, r'.breakers.get? id =
    (r.breakers.get? id).map fun b => b.attempted now (tested.count id)

def answerAfter (r : CircuitBreakerRegistry) (now : Rat) (tested : List Text)
    (id : Text) : Bool :=
  match r.breakers.get? id with
  | none => true
  | some b => b.answerAfter now (tested.count id)

theorem after_nil (now : Rat) (r : CircuitBreakerRegistry) :
    After now [] r r := by
  intro id
  cases r.breakers.get? id <;> rfl

theorem isInstanceAvailable_after {now : Rat} {tested : List Text}
    {r r' : CircuitBreakerRegistry} (h : After now tested r r')
    (host : Text) (port : Nat) :
    (r'.isInstanceAvailable now host port).1 =
        r.answerAfter now tested (instanceId host port) ∧
      After now (tested ++ [instanceId host port]) r
        (r'.isInstanceAvailable now host port).2 := by
  have hheld := h (instanceId host port)
  unfold isInstanceAvailable answerAfter
  cases hbreaker : r.breakers.get? (instanceId host port) with
  | none =>
      rw [hbreaker] at hheld
      simp only [Option.map_none] at hheld
      simp only [hheld]
      refine ⟨trivial, fun id => ?_⟩
      rw [h id]
      by_cases hid : id = instanceId host port
      · rw [hid, hbreaker]
        rfl
      · rw [List.count_append, List.count_eq_zero_of_not_mem
          (fun hmem => hid (List.mem_singleton.mp hmem)), Nat.add_zero]
  | some b =>
      rw [hbreaker] at hheld
      simp only [Option.map_some] at hheld
      simp only [hheld]
      refine ⟨b.tryAcquire_attempted now _, fun id => ?_⟩
      rw [Dict.get?_set]
      by_cases hid : id = instanceId host port
      · rw [if_pos hid, hid, hbreaker, List.count_append,
          List.count_singleton_self]
        rfl
      · rw [if_neg hid, h id, List.count_append, List.count_eq_zero_of_not_mem
          (fun hmem => hid (List.mem_singleton.mp hmem)), Nat.add_zero]

end CircuitBreakerRegistry

end Resilience
end Hmmp
