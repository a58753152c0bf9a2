import Mathlib.Tactic.Linarith
import Hmmp.Resilience.CircuitBreakerSafety

/-!
# Recovery of a circuit breaker

Which breakers admit a call again when nothing happens but the passing of time
and further attempts.  A closed breaker and an open one always do.  A half-open
breaker has no timer of its own: once its permits are spent it waits for the
outcomes of the calls it admitted.
-/

namespace Hmmp
namespace Resilience
namespace CircuitBreaker

/-- Readings of successive attempts, none of them before {lit}`clock`. -/
def Advancing : Rat -> List (Rat × Rat) -> Prop
  | _, [] => True
  | clock, (now, later) :: rest =>
      clock <= now ∧ now <= later ∧ Advancing later rest

/-- The answers of successive attempts at the given readings. -/
def attempts (b : CircuitBreaker) : List (Rat × Rat) -> List Bool
  | [] => []
  | (now, later) :: rest =>
      (b.tryAcquire now later).1 :: attempts (b.tryAcquire now later).2 rest

/-- Some continuation of clock advances and attempts admits a call. -/
def Recoverable (b : CircuitBreaker) (clock : Rat) : Prop :=
  exists readings, Advancing clock readings ∧ true ∈ b.attempts readings

def Exhausted (b : CircuitBreaker) : Prop :=
  b.state = CircuitState.halfOpen ∧ b.halfOpenPermits <= 0

theorem exhausted_tryAcquire {b : CircuitBreaker} (h : b.Exhausted)
    (now later : Rat) :
    (b.tryAcquire now later).1 = false ∧
      (b.tryAcquire now later).2.Exhausted := by
  rcases h with ⟨hstate, hpermits⟩
  rw [tryAcquire_of_halfOpen now later hstate]
  refine ⟨?_, hstate, ?_⟩
  · apply Bool.eq_false_iff.mpr
    intro hanswered
    have hpos := (tryAcquireHalfOpen_admits b).mp hanswered
    omega
  · rw [tryAcquireHalfOpen_permits]
    omega

theorem exhausted_attempts {b : CircuitBreaker} (h : b.Exhausted)
    (readings : List (Rat × Rat)) : true ∉ b.attempts readings := by
  induction readings generalizing b with
  | nil => simp [attempts]
  | cons reading rest ih =>
      rcases reading with ⟨now, later⟩
      have hrefuse := exhausted_tryAcquire h now later
      simp only [attempts, List.mem_cons, hrefuse.1]
      intro hcase
      rcases hcase with hhead | htail
      · cases hhead
      · exact ih hrefuse.2 htail

theorem recoverable_of_attempt {b : CircuitBreaker} {clock now : Rat}
    (hclock : clock <= now) (hanswered : (b.tryAcquire now now).1 = true) :
    b.Recoverable clock := by
  refine ⟨[(now, now)], ⟨hclock, le_refl now, trivial⟩, ?_⟩
  simp [attempts, hanswered]

theorem recoverable_of_open {b : CircuitBreaker}
    (hstate : b.state = CircuitState.open_)
    (hpermitted : 1 <= b.config.permittedCallsInHalfOpen) (clock : Rat) :
    b.Recoverable clock := by
  let due := b.lastStateChangeTime +
    (b.config.waitDurationInOpenStateMs : Rat)
  have hwait : b.waitElapsed (max clock due) := by
    have hdue : due <= max clock due := le_max_right clock due
    show (b.config.waitDurationInOpenStateMs : Rat) <=
      max clock due - b.lastStateChangeTime
    linarith
  apply recoverable_of_attempt (le_max_left clock due)
  rw [tryAcquire_of_elapsed _ hstate hwait, tryAcquireHalfOpen_admits,
    transitionTo_halfOpen_permits]
  exact hpermitted

theorem recoverable_iff {b : CircuitBreaker}
    (hpermitted : 1 <= b.config.permittedCallsInHalfOpen) (clock : Rat) :
    b.Recoverable clock <-> ¬ b.Exhausted := by
  constructor
  · intro h hexhausted
    rcases h with ⟨readings, _, hanswered⟩
    exact exhausted_attempts hexhausted readings hanswered
  · intro hleft
    cases hstate : b.state with
    | closed =>
        apply recoverable_of_attempt (le_refl clock)
        rw [tryAcquire_of_closed clock clock hstate]
    | open_ => exact recoverable_of_open hstate hpermitted clock
    | halfOpen =>
        apply recoverable_of_attempt (le_refl clock)
        rw [tryAcquire_of_halfOpen clock clock hstate,
          tryAcquireHalfOpen_admits]
        by_contra hspent
        exact hleft ⟨hstate, by omega⟩

theorem recoverable_of_failure {b : CircuitBreaker} (h : b.Exhausted)
    (hpermitted : 1 <= b.config.permittedCallsInHalfOpen)
    (now clock : Rat) :
    exists b', b.recordFailure now = some b' ∧ b'.Recoverable clock := by
  refine ⟨_, recordFailure_of_halfOpen now h.1, ?_⟩
  refine recoverable_of_open ?_ ?_ clock
  · rw [transitionTo_state]
  · exact hpermitted

end CircuitBreaker

namespace Watch

open CircuitBreaker

/-- In a reachable state the permits are spent exactly when the period has
admitted all the calls it permits. -/
theorem exhausted_iff_admitted {config : CircuitBreakerConfig} {w : Watch}
    (hpermitted : 1 <= config.permittedCallsInHalfOpen)
    (hperiod : Period config w) :
    w.breaker.Exhausted <->
      w.breaker.state = CircuitState.halfOpen ∧
        (w.admitted : Int) = config.permittedCallsInHalfOpen := by
  constructor
  · intro h
    rcases h with ⟨hstate, hspent⟩
    have hsum := hperiod.admitted_eq hstate
    refine ⟨hstate, ?_⟩
    unfold allowance at hsum
    omega
  · intro h
    rcases h with ⟨hstate, hall⟩
    have hsum := hperiod.admitted_eq hstate
    refine ⟨hstate, ?_⟩
    unfold allowance at hsum
    omega

/-- The run that trips a breaker by default failures, waits out the open state
and spends every permit without reporting an outcome. -/
def silentProbes : List Call :=
  List.replicate 5 (Call.recordFailure 0) ++
    List.replicate 3 (Call.tryAcquire 30000 30000)

/--
A default breaker can be stuck shut: after five failures and three probes that
report nothing, no continuation of clock advances and attempts is admitted.
-/
theorem silent_probes_stuck :
    ¬ (forall (config : CircuitBreakerConfig) (now : Rat)
        (calls : List Call) (w : Watch),
        1 <= config.permittedCallsInHalfOpen ->
        (start config now).run calls = some w ->
        forall clock, w.breaker.Recoverable clock) := by
  intro hall
  rcases inv_run CircuitBreakerConfig.defaults 0 silentProbes with
    ⟨w, hrun, hinv⟩
  have hrecover := hall CircuitBreakerConfig.defaults 0 silentProbes w
    (by decide) hrun 0
  have hstate : w.breaker.state = CircuitState.halfOpen ∧
      w.breaker.halfOpenPermits = 0 := by
    have hfinal :
        ((start CircuitBreakerConfig.defaults 0).run silentProbes).map
            (fun w => (w.breaker.state, w.breaker.halfOpenPermits)) =
          some (CircuitState.halfOpen, 0) := by
      decide +kernel
    rw [hrun] at hfinal
    simpa using hfinal
  rcases hrecover with ⟨readings, _, hanswered⟩
  exact exhausted_attempts ⟨hstate.1, by omega⟩ readings hanswered

/--
After every run of a breaker that permits probes, a continuation of clock
advances and attempts admits a call exactly when the breaker is not half open
with all its permitted calls admitted; in that remaining case one reported
failure makes it recoverable again.
-/
theorem recoverable_unless_probes_outstanding
    (config : CircuitBreakerConfig)
    (hpermitted : 1 <= config.permittedCallsInHalfOpen) (now : Rat)
    (calls : List Call) :
    exists w, (start config now).run calls = some w ∧
      forall clock,
        (w.breaker.Recoverable clock <->
          ¬ (w.breaker.state = CircuitState.halfOpen ∧
            (w.admitted : Int) = config.permittedCallsInHalfOpen)) ∧
        (w.breaker.state = CircuitState.halfOpen ->
          (w.admitted : Int) = config.permittedCallsInHalfOpen ->
          forall reported, exists b',
            w.breaker.recordFailure reported = some b' ∧
              b'.Recoverable clock) := by
  rcases inv_run config now calls with ⟨w, hrun, hinv⟩
  have hpermitted' : 1 <= w.breaker.config.permittedCallsInHalfOpen := by
    rw [hinv.period.config_eq]
    exact hpermitted
  have hexhausted := exhausted_iff_admitted hpermitted hinv.period
  refine ⟨w, hrun, fun clock => ⟨?_, ?_⟩⟩
  · rw [recoverable_iff hpermitted' clock, hexhausted]
  · intro hstate hall reported
    exact recoverable_of_failure (hexhausted.mpr ⟨hstate, hall⟩)
      hpermitted' reported clock

/-- The default breaker after the silent probes. -/
theorem recoverable_unless_probes_outstanding_default :
    exists w,
      (start CircuitBreakerConfig.defaults 0).run silentProbes = some w ∧
      forall clock,
        (w.breaker.Recoverable clock <->
          ¬ (w.breaker.state = CircuitState.halfOpen ∧
            (w.admitted : Int) =
              CircuitBreakerConfig.defaults.permittedCallsInHalfOpen)) ∧
        (w.breaker.state = CircuitState.halfOpen ->
          (w.admitted : Int) =
            CircuitBreakerConfig.defaults.permittedCallsInHalfOpen ->
          forall reported, exists b',
            w.breaker.recordFailure reported = some b' ∧
              b'.Recoverable clock) :=
  recoverable_unless_probes_outstanding CircuitBreakerConfig.defaults
    (by decide) 0 silentProbes

end Watch

end Resilience
end Hmmp
