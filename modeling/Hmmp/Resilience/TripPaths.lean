import Hmmp.Resilience.BreakerAgreement

/-!
# The two ways to trip

A remote error flag trips a closed breaker through a threshold of its own, the
half of the failure threshold.  The criterion for failures halves it as well,
but goes on to lower it under backpressure and to ask for the failure rate.
-/

namespace Hmmp
namespace Resilience

/-- The failures at which a remote error flag trips a breaker. -/
def CircuitBreakerConfig.halfThreshold (config : CircuitBreakerConfig) : Int :=
  max 1 (config.failureThreshold / 2)

def CircuitBreakerConfig.loweredThreshold (config : CircuitBreakerConfig) :
    Int :=
  max 1 ((config.halfThreshold * 3).tdiv 4)

theorem CircuitBreakerConfig.loweredThreshold_le
    (config : CircuitBreakerConfig) :
    config.loweredThreshold <= config.halfThreshold := by
  have hle := CircuitBreaker.lowered_le config.halfThreshold
  have hone : 1 <= config.halfThreshold := by
    unfold CircuitBreakerConfig.halfThreshold
    omega
  unfold CircuitBreakerConfig.loweredThreshold
  omega

namespace CircuitBreaker

variable {b : CircuitBreaker}

def flagged (b : CircuitBreaker) : CircuitBreaker :=
  { b with remoteErrorFlag := true }

/-- A remote error flag and the criterion for failures agree on whether the
breaker opens. -/
def PathsAgree (b : CircuitBreaker) : Prop :=
  forall now, (b.onRemoteErrorFlagSet now).state = CircuitState.open_ <->
    b.flagged.shouldTrip = some true

/-- Enough calls have been counted, and the failures among them have reached
the rate. -/
def RateReached (b : CircuitBreaker) : Prop :=
  b.config.minimumCallsBeforeTrip <= b.totalRequests ∧
    b.config.failureRateThreshold <= rate b.failureCount b.totalRequests

instance (b : CircuitBreaker) : Decidable b.RateReached :=
  inferInstanceAs (Decidable (_ ∧ _))

theorem onRemoteErrorFlagSet_opens_iff (now : Rat)
    (hclosed : b.state = CircuitState.closed) :
    (b.onRemoteErrorFlagSet now).state = CircuitState.open_ <->
      b.config.halfThreshold <= b.failureCount := by
  by_cases hfailures : b.config.halfThreshold <= b.failureCount
  · have hopens : b.onRemoteErrorFlagSet now =
        b.flagged.transitionTo CircuitState.open_ now :=
      if_pos ⟨hclosed, hfailures⟩
    rw [hopens]
    exact ⟨fun _ => hfailures, fun _ => transitionTo_state _ _ now⟩
  · have hstays : b.onRemoteErrorFlagSet now = b.flagged :=
      if_neg fun hboth => hfailures hboth.2
    rw [hstays]
    constructor
    · intro hopen
      cases hclosed.symm.trans hopen
    · intro hreached
      exact absurd hreached hfailures

theorem flagged_effectiveThreshold (b : CircuitBreaker) :
    b.flagged.effectiveThreshold =
      if b.backpressureActive then b.config.loweredThreshold
      else b.config.halfThreshold := rfl

theorem shouldTrip_eq_true_iff
    (hmin : 1 <= b.config.minimumCallsBeforeTrip) :
    b.shouldTrip = some true <->
      b.RateReached ∨ b.effectiveThreshold <= b.failureCount := by
  unfold shouldTrip RateReached
  by_cases hcalls : b.config.minimumCallsBeforeTrip <= b.totalRequests
  · have hne : ¬ b.totalRequests = 0 := by omega
    have hrate : b.failureRate =
        some (rate b.failureCount b.totalRequests) :=
      if_neg hne
    rw [if_pos hcalls, hrate]
    simp only [ge_iff_le]
    by_cases hover : b.config.failureRateThreshold <=
        rate b.failureCount b.totalRequests
    · simp only [hover, if_true, hcalls, and_self, true_or]
    · simp only [hover, if_false, and_false, false_or, Option.some.injEq,
        decide_eq_true_eq]
  · rw [if_neg hcalls]
    simp only [ge_iff_le, Option.some.injEq, decide_eq_true_eq, hcalls,
      false_and, false_or]

theorem flagged_effectiveThreshold_le (b : CircuitBreaker) :
    b.flagged.effectiveThreshold <= b.config.halfThreshold := by
  rw [flagged_effectiveThreshold]
  split
  · exact b.config.loweredThreshold_le
  · exact le_rfl

/-- The criterion for failures trips wherever the flag does; it trips nowhere
else if neither the rate nor its own threshold has been reached. -/
theorem pathsAgree_iff_effective (hclosed : b.state = CircuitState.closed)
    (hmin : 1 <= b.config.minimumCallsBeforeTrip) :
    b.PathsAgree <->
      b.config.halfThreshold <= b.failureCount ∨
        (¬ b.RateReached ∧
          b.failureCount < b.flagged.effectiveThreshold) := by
  have htrip : b.flagged.shouldTrip = some true <->
      b.RateReached ∨ b.flagged.effectiveThreshold <= b.failureCount :=
    shouldTrip_eq_true_iff (b := b.flagged) hmin
  have hlowered := b.flagged_effectiveThreshold_le
  unfold PathsAgree
  simp only [onRemoteErrorFlagSet_opens_iff _ hclosed, htrip, forall_const]
  constructor
  · intro hagree
    by_cases hreached : b.config.halfThreshold <= b.failureCount
    · exact Or.inl hreached
    · right
      constructor
      · exact fun hrate => hreached (hagree.mpr (Or.inl hrate))
      · exact not_le.mp fun hlow => hreached (hagree.mpr (Or.inr hlow))
  · rintro (hreached | ⟨hrate, hlow⟩)
    · exact ⟨fun _ => Or.inr (hlowered.trans hreached), fun _ => hreached⟩
    · constructor
      · exact fun hreached => Or.inr (hlowered.trans hreached)
      · rintro (hcase | hcase)
        · exact absurd hcase hrate
        · exact absurd hcase (not_le.mpr hlow)

/-- The two ways to trip agree on a closed breaker exactly when its failures
have reached the half threshold, or neither the rate nor, under backpressure,
the lowered threshold. -/
theorem pathsAgree_iff (hclosed : b.state = CircuitState.closed)
    (hmin : 1 <= b.config.minimumCallsBeforeTrip) :
    b.PathsAgree <->
      b.config.halfThreshold <= b.failureCount ∨
        (¬ b.RateReached ∧ (b.backpressureActive = true ->
          b.failureCount < b.config.loweredThreshold)) := by
  rw [pathsAgree_iff_effective hclosed hmin, flagged_effectiveThreshold]
  cases b.backpressureActive with
  | true => simp only [if_true, forall_const]
  | false =>
      -- Without backpressure the failures are below the half threshold anyway.
      rw [if_neg Bool.false_ne_true]
      by_cases hreached : b.config.halfThreshold <= b.failureCount
      · simp only [hreached, true_or]
      · simp only [hreached, not_le.mp hreached, false_or, and_true,
          Bool.false_eq_true, false_implies]

end CircuitBreaker

/--
After every list of calls a closed breaker opens on a remote error flag exactly
when the criterion for failures says so, as long as its failures have reached
the half threshold, or neither the rate nor, under backpressure, the lowered
threshold; and in no other closed state.
-/
theorem tripPaths_agree_iff (config : CircuitBreakerConfig)
    (hmin : 1 <= config.minimumCallsBeforeTrip) (now : Rat)
    (calls : List CircuitBreaker.Call) :
    exists w, (Watch.start config now).run calls = some w ∧
      (w.breaker.state = CircuitState.closed ->
        (w.breaker.PathsAgree <->
          config.halfThreshold <= w.breaker.failureCount ∨
            (¬ w.breaker.RateReached ∧
              (w.breaker.backpressureActive = true ->
                w.breaker.failureCount < config.loweredThreshold)))) := by
  rcases Watch.inv_run config now calls with ⟨w, hrun, hinv⟩
  refine ⟨w, hrun, ?_⟩
  intro hclosed
  have hconfig := hinv.period.config_eq
  have hiff := CircuitBreaker.pathsAgree_iff hclosed
    (by rw [hconfig]; exact hmin)
  rw [hconfig] at hiff
  exact hiff

def pressedCalls : List CircuitBreaker.Call :=
  [CircuitBreaker.Call.backpressure true, CircuitBreaker.Call.recordFailure 0]

theorem tripPaths_agree_iff_pressed :
    exists w, (Watch.start CircuitBreakerConfig.defaults 0).run pressedCalls =
        some w ∧
      (w.breaker.state = CircuitState.closed ->
        (w.breaker.PathsAgree <->
          CircuitBreakerConfig.defaults.halfThreshold <=
              w.breaker.failureCount ∨
            (¬ w.breaker.RateReached ∧
              (w.breaker.backpressureActive = true ->
                w.breaker.failureCount <
                  CircuitBreakerConfig.defaults.loweredThreshold)))) :=
  tripPaths_agree_iff CircuitBreakerConfig.defaults (by decide) 0 pressedCalls

theorem pressed_run :
    exists w, (Watch.start CircuitBreakerConfig.defaults 0).run pressedCalls =
        some w ∧ w.breaker.config = CircuitBreakerConfig.defaults ∧
          w.breaker.state = CircuitState.closed ∧
          w.breaker.failureCount = 1 ∧ w.breaker.backpressureActive = true :=
  ⟨_, rfl, rfl, rfl, rfl, rfl⟩

/-- A remote error flag leaves the breaker closed there, although the criterion
for failures would open it. -/
theorem tripPaths_differ :
    ¬ forall config : CircuitBreakerConfig,
      1 <= config.minimumCallsBeforeTrip -> forall now calls w,
        (Watch.start config now).run calls = some w ->
          w.breaker.state = CircuitState.closed -> w.breaker.PathsAgree := by
  intro hall
  rcases pressed_run with ⟨w, hrun, hconfig, hclosed, hfailures, hpressure⟩
  have hmin : 1 <= w.breaker.config.minimumCallsBeforeTrip := by
    rw [hconfig]
    decide
  have hagree := hall CircuitBreakerConfig.defaults (by decide) 0 pressedCalls
    w hrun hclosed
  rcases (CircuitBreaker.pathsAgree_iff hclosed hmin).mp hagree with
    hreached | ⟨_, hlow⟩
  · rw [hconfig, hfailures] at hreached
    exact absurd hreached (by decide)
  · have hlow := hlow hpressure
    rw [hconfig, hfailures] at hlow
    exact absurd hlow (by decide)

end Resilience
end Hmmp
