import Mathlib.Tactic.Linarith
import Hmmp.Resilience.CircuitBreakerSafety

/-!
# Breakers that differ in their request counts

The request count only serves to divide the failure rate.  Where the rate never
decides whether a breaker trips, breakers that agree on the rest answer alike.
-/

namespace Hmmp
namespace Resilience

open Foundation

/--
The rate criterion never decides whether a breaker trips: the first failure
trips it anyway, the rate threshold is out of reach, the failures that are
allowed stay below it once enough calls are counted, or it is always reached.
-/
def CircuitBreakerConfig.RateIdle (config : CircuitBreakerConfig) : Prop :=
  config.failureThreshold <= 1 ∨ 1 < config.failureRateThreshold ∨
    (0 < config.failureRateThreshold ∧
      CircuitBreaker.rate (config.failureThreshold - 1)
        (max 1 config.minimumCallsBeforeTrip) <
          config.failureRateThreshold) ∨
    (config.failureRateThreshold <= 0 ∧ config.minimumCallsBeforeTrip <= 1)

instance (config : CircuitBreakerConfig) : Decidable config.RateIdle :=
  inferInstanceAs (Decidable (_ ∨ _))

example : CircuitBreakerConfig.defaults.RateIdle := by decide +kernel

-- seven of 25 calls reach the float nearest to 0.28, which is above 7/25
example : ¬ CircuitBreakerConfig.RateIdle
    { failureThreshold := 8
      failureRateThreshold := roundBinary64 (28 / 100)
      minimumCallsBeforeTrip := 25 } := by decide +kernel

namespace CircuitBreaker

/-- The answers of successive calls and the states after them; nothing when a
call raises. -/
def trace (b : CircuitBreaker) :
    List Call -> Option (List (Option Bool × CircuitState))
  | [] => some []
  | c :: calls => do
      let (answer, after) ← b.call c
      let rest ← after.trace calls
      some ((answer, after.state) :: rest)

/-!
# When a closed breaker trips
-/

theorem lowered_le (threshold : Int) :
    max 1 ((threshold * 3).tdiv 4) <= max 1 threshold := by
  rcases Int.le_total 0 (threshold * 3) with hnonneg | hnonpos
  · rw [Int.tdiv_eq_ediv_of_nonneg hnonneg]
    omega
  · have hle : (threshold * 3).tdiv 4 <= 0 :=
      Int.tdiv_le_tdiv (by decide) hnonpos
    omega

theorem effectiveThreshold_le (b : CircuitBreaker) :
    b.effectiveThreshold <= max 1 b.config.failureThreshold := by
  unfold effectiveThreshold
  have hhalf := lowered_le (max 1 (b.config.failureThreshold / 2))
  have hwhole := lowered_le b.config.failureThreshold
  cases b.remoteErrorFlag <;> cases b.backpressureActive <;> simp <;> omega

theorem failureRate_countFailure_eq {b : CircuitBreaker}
    (h : Watch.Counted b) :
    b.countFailure.failureRate =
      some (rate (b.failureCount + 1) (b.totalRequests + 1)) := by
  rcases h with ⟨hnonneg, hle⟩
  have hzero : ¬ b.countFailure.totalRequests = 0 := by
    show ¬ b.totalRequests + 1 = 0
    omega
  exact if_neg hzero

/-- One more failure trips the breaker, by the threshold or by the rate. -/
def TripsNext (b : CircuitBreaker) : Prop :=
  b.effectiveThreshold <= b.failureCount + 1 ∨
    (b.config.minimumCallsBeforeTrip <= b.totalRequests + 1 ∧
      b.config.failureRateThreshold <=
        rate (b.failureCount + 1) (b.totalRequests + 1))

instance (b : CircuitBreaker) : Decidable b.TripsNext :=
  inferInstanceAs (Decidable (_ ∨ _))

theorem shouldTrip_eq {b : CircuitBreaker} (h : Watch.Counted b) :
    b.countFailure.shouldTrip = some (decide b.TripsNext) := by
  unfold shouldTrip
  rw [failureRate_countFailure_eq h]
  show (if b.totalRequests + 1 >= b.config.minimumCallsBeforeTrip then
      (if _ >= b.config.failureRateThreshold then some true
        else some (decide (b.failureCount + 1 >= b.effectiveThreshold)))
    else some (decide (b.failureCount + 1 >= b.effectiveThreshold))) = _
  unfold TripsNext
  simp only [ge_iff_le]
  by_cases hmin : b.config.minimumCallsBeforeTrip <= b.totalRequests + 1
  · by_cases hover : b.config.failureRateThreshold <=
        rate (b.failureCount + 1) (b.totalRequests + 1)
    · simp only [hmin, hover, if_true, and_self, or_true, decide_true]
    · simp only [hmin, hover, if_true, if_false, and_false, or_false]
  · simp only [hmin, if_false, false_and, or_false]

theorem tripsNext_of_rateIdle {b : CircuitBreaker} (h : Watch.Counted b)
    (hidle : b.config.RateIdle) :
    b.TripsNext <->
      b.effectiveThreshold <= b.failureCount + 1 ∨
        (b.config.failureRateThreshold <= 0 ∧
          b.config.minimumCallsBeforeTrip <= 1) := by
  rcases h with ⟨hnonneg, hle⟩
  have heffective := b.effectiveThreshold_le
  have htotal : 0 < b.totalRequests + 1 := by omega
  unfold TripsNext
  by_cases hthreshold : b.effectiveThreshold <= b.failureCount + 1
  · exact ⟨fun _ => Or.inl hthreshold, fun _ => Or.inl hthreshold⟩
  rw [or_iff_right hthreshold, or_iff_right hthreshold]
  rcases hidle with hone | hrate | ⟨hrate, hstay⟩ | ⟨hrate, hmin⟩
  · omega
  · have hproportion : rate (b.failureCount + 1) (b.totalRequests + 1) <= 1 :=
      rate_le_one (by omega) htotal (by omega)
    constructor
    · rintro ⟨_, hover⟩
      linarith
    · rintro ⟨hzero, _⟩
      linarith
  · constructor
    · rintro ⟨hmin, hover⟩
      have hhighest : rate (b.failureCount + 1) (b.totalRequests + 1) <=
          rate (b.config.failureThreshold - 1)
            (max 1 b.config.minimumCallsBeforeTrip) :=
        rate_mono (by omega) (by omega) (by omega) (by omega)
      linarith
    · rintro ⟨hzero, _⟩
      linarith
  · refine ⟨fun _ => ⟨hrate, hmin⟩, fun _ => ⟨by omega, ?_⟩⟩
    exact hrate.trans (rate_nonneg (by omega) htotal)

/-!
# Records by state
-/

theorem recordSuccess_of_closed {b : CircuitBreaker} (now : Rat)
    (h : b.state = CircuitState.closed) :
    b.recordSuccess now =
      if b.failureCount > 0 then
        { b with
          totalRequests := b.totalRequests + 1
          failureCount := b.failureCount - 1 }
      else { b with totalRequests := b.totalRequests + 1 } := by
  simp [recordSuccess, h]

theorem recordSuccess_of_open {b : CircuitBreaker} (now : Rat)
    (h : b.state = CircuitState.open_) :
    b.recordSuccess now = { b with totalRequests := b.totalRequests + 1 } := by
  simp [recordSuccess, h]

theorem recordSuccess_of_halfOpen {b : CircuitBreaker} (now : Rat)
    (h : b.state = CircuitState.halfOpen) :
    b.recordSuccess now =
      if b.successCount + 1 >= b.config.permittedCallsInHalfOpen then
        { b with
          totalRequests := b.totalRequests + 1
          successCount := b.successCount + 1 }.transitionTo
            CircuitState.closed now
      else
        { b with
          totalRequests := b.totalRequests + 1
          successCount := b.successCount + 1 } := by
  simp [recordSuccess, h]

theorem recordFailure_of_closed {b : CircuitBreaker} (now : Rat)
    (h : b.state = CircuitState.closed) :
    b.recordFailure now =
      match b.countFailure.shouldTrip with
      | none => none
      | some true => some (b.countFailure.transitionTo CircuitState.open_ now)
      | some false => some b.countFailure := by
  cases b
  cases h
  rfl

theorem recordFailure_of_open {b : CircuitBreaker} (now : Rat)
    (h : b.state = CircuitState.open_) :
    b.recordFailure now =
      some { b with totalRequests := b.totalRequests + 1 } := by
  simp [recordFailure, h]

/-!
# Agreement
-/

/-- Two breakers that agree on whatever their state uses, request counts
apart. -/
structure Agree (b b' : CircuitBreaker) : Prop where
  config : b'.config = b.config
  state : b'.state = b.state
  failures : b'.failureCount = b.failureCount
  errorFlag : b'.remoteErrorFlag = b.remoteErrorFlag
  backpressure : b'.backpressureActive = b.backpressureActive
  waiting : b.state = CircuitState.open_ ->
    b'.lastStateChangeTime = b.lastStateChangeTime
  probing : b.state = CircuitState.halfOpen ->
    b'.successCount = b.successCount ∧
      b'.halfOpenPermits = b.halfOpenPermits

variable {b b' : CircuitBreaker}

namespace Agree

theorem transitionTo (h : Agree b b') (newState : CircuitState) (now : Rat) :
    Agree (b.transitionTo newState now) (b'.transitionTo newState now) := by
  cases newState with
  | closed =>
      exact ⟨h.config, rfl, rfl, h.errorFlag, h.backpressure,
        fun hopen => (by cases hopen), fun hhalf => (by cases hhalf)⟩
  | open_ =>
      exact ⟨h.config, rfl, h.failures, h.errorFlag, h.backpressure,
        fun _ => rfl, fun hhalf => (by cases hhalf)⟩
  | halfOpen =>
      refine ⟨h.config, rfl, h.failures, h.errorFlag, h.backpressure,
        fun hopen => (by cases hopen), fun _ => ⟨rfl, ?_⟩⟩
      show b'.config.permittedCallsInHalfOpen =
        b.config.permittedCallsInHalfOpen
      rw [h.config]

theorem withTotal (h : Agree b b') (total total' : Int) :
    Agree { b with totalRequests := total }
      { b' with totalRequests := total' } :=
  ⟨h.config, h.state, h.failures, h.errorFlag, h.backpressure, h.waiting,
    h.probing⟩

theorem withFailures (h : Agree b b') (failures : Int) :
    Agree { b with failureCount := failures }
      { b' with failureCount := failures } :=
  ⟨h.config, h.state, rfl, h.errorFlag, h.backpressure, h.waiting, h.probing⟩

theorem withErrorFlag (h : Agree b b') (flag : Bool) :
    Agree { b with remoteErrorFlag := flag }
      { b' with remoteErrorFlag := flag } :=
  ⟨h.config, h.state, h.failures, rfl, h.backpressure, h.waiting, h.probing⟩

theorem onBackpressure (h : Agree b b') (active : Bool) :
    Agree (b.onBackpressure active) (b'.onBackpressure active) :=
  ⟨h.config, h.state, h.failures, h.errorFlag, rfl, h.waiting, h.probing⟩

theorem withSuccesses (h : Agree b b') (successes : Int) :
    Agree { b with successCount := successes }
      { b' with successCount := successes } :=
  ⟨h.config, h.state, h.failures, h.errorFlag, h.backpressure, h.waiting,
    fun hhalf => ⟨rfl, (h.probing hhalf).2⟩⟩

theorem countFailure (h : Agree b b') :
    Agree b.countFailure b'.countFailure := by
  have hcounted := (h.withFailures (b.failureCount + 1)).withTotal
    (b.totalRequests + 1) (b'.totalRequests + 1)
  unfold CircuitBreaker.countFailure
  rw [h.failures]
  exact hcounted

theorem tryAcquireHalfOpen (h : Agree b b')
    (hstate : b.state = CircuitState.halfOpen) :
    b'.tryAcquireHalfOpen.1 = b.tryAcquireHalfOpen.1 ∧
      Agree b.tryAcquireHalfOpen.2 b'.tryAcquireHalfOpen.2 := by
  have hpermits := (h.probing hstate).2
  constructor
  · show decide (b'.halfOpenPermits - 1 >= 0) =
      decide (b.halfOpenPermits - 1 >= 0)
    rw [hpermits]
  · refine ⟨h.config, h.state, h.failures, h.errorFlag, h.backpressure,
      h.waiting, fun _ => ⟨(h.probing hstate).1, ?_⟩⟩
    show b'.halfOpenPermits - 1 = b.halfOpenPermits - 1
    rw [hpermits]

theorem tryAcquire (h : Agree b b') (now later : Rat) :
    (b'.tryAcquire now later).1 = (b.tryAcquire now later).1 ∧
      Agree (b.tryAcquire now later).2 (b'.tryAcquire now later).2 := by
  cases hstate : b.state with
  | closed =>
      rw [tryAcquire_of_closed now later hstate,
        tryAcquire_of_closed now later (h.state.trans hstate)]
      exact ⟨rfl, h⟩
  | open_ =>
      have helapsed : b'.waitElapsed now <-> b.waitElapsed now := by
        unfold waitElapsed
        rw [h.waiting hstate, h.config]
      by_cases hwait : b.waitElapsed now
      · rw [tryAcquire_of_elapsed later hstate hwait,
          tryAcquire_of_elapsed later (h.state.trans hstate)
            (helapsed.mpr hwait)]
        exact (h.transitionTo CircuitState.halfOpen later).tryAcquireHalfOpen
          rfl
      · have hwait' : ¬ b'.waitElapsed now := fun h' =>
          hwait (helapsed.mp h')
        rw [tryAcquire_of_waiting later hstate hwait,
          tryAcquire_of_waiting later (h.state.trans hstate) hwait']
        exact ⟨rfl, h⟩
  | halfOpen =>
      rw [tryAcquire_of_halfOpen now later hstate,
        tryAcquire_of_halfOpen now later (h.state.trans hstate)]
      exact h.tryAcquireHalfOpen hstate

theorem recordSuccess (h : Agree b b') (now : Rat) :
    Agree (b.recordSuccess now) (b'.recordSuccess now) := by
  have hcounted := h.withTotal (b.totalRequests + 1) (b'.totalRequests + 1)
  cases hstate : b.state with
  | closed =>
      have hdecayed := hcounted.withFailures (b.failureCount - 1)
      have hfailures := h.failures
      rw [recordSuccess_of_closed now hstate,
        recordSuccess_of_closed now (h.state.trans hstate)]
      by_cases hdecay : b.failureCount > 0
      · rw [if_pos hdecay, if_pos (by omega), hfailures]
        exact hdecayed
      · rw [if_neg hdecay, if_neg (by omega)]
        exact hcounted
  | open_ =>
      rw [recordSuccess_of_open now hstate,
        recordSuccess_of_open now (h.state.trans hstate)]
      exact hcounted
  | halfOpen =>
      have hmore := hcounted.withSuccesses (b.successCount + 1)
      have hsuccesses := (h.probing hstate).1
      have hconfig := h.config
      rw [recordSuccess_of_halfOpen now hstate,
        recordSuccess_of_halfOpen now (h.state.trans hstate), hsuccesses]
      by_cases henough :
          b.successCount + 1 >= b.config.permittedCallsInHalfOpen
      · rw [if_pos henough, if_pos (by rw [hconfig]; exact henough)]
        exact hmore.transitionTo CircuitState.closed now
      · rw [if_neg henough, if_neg (by rw [hconfig]; exact henough)]
        exact hmore

theorem recordFailure (h : Agree b b') (now : Rat)
    (htrip : b'.countFailure.shouldTrip = b.countFailure.shouldTrip)
    {after : CircuitBreaker} (hafter : b.recordFailure now = some after) :
    exists after', b'.recordFailure now = some after' ∧
      Agree after after' := by
  have hcounted := h.withTotal (b.totalRequests + 1) (b'.totalRequests + 1)
  cases hstate : b.state with
  | closed =>
      rw [recordFailure_of_closed now hstate] at hafter
      rw [recordFailure_of_closed now (h.state.trans hstate), htrip]
      split at hafter
      · cases hafter
      · injection hafter with hafter
        subst hafter
        exact ⟨_, rfl, h.countFailure.transitionTo CircuitState.open_ now⟩
      · injection hafter with hafter
        subst hafter
        exact ⟨_, rfl, h.countFailure⟩
  | open_ =>
      rw [recordFailure_of_open now hstate] at hafter
      rw [recordFailure_of_open now (h.state.trans hstate)]
      injection hafter with hafter
      subst hafter
      exact ⟨_, rfl, hcounted⟩
  | halfOpen =>
      rw [recordFailure_of_halfOpen now hstate] at hafter
      rw [recordFailure_of_halfOpen now (h.state.trans hstate)]
      injection hafter with hafter
      subst hafter
      exact ⟨_, rfl, hcounted.transitionTo CircuitState.open_ now⟩

theorem onRemoteErrorFlagSet (h : Agree b b') (now : Rat) :
    Agree (b.onRemoteErrorFlagSet now) (b'.onRemoteErrorFlagSet now) := by
  have hflag := h.withErrorFlag true
  have htrips : (b'.state = CircuitState.closed ∧
      b'.failureCount >= max 1 (b'.config.failureThreshold / 2)) <->
        (b.state = CircuitState.closed ∧
          b.failureCount >= max 1 (b.config.failureThreshold / 2)) := by
    rw [h.state, h.failures, h.config]
  unfold CircuitBreaker.onRemoteErrorFlagSet
  by_cases htrip : b.state = CircuitState.closed ∧
      b.failureCount >= max 1 (b.config.failureThreshold / 2)
  · dsimp only
    rw [if_pos htrip, if_pos (htrips.mpr htrip)]
    exact hflag.transitionTo CircuitState.open_ now
  · dsimp only
    rw [if_neg htrip, if_neg (fun htrip' => htrip (htrips.mp htrip'))]
    exact hflag

theorem onRemoteErrorFlagCleared (h : Agree b b') (now : Rat) :
    Agree (b.onRemoteErrorFlagCleared now)
      (b'.onRemoteErrorFlagCleared now) := by
  have hflag := h.withErrorFlag false
  have hstate := h.state
  unfold CircuitBreaker.onRemoteErrorFlagCleared
  by_cases hopen : b.state = CircuitState.open_
  · dsimp only
    rw [if_pos hopen, if_pos (hstate.trans hopen)]
    exact hflag.transitionTo CircuitState.halfOpen now
  · dsimp only
    rw [if_neg hopen, if_neg (fun hopen' => hopen (hstate.symm.trans hopen'))]
    exact hflag

/-- The step lemma: breakers that agree, and would trip alike, answer alike and
agree afterwards. -/
theorem call (h : Agree b b')
    (htrip : b'.countFailure.shouldTrip = b.countFailure.shouldTrip)
    {c : Call} {answer : Option Bool} {after : CircuitBreaker}
    (hcall : b.call c = some (answer, after)) :
    exists after', b'.call c = some (answer, after') ∧
      Agree after after' := by
  cases c with
  | tryAcquire now later =>
      have hboth := h.tryAcquire now later
      injection hcall with hcall
      injection hcall with hanswer hafter
      subst hanswer hafter
      refine ⟨_, ?_, hboth.2⟩
      rw [← hboth.1]
      rfl
  | recordSuccess now =>
      injection hcall with hcall
      injection hcall with hanswer hafter
      subst hanswer hafter
      exact ⟨_, rfl, h.recordSuccess now⟩
  | recordFailure now =>
      rcases Option.map_eq_some_iff.mp hcall with ⟨after, hafter, hpair⟩
      injection hpair with hanswer hafter'
      subst hanswer hafter'
      rcases h.recordFailure now htrip hafter with ⟨after', hafter', hagree⟩
      refine ⟨after', ?_, hagree⟩
      show (b'.recordFailure now).map _ = _
      rw [hafter']
      rfl
  | remoteErrorFlagSet now =>
      injection hcall with hcall
      injection hcall with hanswer hafter
      subst hanswer hafter
      exact ⟨_, rfl, h.onRemoteErrorFlagSet now⟩
  | remoteErrorFlagCleared now =>
      injection hcall with hcall
      injection hcall with hanswer hafter
      subst hanswer hafter
      exact ⟨_, rfl, h.onRemoteErrorFlagCleared now⟩
  | backpressure active =>
      injection hcall with hcall
      injection hcall with hanswer hafter
      subst hanswer hafter
      exact ⟨_, rfl, h.onBackpressure active⟩

theorem shouldTrip (h : Agree b b') (hcounted : Watch.Counted b)
    (hcounted' : Watch.Counted b') (hidle : b.config.RateIdle) :
    b'.countFailure.shouldTrip = b.countFailure.shouldTrip := by
  have hidle' : b'.config.RateIdle := by
    rw [h.config]
    exact hidle
  have hthreshold : b'.effectiveThreshold = b.effectiveThreshold := by
    unfold effectiveThreshold
    rw [h.config, h.errorFlag, h.backpressure]
  rw [shouldTrip_eq hcounted, shouldTrip_eq hcounted']
  simp only [tripsNext_of_rateIdle hcounted hidle,
    tripsNext_of_rateIdle hcounted' hidle', hthreshold, h.config, h.failures]

/-- The run lemma: breakers that agree have the same trace while the rate
criterion is idle. -/
theorem trace_eq (h : Agree b b') (hcounted : Watch.Counted b)
    (hcounted' : Watch.Counted b') (hidle : b.config.RateIdle)
    (calls : List Call) : b.trace calls = b'.trace calls := by
  induction calls generalizing b b' with
  | nil => rfl
  | cons c calls ih =>
      rcases Watch.call_returns hcounted c with ⟨answer, after, hcall⟩
      have htrip := h.shouldTrip hcounted hcounted' hidle
      rcases h.call htrip hcall with ⟨after', hcall', hagree⟩
      have heffect := call_effect hcall
      have hidle' : after.config.RateIdle := by
        rw [effect_config heffect]
        exact hidle
      have hrest := ih hagree (Watch.counted_effect hcounted heffect)
        (Watch.counted_effect hcounted' (call_effect hcall')) hidle'
      unfold trace
      rw [hcall, hcall']
      show (do
          let rest ← after.trace calls
          some ((answer, after.state) :: rest)) = (do
          let rest ← after'.trace calls
          some ((answer, after'.state) :: rest))
      rw [hrest, hagree.state]

end Agree

end CircuitBreaker

end Resilience
end Hmmp
