import Mathlib.Data.Rat.Defs
import Mathlib.Algebra.Order.Ring.Unbundled.Rat
import Mathlib.Tactic.Common
import Mathlib.Algebra.Order.Archimedean.Basic
import Hmmp.Foundation.Binary64

/-!
# The circuit breaker

The three-state breaker that guards one service instance.  Clock readings are
milliseconds; every call that reads the clock takes the readings as arguments,
in the order in which it takes them.  Readings are exact rationals; the failure
rate is rounded as the source rounds it.
-/

namespace Hmmp
namespace Resilience

open Foundation

inductive CircuitState where
  | closed
  | open_
  | halfOpen
  deriving DecidableEq, Repr

structure CircuitBreakerConfig where
  failureThreshold : Int := 5
  failureRateThreshold : Rat := 1 / 2
  minimumCallsBeforeTrip : Int := 10
  waitDurationInOpenStateMs : Int := 30000
  permittedCallsInHalfOpen : Int := 3
  deriving DecidableEq

def CircuitBreakerConfig.defaults : CircuitBreakerConfig := {}

structure CircuitBreaker where
  config : CircuitBreakerConfig
  state : CircuitState
  failureCount : Int
  successCount : Int
  totalRequests : Int
  lastStateChangeTime : Rat
  halfOpenPermits : Int
  remoteErrorFlag : Bool
  backpressureActive : Bool
  deriving DecidableEq

namespace CircuitBreaker

/-- A new breaker, constructed at clock reading {lit}`now`. -/
def new (config : CircuitBreakerConfig) (now : Rat) : CircuitBreaker :=
  { config := config
    state := CircuitState.closed
    failureCount := 0
    successCount := 0
    totalRequests := 0
    lastStateChangeTime := now
    halfOpenPermits := 0
    remoteErrorFlag := false
    backpressureActive := false }

def transitionTo (b : CircuitBreaker) (newState : CircuitState)
    (now : Rat) : CircuitBreaker :=
  match newState with
  | CircuitState.closed =>
      { b with
        state := CircuitState.closed
        lastStateChangeTime := now
        failureCount := 0
        successCount := 0 }
  | CircuitState.halfOpen =>
      { b with
        state := CircuitState.halfOpen
        lastStateChangeTime := now
        successCount := 0
        halfOpenPermits := b.config.permittedCallsInHalfOpen }
  | CircuitState.open_ =>
      { b with
        state := CircuitState.open_
        lastStateChangeTime := now }

/-- The quotient of two counts, to the nearest float. -/
def rate (failures requests : Int) : Rat :=
  roundBinary64 ((failures : Rat) / (requests : Rat))

/-- Failures over requests; the division raises when there is no request. -/
def failureRate (b : CircuitBreaker) : Option Rat :=
  if b.totalRequests = 0 then
    none
  else
    some (rate b.failureCount b.totalRequests)

/-- The absolute failure count at which a closed breaker trips. -/
def effectiveThreshold (b : CircuitBreaker) : Int :=
  let threshold := b.config.failureThreshold
  let threshold :=
    if b.remoteErrorFlag then max 1 (threshold / 2) else threshold
  -- `int(threshold * 0.75)` truncates towards zero
  if b.backpressureActive then
    max 1 ((threshold * 3).tdiv 4)
  else
    threshold

/-- Whether the breaker should trip, or nothing when the rate is undefined. -/
def shouldTrip (b : CircuitBreaker) : Option Bool :=
  if b.totalRequests >= b.config.minimumCallsBeforeTrip then
    match b.failureRate with
    | none => none
    | some rate =>
        if rate >= b.config.failureRateThreshold then
          some true
        else
          some (decide (b.failureCount >= b.effectiveThreshold))
  else
    some (decide (b.failureCount >= b.effectiveThreshold))

def tryAcquireHalfOpen (b : CircuitBreaker) : Bool × CircuitBreaker :=
  let b := { b with halfOpenPermits := b.halfOpenPermits - 1 }
  (decide (b.halfOpenPermits >= 0), b)

/-- The elapsed time since the last state change has reached the wait. -/
def waitElapsed (b : CircuitBreaker) (now : Rat) : Prop :=
  now - b.lastStateChangeTime >= (b.config.waitDurationInOpenStateMs : Rat)

instance (b : CircuitBreaker) (now : Rat) : Decidable (b.waitElapsed now) :=
  inferInstanceAs (Decidable (_ >= _))

/--
Attempt to acquire permission: {lit}`now` is read for the elapsed time and
{lit}`later` by the transition out of OPEN.
-/
def tryAcquire (b : CircuitBreaker) (now later : Rat) :
    Bool × CircuitBreaker :=
  match b.state with
  | CircuitState.closed => (true, b)
  | CircuitState.open_ =>
      if b.waitElapsed now then
        (b.transitionTo CircuitState.halfOpen later).tryAcquireHalfOpen
      else
        (false, b)
  | CircuitState.halfOpen => b.tryAcquireHalfOpen

def recordSuccess (b : CircuitBreaker) (now : Rat) : CircuitBreaker :=
  let b := { b with totalRequests := b.totalRequests + 1 }
  match b.state with
  | CircuitState.halfOpen =>
      let b := { b with successCount := b.successCount + 1 }
      if b.successCount >= b.config.permittedCallsInHalfOpen then
        b.transitionTo CircuitState.closed now
      else
        b
  | CircuitState.closed =>
      if b.failureCount > 0 then
        { b with failureCount := b.failureCount - 1 }
      else
        b
  | CircuitState.open_ => b

/-- The counters of a closed breaker after one more failure, as
{lit}`shouldTrip` sees them. -/
def countFailure (b : CircuitBreaker) : CircuitBreaker :=
  { b with
    totalRequests := b.totalRequests + 1
    failureCount := b.failureCount + 1 }

def recordFailure (b : CircuitBreaker) (now : Rat) : Option CircuitBreaker :=
  match b.state with
  | CircuitState.halfOpen =>
      some ({ b with totalRequests := b.totalRequests + 1 }.transitionTo
        CircuitState.open_ now)
  | CircuitState.closed =>
      match b.countFailure.shouldTrip with
      | none => none
      | some true => some (b.countFailure.transitionTo CircuitState.open_ now)
      | some false => some b.countFailure
  | CircuitState.open_ =>
      some { b with totalRequests := b.totalRequests + 1 }

def onRemoteErrorFlagSet (b : CircuitBreaker) (now : Rat) : CircuitBreaker :=
  let b := { b with remoteErrorFlag := true }
  if b.state = CircuitState.closed ∧
      b.failureCount >= max 1 (b.config.failureThreshold / 2) then
    b.transitionTo CircuitState.open_ now
  else
    b

def onRemoteErrorFlagCleared (b : CircuitBreaker) (now : Rat) :
    CircuitBreaker :=
  let b := { b with remoteErrorFlag := false }
  if b.state = CircuitState.open_ then
    b.transitionTo CircuitState.halfOpen now
  else
    b

def onBackpressure (b : CircuitBreaker) (active : Bool) : CircuitBreaker :=
  { b with backpressureActive := active }

/-!
# Calls

A run of the breaker is a list of calls, each with the readings it takes.
-/

inductive Call where
  | tryAcquire (now later : Rat)
  | recordSuccess (now : Rat)
  | recordFailure (now : Rat)
  | remoteErrorFlagSet (now : Rat)
  | remoteErrorFlagCleared (now : Rat)
  | backpressure (active : Bool)
  deriving DecidableEq

/-- The answer of a call, when it has one, and the breaker after it; nothing
when the call raises. -/
def call (b : CircuitBreaker) : Call -> Option (Option Bool × CircuitBreaker)
  | Call.tryAcquire now later =>
      some (some (b.tryAcquire now later).1, (b.tryAcquire now later).2)
  | Call.recordSuccess now => some (none, b.recordSuccess now)
  | Call.recordFailure now => (b.recordFailure now).map fun b => (none, b)
  | Call.remoteErrorFlagSet now => some (none, b.onRemoteErrorFlagSet now)
  | Call.remoteErrorFlagCleared now =>
      some (none, b.onRemoteErrorFlagCleared now)
  | Call.backpressure active => some (none, b.onBackpressure active)

/-!
# Rates
-/

theorem rate_nonneg {failures requests : Int} (hfailures : 0 <= failures)
    (hrequests : 0 < requests) : 0 <= rate failures requests := by
  apply roundBinary64_nonneg
  exact div_nonneg (by exact_mod_cast hfailures) (by exact_mod_cast hrequests.le)

theorem rate_le_one {failures requests : Int} (hfailures : 0 <= failures)
    (hrequests : 0 < requests) (h : failures <= requests) :
    rate failures requests <= 1 := by
  have htotal : (0 : Rat) < requests := by exact_mod_cast hrequests
  apply roundBinary64_le_one
  · exact div_nonneg (by exact_mod_cast hfailures) htotal.le
  · rw [div_le_one htotal]
    exact_mod_cast h

theorem one_le_rate {failures requests : Int} (hrequests : 0 < requests)
    (h : requests <= failures) : 1 <= rate failures requests := by
  have htotal : (0 : Rat) < requests := by exact_mod_cast hrequests
  apply one_le_roundBinary64
  rw [one_le_div htotal]
  exact_mod_cast h

theorem rate_mono {failures failures' requests requests' : Int}
    (hfailures : 0 <= failures) (hrequests : 0 < requests')
    (hmore : failures <= failures') (hfewer : requests' <= requests) :
    rate failures requests <= rate failures' requests' := by
  have htotal : (0 : Rat) < requests' := by exact_mod_cast hrequests
  have hnonneg : (0 : Rat) <= failures := by exact_mod_cast hfailures
  have hmore : (failures : Rat) <= failures' := by exact_mod_cast hmore
  have hfewer : (requests' : Rat) <= requests := by exact_mod_cast hfewer
  apply roundBinary64_mono
  · exact div_nonneg hnonneg (htotal.le.trans hfewer)
  · exact div_le_div₀ (hnonneg.trans hmore) hmore htotal hfewer

@[simp] theorem rate_zero (requests : Int) : rate 0 requests = 0 := by
  simp [rate]

/-- Among enough requests, any number of failures is a low rate. -/
theorem exists_rate_lt {threshold : Rat} (h : 0 < threshold) {failures : Int}
    (hfailures : 0 <= failures) :
    exists bound : Nat, forall requests : Int, (bound : Int) < requests ->
      rate failures requests < threshold := by
  have hnonneg : (0 : Rat) <= failures := by exact_mod_cast hfailures
  rcases exists_nat_gt (2 * (failures : Rat) / threshold) with ⟨bound, hbound⟩
  refine ⟨bound, fun requests hrequests => ?_⟩
  have hmore : (bound : Rat) < requests := by exact_mod_cast hrequests
  have htotal : (0 : Rat) < requests :=
    lt_of_le_of_lt (Nat.cast_nonneg bound) hmore
  calc
    rate failures requests <= 2 * ((failures : Rat) / requests) :=
      roundBinary64_le_double (div_nonneg hnonneg htotal.le)
    _ = 2 * (failures : Rat) / requests := (mul_div_assoc ..).symm
    _ < threshold := by
      rw [div_lt_iff₀ htotal]
      rw [div_lt_iff₀ h] at hbound
      exact hbound.trans (by rw [mul_comm]; exact mul_lt_mul_of_pos_left hmore h)

/-!
# What each operation does
-/

@[simp] theorem transitionTo_state (b : CircuitBreaker) (s : CircuitState)
    (now : Rat) : (b.transitionTo s now).state = s := by
  cases s <;> rfl

@[simp] theorem transitionTo_config (b : CircuitBreaker) (s : CircuitState)
    (now : Rat) : (b.transitionTo s now).config = b.config := by
  cases s <;> rfl

@[simp] theorem transitionTo_lastStateChangeTime (b : CircuitBreaker)
    (s : CircuitState) (now : Rat) :
    (b.transitionTo s now).lastStateChangeTime = now := by
  cases s <;> rfl

@[simp] theorem transitionTo_totalRequests (b : CircuitBreaker)
    (s : CircuitState) (now : Rat) :
    (b.transitionTo s now).totalRequests = b.totalRequests := by
  cases s <;> rfl

theorem transitionTo_halfOpen_permits (b : CircuitBreaker) (now : Rat) :
    (b.transitionTo CircuitState.halfOpen now).halfOpenPermits =
      b.config.permittedCallsInHalfOpen := rfl

theorem tryAcquire_of_closed {b : CircuitBreaker} (now later : Rat)
    (h : b.state = CircuitState.closed) :
    b.tryAcquire now later = (true, b) := by
  simp [tryAcquire, h]

theorem tryAcquire_of_waiting {b : CircuitBreaker} {now : Rat} (later : Rat)
    (h : b.state = CircuitState.open_) (hwait : ¬ b.waitElapsed now) :
    b.tryAcquire now later = (false, b) := by
  simp [tryAcquire, h, hwait]

theorem tryAcquire_of_elapsed {b : CircuitBreaker} {now : Rat} (later : Rat)
    (h : b.state = CircuitState.open_) (hwait : b.waitElapsed now) :
    b.tryAcquire now later =
      (b.transitionTo CircuitState.halfOpen later).tryAcquireHalfOpen := by
  simp [tryAcquire, h, hwait]

theorem tryAcquire_of_halfOpen {b : CircuitBreaker} (now later : Rat)
    (h : b.state = CircuitState.halfOpen) :
    b.tryAcquire now later = b.tryAcquireHalfOpen := by
  simp [tryAcquire, h]

theorem recordFailure_of_halfOpen {b : CircuitBreaker} (now : Rat)
    (h : b.state = CircuitState.halfOpen) :
    b.recordFailure now =
      some ({ b with totalRequests := b.totalRequests + 1 }.transitionTo
        CircuitState.open_ now) := by
  unfold recordFailure
  split
  · rfl
  · rename_i hclosed
    rw [h] at hclosed
    cases hclosed
  · rename_i hopen
    rw [h] at hopen
    cases hopen

@[simp] theorem tryAcquireHalfOpen_state (b : CircuitBreaker) :
    b.tryAcquireHalfOpen.2.state = b.state := rfl

@[simp] theorem tryAcquireHalfOpen_config (b : CircuitBreaker) :
    b.tryAcquireHalfOpen.2.config = b.config := rfl

theorem tryAcquireHalfOpen_permits (b : CircuitBreaker) :
    b.tryAcquireHalfOpen.2.halfOpenPermits = b.halfOpenPermits - 1 := rfl

theorem tryAcquireHalfOpen_admits (b : CircuitBreaker) :
    b.tryAcquireHalfOpen.1 = true <-> 1 <= b.halfOpenPermits := by
  simp only [tryAcquireHalfOpen, decide_eq_true_eq]
  omega

/-!
# One call, case by case

Every call takes one of the branches below.  A constructor names the branch,
the condition under which the source takes it, the answer and the breaker
afterwards; the invariants are read off these cases.
-/

inductive Effect (b : CircuitBreaker) :
    Call -> Option Bool -> CircuitBreaker -> Prop where
  | pass {now later : Rat} (hstate : b.state = CircuitState.closed) :
      Effect b (Call.tryAcquire now later) (some true) b
  | refuse {now later : Rat} (hstate : b.state = CircuitState.open_)
      (hwait : ¬ b.waitElapsed now) :
      Effect b (Call.tryAcquire now later) (some false) b
  | probe {now later : Rat} (hstate : b.state = CircuitState.open_)
      (hwait : b.waitElapsed now) :
      Effect b (Call.tryAcquire now later)
        (some (b.transitionTo CircuitState.halfOpen later).tryAcquireHalfOpen.1)
        (b.transitionTo CircuitState.halfOpen later).tryAcquireHalfOpen.2
  | acquire {now later : Rat} (hstate : b.state = CircuitState.halfOpen) :
      Effect b (Call.tryAcquire now later)
        (some b.tryAcquireHalfOpen.1) b.tryAcquireHalfOpen.2
  | recover {now : Rat} (hstate : b.state = CircuitState.halfOpen)
      (henough : b.successCount + 1 >= b.config.permittedCallsInHalfOpen) :
      Effect b (Call.recordSuccess now) none
        ({ b with
          totalRequests := b.totalRequests + 1
          successCount := b.successCount + 1 }.transitionTo
            CircuitState.closed now)
  | probeSuccess {now : Rat} (hstate : b.state = CircuitState.halfOpen)
      (hmore : ¬ b.successCount + 1 >= b.config.permittedCallsInHalfOpen) :
      Effect b (Call.recordSuccess now) none
        { b with
          totalRequests := b.totalRequests + 1
          successCount := b.successCount + 1 }
  | decay {now : Rat} (hstate : b.state = CircuitState.closed)
      (hfailures : b.failureCount > 0) :
      Effect b (Call.recordSuccess now) none
        { b with
          totalRequests := b.totalRequests + 1
          failureCount := b.failureCount - 1 }
  | success {now : Rat} (hstate : b.state = CircuitState.closed)
      (hfailures : ¬ b.failureCount > 0) :
      Effect b (Call.recordSuccess now) none
        { b with totalRequests := b.totalRequests + 1 }
  | lateSuccess {now : Rat} (hstate : b.state = CircuitState.open_) :
      Effect b (Call.recordSuccess now) none
        { b with totalRequests := b.totalRequests + 1 }
  | reopen {now : Rat} (hstate : b.state = CircuitState.halfOpen) :
      Effect b (Call.recordFailure now) none
        ({ b with totalRequests := b.totalRequests + 1 }.transitionTo
          CircuitState.open_ now)
  | trip {now : Rat} (hstate : b.state = CircuitState.closed)
      (htrip : b.countFailure.shouldTrip = some true) :
      Effect b (Call.recordFailure now) none
        (b.countFailure.transitionTo CircuitState.open_ now)
  | failure {now : Rat} (hstate : b.state = CircuitState.closed)
      (htrip : b.countFailure.shouldTrip = some false) :
      Effect b (Call.recordFailure now) none b.countFailure
  | lateFailure {now : Rat} (hstate : b.state = CircuitState.open_) :
      Effect b (Call.recordFailure now) none
        { b with totalRequests := b.totalRequests + 1 }
  | flagTrip {now : Rat} (hstate : b.state = CircuitState.closed)
      (hfailures : b.failureCount >= max 1 (b.config.failureThreshold / 2)) :
      Effect b (Call.remoteErrorFlagSet now) none
        ({ b with remoteErrorFlag := true }.transitionTo
          CircuitState.open_ now)
  | flagSet {now : Rat}
      (hkeep : ¬ (b.state = CircuitState.closed ∧
        b.failureCount >= max 1 (b.config.failureThreshold / 2))) :
      Effect b (Call.remoteErrorFlagSet now) none
        { b with remoteErrorFlag := true }
  | flagRecover {now : Rat} (hstate : b.state = CircuitState.open_) :
      Effect b (Call.remoteErrorFlagCleared now) none
        ({ b with remoteErrorFlag := false }.transitionTo
          CircuitState.halfOpen now)
  | flagCleared {now : Rat} (hkeep : b.state ≠ CircuitState.open_) :
      Effect b (Call.remoteErrorFlagCleared now) none
        { b with remoteErrorFlag := false }
  | backpressure (active : Bool) :
      Effect b (Call.backpressure active) none
        { b with backpressureActive := active }

theorem effect_of_tryAcquire (b : CircuitBreaker) (now later : Rat) :
    Effect b (Call.tryAcquire now later)
      (some (b.tryAcquire now later).1) (b.tryAcquire now later).2 := by
  cases hstate : b.state with
  | closed =>
      rw [tryAcquire_of_closed now later hstate]
      exact Effect.pass hstate
  | open_ =>
      by_cases hwait : b.waitElapsed now
      · rw [tryAcquire_of_elapsed later hstate hwait]
        exact Effect.probe hstate hwait
      · rw [tryAcquire_of_waiting later hstate hwait]
        exact Effect.refuse hstate hwait
  | halfOpen =>
      rw [tryAcquire_of_halfOpen now later hstate]
      exact Effect.acquire hstate

theorem effect_of_recordSuccess (b : CircuitBreaker) (now : Rat) :
    Effect b (Call.recordSuccess now) none (b.recordSuccess now) := by
  cases hstate : b.state with
  | closed =>
      by_cases hfailures : b.failureCount > 0
      · simpa [recordSuccess, hstate, hfailures] using
          @Effect.decay b now hstate hfailures
      · simpa [recordSuccess, hstate, hfailures] using
          @Effect.success b now hstate hfailures
  | open_ =>
      simpa [recordSuccess, hstate] using
        @Effect.lateSuccess b now hstate
  | halfOpen =>
      by_cases henough :
          b.successCount + 1 >= b.config.permittedCallsInHalfOpen
      · simpa [recordSuccess, hstate, henough] using
          @Effect.recover b now hstate henough
      · simpa [recordSuccess, hstate, henough] using
          @Effect.probeSuccess b now hstate henough

theorem effect_of_recordFailure {b b' : CircuitBreaker} {now : Rat}
    (h : b.recordFailure now = some b') :
    Effect b (Call.recordFailure now) none b' := by
  cases hstate : b.state with
  | closed =>
      cases htrip : b.countFailure.shouldTrip with
      | none => simp [recordFailure, hstate, htrip] at h
      | some verdict =>
          cases verdict with
          | true =>
              simp only [recordFailure, hstate, htrip,
                Option.some.injEq] at h
              rw [← h]
              exact Effect.trip hstate htrip
          | false =>
              simp only [recordFailure, hstate, htrip,
                Option.some.injEq] at h
              rw [← h]
              exact Effect.failure hstate htrip
  | open_ =>
      simp only [recordFailure, hstate, Option.some.injEq] at h
      rw [← h]
      simpa [hstate] using @Effect.lateFailure b now hstate
  | halfOpen =>
      simp only [recordFailure, hstate, Option.some.injEq] at h
      rw [← h]
      simpa [hstate] using @Effect.reopen b now hstate

theorem call_effect {b b' : CircuitBreaker} {c : Call}
    {answer : Option Bool} (h : b.call c = some (answer, b')) :
    Effect b c answer b' := by
  cases c with
  | tryAcquire now later =>
      simp only [call, Option.some.injEq, Prod.mk.injEq] at h
      rcases h with ⟨rfl, rfl⟩
      exact effect_of_tryAcquire b now later
  | recordSuccess now =>
      simp only [call, Option.some.injEq, Prod.mk.injEq] at h
      rcases h with ⟨rfl, rfl⟩
      exact effect_of_recordSuccess b now
  | recordFailure now =>
      simp only [call, Option.map_eq_some_iff, Prod.mk.injEq] at h
      rcases h with ⟨b'', hfailure, rfl, rfl⟩
      exact effect_of_recordFailure hfailure
  | remoteErrorFlagSet now =>
      simp only [call, Option.some.injEq, Prod.mk.injEq] at h
      rcases h with ⟨rfl, rfl⟩
      unfold onRemoteErrorFlagSet
      simp only
      split
      · rename_i htrip
        exact Effect.flagTrip htrip.1 htrip.2
      · rename_i hkeep
        exact Effect.flagSet hkeep
  | remoteErrorFlagCleared now =>
      simp only [call, Option.some.injEq, Prod.mk.injEq] at h
      rcases h with ⟨rfl, rfl⟩
      unfold onRemoteErrorFlagCleared
      simp only
      split
      · rename_i hstate
        exact Effect.flagRecover hstate
      · rename_i hkeep
        exact Effect.flagCleared hkeep
  | backpressure active =>
      simp only [call, Option.some.injEq, Prod.mk.injEq] at h
      rcases h with ⟨rfl, rfl⟩
      exact Effect.backpressure active

theorem effect_config {b b' : CircuitBreaker} {c : Call}
    {answer : Option Bool} (h : Effect b c answer b') :
    b'.config = b.config := by
  cases h <;> rfl

end CircuitBreaker

end Resilience
end Hmmp
