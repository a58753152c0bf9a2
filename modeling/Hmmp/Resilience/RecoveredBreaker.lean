import Mathlib.Data.Int.LeastGreatest
import Hmmp.Resilience.BreakerAgreement

/-!
# Recovered breakers and new ones

A breaker that recovers forgets its failures but keeps its request count, which
divides the failure rate from then on.  Whether this can be told from outside
depends on the configuration alone.
-/

namespace Hmmp
namespace Resilience

namespace CircuitBreaker

/-- A new breaker with the same configuration and the same signals. -/
def renewed (b : CircuitBreaker) (now : Rat) : CircuitBreaker :=
  { new b.config now with
    remoteErrorFlag := b.remoteErrorFlag
    backpressureActive := b.backpressureActive }

/-- The state after successive calls; nothing when a call raises. -/
def stateAfter (b : CircuitBreaker) : List Call -> Option CircuitState
  | [] => some b.state
  | c :: calls => do
      let (_, after) ← b.call c
      after.stateAfter calls

def endState (start : CircuitState)
    (steps : List (Option Bool × CircuitState)) : CircuitState :=
  steps.foldl (fun _ step => step.2) start

variable {b : CircuitBreaker}

theorem stateAfter_eq (b : CircuitBreaker) (calls : List Call) :
    b.stateAfter calls = (b.trace calls).map (endState b.state) := by
  induction calls generalizing b with
  | nil => rfl
  | cons c calls ih =>
      unfold stateAfter trace
      cases b.call c with
      | none => rfl
      | some result =>
          show result.2.stateAfter calls =
            (do
              let rest ← result.2.trace calls
              some ((result.1, result.2.state) :: rest)).map
                (endState b.state)
          rw [ih result.2]
          cases result.2.trace calls <;> rfl

/-!
# Breakers without signals
-/

/-- A closed breaker without signals, with its counters. -/
structure Counting (config : CircuitBreakerConfig) (failures total : Int)
    (b : CircuitBreaker) : Prop where
  config_eq : b.config = config
  closed : b.state = CircuitState.closed
  failureCount : b.failureCount = failures
  totalRequests : b.totalRequests = total
  noFlag : b.remoteErrorFlag = false
  noBackpressure : b.backpressureActive = false

/-- So many failures among so many requests trip a breaker without signals. -/
def Trips (config : CircuitBreakerConfig) (failures total : Int) : Prop :=
  config.failureThreshold <= failures ∨
    (config.minimumCallsBeforeTrip <= total ∧
      config.failureRateThreshold <= rate failures total)

namespace Counting

variable {config : CircuitBreakerConfig} {failures total : Int}

theorem tripsNext_iff (h : Counting config failures total b) :
    b.TripsNext <-> Trips config (failures + 1) (total + 1) := by
  have hthreshold : b.effectiveThreshold = config.failureThreshold := by
    simp [effectiveThreshold, h.noFlag, h.noBackpressure, h.config_eq]
  unfold TripsNext Trips
  rw [hthreshold, h.failureCount, h.totalRequests, h.config_eq]

theorem success (h : Counting config 0 total b) (now : Rat) :
    Counting config 0 (total + 1) (b.recordSuccess now) := by
  have hnone : ¬ b.failureCount > 0 := by
    rw [h.failureCount]
    decide
  rw [recordSuccess_of_closed now h.closed, if_neg hnone]
  refine ⟨h.config_eq, h.closed, h.failureCount, ?_, h.noFlag,
    h.noBackpressure⟩
  show b.totalRequests + 1 = total + 1
  rw [h.totalRequests]

theorem counted (h : Counting config failures total b)
    (hnonneg : 0 <= failures) (hle : failures <= total) : Watch.Counted b where
  nonneg := by
    rw [h.failureCount]
    exact hnonneg
  le_total := by
    rw [h.failureCount, h.totalRequests]
    exact hle

theorem failure (h : Counting config failures total b)
    (hnonneg : 0 <= failures) (hle : failures <= total)
    (hstay : ¬ Trips config (failures + 1) (total + 1)) (now : Rat) :
    b.recordFailure now = some b.countFailure ∧
      Counting config (failures + 1) (total + 1) b.countFailure := by
  have hverdict := shouldTrip_eq (h.counted hnonneg hle)
  rw [decide_eq_false (h.tripsNext_iff.not.mpr hstay)] at hverdict
  constructor
  · rw [recordFailure_of_closed now h.closed, hverdict]
  · refine ⟨h.config_eq, h.closed, ?_, ?_, h.noFlag, h.noBackpressure⟩
    · show b.failureCount + 1 = failures + 1
      rw [h.failureCount]
    · show b.totalRequests + 1 = total + 1
      rw [h.totalRequests]

theorem trip (h : Counting config failures total b)
    (hnonneg : 0 <= failures) (hle : failures <= total)
    (htrip : Trips config (failures + 1) (total + 1)) (now : Rat) :
    b.recordFailure now =
      some (b.countFailure.transitionTo CircuitState.open_ now) := by
  have hverdict := shouldTrip_eq (h.counted hnonneg hle)
  rw [decide_eq_true (h.tripsNext_iff.mpr htrip)] at hverdict
  rw [recordFailure_of_closed now h.closed, hverdict]

end Counting

/-!
# A run that tells two request counts apart
-/

theorem stateAfter_cons {c : Call} {answer : Option Bool}
    {after : CircuitBreaker} (h : b.call c = some (answer, after))
    (calls : List Call) :
    b.stateAfter (c :: calls) = after.stateAfter calls := by
  rw [stateAfter, h]
  rfl

theorem stateAfter_failure {after : CircuitBreaker} {now : Rat}
    (h : b.recordFailure now = some after) (calls : List Call) :
    b.stateAfter (Call.recordFailure now :: calls) =
      after.stateAfter calls := by
  have hcall : b.call (Call.recordFailure now) = some (none, after) := by
    show (b.recordFailure now).map _ = _
    rw [h]
    rfl
  exact stateAfter_cons hcall calls

theorem stateAfter_open (h : b.state = CircuitState.open_) (k : Nat) :
    b.stateAfter (List.replicate k (Call.recordFailure 0)) =
      some CircuitState.open_ := by
  induction k generalizing b with
  | zero => exact congrArg some h
  | succ k ih =>
      rw [List.replicate_succ, stateAfter_failure (recordFailure_of_open 0 h)]
      exact ih h

namespace Counting

variable {config : CircuitBreakerConfig} {failures total : Int}

theorem successes (h : Counting config 0 total b) (k : Nat)
    (calls : List Call) :
    exists after, Counting config 0 (total + k) after ∧
      b.stateAfter (List.replicate k (Call.recordSuccess 0) ++ calls) =
        after.stateAfter calls := by
  induction k generalizing b total with
  | zero =>
      refine ⟨b, ?_, rfl⟩
      rw [Int.natCast_zero, Int.add_zero]
      exact h
  | succ k ih =>
      rcases ih (h.success 0) with ⟨after, hafter, hstate⟩
      refine ⟨after, ?_, hstate⟩
      have hcount : total + ((k + 1 : Nat) : Int) = total + 1 + k := by
        omega
      rw [hcount]
      exact hafter

theorem failures_trip {k : Nat} (h : Counting config failures total b)
    (hnonneg : 0 <= failures) (hle : failures <= total)
    (htrip : Trips config (failures + (k + 1 : Nat))
      (total + (k + 1 : Nat))) :
    b.stateAfter (List.replicate (k + 1) (Call.recordFailure 0)) =
      some CircuitState.open_ := by
  induction k generalizing b failures total with
  | zero =>
      rw [List.replicate_succ, stateAfter_failure (h.trip hnonneg hle htrip 0)]
      rfl
  | succ k ih =>
      rw [List.replicate_succ]
      by_cases hearly : Trips config (failures + 1) (total + 1)
      · rw [stateAfter_failure (h.trip hnonneg hle hearly 0)]
        exact stateAfter_open rfl (k + 1)
      · rcases h.failure hnonneg hle hearly 0 with ⟨hcall, hnext⟩
        rw [stateAfter_failure hcall]
        refine ih hnext (by omega) (by omega) ?_
        have hfailures : failures + 1 + ((k + 1 : Nat) : Int) =
            failures + ((k + 1 + 1 : Nat) : Int) := by omega
        have htotal : total + 1 + ((k + 1 : Nat) : Int) =
            total + ((k + 1 + 1 : Nat) : Int) := by omega
        rw [hfailures, htotal]
        exact htrip

theorem failures_stay {k : Nat} (h : Counting config failures total b)
    (hnonneg : 0 <= failures) (hle : failures <= total)
    (hstay : forall j : Nat, 1 <= j -> j <= k ->
      ¬ Trips config (failures + j) (total + j)) :
    b.stateAfter (List.replicate k (Call.recordFailure 0)) =
      some CircuitState.closed := by
  induction k generalizing b failures total with
  | zero => exact congrArg some h.closed
  | succ k ih =>
      have hfirst := hstay 1 (Nat.le_refl 1) (Nat.le_add_left 1 k)
      rcases h.failure hnonneg hle hfirst 0 with ⟨hcall, hnext⟩
      rw [List.replicate_succ, stateAfter_failure hcall]
      refine ih hnext (by omega) (by omega) fun j hone hj => ?_
      have hlater := hstay (j + 1) (by omega) (by omega)
      have hfailures : failures + 1 + (j : Int) =
          failures + ((j + 1 : Nat) : Int) := by omega
      have htotal : total + 1 + (j : Int) =
          total + ((j + 1 : Nat) : Int) := by omega
      rw [hfailures, htotal]
      exact hlater

end Counting

/-- Clear the signals, and report some successes and then some failures. -/
def probing (successes failures : Nat) : List Call :=
  Call.remoteErrorFlagCleared 0 :: Call.backpressure false ::
    (List.replicate successes (Call.recordSuccess 0) ++
      List.replicate failures (Call.recordFailure 0))

theorem stateAfter_probing (hclosed : b.state = CircuitState.closed)
    (hzero : b.failureCount = 0) (successes failures : Nat) :
    exists after,
      Counting b.config 0 (b.totalRequests + successes) after ∧
        b.stateAfter (probing successes failures) =
          after.stateAfter
            (List.replicate failures (Call.recordFailure 0)) := by
  have hcleared : b.onRemoteErrorFlagCleared 0 =
      { b with remoteErrorFlag := false } := by
    simp [onRemoteErrorFlagCleared, hclosed]
  have hquiet : Counting b.config 0 b.totalRequests
      ((b.onRemoteErrorFlagCleared 0).onBackpressure false) := by
    rw [hcleared]
    exact ⟨rfl, hclosed, hzero, rfl, rfl, rfl⟩
  rcases hquiet.successes successes
      (List.replicate failures (Call.recordFailure 0)) with
    ⟨after, hafter, hstate⟩
  exact ⟨after, hafter, hstate⟩

end CircuitBreaker

/-!
# Recovery
-/

open CircuitBreaker

/-- A run of a new breaker whose last call closes it out of HALF_OPEN. -/
structure RecoveredRun (config : CircuitBreakerConfig) where
  now : Rat
  calls : List Call
  watch : Watch
  run_eq : (Watch.start config now).run calls = some watch
  halfOpen : watch.breaker.state = CircuitState.halfOpen
  last : Call
  answer : Option Bool
  breaker : CircuitBreaker
  call_eq : watch.breaker.call last = some (answer, breaker)
  closed : breaker.state = CircuitState.closed

namespace RecoveredRun

variable {config : CircuitBreakerConfig}

theorem recovered (r : RecoveredRun config) :
    r.breaker.config = config ∧ r.breaker.failureCount = 0 ∧
      1 <= r.breaker.totalRequests := by
  rcases r with ⟨now, calls, watch, hrun, hbefore, last, answer, breaker,
    hcall, hclosed⟩
  dsimp only
  have hinv : Watch.Inv config watch := by
    rcases Watch.inv_run config now calls with ⟨w, hrun', hinv⟩
    rw [hrun] at hrun'
    injection hrun' with hw
    rw [hw]
    exact hinv
  have hconfig := hinv.period.config_eq
  rcases hinv.counted with ⟨hnonneg, hle⟩
  have heffect := call_effect hcall
  cases heffect with
  | recover _ _ =>
      refine ⟨hconfig, rfl, ?_⟩
      show 1 <= watch.breaker.totalRequests + 1
      omega
  | probe _ _ | reopen _ | trip _ _ | flagTrip _ _ | flagRecover _ =>
      cases hclosed
  | pass h | refuse h _ | decay h _ | success h _ | lateSuccess h | failure h _
  | lateFailure h =>
      rw [hbefore] at h
      cases h
  | acquire _ | probeSuccess _ _ | flagSet _ | flagCleared _
  | backpressure _ =>
      have hclosed : watch.breaker.state = CircuitState.closed := hclosed
      rw [hbefore] at hclosed
      cases hclosed

theorem trace_eq_renewed (r : RecoveredRun config) (hidle : config.RateIdle)
    (now : Rat) (calls : List Call) :
    r.breaker.trace calls = (r.breaker.renewed now).trace calls := by
  rcases r.recovered with ⟨hconfig, hzero, hone⟩
  have hclosed := r.closed
  have hagree : Agree r.breaker (r.breaker.renewed now) := by
    refine ⟨rfl, hclosed.symm, hzero.symm, rfl, rfl, ?_, ?_⟩
    · rw [hclosed]
      intro hopen
      cases hopen
    · rw [hclosed]
      intro hhalf
      cases hhalf
  have hcounted : Watch.Counted r.breaker := by
    constructor
    · rw [hzero]
    · rw [hzero]
      omega
  rw [← hconfig] at hidle
  exact hagree.trace_eq hcounted ⟨Int.le_refl 0, Int.le_refl 0⟩ hidle calls

theorem trace_ne_renewed (r : RecoveredRun config) {calls : List Call}
    (h : r.breaker.stateAfter calls ≠
      (r.breaker.renewed 0).stateAfter calls) :
    r.breaker.trace calls ≠ (r.breaker.renewed 0).trace calls := by
  intro htrace
  rw [stateAfter_eq, stateAfter_eq, htrace, r.closed] at h
  exact h rfl

theorem stateAfter_probing (r : RecoveredRun config)
    (successes failures : Nat) :
    exists b b',
      Counting config 0 (r.breaker.totalRequests + successes) b ∧
        Counting config 0 successes b' ∧
          r.breaker.stateAfter (probing successes failures) =
            b.stateAfter (List.replicate failures (Call.recordFailure 0)) ∧
          (r.breaker.renewed 0).stateAfter (probing successes failures) =
            b'.stateAfter
              (List.replicate failures (Call.recordFailure 0)) := by
  rcases r.recovered with ⟨hconfig, hzero, _⟩
  rcases CircuitBreaker.stateAfter_probing r.closed hzero successes
    failures with ⟨b, hb, hstate⟩
  rcases CircuitBreaker.stateAfter_probing
    (b := r.breaker.renewed 0) rfl rfl successes failures with
    ⟨b', hb', hstate'⟩
  rw [hconfig] at hb
  have hb' : Counting r.breaker.config 0 (0 + (successes : Int)) b' := hb'
  rw [hconfig, Int.zero_add] at hb'
  exact ⟨b, b', hb, hb', hstate, hstate'⟩

theorem trips_early (r : RecoveredRun config)
    (hthreshold : 2 <= config.failureThreshold)
    (hrate : config.failureRateThreshold <= 0)
    (hmin : 2 <= config.minimumCallsBeforeTrip) :
    exists calls, r.breaker.trace calls ≠
      (r.breaker.renewed 0).trace calls := by
  have hone := r.recovered.2.2
  let successes := (config.minimumCallsBeforeTrip - 2).toNat
  have hsuccesses : (successes : Int) = config.minimumCallsBeforeTrip - 2 := by
    omega
  rcases r.stateAfter_probing successes 1 with ⟨b, b', hb, hb', hstate, hstate'⟩
  refine ⟨probing successes 1, r.trace_ne_renewed ?_⟩
  have htrip : Trips config (0 + ((0 + 1 : Nat) : Int))
      (r.breaker.totalRequests + successes + ((0 + 1 : Nat) : Int)) := by
    refine Or.inr ⟨by omega, ?_⟩
    exact hrate.trans (rate_nonneg (by omega) (by omega))
  have hstay : forall j : Nat, 1 <= j -> j <= 1 ->
      ¬ Trips config (0 + j) (successes + j) := by
    rintro j hlow hhigh (hreached | ⟨henough, _⟩) <;> omega
  rw [hstate, hstate', hb.failures_trip (Int.le_refl 0) (by omega) htrip,
    hb'.failures_stay (Int.le_refl 0) (by omega) hstay]
  intro h
  cases h

/-- So many failures among so many requests reach the rate without the absolute
threshold. -/
def RateTrips (config : CircuitBreakerConfig) (failures total : Int) : Prop :=
  failures <= total ∧ max 1 config.minimumCallsBeforeTrip <= total ∧
    config.failureRateThreshold <= rate failures total

theorem exists_first_rateTrips (hpositive : 0 < config.failureRateThreshold)
    {failures total : Int} (hnonneg : 0 <= failures)
    (htrips : RateTrips config failures total) :
    exists fewest most, 1 <= fewest ∧ fewest <= failures ∧
      RateTrips config fewest most ∧
        (forall j n, 0 <= j -> j < fewest -> ¬ RateTrips config j n) ∧
          forall n, most < n -> ¬ RateTrips config fewest n := by
  rcases Int.exists_least_of_bdd
      (P := fun j => 0 <= j ∧ exists n, RateTrips config j n)
      ⟨0, fun j h => h.1⟩ ⟨failures, hnonneg, total, htrips⟩ with
    ⟨fewest, ⟨hfewest, n, hn⟩, hleast⟩
  rcases exists_rate_lt hpositive hfewest with ⟨bound, hbound⟩
  have hbounded : forall n, RateTrips config fewest n -> n <= bound := by
    intro n h
    by_contra hlarge
    exact absurd h.2.2 (not_le.mpr (hbound n (not_le.mp hlarge)))
  rcases Int.exists_greatest_of_bdd ⟨bound, hbounded⟩ ⟨n, hn⟩ with
    ⟨most, hmost, hgreatest⟩
  refine ⟨fewest, most, ?_, hleast failures ⟨hnonneg, total, htrips⟩, hmost,
    ?_, ?_⟩
  · by_contra hzero
    have hrate := hmost.2.2
    rw [show fewest = 0 by omega, rate_zero] at hrate
    exact absurd hrate (not_le.mpr hpositive)
  · intro j m hj hlow h
    have hle := hleast j ⟨hj, m, h⟩
    omega
  · intro m hlate h
    have hle := hgreatest m h
    omega

/-- If the rate reaches its threshold within the allowed failures, the request
count that was kept hides this. -/
theorem trips_late (r : RecoveredRun config)
    (hthreshold : 2 <= config.failureThreshold)
    (hpositive : 0 < config.failureRateThreshold)
    (hrate : config.failureRateThreshold <= 1)
    (hwithin : config.failureRateThreshold <=
      rate (config.failureThreshold - 1)
        (max 1 config.minimumCallsBeforeTrip)) :
    exists calls, r.breaker.trace calls ≠
      (r.breaker.renewed 0).trace calls := by
  have hone := r.recovered.2.2
  have hallowed : RateTrips config (config.failureThreshold - 1)
      (max (config.failureThreshold - 1)
        (max 1 config.minimumCallsBeforeTrip)) := by
    refine ⟨by omega, by omega, ?_⟩
    by_cases hmore : config.failureThreshold - 1 <=
        max 1 config.minimumCallsBeforeTrip
    · rw [max_eq_right hmore]
      exact hwithin
    · rw [max_eq_left (by omega)]
      exact hrate.trans (one_le_rate (by omega) le_rfl)
  rcases exists_first_rateTrips hpositive (by omega) hallowed with
    ⟨fewest, most, hsome, hbelow, ⟨hfits, henough, hreached⟩, hfewer, hlater⟩
  let failures := (fewest - 1).toNat
  let successes := (most - fewest).toNat
  have hfailures : ((failures + 1 : Nat) : Int) = fewest := by omega
  have hsuccesses : (successes : Int) = most - fewest := by omega
  rcases r.stateAfter_probing successes (failures + 1) with
    ⟨b, b', hb, hb', hstate, hstate'⟩
  refine ⟨probing successes (failures + 1), r.trace_ne_renewed ?_⟩
  have htrip : Trips config (0 + ((failures + 1 : Nat) : Int))
      (successes + ((failures + 1 : Nat) : Int)) := by
    rw [hfailures, hsuccesses, Int.sub_add_cancel, Int.zero_add]
    exact Or.inr ⟨by omega, hreached⟩
  have hstay : forall j : Nat, 1 <= j -> j <= failures + 1 ->
      ¬ Trips config (0 + j)
        (r.breaker.totalRequests + successes + j) := by
    rintro j hlow hhigh (habsolute | ⟨hmin, hover⟩)
    · omega
    · rw [Int.zero_add] at hover
      have hnext : RateTrips config j
          (r.breaker.totalRequests + successes + j) :=
        ⟨by omega, by omega, hover⟩
      rcases (show (j : Int) <= fewest by omega).lt_or_eq with hless | hall
      · exact hfewer j _ (by omega) hless hnext
      · rw [hall] at hnext
        exact hlater _ (by omega) hnext
  rw [hstate, hstate', hb.failures_stay (Int.le_refl 0) (by omega) hstay,
    hb'.failures_trip (Int.le_refl 0) (by omega) htrip]
  intro h
  cases h

/--
After every run that recovers a breaker, it answers like a new one to all
further calls exactly if its configuration leaves the rate criterion idle.
-/
theorem behavesLikeNew_iff (r : RecoveredRun config) :
    (forall now calls, r.breaker.trace calls =
      (r.breaker.renewed now).trace calls) <-> config.RateIdle := by
  constructor
  · intro hlike
    by_contra hidle
    unfold CircuitBreakerConfig.RateIdle at hidle
    push Not at hidle
    rcases hidle with ⟨hthreshold, hrate, hwithin, hmin⟩
    rcases le_or_gt config.failureRateThreshold 0 with hzero | hpositive
    · rcases r.trips_early (by omega) hzero (hmin hzero) with
        ⟨calls, hcalls⟩
      exact hcalls (hlike 0 calls)
    · rcases r.trips_late (by omega) hpositive hrate (hwithin hpositive) with
        ⟨calls, hcalls⟩
      exact hcalls (hlike 0 calls)
  · intro hidle now calls
    exact r.trace_eq_renewed hidle now calls

/-- The default configuration with ten failures allowed. -/
def tolerantConfig : CircuitBreakerConfig where
  failureThreshold := 10

/-- Ten failures open the breaker, and of three probes two succeed. -/
def almostRecovered : List Call :=
  List.replicate 10 (Call.recordFailure 0) ++
    List.replicate 3 (Call.tryAcquire 30000 30000) ++
      List.replicate 2 (Call.recordSuccess 30001)

theorem almostRecovered_returns :
    ((Watch.start tolerantConfig 0).run almostRecovered).isSome = true := by
  decide +kernel

def tolerantRun : RecoveredRun tolerantConfig where
  now := 0
  calls := almostRecovered
  watch := ((Watch.start tolerantConfig 0).run almostRecovered).get
    almostRecovered_returns
  run_eq := (Option.some_get almostRecovered_returns).symm
  halfOpen := by decide +kernel
  last := Call.recordSuccess 30002
  answer := none
  breaker := (((Watch.start tolerantConfig 0).run almostRecovered).get
    almostRecovered_returns).breaker.recordSuccess 30002
  call_eq := rfl
  closed := by decide +kernel

/-- Five successes and five failures trip a new breaker, but not the one that
has recovered after thirteen requests. -/
theorem recovered_breaker_differs :
    ¬ (forall (config : CircuitBreakerConfig) (r : RecoveredRun config)
        (now : Rat) (calls : List Call),
        r.breaker.trace calls = (r.breaker.renewed now).trace calls) := by
  intro hclaim
  have hlike := hclaim tolerantConfig tolerantRun 0
    (List.replicate 5 (Call.recordSuccess 40000) ++
      List.replicate 5 (Call.recordFailure 40001))
  revert hlike
  decide +kernel

end RecoveredRun

end Resilience
end Hmmp
