import Mathlib.Algebra.Order.Field.Rat
import Mathlib.Algebra.Order.Field.Basic
import Hmmp.Foundation.Transition
import Hmmp.Resilience.CircuitBreaker

/-!
# Circuit breaker safety

An observer follows a breaker through a run and remembers two things the
breaker is not asked for: the reading at which it last opened, and how many
calls it has admitted in the current HALF_OPEN period.  The safety results are
about these observations, over runs of any length.
-/

namespace Hmmp
namespace Resilience

open Foundation

/-- The state changes a breaker may make. -/
inductive CircuitEdge : CircuitState -> CircuitState -> Prop where
  | trip : CircuitEdge CircuitState.closed CircuitState.open_
  | probe : CircuitEdge CircuitState.open_ CircuitState.halfOpen
  | recover : CircuitEdge CircuitState.halfOpen CircuitState.closed
  | reopen : CircuitEdge CircuitState.halfOpen CircuitState.open_

/-- The reading at which a call stamps the state change it makes. -/
def CircuitBreaker.Call.stamp : CircuitBreaker.Call -> Option Rat
  | CircuitBreaker.Call.tryAcquire _ later => some later
  | CircuitBreaker.Call.recordSuccess now => some now
  | CircuitBreaker.Call.recordFailure now => some now
  | CircuitBreaker.Call.remoteErrorFlagSet now => some now
  | CircuitBreaker.Call.remoteErrorFlagCleared now => some now
  | CircuitBreaker.Call.backpressure _ => none

structure Watch where
  breaker : CircuitBreaker
  /-- The reading of the call that last opened the breaker. -/
  openedAt : Option Rat
  /-- Calls admitted in the current HALF_OPEN period. -/
  admitted : Nat

namespace Watch

open CircuitBreaker

def start (config : CircuitBreakerConfig) (now : Rat) : Watch :=
  { breaker := CircuitBreaker.new config now, openedAt := none, admitted := 0 }

def observe (w : Watch) (c : Call) (answer : Option Bool)
    (after : CircuitBreaker) : Watch :=
  { breaker := after
    openedAt :=
      if after.state = CircuitState.open_ ∧
          w.breaker.state ≠ CircuitState.open_ then
        c.stamp
      else
        w.openedAt
    admitted :=
      (if after.state = CircuitState.halfOpen ∧
          w.breaker.state ≠ CircuitState.halfOpen then
        0
      else
        w.admitted) +
      (if after.state = CircuitState.halfOpen ∧ answer = some true then
        1
      else
        0) }

/-- One call of the observed breaker; nothing when the call raises. -/
def next (w : Watch) (c : Call) : Option Watch :=
  (w.breaker.call c).map fun result => w.observe c result.1 result.2

def run (w : Watch) (calls : List Call) : Option Watch :=
  calls.foldlM next w

/-- The calls allowed in one HALF_OPEN period. -/
def allowance (config : CircuitBreakerConfig) : Int :=
  max 0 config.permittedCallsInHalfOpen

/-!
# Counters

The failure count never exceeds the request count, whatever the state.
-/

structure Counted (b : CircuitBreaker) : Prop where
  nonneg : 0 <= b.failureCount
  le_total : b.failureCount <= b.totalRequests

theorem counted_effect {b b' : CircuitBreaker} {c : Call}
    {answer : Option Bool} (h : Counted b) (heffect : Effect b c answer b') :
    Counted b' := by
  rcases h with ⟨hnonneg, hle⟩
  cases heffect with
  | pass | refuse | flagSet | flagCleared | backpressure =>
      exact ⟨hnonneg, hle⟩
  | probe | acquire | flagTrip | flagRecover =>
      exact ⟨hnonneg, hle⟩
  | recover =>
      refine ⟨Int.le_refl 0, ?_⟩
      simp only [transitionTo]
      omega
  | probeSuccess | success | lateSuccess | reopen | lateFailure =>
      refine ⟨hnonneg, ?_⟩
      simp only [transitionTo]
      omega
  | decay _ hfailures =>
      constructor <;> simp only <;> omega
  | trip | failure =>
      constructor <;> simp only [transitionTo, countFailure] <;> omega

/-!
# Periods

While the breaker is open its last state change is the opening the observer
saw; while it is half open the admitted calls and the permits left add up to
the allowance of the period.
-/

structure Period (config : CircuitBreakerConfig) (w : Watch) : Prop where
  config_eq : w.breaker.config = config
  opened : w.breaker.state = CircuitState.open_ ->
    w.openedAt = some w.breaker.lastStateChangeTime
  permits_le : w.breaker.state = CircuitState.halfOpen ->
    w.breaker.halfOpenPermits <= config.permittedCallsInHalfOpen
  admitted_eq : w.breaker.state = CircuitState.halfOpen ->
    (w.admitted : Int) + max 0 w.breaker.halfOpenPermits = allowance config

section PeriodRules

variable {config : CircuitBreakerConfig} {w : Watch} {c : Call}
variable {answer : Option Bool} {after : CircuitBreaker}

theorem period_of_unchanged (h : Period config w)
    (hconfig : after.config = w.breaker.config)
    (hstate : after.state = w.breaker.state)
    (htime : after.lastStateChangeTime = w.breaker.lastStateChangeTime)
    (hpermits : after.halfOpenPermits = w.breaker.halfOpenPermits)
    (hanswer : after.state = CircuitState.halfOpen -> answer ≠ some true) :
    Period config (w.observe c answer after) where
  config_eq := hconfig.trans h.config_eq
  opened hopen := by
    rw [show (w.observe c answer after).breaker = after from rfl] at hopen
    have hbefore := hopen
    rw [hstate] at hbefore
    simpa [observe, hbefore, htime] using h.opened hbefore
  permits_le hhalf := by
    have hbefore : w.breaker.state = CircuitState.halfOpen :=
      hstate ▸ hhalf
    show after.halfOpenPermits <= _
    rw [hpermits]
    exact h.permits_le hbefore
  admitted_eq hhalf := by
    have hbefore : w.breaker.state = CircuitState.halfOpen :=
      hstate ▸ hhalf
    have hnone : answer ≠ some true := hanswer hhalf
    simpa [observe, hbefore, hnone, hpermits] using h.admitted_eq hbefore

theorem period_of_closed (h : Period config w)
    (hconfig : after.config = w.breaker.config)
    (hclosed : after.state = CircuitState.closed) :
    Period config (w.observe c answer after) where
  config_eq := hconfig.trans h.config_eq
  opened hopen := by
    rw [show (w.observe c answer after).breaker = after from rfl,
      hclosed] at hopen
    cases hopen
  permits_le hhalf := by
    rw [show (w.observe c answer after).breaker = after from rfl,
      hclosed] at hhalf
    cases hhalf
  admitted_eq hhalf := by
    rw [show (w.observe c answer after).breaker = after from rfl,
      hclosed] at hhalf
    cases hhalf

theorem period_of_opened (h : Period config w)
    (hconfig : after.config = w.breaker.config)
    (hopened : after.state = CircuitState.open_)
    (hbefore : w.breaker.state ≠ CircuitState.open_)
    (hstamp : c.stamp = some after.lastStateChangeTime) :
    Period config (w.observe c answer after) where
  config_eq := hconfig.trans h.config_eq
  opened _ := by simp [observe, hopened, hbefore, hstamp]
  permits_le hhalf := by
    rw [show (w.observe c answer after).breaker = after from rfl,
      hopened] at hhalf
    cases hhalf
  admitted_eq hhalf := by
    rw [show (w.observe c answer after).breaker = after from rfl,
      hopened] at hhalf
    cases hhalf

theorem spend_permit {b : CircuitBreaker} {admitted : Nat} {total : Int}
    (h : (admitted : Int) + max 0 b.halfOpenPermits = total) :
    ((admitted + if b.tryAcquireHalfOpen.1 = true then 1 else 0 : Nat) : Int) +
      max 0 b.tryAcquireHalfOpen.2.halfOpenPermits = total := by
  rw [tryAcquireHalfOpen_permits]
  by_cases hpos : 1 <= b.halfOpenPermits
  · rw [if_pos ((tryAcquireHalfOpen_admits b).mpr hpos)]
    omega
  · rw [if_neg fun hanswered => hpos ((tryAcquireHalfOpen_admits b).mp hanswered)]
    omega

theorem period_effect (h : Period config w)
    (heffect : Effect w.breaker c answer after) :
    Period config (w.observe c answer after) := by
  cases heffect with
  | pass hstate =>
      exact period_of_closed h rfl hstate
  | refuse hstate _ =>
      exact period_of_unchanged h rfl rfl rfl rfl (by simp [hstate])
  | probe hstate hwait =>
      rename_i now later
      have hfull :
          (w.breaker.transitionTo CircuitState.halfOpen later).halfOpenPermits =
            config.permittedCallsInHalfOpen := by
        rw [transitionTo_halfOpen_permits, h.config_eq]
      refine ⟨by simpa [observe] using h.config_eq, ?_, ?_, ?_⟩
      · intro hopen
        simp [observe] at hopen
      · intro _
        simp only [observe, tryAcquireHalfOpen_permits, hfull]
        omega
      · intro _
        have hfresh : ((0 : Nat) : Int) +
            max 0 (w.breaker.transitionTo CircuitState.halfOpen
              later).halfOpenPermits = allowance config := by
          simp [hfull, allowance]
        have hspend := spend_permit hfresh
        simpa [observe, hstate] using hspend
  | acquire hstate =>
      refine ⟨by simpa [observe] using h.config_eq, ?_, ?_, ?_⟩
      · intro hopen
        simp [observe, hstate] at hopen
      · intro _
        have hle := h.permits_le hstate
        simp only [observe, tryAcquireHalfOpen_permits]
        omega
      · intro _
        have hspend := spend_permit (h.admitted_eq hstate)
        simpa [observe, hstate] using hspend
  | recover _ _ =>
      exact period_of_closed h rfl rfl
  | probeSuccess _ _ =>
      exact period_of_unchanged h rfl rfl rfl rfl (by simp)
  | decay hstate _ =>
      exact period_of_closed h rfl hstate
  | success hstate _ =>
      exact period_of_closed h rfl hstate
  | lateSuccess _ =>
      exact period_of_unchanged h rfl rfl rfl rfl (by simp)
  | reopen hstate =>
      exact period_of_opened h rfl rfl (by simp [hstate]) rfl
  | trip hstate _ =>
      exact period_of_opened h rfl rfl (by simp [hstate]) rfl
  | failure hstate _ =>
      exact period_of_closed h rfl hstate
  | lateFailure _ =>
      exact period_of_unchanged h rfl rfl rfl rfl (by simp)
  | flagTrip hstate _ =>
      exact period_of_opened h rfl rfl (by simp [hstate]) rfl
  | flagSet _ =>
      exact period_of_unchanged h rfl rfl rfl rfl (by simp)
  | flagRecover hstate =>
      refine ⟨h.config_eq, ?_, ?_, ?_⟩
      · intro hopen
        simp [observe] at hopen
      · intro _
        simp [observe, transitionTo_halfOpen_permits, h.config_eq]
      · intro _
        simp [observe, hstate, transitionTo_halfOpen_permits, h.config_eq,
          allowance]
  | flagCleared _ =>
      exact period_of_unchanged h rfl rfl rfl rfl (by simp)
  | backpressure _ =>
      exact period_of_unchanged h rfl rfl rfl rfl (by simp)

end PeriodRules

/-!
# Safety of one call
-/

/-- The division by the request count never sees a zero divisor, and the rate
it yields is a proportion. -/
theorem failureRate_countFailure {b : CircuitBreaker} (h : Counted b) :
    exists rate, b.countFailure.failureRate = some rate ∧
      0 <= rate ∧ rate <= 1 := by
  rcases h with ⟨hnonneg, hle⟩
  have htotal : 0 < b.totalRequests + 1 := by omega
  refine ⟨_, if_neg htotal.ne', ?_, ?_⟩
  · exact CircuitBreaker.rate_nonneg (by show 0 <= b.failureCount + 1; omega)
      htotal
  · exact CircuitBreaker.rate_le_one
      (by show 0 <= b.failureCount + 1; omega) htotal
      (by show b.failureCount + 1 <= b.totalRequests + 1; omega)

theorem shouldTrip_countFailure {b : CircuitBreaker} (h : Counted b) :
    exists verdict, b.countFailure.shouldTrip = some verdict := by
  rcases failureRate_countFailure h with ⟨rate, hrate, _, _⟩
  unfold shouldTrip
  rw [hrate]
  split
  · split
    · rename_i hnone
      cases hnone
    · split
      · exact ⟨true, rfl⟩
      · exact ⟨_, rfl⟩
  · exact ⟨_, rfl⟩

theorem call_returns {b : CircuitBreaker} (h : Counted b) (c : Call) :
    exists answer after, b.call c = some (answer, after) := by
  cases c with
  | recordFailure now =>
      refine ⟨none, ?_⟩
      rcases shouldTrip_countFailure h with ⟨verdict, hverdict⟩
      simp only [call, recordFailure, hverdict]
      cases b.state <;> cases verdict <;> exact ⟨_, rfl⟩
  | tryAcquire now later => exact ⟨_, _, rfl⟩
  | recordSuccess now => exact ⟨_, _, rfl⟩
  | remoteErrorFlagSet now => exact ⟨_, _, rfl⟩
  | remoteErrorFlagCleared now => exact ⟨_, _, rfl⟩
  | backpressure active => exact ⟨_, _, rfl⟩

theorem effect_edge {b b' : CircuitBreaker} {c : Call}
    {answer : Option Bool} (h : Effect b c answer b') :
    b'.state = b.state ∨ CircuitEdge b.state b'.state := by
  cases h with
  | probe hstate _ =>
      exact Or.inr (by simpa [hstate] using CircuitEdge.probe)
  | recover hstate _ =>
      exact Or.inr (by simpa [hstate] using CircuitEdge.recover)
  | reopen hstate =>
      exact Or.inr (by simpa [hstate] using CircuitEdge.reopen)
  | trip hstate _ =>
      exact Or.inr (by simpa [hstate] using CircuitEdge.trip)
  | flagTrip hstate _ =>
      exact Or.inr (by simpa [hstate] using CircuitEdge.trip)
  | flagRecover hstate =>
      exact Or.inr (by simpa [hstate] using CircuitEdge.probe)
  | _ => exact Or.inl rfl

theorem effect_leaves_open {b b' : CircuitBreaker} {c : Call}
    {answer : Option Bool} (h : Effect b c answer b')
    (hbefore : b.state = CircuitState.open_)
    (hafter : b'.state ≠ CircuitState.open_) :
    (exists now, c = Call.remoteErrorFlagCleared now) ∨
      exists now later, c = Call.tryAcquire now later ∧ b.waitElapsed now := by
  cases h with
  | probe _ hwait => exact Or.inr ⟨_, _, rfl, hwait⟩
  | flagRecover _ => exact Or.inl ⟨_, rfl⟩
  | recover hstate _ =>
      rw [hbefore] at hstate
      cases hstate
  | reopen hstate => exact absurd rfl hafter
  | trip hstate _ => exact absurd rfl hafter
  | flagTrip hstate _ => exact absurd rfl hafter
  | pass | refuse | acquire | probeSuccess | decay | success | lateSuccess =>
      exact absurd hbefore hafter
  | failure | lateFailure | flagSet | flagCleared | backpressure =>
      exact absurd hbefore hafter

theorem effect_stays_open {b b' : CircuitBreaker} {c : Call}
    {answer : Option Bool} (h : Effect b c answer b')
    (hbefore : b.state = CircuitState.open_)
    (hafter : b'.state = CircuitState.open_) : answer ≠ some true := by
  cases h with
  | pass hstate =>
      rw [hbefore] at hstate
      cases hstate
  | refuse _ _ => simp
  | probe _ _ => simp at hafter
  | acquire hstate =>
      rw [hbefore] at hstate
      cases hstate
  | _ => simp

/-- What one call may do to an observed breaker. -/
structure SafeCall (w : Watch) (c : Call) (answer : Option Bool)
    (after : CircuitBreaker) : Prop where
  edge : after.state = w.breaker.state ∨
    CircuitEdge w.breaker.state after.state
  leavesOpen : w.breaker.state = CircuitState.open_ ->
    after.state ≠ CircuitState.open_ ->
    (exists now, c = Call.remoteErrorFlagCleared now) ∨
      exists now later opened, c = Call.tryAcquire now later ∧
        w.openedAt = some opened ∧
        now - opened >= (w.breaker.config.waitDurationInOpenStateMs : Rat)
  staysOpen : w.breaker.state = CircuitState.open_ ->
    after.state = CircuitState.open_ -> answer ≠ some true

theorem safeCall_of_effect {config : CircuitBreakerConfig} {w : Watch}
    {c : Call} {answer : Option Bool} {after : CircuitBreaker}
    (hperiod : Period config w)
    (heffect : Effect w.breaker c answer after) :
    SafeCall w c answer after where
  edge := effect_edge heffect
  leavesOpen hbefore hafter := by
    rcases effect_leaves_open heffect hbefore hafter with
      hcleared | ⟨now, later, hc, hwait⟩
    · exact Or.inl hcleared
    · exact Or.inr ⟨now, later, _, hc, hperiod.opened hbefore, hwait⟩
  staysOpen := effect_stays_open heffect

theorem admitted_le_allowance {config : CircuitBreakerConfig} {w : Watch}
    (h : Period config w) (hhalf : w.breaker.state = CircuitState.halfOpen) :
    (w.admitted : Int) <= allowance config := by
  have hsum := h.admitted_eq hhalf
  omega

/-!
# Safety of every run
-/

structure Inv (config : CircuitBreakerConfig) (w : Watch) : Prop where
  counted : Counted w.breaker
  period : Period config w

theorem inv_start (config : CircuitBreakerConfig) (now : Rat) :
    Inv config (start config now) where
  counted := ⟨Int.le_refl 0, Int.le_refl 0⟩
  period :=
    { config_eq := rfl
      opened := by intro hopen; cases hopen
      permits_le := by intro hhalf; cases hhalf
      admitted_eq := by intro hhalf; cases hhalf }

/-- The step lemma: from an invariant state every call returns, and the state
after it satisfies the invariant again. -/
theorem inv_next {config : CircuitBreakerConfig} (w : Watch) (c : Call)
    (h : Inv config w) : exists w', w.next c = some w' ∧ Inv config w' := by
  rcases call_returns h.counted c with ⟨answer, after, hcall⟩
  have heffect := call_effect hcall
  refine ⟨w.observe c answer after, by simp [next, hcall], ?_⟩
  exact ⟨counted_effect h.counted heffect, period_effect h.period heffect⟩

/-- The run lemma: every list of calls runs to an invariant state. -/
theorem inv_run (config : CircuitBreakerConfig) (now : Rat)
    (calls : List Call) :
    exists w, (start config now).run calls = some w ∧ Inv config w :=
  foldlM_total inv_next (inv_start config now) calls

/--
After every list of calls, at any readings, the next call returns, moves the
breaker along an allowed edge only, leaves OPEN only by the timer or a cleared
error flag and admits nothing while it stays OPEN; the HALF_OPEN allowance
holds, and the counters are those of a proportion, before a call and at the
division itself.
-/
theorem run_safe (config : CircuitBreakerConfig) (now : Rat)
    (calls : List Call) :
    exists w, (start config now).run calls = some w ∧
      w.breaker.config = config ∧
      (forall c, exists answer after,
        w.breaker.call c = some (answer, after) ∧
          SafeCall w c answer after) ∧
      (w.breaker.state = CircuitState.halfOpen ->
        (w.admitted : Int) <= max 0 config.permittedCallsInHalfOpen) ∧
      (0 <= w.breaker.failureCount ∧
        w.breaker.failureCount <= w.breaker.totalRequests) ∧
      (exists rate, w.breaker.countFailure.failureRate = some rate ∧
        0 <= rate ∧ rate <= 1) := by
  rcases inv_run config now calls with ⟨w, hrun, hinv⟩
  refine ⟨w, hrun, hinv.period.config_eq, ?_,
    admitted_le_allowance hinv.period,
    ⟨hinv.counted.nonneg, hinv.counted.le_total⟩,
    failureRate_countFailure hinv.counted⟩
  intro c
  rcases call_returns hinv.counted c with ⟨answer, after, hcall⟩
  exact ⟨answer, after, hcall,
    safeCall_of_effect hinv.period (call_effect hcall)⟩

end Watch

end Resilience
end Hmmp
