import Mathlib.Data.List.Nodup
import Hmmp.Resilience.CircuitBreakerSafety

/-!
# Outcomes of overlapping calls

Callers acquire a breaker and report an outcome some time later.  A report does
not say which call it belongs to, so a half-open breaker counts the outcomes it
is told during the period, also those of calls that were admitted before it.
-/

namespace Hmmp
namespace Resilience

open Foundation

/-- A call the breaker has admitted, and the HALF_OPEN period that admitted
it. -/
structure AdmittedCall where
  period : Option Nat
  reported : Bool := false
  deriving DecidableEq

inductive CallerEvent where
  | acquire (now later : Rat)
  | report (i : Nat) (success : Bool) (now : Rat)
  | remoteErrorFlagSet (now : Rat)
  | remoteErrorFlagCleared (now : Rat)
  | backpressure (active : Bool)
  deriving DecidableEq

/-- A breaker and its callers. -/
structure Callers where
  breaker : CircuitBreaker
  /-- The HALF_OPEN periods so far. -/
  period : Nat := 0
  calls : List AdmittedCall := []
  /-- The calls that reported a success during the last HALF_OPEN period. -/
  successes : List Nat := []
  deriving DecidableEq

namespace Callers

open CircuitBreaker

def start (config : CircuitBreakerConfig) (now : Rat) : Callers :=
  { breaker := CircuitBreaker.new config now }

/-- The call of the breaker an event makes. -/
def callOf : CallerEvent -> Call
  | CallerEvent.acquire now later => Call.tryAcquire now later
  | CallerEvent.report _ true now => Call.recordSuccess now
  | CallerEvent.report _ false now => Call.recordFailure now
  | CallerEvent.remoteErrorFlagSet now => Call.remoteErrorFlagSet now
  | CallerEvent.remoteErrorFlagCleared now => Call.remoteErrorFlagCleared now
  | CallerEvent.backpressure active => Call.backpressure active

/-- An admitted call reports once. -/
def allowed (s : Callers) : CallerEvent -> Bool
  | CallerEvent.report i _ _ =>
      match s.calls[i]? with
      | some c => !c.reported
      | none => false
  | _ => true

def Enters (s : Callers) (after : CircuitBreaker) : Prop :=
  after.state = CircuitState.halfOpen ∧
    s.breaker.state ≠ CircuitState.halfOpen

instance (s : Callers) (after : CircuitBreaker) :
    Decidable (s.Enters after) :=
  inferInstanceAs (Decidable (_ ∧ _))

def periodAfter (s : Callers) (after : CircuitBreaker) : Nat :=
  if s.Enters after then s.period + 1 else s.period

def callsAfter (s : Callers) (answer : Option Bool) (after : CircuitBreaker) :
    CallerEvent -> List AdmittedCall
  | CallerEvent.acquire _ _ =>
      if answer = some true then
        s.calls ++
          [{ period :=
              if after.state = CircuitState.halfOpen then
                some (s.periodAfter after)
              else none }]
      else s.calls
  | CallerEvent.report i _ _ =>
      s.calls.modify i fun c => { c with reported := true }
  | _ => s.calls

def successesAfter (s : Callers) (after : CircuitBreaker)
    (e : CallerEvent) : List Nat :=
  if s.Enters after then []
  else
    match e with
    | CallerEvent.report i true _ =>
        if s.breaker.state = CircuitState.halfOpen then s.successes ++ [i]
        else s.successes
    | _ => s.successes

def observe (s : Callers) (e : CallerEvent) (answer : Option Bool)
    (after : CircuitBreaker) : Callers where
  breaker := after
  period := s.periodAfter after
  calls := s.callsAfter answer after e
  successes := s.successesAfter after e

/-- One event; nothing when a call would report twice. -/
def next (s : Callers) (e : CallerEvent) : Option Callers :=
  if s.allowed e then
    (s.breaker.call (callOf e)).map fun result =>
      s.observe e result.1 result.2
  else none

def Step : Callers -> CallerEvent -> Callers -> Prop :=
  StepOf next

/-- The call was admitted during the current HALF_OPEN period. -/
def Own (s : Callers) (i : Nat) : Prop :=
  exists c, s.calls[i]? = some c ∧ c.period = some s.period

def Reported (s : Callers) (i : Nat) : Prop :=
  exists c, s.calls[i]? = some c ∧ c.reported = true

/-!
# Reports
-/

variable {s s' : Callers} {e : CallerEvent} {answer : Option Bool}
variable {after : CircuitBreaker}

theorem Reported.observe {i : Nat} (h : s.Reported i) (e : CallerEvent)
    (answer : Option Bool) (after : CircuitBreaker) :
    (s.observe e answer after).Reported i := by
  rcases h with ⟨c, hc, hreported⟩
  have hlt := (List.getElem?_eq_some_iff.mp hc).1
  cases e with
  | acquire now later =>
      refine ⟨c, ?_, hreported⟩
      show (ite _ _ _ : List AdmittedCall)[i]? = some c
      split
      · rw [List.getElem?_append_left hlt]
        exact hc
      · exact hc
  | report j success now =>
      refine ⟨if j = i then { c with reported := true } else c, ?_, ?_⟩
      · show (s.calls.modify j _)[i]? = _
        rw [List.getElem?_modify, hc]
        rfl
      · split
        · rfl
        · exact hreported
  | remoteErrorFlagSet now => exact ⟨c, hc, hreported⟩
  | remoteErrorFlagCleared now => exact ⟨c, hc, hreported⟩
  | backpressure active => exact ⟨c, hc, hreported⟩

theorem reported_of_report {i : Nat} {success : Bool} {now : Rat}
    (hallowed : s.allowed (CallerEvent.report i success now) = true)
    (answer : Option Bool) (after : CircuitBreaker) :
    ¬ s.Reported i ∧
      (s.observe (CallerEvent.report i success now) answer after).Reported
        i := by
  unfold allowed at hallowed
  dsimp only at hallowed
  split at hallowed
  · rename_i c hc
    have hopen : c.reported = false := by simpa using hallowed
    constructor
    · rintro ⟨c', hc', hreported⟩
      rw [hc] at hc'
      injection hc' with hc'
      rw [← hc', hopen] at hreported
      cases hreported
    · refine ⟨{ c with reported := true }, ?_, rfl⟩
      show (s.calls.modify i _)[i]? = _
      rw [List.getElem?_modify_eq, hc]
      rfl
  · cases hallowed

/-!
# What a half-open breaker counts
-/

/-- The breaker's counter is the number of calls that reported a success during
the period, and these are different calls. -/
structure Tracked (config : CircuitBreakerConfig) (s : Callers) : Prop where
  config_eq : s.breaker.config = config
  counted : Watch.Counted s.breaker
  reported : forall i, i ∈ s.successes -> s.Reported i
  nodup : s.successes.Nodup
  count : s.breaker.state = CircuitState.halfOpen ->
    (s.successes.length : Int) = s.breaker.successCount
  below : s.breaker.state = CircuitState.halfOpen ->
    (s.successes.length : Int) < max 1 config.permittedCallsInHalfOpen

theorem tracked_start (config : CircuitBreakerConfig) (now : Rat) :
    Tracked config (start config now) where
  config_eq := rfl
  counted := ⟨Int.le_refl 0, Int.le_refl 0⟩
  reported i h := by cases h
  nodup := List.nodup_nil
  count h := by cases h
  below h := by cases h

theorem successesAfter_of_enters (h : s.Enters after) (e : CallerEvent) :
    s.successesAfter after e = [] :=
  if_pos h

theorem successesAfter_of_other (h : ¬ s.Enters after)
    (hother : forall i now, e ≠ CallerEvent.report i true now) :
    s.successesAfter after e = s.successes := by
  unfold successesAfter
  rw [if_neg h]
  cases e with
  | report i success now =>
      cases success with
      | true => exact absurd rfl (hother i now)
      | false => rfl
  | acquire now later => rfl
  | remoteErrorFlagSet now => rfl
  | remoteErrorFlagCleared now => rfl
  | backpressure active => rfl

theorem successesAfter_of_success
    (hstate : s.breaker.state = CircuitState.halfOpen) (i : Nat) (now : Rat) :
    s.successesAfter after (CallerEvent.report i true now) =
      s.successes ++ [i] := by
  have hnot : ¬ s.Enters after := fun h => h.2 hstate
  unfold successesAfter
  rw [if_neg hnot]
  exact if_pos hstate

theorem callOf_report {success : Bool} {now : Rat}
    (h : callOf e = callOf (CallerEvent.report 0 success now)) :
    exists i, e = CallerEvent.report i success now := by
  cases e with
  | report i outcome later =>
      refine ⟨i, ?_⟩
      cases success <;> cases outcome <;> cases h <;> rfl
  | acquire now later => cases success <;> cases h
  | remoteErrorFlagSet now => cases success <;> cases h
  | remoteErrorFlagCleared now => cases success <;> cases h
  | backpressure active => cases success <;> cases h

/-- A breaker that is half open after an event has just become so, has counted
one more success, or has the count it had. -/
theorem effect_halfOpen (heffect : Effect s.breaker (callOf e) answer after)
    (hhalf : after.state = CircuitState.halfOpen) :
    (s.Enters after ∧ after.successCount = 0) ∨
      s.breaker.state = CircuitState.halfOpen ∧
        ((exists i now, e = CallerEvent.report i true now ∧
            after.successCount = s.breaker.successCount + 1 ∧
              ¬ s.breaker.successCount + 1 >=
                s.breaker.config.permittedCallsInHalfOpen) ∨
          (forall i now, e ≠ CallerEvent.report i true now) ∧
            after.successCount = s.breaker.successCount) := by
  have hother : (forall now, callOf e ≠ Call.recordSuccess now) ->
      forall i now, e ≠ CallerEvent.report i true now := by
    intro h i now he
    rw [he] at h
    exact h now rfl
  generalize hcall : callOf e = c at heffect
  rw [hcall] at hother
  cases heffect with
  | probe hstate _ =>
      refine Or.inl ⟨⟨hhalf, ?_⟩, rfl⟩
      rw [hstate]
      intro h
      cases h
  | flagRecover hstate =>
      refine Or.inl ⟨⟨hhalf, ?_⟩, rfl⟩
      rw [hstate]
      intro h
      cases h
  | probeSuccess hstate hmore =>
      rcases @callOf_report e true _ hcall with ⟨i, he⟩
      exact Or.inr ⟨hstate, Or.inl ⟨i, _, he, rfl, hmore⟩⟩
  | acquire _ | flagSet _ | flagCleared _ | backpressure _ =>
      exact Or.inr ⟨hhalf, Or.inr ⟨hother (fun _ h => by cases h), rfl⟩⟩
  | recover _ _ | reopen _ | trip _ _ | flagTrip _ _ => cases hhalf
  | pass hstate | refuse hstate _ | decay hstate _ | success hstate _
  | lateSuccess hstate | failure hstate _ | lateFailure hstate =>
      have hhalf : s.breaker.state = CircuitState.halfOpen := hhalf
      rw [hstate] at hhalf
      cases hhalf

theorem successesAfter_cases (s : Callers) (after : CircuitBreaker)
    (e : CallerEvent) :
    s.successesAfter after e = [] ∨ s.successesAfter after e = s.successes ∨
      exists i now, e = CallerEvent.report i true now ∧
        s.successesAfter after e = s.successes ++ [i] := by
  by_cases henters : s.Enters after
  · exact Or.inl (successesAfter_of_enters henters e)
  · refine Or.inr ?_
    by_cases hsuccess : exists i now, e = CallerEvent.report i true now
    · rcases hsuccess with ⟨i, now, rfl⟩
      by_cases hstate : s.breaker.state = CircuitState.halfOpen
      · exact Or.inr ⟨i, now, rfl, successesAfter_of_success hstate i now⟩
      · refine Or.inl ?_
        unfold successesAfter
        rw [if_neg henters]
        exact if_neg hstate
    · refine Or.inl (successesAfter_of_other henters ?_)
      intro i now he
      exact hsuccess ⟨i, now, he⟩

/-- A breaker that is half open after an event has counted the successes of the
period, and these are not enough. -/
theorem Tracked.successesAfter_count {config : CircuitBreakerConfig}
    (h : Tracked config s)
    (heffect : Effect s.breaker (callOf e) answer after)
    (hhalf : after.state = CircuitState.halfOpen) :
    ((s.successesAfter after e).length : Int) = after.successCount ∧
      ((s.successesAfter after e).length : Int) <
        max 1 config.permittedCallsInHalfOpen := by
  rcases effect_halfOpen heffect hhalf with ⟨henters, hzero⟩ |
    ⟨hstate, ⟨i, now, rfl, hmore, hbelow⟩ | ⟨hother, hsame⟩⟩
  · rw [successesAfter_of_enters henters, hzero]
    refine ⟨rfl, ?_⟩
    show (0 : Int) < _
    omega
  · have hcount := h.count hstate
    rw [h.config_eq] at hbelow
    rw [successesAfter_of_success hstate, List.length_append,
      List.length_singleton, hmore]
    omega
  · have hnot : ¬ s.Enters after := fun henters => henters.2 hstate
    rw [successesAfter_of_other hnot hother, hsame]
    exact ⟨h.count hstate, h.below hstate⟩

/-- The step lemma. -/
theorem Tracked.observe {config : CircuitBreakerConfig}
    (h : Tracked config s) (hallowed : s.allowed e = true)
    (heffect : Effect s.breaker (callOf e) answer after) :
    Tracked config (s.observe e answer after) := by
  have hconfig : after.config = config := by
    rw [effect_config heffect]
    exact h.config_eq
  refine ⟨hconfig, Watch.counted_effect h.counted heffect, ?_, ?_,
    fun hhalf => (h.successesAfter_count heffect hhalf).1,
    fun hhalf => (h.successesAfter_count heffect hhalf).2⟩
  · intro i hmem
    have hmem : i ∈ s.successesAfter after e := hmem
    rcases s.successesAfter_cases after e with
      hnil | hsame | ⟨j, now, rfl, happend⟩
    · rw [hnil] at hmem
      cases hmem
    · rw [hsame] at hmem
      exact (h.reported i hmem).observe e answer after
    · rw [happend, List.mem_append, List.mem_singleton] at hmem
      rcases hmem with hold | rfl
      · exact (h.reported i hold).observe _ answer after
      · exact (reported_of_report hallowed answer after).2
  · show (s.successesAfter after e).Nodup
    rcases s.successesAfter_cases after e with
      hnil | hsame | ⟨j, now, rfl, happend⟩
    · rw [hnil]
      exact List.nodup_nil
    · rw [hsame]
      exact h.nodup
    · have hnew : j ∉ s.successes := fun hmem =>
        (reported_of_report hallowed answer after).1 (h.reported j hmem)
      rw [happend, ← List.concat_eq_append]
      exact List.Nodup.concat hnew h.nodup

theorem step_observe (h : Step s e s') :
    s.allowed e = true ∧ exists answer after,
      Effect s.breaker (callOf e) answer after ∧
        s' = s.observe e answer after := by
  unfold Step StepOf next at h
  split at h
  · rename_i hallowed
    rcases Option.map_eq_some_iff.mp h with ⟨⟨answer, after⟩, hcall, hs'⟩
    exact ⟨hallowed, answer, after, call_effect hcall, hs'.symm⟩
  · cases h

theorem tracked_reachable {config : CircuitBreakerConfig} {now : Rat}
    (h : Reachable Step (start config now) s) : Tracked config s := by
  refine h.invariant ?_ (tracked_start config now)
  intro s e s' hs hstep
  rcases step_observe hstep with ⟨hallowed, answer, after, heffect, rfl⟩
  exact hs.observe hallowed heffect

/-!
# How a HALF_OPEN period ends
-/

theorem effect_from_halfOpen {b b' : CircuitBreaker} {c : Call}
    (heffect : Effect b c answer b')
    (hstate : b.state = CircuitState.halfOpen) :
    (exists now, c = Call.recordSuccess now ∧
        (b.successCount + 1 >= b.config.permittedCallsInHalfOpen ∧
            b'.state = CircuitState.closed ∨
          ¬ b.successCount + 1 >= b.config.permittedCallsInHalfOpen ∧
            b'.state = CircuitState.halfOpen)) ∨
      (exists now, c = Call.recordFailure now ∧
        b'.state = CircuitState.open_) ∨
      (forall now, c ≠ Call.recordSuccess now ∧ c ≠ Call.recordFailure now) ∧
        b'.state = CircuitState.halfOpen := by
  cases heffect with
  | recover _ henough =>
      exact Or.inl ⟨_, rfl, Or.inl ⟨henough, rfl⟩⟩
  | probeSuccess _ hmore =>
      exact Or.inl ⟨_, rfl, Or.inr ⟨hmore, hstate⟩⟩
  | reopen _ => exact Or.inr (Or.inl ⟨_, rfl, rfl⟩)
  | acquire _ | flagSet _ | flagCleared _ | backpressure _ =>
      refine Or.inr (Or.inr ⟨fun now => ⟨?_, ?_⟩, hstate⟩) <;>
        intro h <;> cases h
  | pass h | refuse h _ | probe h _ | decay h _ | success h _
  | lateSuccess h | trip h _ | failure h _ | lateFailure h | flagTrip h _
  | flagRecover h =>
      rw [hstate] at h
      cases h

theorem effect_recovers (heffect : Effect s.breaker (callOf e) answer after)
    (hstate : s.breaker.state = CircuitState.halfOpen) :
    after.state = CircuitState.closed <->
      (exists i now, e = CallerEvent.report i true now) ∧
        s.breaker.successCount + 1 >=
          s.breaker.config.permittedCallsInHalfOpen := by
  rcases effect_from_halfOpen heffect hstate with
    ⟨now, hcall, ⟨henough, hafter⟩ | ⟨hmore, hafter⟩⟩ | ⟨now, hcall, hafter⟩ |
      ⟨hother, hafter⟩
  · rcases @callOf_report e true _ hcall with ⟨i, he⟩
    exact ⟨fun _ => ⟨⟨i, now, he⟩, henough⟩, fun _ => hafter⟩
  · rw [hafter]
    exact ⟨fun h => (by cases h), fun h => absurd h.2 hmore⟩
  · rw [hafter]
    refine ⟨fun h => (by cases h), ?_⟩
    rintro ⟨⟨i, later, rfl⟩, _⟩
    cases hcall
  · rw [hafter]
    refine ⟨fun h => (by cases h), ?_⟩
    rintro ⟨⟨i, later, rfl⟩, _⟩
    exact absurd rfl (hother later).1

theorem effect_reopens (heffect : Effect s.breaker (callOf e) answer after)
    (hstate : s.breaker.state = CircuitState.halfOpen) :
    after.state = CircuitState.open_ <->
      exists i now, e = CallerEvent.report i false now := by
  rcases effect_from_halfOpen heffect hstate with
    ⟨now, hcall, ⟨henough, hafter⟩ | ⟨hmore, hafter⟩⟩ | ⟨now, hcall, hafter⟩ |
      ⟨hother, hafter⟩
  · rw [hafter]
    refine ⟨fun h => (by cases h), ?_⟩
    rintro ⟨i, later, rfl⟩
    cases hcall
  · rw [hafter]
    refine ⟨fun h => (by cases h), ?_⟩
    rintro ⟨i, later, rfl⟩
    cases hcall
  · rcases @callOf_report e false _ hcall with ⟨i, he⟩
    exact ⟨fun _ => ⟨i, now, he⟩, fun _ => hafter⟩
  · rw [hafter]
    refine ⟨fun h => (by cases h), ?_⟩
    rintro ⟨i, later, rfl⟩
    exact absurd rfl (hother later).2

/--
While a breaker is half open, it closes exactly when the calls that reported a
success during the period become as many as it permits, and at least one; these
are different calls, whenever they were admitted.  It opens exactly when a call
reports a failure.
-/
theorem halfOpen_left_by_reports {config : CircuitBreakerConfig} {now : Rat}
    {s s' : Callers} {e : CallerEvent}
    (h : Reachable Step (start config now) s)
    (hstate : s.breaker.state = CircuitState.halfOpen)
    (hstep : Step s e s') :
    (s'.breaker.state = CircuitState.closed <->
      (exists i later, e = CallerEvent.report i true later) ∧
        (s.successes.length : Int) + 1 =
          max 1 config.permittedCallsInHalfOpen) ∧
    (s'.breaker.state = CircuitState.closed ->
      (s'.successes.length : Int) = max 1 config.permittedCallsInHalfOpen ∧
        s'.successes.Nodup ∧
          forall i, i ∈ s'.successes -> s'.Reported i) ∧
    (s'.breaker.state = CircuitState.open_ <->
      exists i later, e = CallerEvent.report i false later) := by
  have hs := tracked_reachable h
  rcases step_observe hstep with ⟨hallowed, answer, after, heffect, rfl⟩
  have hs' := hs.observe hallowed heffect
  have hcount := hs.count hstate
  have hbelow := hs.below hstate
  have hrecovers := effect_recovers heffect hstate
  have henough : s.breaker.successCount + 1 >=
      s.breaker.config.permittedCallsInHalfOpen <->
        (s.successes.length : Int) + 1 =
          max 1 config.permittedCallsInHalfOpen := by
    rw [hs.config_eq]
    omega
  rw [henough] at hrecovers
  refine ⟨hrecovers, ?_, effect_reopens heffect hstate⟩
  intro hclosed
  rcases hrecovers.mp hclosed with ⟨⟨i, later, rfl⟩, hlast⟩
  refine ⟨?_, hs'.nodup, hs'.reported⟩
  show ((s.successesAfter after
    (CallerEvent.report i true later)).length : Int) = _
  rw [successesAfter_of_success hstate, List.length_append,
    List.length_singleton]
  exact hlast

/-- Eight calls are admitted; five of them fail and open the breaker, a probe
makes it half open, and two of the remaining three report a success. -/
def staleSuccesses : List CallerEvent :=
  List.replicate 8 (CallerEvent.acquire 0 0) ++
    [CallerEvent.report 0 false 0, CallerEvent.report 1 false 0,
      CallerEvent.report 2 false 0, CallerEvent.report 3 false 0,
      CallerEvent.report 4 false 0, CallerEvent.acquire 30000 30000,
      CallerEvent.report 5 true 30001, CallerEvent.report 6 true 30002]

/-- The third of the remaining calls reports its success too. -/
def lastStaleSuccess : CallerEvent :=
  CallerEvent.report 7 true 30003

def beforeStale : Callers :=
  (staleSuccesses.foldlM next (start CircuitBreakerConfig.defaults 0)).getD
    (start CircuitBreakerConfig.defaults 0)

def afterStale : Callers :=
  (next beforeStale lastStaleSuccess).getD beforeStale

theorem staleSuccesses_run :
    Run Step (start CircuitBreakerConfig.defaults 0) staleSuccesses
      beforeStale := by
  apply run_stepOf_iff.mpr
  decide +kernel

theorem lastStaleSuccess_step :
    Step beforeStale lastStaleSuccess afterStale := by
  show next beforeStale lastStaleSuccess = some afterStale
  decide +kernel

theorem halfOpen_left_by_stale_reports :
    (afterStale.successes.length : Int) = 3 ∧ afterStale.successes.Nodup := by
  have hleft := halfOpen_left_by_reports ⟨_, staleSuccesses_run⟩
    (by decide +kernel) lastStaleSuccess_step
  have hclosed : afterStale.breaker.state = CircuitState.closed := by
    decide +kernel
  exact ⟨(hleft.2.1 hclosed).1, (hleft.2.1 hclosed).2.1⟩

/-- Three calls that were admitted before the breaker opened close it, while
the one call of the period has not reported. -/
theorem earlier_outcomes_close :
    ¬ (forall (config : CircuitBreakerConfig) (now : Rat) (s s' : Callers)
        (e : CallerEvent), Reachable Step (start config now) s ->
        s.breaker.state = CircuitState.halfOpen -> Step s e s' ->
        (s'.breaker.state = CircuitState.closed ->
          (s'.successes.length : Int) = config.permittedCallsInHalfOpen ∧
            forall i, i ∈ s'.successes -> s'.Own i) ∧
        (s'.breaker.state = CircuitState.open_ ->
          exists i later, e = CallerEvent.report i false later ∧ s.Own i)) := by
  intro hclaim
  have hclosed : afterStale.breaker.state = CircuitState.closed := by
    decide +kernel
  have hlaw := hclaim CircuitBreakerConfig.defaults 0 beforeStale afterStale
    lastStaleSuccess ⟨_, staleSuccesses_run⟩ (by decide +kernel)
    lastStaleSuccess_step
  rcases (hlaw.1 hclosed).2 7 (by decide +kernel) with ⟨c, hc, hown⟩
  have hearlier : afterStale.calls[7]? =
      some { period := none, reported := true } := by
    decide +kernel
  rw [hearlier] at hc
  injection hc with hc
  rw [← hc] at hown
  cases hown

end Callers

end Resilience
end Hmmp
