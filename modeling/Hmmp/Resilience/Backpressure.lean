import Mathlib.Algebra.Order.Field.Rat
import Mathlib.Tactic.Linarith

/-!
# The backpressure controller

The delay of requests after a server has signalled saturation.  Clock readings
are milliseconds; every call that reads the clock takes the reading as an
argument.  Readings and delays are exact rationals.
-/

namespace Hmmp
namespace Resilience

namespace BackpressureController

def baseDelayMs : Rat := 50

def maxDelayMs : Rat := 2000

def recoveryWindowMs : Rat := 5000

end BackpressureController

structure BackpressureController where
  active : Bool := false
  backpressureStartTime : Rat := 0
  delayMs : Rat := BackpressureController.baseDelayMs
  deriving DecidableEq

namespace BackpressureController

/-- The delay in force, zero if no signal is. -/
def currentDelayMs (c : BackpressureController) : Rat :=
  if c.active then c.delayMs else 0

def recover (c : BackpressureController) : BackpressureController :=
  if c.active then { c with active := false, delayMs := baseDelayMs } else c

def onBackpressureSignal (c : BackpressureController) (now : Rat) :
    BackpressureController where
  active := true
  backpressureStartTime := now
  delayMs := min (c.delayMs * 2) maxDelayMs

def onNormalResponse (c : BackpressureController) (now : Rat) :
    BackpressureController :=
  if c.active then
    if now - c.backpressureStartTime > recoveryWindowMs then c.recover
    else { c with delayMs := max (c.delayMs / 2) 10 }
  else c

def computeDelayMs (c : BackpressureController) (now : Rat) :
    Rat × BackpressureController :=
  if c.active then
    if now - c.backpressureStartTime > recoveryWindowMs then (0, c.recover)
    else (c.delayMs, c)
  else (0, c)

def reset (_ : BackpressureController) : BackpressureController :=
  { active := false, delayMs := baseDelayMs, backpressureStartTime := 0 }

end BackpressureController

/-- A call of the controller, with the clock reading it takes. -/
inductive BackpressureCall where
  | onBackpressureSignal (now : Rat)
  | onNormalResponse (now : Rat)
  | computeDelayMs (now : Rat)
  | reset
  deriving DecidableEq

def BackpressureCall.isSignal : BackpressureCall -> Bool
  | onBackpressureSignal _ => true
  | _ => false

namespace BackpressureController

def after (c : BackpressureController) :
    BackpressureCall -> BackpressureController
  | BackpressureCall.onBackpressureSignal now => c.onBackpressureSignal now
  | BackpressureCall.onNormalResponse now => c.onNormalResponse now
  | BackpressureCall.computeDelayMs now => (c.computeDelayMs now).2
  | BackpressureCall.reset => c.reset

def run (c : BackpressureController) (calls : List BackpressureCall) :
    BackpressureController :=
  calls.foldl after c

def delays (c : BackpressureController) : List BackpressureCall -> List Rat
  | [] => []
  | BackpressureCall.computeDelayMs now :: calls =>
      (c.computeDelayMs now).1 :: delays (c.computeDelayMs now).2 calls
  | call :: calls => delays (c.after call) calls

variable {c : BackpressureController}

/-!
# Single calls
-/

theorem recover_active (h : c.active = true) :
    c.recover = { c with active := false, delayMs := baseDelayMs } := by
  unfold recover
  rw [h]
  rfl

theorem onNormalResponse_cases (c : BackpressureController) (now : Rat) :
    (c.active = false ∧ c.onNormalResponse now = c) ∨
    (c.active = true ∧ now - c.backpressureStartTime > recoveryWindowMs ∧
      c.onNormalResponse now =
        { c with active := false, delayMs := baseDelayMs }) ∨
    (c.active = true ∧ c.onNormalResponse now =
      { c with delayMs := max (c.delayMs / 2) 10 }) := by
  unfold onNormalResponse
  cases hactive : c.active with
  | false => exact Or.inl ⟨rfl, rfl⟩
  | true =>
      right
      by_cases hlate : now - c.backpressureStartTime > recoveryWindowMs
      · left
        rw [if_pos rfl, if_pos hlate, recover_active hactive]
        exact ⟨rfl, hlate, rfl⟩
      · right
        rw [if_pos rfl, if_neg hlate]
        exact ⟨rfl, rfl⟩

theorem computeDelayMs_cases (c : BackpressureController) (now : Rat) :
    (c.active = false ∧ c.computeDelayMs now = (0, c)) ∨
    (c.active = true ∧ now - c.backpressureStartTime > recoveryWindowMs ∧
      c.computeDelayMs now =
        (0, { c with active := false, delayMs := baseDelayMs })) ∨
    (c.active = true ∧ ¬ now - c.backpressureStartTime > recoveryWindowMs ∧
      c.computeDelayMs now = (c.delayMs, c)) := by
  unfold computeDelayMs
  cases hactive : c.active with
  | false => exact Or.inl ⟨rfl, rfl⟩
  | true =>
      right
      by_cases hlate : now - c.backpressureStartTime > recoveryWindowMs
      · left
        rw [if_pos rfl, if_pos hlate, recover_active hactive]
        exact ⟨rfl, hlate, rfl⟩
      · right
        rw [if_pos rfl, if_neg hlate]
        exact ⟨rfl, hlate, rfl⟩

theorem after_cases {call : BackpressureCall} (hcall : call.isSignal = false) :
    c.after call = c ∨
    ((c.after call).active = false ∧ (c.after call).delayMs = baseDelayMs) ∨
    (c.active = true ∧
      c.after call = { c with delayMs := max (c.delayMs / 2) 10 }) := by
  cases call with
  | onBackpressureSignal now => cases hcall
  | onNormalResponse now =>
      have hafter : c.after (BackpressureCall.onNormalResponse now) =
          c.onNormalResponse now := rfl
      rw [hafter]
      rcases onNormalResponse_cases c now with
        ⟨_, heq⟩ | ⟨_, _, heq⟩ | ⟨hactive, heq⟩
      · exact Or.inl heq
      · rw [heq]
        exact Or.inr (Or.inl ⟨rfl, rfl⟩)
      · exact Or.inr (Or.inr ⟨hactive, heq⟩)
  | computeDelayMs now =>
      have hafter : c.after (BackpressureCall.computeDelayMs now) =
          (c.computeDelayMs now).2 := rfl
      rw [hafter]
      rcases computeDelayMs_cases c now with
        ⟨_, heq⟩ | ⟨_, _, heq⟩ | ⟨_, _, heq⟩
      · rw [heq]
        exact Or.inl rfl
      · rw [heq]
        exact Or.inr (Or.inl ⟨rfl, rfl⟩)
      · rw [heq]
        exact Or.inl rfl
  | reset => exact Or.inr (Or.inl ⟨rfl, rfl⟩)

/-!
# The range of the delay
-/

/-- The delay is within its bounds, and the base delay while idle. -/
structure Bounded (c : BackpressureController) : Prop where
  least : 10 <= c.delayMs
  most : c.delayMs <= 2000
  idle : c.active = false -> c.delayMs = 50

theorem bounded_idle {c : BackpressureController}
    (h : c.delayMs = baseDelayMs) : Bounded c := by
  unfold baseDelayMs at h
  exact ⟨by rw [h]; decide, by rw [h]; decide, fun _ => h⟩

theorem Bounded.onBackpressureSignal (h : Bounded c) (now : Rat) :
    Bounded (c.onBackpressureSignal now) where
  least := by
    have hleast := h.least
    show 10 <= min (c.delayMs * 2) maxDelayMs
    exact le_min (by linarith) (by decide)
  most := min_le_right _ _
  idle hidle := by cases hidle

theorem Bounded.after (h : Bounded c) (call : BackpressureCall) :
    Bounded (c.after call) := by
  by_cases hcall : call.isSignal = false
  · rcases after_cases (c := c) hcall with
      heq | ⟨_, hdelay⟩ | ⟨hactive, heq⟩
    · rw [heq]
      exact h
    · exact bounded_idle hdelay
    · have hmost := h.most
      rw [heq]
      refine ⟨le_max_right _ _, ?_, ?_⟩
      · show max (c.delayMs / 2) 10 <= 2000
        exact max_le (by linarith) (by decide)
      · intro hidle
        rw [hactive] at hidle
        cases hidle
  · cases call with
    | onBackpressureSignal now => exact h.onBackpressureSignal now
    | _ => exact absurd rfl hcall

theorem Bounded.run (h : Bounded c) (calls : List BackpressureCall) :
    Bounded (c.run calls) := by
  induction calls generalizing c with
  | nil => exact h
  | cons call calls ih => exact ih (h.after call)

theorem Bounded.computeDelayMs (h : Bounded c) (now : Rat) :
    (c.computeDelayMs now).1 = 0 ∨
      10 <= (c.computeDelayMs now).1 ∧ (c.computeDelayMs now).1 <= 2000 := by
  rcases computeDelayMs_cases c now with
    ⟨_, heq⟩ | ⟨_, _, heq⟩ | ⟨_, _, heq⟩
  · rw [heq]
    exact Or.inl rfl
  · rw [heq]
    exact Or.inl rfl
  · rw [heq]
    exact Or.inr ⟨h.least, h.most⟩

/-!
# Between signals
-/

/-- An active controller remembers the time of the signal. -/
def SignalledAt (c : BackpressureController) (time : Rat) : Prop :=
  c.active = true -> c.backpressureStartTime = time

theorem SignalledAt.after {time : Rat} (h : SignalledAt c time)
    {call : BackpressureCall} (hcall : call.isSignal = false) :
    SignalledAt (c.after call) time := by
  rcases after_cases (c := c) hcall with heq | ⟨hidle, _⟩ | ⟨_, heq⟩
  · rw [heq]
    exact h
  · intro hactive
    rw [hidle] at hactive
    cases hactive
  · rw [heq]
    exact h

theorem SignalledAt.run {time : Rat} (h : SignalledAt c time)
    {calls : List BackpressureCall}
    (hcalls : forall call, call ∈ calls -> call.isSignal = false) :
    SignalledAt (c.run calls) time := by
  induction calls generalizing c with
  | nil => exact h
  | cons call calls ih =>
      exact ih (h.after (hcalls call List.mem_cons_self))
        fun other hmem => hcalls other (List.mem_cons_of_mem call hmem)

theorem SignalledAt.computeDelayMs {time now : Rat} (h : SignalledAt c time)
    (hlate : now - time > 5000) : (c.computeDelayMs now).1 = 0 := by
  rcases computeDelayMs_cases c now with
    ⟨_, heq⟩ | ⟨_, _, heq⟩ | ⟨hactive, hearly, _⟩
  · rw [heq]
  · rw [heq]
  · rw [h hactive] at hearly
    exact absurd hlate hearly

theorem currentDelayMs_after (h : Bounded c) {call : BackpressureCall}
    (hcall : call.isSignal = false) :
    (c.after call).currentDelayMs <= c.currentDelayMs := by
  have hleast := h.least
  rcases after_cases (c := c) hcall with
    heq | ⟨hidle, _⟩ | ⟨hactive, heq⟩
  · rw [heq]
  · unfold currentDelayMs
    rw [hidle, if_neg (by decide)]
    split
    · linarith
    · exact le_refl _
  · rw [heq]
    unfold currentDelayMs
    rw [hactive, if_pos rfl, if_pos rfl]
    exact max_le (by linarith) hleast

theorem computeDelayMs_between (h : Bounded c) (now : Rat) :
    (c.computeDelayMs now).1 <= c.currentDelayMs ∧
      (c.computeDelayMs now).2.currentDelayMs <= (c.computeDelayMs now).1 := by
  have hleast := h.least
  unfold currentDelayMs
  rcases computeDelayMs_cases c now with
    ⟨hidle, heq⟩ | ⟨hactive, _, heq⟩ | ⟨hactive, _, heq⟩
  · rw [heq, hidle]
    exact ⟨le_refl _, le_refl _⟩
  · rw [heq, hactive]
    refine ⟨?_, le_refl _⟩
    show 0 <= c.delayMs
    linarith
  · rw [heq, hactive]
    exact ⟨le_refl _, le_refl _⟩

/-- Without a signal the delays of later calls are within the one in force,
and never grow. -/
theorem delays_antitone (h : Bounded c) {calls : List BackpressureCall}
    (hcalls : forall call, call ∈ calls -> call.isSignal = false) :
    (forall delay, delay ∈ c.delays calls -> delay <= c.currentDelayMs) ∧
      (c.delays calls).Pairwise fun x y => y <= x := by
  induction calls generalizing c with
  | nil => exact ⟨fun _ hmem => (nomatch hmem), List.Pairwise.nil⟩
  | cons call calls ih =>
      have hcall := hcalls call List.mem_cons_self
      have hcurrent := currentDelayMs_after h hcall
      rcases ih (h.after call) fun other hmem =>
        hcalls other (List.mem_cons_of_mem call hmem) with ⟨hle, hpairwise⟩
      have hquiet : c.delays (call :: calls) = (c.after call).delays calls ->
          (forall delay, delay ∈ c.delays (call :: calls) ->
            delay <= c.currentDelayMs) ∧
          (c.delays (call :: calls)).Pairwise fun x y => y <= x := by
        intro hdelays
        rw [hdelays]
        exact ⟨fun delay hmem => le_trans (hle delay hmem) hcurrent, hpairwise⟩
      cases call with
      | onBackpressureSignal now => cases hcall
      | onNormalResponse now => exact hquiet rfl
      | reset => exact hquiet rfl
      | computeDelayMs now =>
          have hle : forall delay,
              delay ∈ (c.computeDelayMs now).2.delays calls ->
                delay <= (c.computeDelayMs now).2.currentDelayMs := hle
          rcases computeDelayMs_between h now with ⟨hbefore, hafter⟩
          constructor
          · intro delay hmem
            rcases List.mem_cons.mp hmem with rfl | hmem
            · exact hbefore
            · exact le_trans (hle delay hmem) (le_trans hafter hbefore)
          · apply List.Pairwise.cons
            · intro delay hmem
              exact le_trans (hle delay hmem) hafter
            · exact hpairwise

/-!
# Whole runs
-/

theorem bounded_new : Bounded ({} : BackpressureController) :=
  bounded_idle rfl

/-- In every run the delay stays within its bounds and is the base delay while
the controller is idle.  The delays that calls return are zero or within the
bounds, zero once the recovery window has passed since the last signal, and
never grow until the next one. -/
theorem backpressure_run (calls : List BackpressureCall) :
    (10 <= (run {} calls).delayMs ∧ (run {} calls).delayMs <= 2000) ∧
    ((run {} calls).active = false -> (run {} calls).delayMs = 50) ∧
    (forall now, ((run {} calls).computeDelayMs now).1 = 0 ∨
      10 <= ((run {} calls).computeDelayMs now).1 ∧
        ((run {} calls).computeDelayMs now).1 <= 2000) ∧
    (forall before time since now,
      calls = before ++ BackpressureCall.onBackpressureSignal time :: since ->
        (forall call, call ∈ since -> call.isSignal = false) ->
          now - time > 5000 -> ((run {} calls).computeDelayMs now).1 = 0) ∧
    (forall since, (forall call, call ∈ since -> call.isSignal = false) ->
      ((run {} calls).delays since).Pairwise fun x y => y <= x) := by
  have hbounded := bounded_new.run calls
  refine ⟨⟨hbounded.least, hbounded.most⟩, hbounded.idle,
    hbounded.computeDelayMs, ?_, ?_⟩
  · rintro before time since now rfl hsince hlate
    have hsignal : SignalledAt
        ((run {} before).onBackpressureSignal time) time := fun _ => rfl
    have hrun := hsignal.run hsince
    unfold run at hrun ⊢
    rw [List.foldl_append, List.foldl_cons]
    exact hrun.computeDelayMs hlate
  · intro since hsince
    exact (delays_antitone hbounded hsince).2

/-- After a signal the delays fall from 100 to 50, and to nothing after the
recovery window. -/
theorem backpressure_run_single :
    ((run {} [BackpressureCall.onBackpressureSignal 0,
      BackpressureCall.computeDelayMs 10]).computeDelayMs 6000).1 = 0 ∧
    ((run {} [BackpressureCall.onBackpressureSignal 0]).delays
      [BackpressureCall.computeDelayMs 10, BackpressureCall.onNormalResponse 20,
        BackpressureCall.computeDelayMs 30]).Pairwise fun x y => y <= x := by
  have hlate := (backpressure_run
    [BackpressureCall.onBackpressureSignal 0,
      BackpressureCall.computeDelayMs 10]).2.2.2.1
  have hfalls := (backpressure_run
    [BackpressureCall.onBackpressureSignal 0]).2.2.2.2
  exact ⟨hlate [] 0 [BackpressureCall.computeDelayMs 10] 6000 rfl
    (by decide) (by norm_num), hfalls _ (by decide)⟩

end BackpressureController

end Resilience
end Hmmp
