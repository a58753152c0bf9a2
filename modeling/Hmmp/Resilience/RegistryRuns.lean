import Hmmp.Foundation.KeyedHistory
import Hmmp.Foundation.Separated
import Hmmp.Models.Service
import Hmmp.Resilience.CircuitBreakerRegistry
import Hmmp.Resilience.CircuitBreakerSafety
import Hmmp.Wire.MetricsPack

/-!
# Histories of a registry

Callers ask for breakers, test instances and report outcomes, while pushed
snapshots raise and clear error flags.  Whatever the order, the breaker of an
instance is what a breaker of its own would be after the calls about this
instance, and no call raises.
-/

namespace Hmmp
namespace Resilience

open Foundation
open Models
open Wire

namespace CircuitBreakerRegistry

variable {ω : Type}

/-!
# Operations
-/

/-- Get the breaker of an instance, or create it at the reading. -/
def getBreaker (defaultConfig : CircuitBreakerConfig) (id : Text)
    (created : Rat) (r : CircuitBreakerRegistry) :
    CircuitBreaker × CircuitBreakerRegistry :=
  match r.breakers.get? id with
  | some breaker => (breaker, r)
  | none =>
      let breaker := CircuitBreaker.new defaultConfig created
      (breaker, { r with breakers := r.breakers.set id breaker })

/-- Change the breaker of an instance, if it has one. -/
def onBreaker (id : Text) (change : CircuitBreaker -> CircuitBreaker)
    (r : CircuitBreakerRegistry) : CircuitBreakerRegistry :=
  match r.breakers.get? id with
  | none => r
  | some breaker =>
      { r with breakers := r.breakers.set id (change breaker) }

def recordSuccess (host : Text) (port : Nat) (now : Rat)
    (r : CircuitBreakerRegistry) : CircuitBreakerRegistry :=
  r.onBreaker (instanceId host port) fun breaker => breaker.recordSuccess now

/-- Get the breaker of an instance and make a call of it. -/
def callBreaker (defaultConfig : CircuitBreakerConfig) (id : Text)
    (created : Rat) (c : CircuitBreaker.Call) (r : CircuitBreakerRegistry) :
    Option (Option Bool × CircuitBreakerRegistry) := do
  let (breaker, r) := r.getBreaker defaultConfig id created
  let (answer, breaker) ← breaker.call c
  pure (answer, { r with breakers := r.breakers.set id breaker })

def recordFailure (defaultConfig : CircuitBreakerConfig) (host : Text)
    (port : Nat) (created now : Rat) (r : CircuitBreakerRegistry) :
    Option CircuitBreakerRegistry :=
  (r.callBreaker defaultConfig (instanceId host port) created
    (CircuitBreaker.Call.recordFailure now)).map Prod.snd

/-- The call that the metrics of an instance make of its breaker. -/
def flagCall (i : ServiceInstance ω) (now : Rat) : CircuitBreaker.Call :=
  if (unpackMetricsPack i.metricsPack).error then
    CircuitBreaker.Call.remoteErrorFlagSet now
  else
    CircuitBreaker.Call.remoteErrorFlagCleared now

/-- Tell the breaker of a pushed instance, if there is one, its error flag. -/
def onInstanceUpdated (r : CircuitBreakerRegistry)
    (listed : ServiceInstance ω × Rat) : CircuitBreakerRegistry :=
  r.onBreaker (instanceId listed.1.ip listed.1.port) fun breaker =>
    if (unpackMetricsPack listed.1.metricsPack).error then
      breaker.onRemoteErrorFlagSet listed.2
    else
      breaker.onRemoteErrorFlagCleared listed.2

/-- The instances of a snapshot, each with the reading of the clock when the
loop comes to it. -/
def readings (clock : Nat -> Rat) (instances : List (ServiceInstance ω)) :
    List (ServiceInstance ω × Rat) :=
  instances.zipIdx.map fun (i, place) => (i, clock place)

def onServiceSnapshotUpdated (clock : Nat -> Rat)
    (snapshot : Option (ServiceSnapshot ω)) (r : CircuitBreakerRegistry) :
    CircuitBreakerRegistry :=
  match snapshot with
  | none => r
  | some snapshot =>
      (readings clock snapshot.instances).foldl onInstanceUpdated r

/-- What callers and pushes do with a registry. -/
inductive Operation (ω : Type) where
  | getBreaker (id : Text) (created : Rat)
  | callBreaker (id : Text) (created : Rat) (c : CircuitBreaker.Call)
  | isInstanceAvailable (host : Text) (port : Nat) (now : Rat)
  | recordSuccess (host : Text) (port : Nat) (now : Rat)
  | recordFailure (host : Text) (port : Nat) (created now : Rat)
  | onServiceSnapshotUpdated (clock : Nat -> Rat)
      (snapshot : Option (ServiceSnapshot ω))

def next (defaultConfig : CircuitBreakerConfig) (r : CircuitBreakerRegistry) :
    Operation ω -> Option CircuitBreakerRegistry
  | .getBreaker id created => some (r.getBreaker defaultConfig id created).2
  | .callBreaker id created c =>
      (r.callBreaker defaultConfig id created c).map Prod.snd
  | .isInstanceAvailable host port now =>
      some (r.isInstanceAvailable now host port).2
  | .recordSuccess host port now => some (r.recordSuccess host port now)
  | .recordFailure host port created now =>
      r.recordFailure defaultConfig host port created now
  | .onServiceSnapshotUpdated clock snapshot =>
      some (r.onServiceSnapshotUpdated clock snapshot)

/-- The registry after a history of operations on a new one. -/
def after (defaultConfig : CircuitBreakerConfig)
    (history : List (Operation ω)) : Option CircuitBreakerRegistry :=
  history.foldlM (next defaultConfig) {}

/-!
# One instance

The breaker of a single instance, which comes into being when it is first asked
for and hears no call before.
-/

inductive BreakerEvent where
  | create (now : Rat)
  | call (c : CircuitBreaker.Call)

/-- What an event makes of the breaker of an instance. -/
def BreakerEvent.change (defaultConfig : CircuitBreakerConfig)
    (breaker : Option CircuitBreaker) :
    BreakerEvent -> Option (Option CircuitBreaker)
  | create now =>
      some (some (breaker.getD (CircuitBreaker.new defaultConfig now)))
  | call c =>
      match breaker with
      | none => some none
      | some b => (b.call c).map fun result => some result.2

/-- Events of the instance with this name, seen from another name. -/
def eventsAt (id name : Text) (events : List BreakerEvent) :
    List BreakerEvent :=
  if id = name then events else []

/-- The events that an operation has for the instance of a name. -/
def events (name : Text) : Operation ω -> List BreakerEvent
  | .getBreaker id created => eventsAt id name [.create created]
  | .callBreaker id created c =>
      eventsAt id name [.create created, .call c]
  | .isInstanceAvailable host port now =>
      eventsAt (instanceId host port) name [.call (.tryAcquire now now)]
  | .recordSuccess host port now =>
      eventsAt (instanceId host port) name [.call (.recordSuccess now)]
  | .recordFailure host port created now =>
      eventsAt (instanceId host port) name
        [.create created, .call (.recordFailure now)]
  | .onServiceSnapshotUpdated _ none => []
  | .onServiceSnapshotUpdated clock (some snapshot) =>
      (readings clock snapshot.instances).flatMap fun listed =>
        eventsAt (instanceId listed.1.ip listed.1.port) name
          [.call (flagCall listed.1 listed.2)]

def breakerOf (name : Text) (r : CircuitBreakerRegistry) :
    Option CircuitBreaker :=
  r.breakers.get? name

/-!
# What an operation does to one breaker
-/

theorem breakerOf_onBreaker (r : CircuitBreakerRegistry) (id name : Text)
    (change : CircuitBreaker -> CircuitBreaker) :
    breakerOf name (r.onBreaker id change) =
      if id = name then (breakerOf name r).map change
      else breakerOf name r := by
  unfold breakerOf onBreaker
  cases hheld : r.breakers.get? id with
  | none =>
      by_cases hid : id = name
      · rw [if_pos hid, ← hid, hheld]
        rfl
      · rw [if_neg hid]
  | some breaker =>
      simp only
      rw [Dict.get?_set]
      by_cases hid : id = name
      · rw [if_pos hid, if_pos hid.symm, ← hid, hheld]
        rfl
      · rw [if_neg hid, if_neg fun h => hid h.symm]

theorem getBreaker_fst (defaultConfig : CircuitBreakerConfig) (id : Text)
    (created : Rat) (r : CircuitBreakerRegistry) :
    (r.getBreaker defaultConfig id created).1 =
      (breakerOf id r).getD (CircuitBreaker.new defaultConfig created) := by
  unfold getBreaker breakerOf
  cases r.breakers.get? id <;> rfl

theorem breakerOf_getBreaker (defaultConfig : CircuitBreakerConfig) (id : Text)
    (created : Rat) (r : CircuitBreakerRegistry) (name : Text) :
    breakerOf name (r.getBreaker defaultConfig id created).2 =
      if id = name then
        some ((breakerOf name r).getD
          (CircuitBreaker.new defaultConfig created))
      else breakerOf name r := by
  unfold getBreaker breakerOf
  cases hheld : r.breakers.get? id with
  | some breaker =>
      by_cases hid : id = name
      · rw [if_pos hid, ← hid, hheld]
        rfl
      · rw [if_neg hid]
  | none =>
      simp only
      rw [Dict.get?_set]
      by_cases hid : id = name
      · rw [if_pos hid, if_pos hid.symm, ← hid, hheld]
        rfl
      · rw [if_neg hid, if_neg fun h => hid h.symm]

theorem breakerOf_callBreaker {defaultConfig : CircuitBreakerConfig} {id : Text}
    {created : Rat} {c : CircuitBreaker.Call} {r r' : CircuitBreakerRegistry}
    {answer : Option Bool}
    (h : r.callBreaker defaultConfig id created c = some (answer, r')) :
    exists breaker,
      ((breakerOf id r).getD (CircuitBreaker.new defaultConfig created)).call
        c = some (answer, breaker) ∧
      forall name, breakerOf name r' =
        if id = name then some breaker else breakerOf name r := by
  rcases Option.bind_eq_some_iff.mp h with ⟨⟨given, breaker⟩, hcall, hrest⟩
  injection hrest with hrest
  injection hrest with hanswer hr'
  subst hanswer
  have hcall : (r.getBreaker defaultConfig id created).1.call c =
      some (given, breaker) := hcall
  rw [getBreaker_fst] at hcall
  refine ⟨breaker, hcall, fun name => ?_⟩
  rw [← hr', breakerOf, Dict.get?_set]
  by_cases hid : id = name
  · rw [if_pos hid, if_pos hid.symm]
  · rw [if_neg hid, if_neg fun h => hid h.symm]
    have hother := breakerOf_getBreaker defaultConfig id created r name
    rw [if_neg hid] at hother
    exact hother

theorem isInstanceAvailable_snd (now : Rat) (host : Text) (port : Nat)
    (r : CircuitBreakerRegistry) :
    (r.isInstanceAvailable now host port).2 =
      r.onBreaker (instanceId host port) fun breaker =>
        (breaker.tryAcquire now now).2 := by
  unfold isInstanceAvailable onBreaker
  cases hheld : r.breakers.get? (instanceId host port) with
  | none => simp only [hheld]
  | some breaker => simp only [hheld]

/-!
# The events of one operation
-/

variable {defaultConfig : CircuitBreakerConfig}

theorem foldlM_eventsAt (id name : Text) (events : List BreakerEvent)
    (breaker : Option CircuitBreaker) :
    (eventsAt id name events).foldlM (BreakerEvent.change defaultConfig)
        breaker =
      if id = name then
        events.foldlM (BreakerEvent.change defaultConfig) breaker
      else some breaker := by
  unfold eventsAt
  by_cases hid : id = name
  · rw [if_pos hid, if_pos hid]
  · rw [if_neg hid, if_neg hid]
    rfl

theorem onBreaker_events (r : CircuitBreakerRegistry) (id name : Text)
    {change : CircuitBreaker -> CircuitBreaker} {c : CircuitBreaker.Call}
    (hchange : forall b : CircuitBreaker, exists answer,
      b.call c = some (answer, change b)) :
    (eventsAt id name [.call c]).foldlM (BreakerEvent.change defaultConfig)
        (breakerOf name r) =
      some (breakerOf name (r.onBreaker id change)) := by
  rw [foldlM_eventsAt, breakerOf_onBreaker]
  by_cases hid : id = name
  · rw [if_pos hid, if_pos hid]
    cases breakerOf name r with
    | none => rfl
    | some b =>
        rcases hchange b with ⟨answer, hcall⟩
        simp [BreakerEvent.change, hcall]
  · rw [if_neg hid, if_neg hid]

theorem onInstanceUpdated_events (r : CircuitBreakerRegistry)
    (listed : ServiceInstance ω × Rat) (name : Text) :
    (eventsAt (instanceId listed.1.ip listed.1.port) name
        [.call (flagCall listed.1 listed.2)]).foldlM
          (BreakerEvent.change defaultConfig) (breakerOf name r) =
      some (breakerOf name (r.onInstanceUpdated listed)) := by
  apply onBreaker_events
  intro b
  refine ⟨none, ?_⟩
  unfold flagCall
  cases (unpackMetricsPack listed.1.metricsPack).error <;> rfl

theorem onServiceSnapshotUpdated_events (r : CircuitBreakerRegistry)
    (clock : Nat -> Rat) (snapshot : Option (ServiceSnapshot ω)) (name : Text) :
    (events name (.onServiceSnapshotUpdated clock snapshot)).foldlM
        (BreakerEvent.change defaultConfig) (breakerOf name r) =
      some (breakerOf name (r.onServiceSnapshotUpdated clock snapshot)) := by
  cases snapshot with
  | none => rfl
  | some snapshot =>
      have hloop : Decomposes (fun r listed => some (onInstanceUpdated r listed))
          breakerOf
          (fun name (listed : ServiceInstance ω × Rat) =>
            eventsAt (instanceId listed.1.ip listed.1.port) name
              [.call (flagCall listed.1 listed.2)])
          (BreakerEvent.change defaultConfig) := by
        constructor
        intro r listed r' hstep name
        injection hstep with hstep
        rw [← hstep]
        exact r.onInstanceUpdated_events listed name
      exact hloop.run List.foldlM_pure name

theorem callBreaker_events {id : Text} {created : Rat}
    {c : CircuitBreaker.Call} {r r' : CircuitBreakerRegistry}
    {answer : Option Bool}
    (h : r.callBreaker defaultConfig id created c = some (answer, r'))
    (name : Text) :
    (eventsAt id name [.create created, .call c]).foldlM
        (BreakerEvent.change defaultConfig) (breakerOf name r) =
      some (breakerOf name r') := by
  rcases breakerOf_callBreaker h with ⟨breaker, hcall, hentry⟩
  rw [foldlM_eventsAt, hentry]
  by_cases hid : id = name
  · subst hid
    rw [if_pos rfl, if_pos rfl]
    simp [BreakerEvent.change, hcall]
  · rw [if_neg hid, if_neg hid]

theorem next_decomposes (defaultConfig : CircuitBreakerConfig) :
    Decomposes (next defaultConfig) breakerOf
      (events : Text -> Operation ω -> List BreakerEvent)
      (BreakerEvent.change defaultConfig) := by
  constructor
  intro r operation r' hstep name
  cases operation with
  | getBreaker id created =>
      injection hstep with hstep
      rw [← hstep, breakerOf_getBreaker]
      unfold events
      rw [foldlM_eventsAt]
      by_cases hid : id = name
      · rw [if_pos hid, if_pos hid]
        rfl
      · rw [if_neg hid, if_neg hid]
  | callBreaker id created c =>
      rcases Option.map_eq_some_iff.mp hstep with ⟨⟨answer, r''⟩, hcall, rfl⟩
      exact callBreaker_events hcall name
  | isInstanceAvailable host port now =>
      injection hstep with hstep
      rw [← hstep, isInstanceAvailable_snd]
      exact onBreaker_events r _ name fun b => ⟨_, rfl⟩
  | recordSuccess host port now =>
      injection hstep with hstep
      rw [← hstep]
      exact onBreaker_events r _ name fun b => ⟨_, rfl⟩
  | recordFailure host port created now =>
      rcases Option.map_eq_some_iff.mp hstep with ⟨⟨answer, r''⟩, hcall, rfl⟩
      exact callBreaker_events hcall name
  | onServiceSnapshotUpdated clock snapshot =>
      injection hstep with hstep
      rw [← hstep]
      exact onServiceSnapshotUpdated_events r clock snapshot name

/-!
# No call raises
-/

def Sound (r : CircuitBreakerRegistry) : Prop :=
  forall name b, breakerOf name r = some b -> Watch.Counted b

theorem counted_new (config : CircuitBreakerConfig) (now : Rat) :
    Watch.Counted (CircuitBreaker.new config now) :=
  ⟨Int.le_refl 0, Int.le_refl 0⟩

theorem counted_call {b b' : CircuitBreaker} {c : CircuitBreaker.Call}
    {answer : Option Bool} (h : Watch.Counted b)
    (hcall : b.call c = some (answer, b')) : Watch.Counted b' :=
  Watch.counted_effect h (CircuitBreaker.call_effect hcall)

theorem change_returns {breaker : Option CircuitBreaker}
    (h : forall b, breaker = some b -> Watch.Counted b)
    (event : BreakerEvent) :
    exists breaker', event.change defaultConfig breaker = some breaker' ∧
      forall b, breaker' = some b -> Watch.Counted b := by
  cases event with
  | create now =>
      refine ⟨_, rfl, fun b hb => ?_⟩
      cases breaker with
      | none =>
          injection hb with hb
          rw [← hb]
          exact counted_new defaultConfig now
      | some held =>
          injection hb with hb
          rw [← hb]
          exact h held rfl
  | call c =>
      cases breaker with
      | none =>
          refine ⟨none, rfl, fun b hb => ?_⟩
          cases hb
      | some held =>
          rcases Watch.call_returns (h held rfl) c with ⟨answer, b', hcall⟩
          refine ⟨some b', ?_, fun b hb => ?_⟩
          · simp [BreakerEvent.change, hcall]
          · injection hb with hb
            rw [← hb]
            exact counted_call (h held rfl) hcall

theorem callBreaker_returns (defaultConfig : CircuitBreakerConfig)
    {r : CircuitBreakerRegistry} (h : r.Sound) (id : Text) (created : Rat)
    (c : CircuitBreaker.Call) :
    exists answer r',
      r.callBreaker defaultConfig id created c = some (answer, r') := by
  have hcounted : Watch.Counted (r.getBreaker defaultConfig id created).1 := by
    rw [getBreaker_fst]
    cases hheld : breakerOf id r with
    | none => exact counted_new defaultConfig created
    | some b => exact h id b hheld
  rcases Watch.call_returns hcounted c with ⟨answer, after, hcall⟩
  refine ⟨answer, ?_⟩
  unfold callBreaker
  simp [hcall]

theorem next_returns (r : CircuitBreakerRegistry) (operation : Operation ω)
    (h : r.Sound) :
    exists r', r.next defaultConfig operation = some r' ∧ r'.Sound := by
  have hreturns : exists r', r.next defaultConfig operation = some r' := by
    cases operation with
    | callBreaker id created c =>
        rcases callBreaker_returns defaultConfig h id
          created c with ⟨answer, r', hcall⟩
        exact ⟨r', by simp [next, hcall]⟩
    | recordFailure host port created now =>
        rcases callBreaker_returns defaultConfig h
          (instanceId host port) created (.recordFailure now) with
          ⟨answer, r', hcall⟩
        exact ⟨r', by simp [next, recordFailure, hcall]⟩
    | getBreaker id created => exact ⟨_, rfl⟩
    | isInstanceAvailable host port now => exact ⟨_, rfl⟩
    | recordSuccess host port now => exact ⟨_, rfl⟩
    | onServiceSnapshotUpdated clock snapshot => exact ⟨_, rfl⟩
  rcases hreturns with ⟨r', hstep⟩
  refine ⟨r', hstep, fun name b hb => ?_⟩
  have hevents := (next_decomposes defaultConfig).step r operation r' hstep name
  have hkeep : forall (breaker : Option CircuitBreaker) (event : BreakerEvent),
      (forall b, breaker = some b -> Watch.Counted b) ->
        exists after, event.change defaultConfig breaker = some after ∧
          forall b, after = some b -> Watch.Counted b :=
    fun breaker event hbreaker => change_returns hbreaker event
  rcases foldlM_total hkeep (h name) (events name operation) with
    ⟨breaker, hchanged, hcounted⟩
  rw [hevents] at hchanged
  injection hchanged with hchanged
  exact hcounted b (hchanged.symm.trans hb)

/-!
# A breaker of its own
-/

/-- The events that a history has for the instance of a name. -/
def eventsOf (name : Text) (history : List (Operation ω)) :
    List BreakerEvent :=
  history.flatMap (events name)

def callsOf : List BreakerEvent -> List CircuitBreaker.Call
  | [] => []
  | .create _ :: rest => callsOf rest
  | .call c :: rest => c :: callsOf rest

theorem run_callsOf {w w' : Watch} {rest : List BreakerEvent}
    (h : w.run (callsOf rest) = some w') :
    rest.foldlM (BreakerEvent.change defaultConfig) (some w.breaker) =
      some (some w'.breaker) := by
  induction rest generalizing w with
  | nil =>
      injection h with h
      subst h
      rfl
  | cons event rest ih =>
      cases event with
      | create now => exact ih h
      | call c =>
          have hrun : (c :: callsOf rest).foldlM Watch.next w = some w' := h
          rw [List.foldlM_cons] at hrun
          rcases Option.bind_eq_some_iff.mp hrun with ⟨mid, hnext, hrest⟩
          rcases Option.map_eq_some_iff.mp hnext with
            ⟨⟨answer, b⟩, hcall, rfl⟩
          have hfirst : BreakerEvent.change defaultConfig (some w.breaker)
              (.call c) = some (some b) := by
            simp [BreakerEvent.change, hcall]
          rw [List.foldlM_cons, hfirst]
          exact ih hrest

theorem run_before_creation {before : List BreakerEvent}
    (h : forall t, BreakerEvent.create t ∉ before) :
    before.foldlM (BreakerEvent.change defaultConfig) none = some none := by
  induction before with
  | nil => rfl
  | cons event before ih =>
      cases event with
      | create now => exact absurd List.mem_cons_self (h now)
      | call c =>
          exact ih fun t hmem => h t (List.mem_cons_of_mem _ hmem)

theorem run_from_creation (defaultConfig : CircuitBreakerConfig)
    {before : List BreakerEvent} (t : Rat)
    (h : forall t', BreakerEvent.create t' ∉ before)
    (rest : List BreakerEvent) :
    exists w, (Watch.start defaultConfig t).run (callsOf rest) = some w ∧
      (before ++ BreakerEvent.create t :: rest).foldlM
        (BreakerEvent.change defaultConfig) none = some (some w.breaker) := by
  rcases Watch.inv_run defaultConfig t (callsOf rest) with ⟨w, hrun, _⟩
  refine ⟨w, hrun, ?_⟩
  rw [List.foldlM_append, run_before_creation h]
  exact run_callsOf (w := Watch.start defaultConfig t) hrun

/-- The last colon of a name stands in front of the port. -/
theorem instanceId_inj {host host' : Text} {port port' : Nat}
    (h : instanceId host port = instanceId host' port') :
    host = host' ∧ port = port' := by
  unfold instanceId at h
  have hreverse := congrArg List.reverse h
  rw [List.append_assoc, List.append_assoc, List.reverse_append,
    List.reverse_append, List.reverse_append, List.reverse_append,
    List.append_assoc, List.append_assoc] at hreverse
  have hcolon : forall n, codePointOf ':' ∉ (decimal n).reverse := by
    intro n hmem
    exact notMem_decimal (by decide) n (List.mem_reverse.mp hmem)
  rcases separator_split (hcolon port) (hcolon port') hreverse with
    ⟨hport, hhost⟩
  exact ⟨List.reverse_injective hhost,
    decimal_injective (List.reverse_injective hport)⟩

/--
Every history of a registry returns.  Until the breaker of an instance is first
asked for there is none; from then on it is a breaker of its own, created at
that reading, after exactly the calls about this instance, and a test of the
instance is an attempt on it.  Different instances have different breakers.
-/
theorem after_refines (defaultConfig : CircuitBreakerConfig)
    (history : List (Operation ω)) :
    exists r, after defaultConfig history = some r ∧
      (forall name,
        (forall t, BreakerEvent.create t ∉ eventsOf name history) ->
          breakerOf name r = none) ∧
      (forall name before t rest,
        eventsOf name history = before ++ BreakerEvent.create t :: rest ->
          (forall t', BreakerEvent.create t' ∉ before) ->
            exists w, (Watch.start defaultConfig t).run (callsOf rest) =
                some w ∧ breakerOf name r = some w.breaker) ∧
      (forall host port now, (r.isInstanceAvailable now host port).1 =
        (breakerOf (instanceId host port) r).elim true fun b =>
          (b.tryAcquire now now).1) ∧
      forall host port host' port',
        instanceId host port = instanceId host' port' ->
          host = host' ∧ port = port' := by
  have hnew : ({} : CircuitBreakerRegistry).Sound := by
    intro name b hb
    cases hb
  rcases foldlM_total next_returns hnew history with ⟨r, hrun, _⟩
  have hentry := fun name => (next_decomposes defaultConfig).run hrun name
  refine ⟨r, hrun, ?_, ?_, ?_, fun _ _ _ _ => instanceId_inj⟩
  · intro name habsent
    have hnone : (eventsOf name history).foldlM
        (BreakerEvent.change defaultConfig) none = some (breakerOf name r) :=
      hentry name
    rw [run_before_creation habsent] at hnone
    injection hnone with hnone
    exact hnone.symm
  · intro name before t rest hsplit habsent
    rcases run_from_creation defaultConfig t habsent rest with
      ⟨w, hw, hbreaker⟩
    have hheld : (eventsOf name history).foldlM
        (BreakerEvent.change defaultConfig) none = some (breakerOf name r) :=
      hentry name
    rw [hsplit, hbreaker] at hheld
    injection hheld with hheld
    exact ⟨w, hw, hheld.symm⟩
  · intro host port now
    unfold isInstanceAvailable breakerOf
    cases hheld : r.breakers.get? (instanceId host port) with
    | none => simp only [hheld, Option.elim_none]
    | some b => simp only [hheld, Option.elim_some]

end CircuitBreakerRegistry

end Resilience
end Hmmp
