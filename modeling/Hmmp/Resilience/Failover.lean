import Hmmp.Resilience.RegistryPushes
import Hmmp.Resilience.RegistrySelection

/-!
# Failover

Callers select instances behind a registry and report outcomes, while pushes
raise and clear error flags.  From the moment the breaker of an instance opens,
until its wait is over or a push says that the instance is well, no selection
returns the instance while another one is admitted; then it is admitted again.
-/

namespace Hmmp
namespace Resilience

open Foundation
open Models

namespace CircuitBreaker

/-- The reading at which the wait of an open breaker is over. -/
def waitEnd (b : CircuitBreaker) : Rat :=
  b.lastStateChangeTime + (b.config.waitDurationInOpenStateMs : Rat)

theorem waitElapsed_iff (b : CircuitBreaker) (now : Rat) :
    b.waitElapsed now <-> b.waitEnd <= now := by
  unfold waitElapsed waitEnd
  rw [ge_iff_le, le_sub_iff_add_le']

/-- The call does not find the wait over, and does not clear the error flag. -/
def Call.Quiet (limit : Rat) : Call -> Prop
  | tryAcquire now _ => now < limit
  | recordSuccess _ => True
  | recordFailure _ => True
  | remoteErrorFlagSet _ => True
  | remoteErrorFlagCleared _ => False
  | backpressure _ => True

/-- The breaker is open since the other one was. -/
structure OpenSince (b b' : CircuitBreaker) : Prop where
  state : b'.state = CircuitState.open_
  config : b'.config = b.config
  lastStateChangeTime : b'.lastStateChangeTime = b.lastStateChangeTime

namespace OpenSince

variable {b b' b'' : CircuitBreaker}

theorem waitEnd (h : OpenSince b b') : b'.waitEnd = b.waitEnd := by
  unfold CircuitBreaker.waitEnd
  rw [h.config, h.lastStateChangeTime]

theorem not_elapsed (h : OpenSince b b') {now : Rat} (hnow : now < b.waitEnd) :
    ¬ b'.waitElapsed now := by
  rw [waitElapsed_iff, h.waitEnd, not_le]
  exact hnow

theorem refused (h : OpenSince b b') {now : Rat} (later : Rat)
    (hnow : now < b.waitEnd) : b'.tryAcquire now later = (false, b') :=
  tryAcquire_of_waiting later h.state (h.not_elapsed hnow)

theorem call (h : OpenSince b b') {c : Call} (hquiet : c.Quiet b.waitEnd)
    {answer : Option Bool} (hcall : b'.call c = some (answer, b'')) :
    OpenSince b b'' := by
  cases c with
  | tryAcquire now later =>
      injection hcall with hcall
      injection hcall with _ hafter
      rw [h.refused later hquiet] at hafter
      exact hafter ▸ h
  | recordSuccess now =>
      injection hcall with hcall
      injection hcall with _ hafter
      unfold recordSuccess at hafter
      simp only [h.state] at hafter
      rw [← hafter]
      exact ⟨rfl, h.config, h.lastStateChangeTime⟩
  | recordFailure now =>
      rcases Option.map_eq_some_iff.mp hcall with ⟨failed, hfailed, hpair⟩
      injection hpair with _ hafter
      unfold recordFailure at hfailed
      simp only [h.state] at hfailed
      injection hfailed with hfailed
      rw [← hafter, ← hfailed]
      exact ⟨rfl, h.config, h.lastStateChangeTime⟩
  | remoteErrorFlagSet now =>
      injection hcall with hcall
      injection hcall with _ hafter
      have hopen : ¬ (b'.state = CircuitState.closed ∧
          b'.failureCount >= max 1 (b'.config.failureThreshold / 2)) := by
        rintro ⟨hclosed, _⟩
        rw [h.state] at hclosed
        cases hclosed
      unfold onRemoteErrorFlagSet at hafter
      simp only [hopen, if_false] at hafter
      exact hafter ▸ ⟨h.state, h.config, h.lastStateChangeTime⟩
  | remoteErrorFlagCleared now => exact absurd hquiet id
  | backpressure active =>
      injection hcall with hcall
      injection hcall with _ hafter
      exact hafter ▸ ⟨h.state, h.config, h.lastStateChangeTime⟩

end OpenSince

/-!
# The way back
-/

/-- The breaker is open, or half open with all its permits. -/
structure Recovers (given : CircuitBreakerConfig) (b : CircuitBreaker) :
    Prop where
  config : b.config = given
  state : b.state = CircuitState.open_ ∨ b.state = CircuitState.halfOpen ∧
    b.halfOpenPermits = given.permittedCallsInHalfOpen

theorem Recovers.tell {given : CircuitBreakerConfig} {b : CircuitBreaker}
    (h : Recovers given b) (told : Bool × Rat) :
    Recovers given (b.tell told) := by
  rcases told with ⟨flag, now⟩
  cases flag with
  | true =>
      have hstate : ¬ (b.state = CircuitState.closed ∧
          b.failureCount >= max 1 (b.config.failureThreshold / 2)) := by
        rintro ⟨hclosed, _⟩
        rcases h.state with hopen | ⟨hhalf, _⟩
        · rw [hopen] at hclosed
          cases hclosed
        · rw [hhalf] at hclosed
          cases hclosed
      show Recovers given (b.onRemoteErrorFlagSet now)
      unfold onRemoteErrorFlagSet
      simp only [hstate, if_false]
      exact ⟨h.config, h.state⟩
  | false =>
      show Recovers given (b.onRemoteErrorFlagCleared now)
      unfold onRemoteErrorFlagCleared
      simp only
      split
      · exact ⟨h.config, Or.inr
          ⟨rfl, congrArg CircuitBreakerConfig.permittedCallsInHalfOpen
            h.config⟩⟩
      · exact ⟨h.config, h.state⟩

theorem Recovers.told {given : CircuitBreakerConfig} {b : CircuitBreaker}
    (h : Recovers given b) (told : List (Bool × Rat)) :
    Recovers given (told.foldl CircuitBreaker.tell b) := by
  induction told generalizing b with
  | nil => exact h
  | cons flag told ih => exact ih (h.tell flag)

theorem Recovers.admits {given : CircuitBreakerConfig} {b : CircuitBreaker}
    (h : Recovers given b) (hpermits : 1 <= given.permittedCallsInHalfOpen)
    {now : Rat}
    (hready : b.state = CircuitState.open_ -> b.waitElapsed now) :
    (b.tryAcquire now now).1 = true := by
  rcases h.state with hopen | ⟨hhalf, hfull⟩
  · rw [tryAcquire_of_elapsed now hopen (hready hopen),
      tryAcquireHalfOpen_admits, transitionTo_halfOpen_permits, h.config]
    exact hpermits
  · rw [tryAcquire_of_halfOpen now now hhalf, tryAcquireHalfOpen_admits, hfull]
    exact hpermits

end CircuitBreaker

namespace CircuitBreakerRegistry

open CircuitBreaker

variable {ω : Type} {defaultConfig : CircuitBreakerConfig}
variable {name : Text} {b : CircuitBreaker}

/-!
# A registry in use
-/

/-- An operation on the registry, or a selection behind it. -/
inductive RegistryUse (ω : Type) where
  | operation (o : Operation ω)
  | select (now : Rat) (draw : RandomDraw) (snapshot : ServiceSnapshot Rat)

def afterUse (defaultConfig : CircuitBreakerConfig)
    (r : CircuitBreakerRegistry) :
    RegistryUse ω -> Option CircuitBreakerRegistry
  | .operation o => r.next defaultConfig o
  | .select now draw snapshot => some (registrySelection r now draw snapshot).2

/-- The use makes no call of the breaker of the name but quiet ones. -/
def RegistryUse.Quiet (name : Text) (limit : Rat) : RegistryUse ω -> Prop
  | .operation o =>
      forall c, BreakerEvent.call c ∈ events name o -> c.Quiet limit
  | .select now _ _ => now < limit

/-- The breaker of the name is open since it was the given one. -/
def OpenAt (name : Text) (b : CircuitBreaker) (r : CircuitBreakerRegistry) :
    Prop :=
  exists b', breakerOf name r = some b' ∧ OpenSince b b'

theorem openSince_events {b' : CircuitBreaker} (h : OpenSince b b')
    {happened : List BreakerEvent}
    (hquiet : forall c, BreakerEvent.call c ∈ happened -> c.Quiet b.waitEnd)
    {after : Option CircuitBreaker}
    (hrun : happened.foldlM (BreakerEvent.change defaultConfig) (some b') =
      some after) :
    exists b'', after = some b'' ∧ OpenSince b b'' := by
  induction happened generalizing b' with
  | nil =>
      injection hrun with hrun
      exact ⟨b', hrun.symm, h⟩
  | cons event rest ih =>
      rw [List.foldlM_cons] at hrun
      rcases Option.bind_eq_some_iff.mp hrun with ⟨mid, hchange, hrest⟩
      have hrestQuiet := fun c hc => hquiet c (List.mem_cons_of_mem event hc)
      cases event with
      | create now =>
          injection hchange with hchange
          subst hchange
          exact ih h hrestQuiet hrest
      | call c =>
          rcases Option.map_eq_some_iff.mp hchange with
            ⟨⟨answer, called⟩, hcall, rfl⟩
          exact ih (h.call (hquiet c List.mem_cons_self) hcall) hrestQuiet
            hrest

theorem counted_attempted {b : CircuitBreaker} (h : Watch.Counted b)
    (now : Rat) (n : Nat) : Watch.Counted (b.attempted now n) := by
  induction n with
  | zero => exact h
  | succ n ih =>
      exact counted_call (c := .tryAcquire now now) ih rfl

theorem sound_select {r : CircuitBreakerRegistry} (h : r.Sound) (now : Rat)
    (draw : RandomDraw) (snapshot : ServiceSnapshot Rat) :
    (registrySelection r now draw snapshot).2.Sound := by
  intro id b' hb'
  have hafter := (registrySelection_eq r now draw snapshot).2 id
  rw [show (registrySelection r now draw snapshot).2.breakers.get? id =
    some b' from hb'] at hafter
  rcases Option.map_eq_some_iff.mp hafter.symm with ⟨held, hheld, hattempted⟩
  rw [← hattempted]
  exact counted_attempted (h id held hheld) now _

theorem use_returns (defaultConfig : CircuitBreakerConfig)
    (r : CircuitBreakerRegistry) (u : RegistryUse ω) (h : r.Sound) :
    exists r', r.afterUse defaultConfig u = some r' ∧ r'.Sound := by
  cases u with
  | operation o => exact next_returns r o h
  | select now draw snapshot =>
      exact ⟨_, rfl, sound_select h now draw snapshot⟩

theorem openAt_afterUse {r r' : CircuitBreakerRegistry} (h : OpenAt name b r)
    {u : RegistryUse ω} (hquiet : u.Quiet name b.waitEnd)
    (huse : r.afterUse defaultConfig u = some r') : OpenAt name b r' := by
  rcases h with ⟨b', hb', hopen⟩
  cases u with
  | operation o =>
      have hevents := (next_decomposes defaultConfig).step r o r' huse name
      rw [hb'] at hevents
      exact openSince_events hopen hquiet hevents
  | select now draw snapshot =>
      injection huse with huse
      have hafter := (registrySelection_eq r now draw snapshot).2 name
      rw [huse, show r.breakers.get? name = some b' from hb'] at hafter
      have hidle : ¬ b'.Probing now := by
        rintro (hhalf | ⟨_, helapsed⟩)
        · rw [hopen.state] at hhalf
          cases hhalf
        · exact hopen.not_elapsed hquiet helapsed
      rw [Option.map_some, attempted_of_not_probing hidle] at hafter
      exact ⟨b', hafter, hopen⟩

theorem openAt_uses {r : CircuitBreakerRegistry} (h : OpenAt name b r)
    (hsound : r.Sound) {uses : List (RegistryUse ω)}
    (hquiet : forall u, u ∈ uses -> u.Quiet name b.waitEnd) :
    exists r', uses.foldlM (afterUse defaultConfig) r = some r' ∧
      OpenAt name b r' := by
  induction uses generalizing r with
  | nil => exact ⟨r, rfl, h⟩
  | cons u uses ih =>
      rcases use_returns defaultConfig r u hsound with ⟨mid, huse, hmid⟩
      have hopen := openAt_afterUse h (hquiet u List.mem_cons_self) huse
      rcases ih hopen hmid fun u hu => hquiet u (List.mem_cons_of_mem _ hu)
        with ⟨r', hrun, hr'⟩
      refine ⟨r', ?_, hr'⟩
      rw [List.foldlM_cons, huse]
      exact hrun

theorem admits_eq {r : CircuitBreakerRegistry} {b' : CircuitBreaker}
    {host : Text} {port : Nat}
    (h : breakerOf (instanceId host port) r = some b') (now : Rat) :
    r.admits now host port = (b'.tryAcquire now now).1 := by
  have h : r.breakers.get? (instanceId host port) = some b' := h
  unfold admits isInstanceAvailable
  simp only [h]

/--
From the moment a breaker is open, through all uses of the registry that neither
come when its wait is over nor push a cleared flag for it: nothing raises, the
breaker stays open, and no selection before the end of the wait returns its
instance while another one is admitted.  With the wait over, or after a push
that says last that the instance is well, the instance is admitted again.
-/
theorem failover (defaultConfig : CircuitBreakerConfig)
    (before uses : List (RegistryUse ω)) {r : CircuitBreakerRegistry}
    (hbefore : before.foldlM (afterUse defaultConfig) {} = some r)
    (hb : breakerOf name r = some b) (hopen : b.state = CircuitState.open_)
    (hquiet : forall u, u ∈ uses -> u.Quiet name b.waitEnd) :
    exists r', uses.foldlM (afterUse defaultConfig) r = some r' ∧
      OpenAt name b r' ∧
      (forall now draw snapshot i, now < b.waitEnd ->
        (exists j, j ∈ snapshot.instances ∧ AvailableBy (r'.admits now) j) ->
        (registrySelection r' now draw snapshot).1 = some i ->
          address i ≠ name) ∧
      (1 <= b.config.permittedCallsInHalfOpen ->
        forall host port, instanceId host port = name ->
          (forall now, b.waitEnd <= now -> r'.admits now host port = true) ∧
          forall clock (snapshot : ServiceSnapshot ω) flags now,
            listedFlags name snapshot.instances = flags ++ [false] ->
              (r'.onServiceSnapshotUpdated clock (some snapshot)).admits now
                host port = true) := by
  have hnew : ({} : CircuitBreakerRegistry).Sound := by
    intro id b hb
    cases hb
  rcases foldlM_total (use_returns defaultConfig) hnew before with
    ⟨reached, hreached, hsound⟩
  rw [hbefore] at hreached
  injection hreached with hreached
  subst hreached
  have hstart : OpenAt name b r := ⟨b, hb, hopen, rfl, rfl⟩
  rcases openAt_uses hstart hsound hquiet with ⟨r', hrun, b', hb', hsince⟩
  have hrecovers : Recovers b.config b' := ⟨hsince.config, Or.inl hsince.state⟩
  refine ⟨r', hrun, ⟨b', hb', hsince⟩, ?_, ?_⟩
  · rintro now draw snapshot i hnow hsome hselected rfl
    have hne : snapshot.instances ≠ [] := by
      rcases hsome with ⟨j, hj, _⟩
      exact List.ne_nil_of_mem hj
    rcases registrySelection_bestTier r' now draw snapshot hne with
      ⟨i', hi', htier⟩
    rw [hselected] at hi'
    injection hi' with hi'
    subst hi'
    have havailable : r'.admits now i.ip i.port = true :=
      htier.available hsome
    rw [admits_eq hb' now, hsince.refused now hnow] at havailable
    cases havailable
  · rintro hpermits host port rfl
    constructor
    · intro now hnow
      rw [admits_eq hb' now]
      apply hrecovers.admits hpermits
      intro _
      rw [waitElapsed_iff, hsince.waitEnd]
      exact hnow
    · intro clock snapshot flags now hflags
      have hpushed := breakerOf_pushed r' clock snapshot (instanceId host port)
      rw [hb', Option.map_some] at hpushed
      rw [admits_eq hpushed now]
      apply (hrecovers.told _).admits hpermits
      intro hstill
      rw [← map_fst_toldAt (instanceId host port) clock] at hflags
      exact absurd hstill ((b'.settled_told hflags).recovering rfl)

/-- A registry whose breakers open at the first failure. -/
def touchyConfig : CircuitBreakerConfig where
  failureThreshold := 1

def touchyBreaker : CircuitBreaker :=
  { CircuitBreaker.new touchyConfig 5 with
    state := CircuitState.open_
    failureCount := 1
    totalRequests := 1 }

def touchyRegistry : CircuitBreakerRegistry where
  breakers := Dict.empty.set (address (localInstance 80)) touchyBreaker

def firstFailure : List (RegistryUse Rat) :=
  [.operation (.recordFailure (localInstance 80).ip 80 5 5)]

def quietUses : List (RegistryUse Rat) :=
  [.select 10 lowestDraw probedSnapshot,
    .operation (.recordSuccess (localInstance 80).ip 80 20)]

theorem failover_touchy : exists r',
    quietUses.foldlM (afterUse touchyConfig) touchyRegistry = some r' ∧
      (registrySelection r' 20000 lowestDraw probedSnapshot).1 ≠
        some (localInstance 80) ∧
      r'.admits 30005 (localInstance 80).ip 80 = true := by
  have hwaitEnd : touchyBreaker.waitEnd = 30005 := by decide +kernel
  have hquiet : forall u, u ∈ quietUses ->
      u.Quiet (address (localInstance 80)) touchyBreaker.waitEnd := by
    rw [hwaitEnd]
    intro u hu
    rcases List.mem_pair.mp hu with rfl | rfl
    · show (10 : Rat) < 30005
      decide +kernel
    · intro c hc
      have hsame := List.mem_singleton.mp hc
      injection hsame with hsame
      subst hsame
      trivial
  have hbefore : firstFailure.foldlM (afterUse touchyConfig) {} =
      some touchyRegistry := rfl
  have hbreaker : breakerOf (address (localInstance 80)) touchyRegistry =
      some touchyBreaker := rfl
  rcases failover touchyConfig firstFailure quietUses hbefore hbreaker rfl
    hquiet with ⟨r', hrun, _, havoided, hback⟩
  have hother : (quietUses.foldlM (afterUse touchyConfig) touchyRegistry).map
      (fun r => r.admits 20000 (localInstance 81).ip 81) = some true := by
    decide +kernel
  rw [hrun] at hother
  injection hother with hother
  refine ⟨r', hrun, ?_, ?_⟩
  · intro hselected
    refine havoided 20000 lowestDraw probedSnapshot (localInstance 80) ?_ ?_
      hselected rfl
    · rw [hwaitEnd]
      decide +kernel
    · exact ⟨localInstance 81, List.mem_cons_of_mem _ List.mem_cons_self,
        hother⟩
  · refine (hback (by decide) (localInstance 80).ip 80 rfl).1 30005 ?_
    rw [hwaitEnd]

end CircuitBreakerRegistry

end Resilience
end Hmmp
