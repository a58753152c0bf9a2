import Hmmp.Resilience.RegistryRuns

/-!
# Pushed error flags

A pushed snapshot tells every listed breaker its error flag.  The last flag told
decides: a breaker that is told to be in error does not stay closed beyond half
its threshold, one that is told to be well does not stay open, and a push that is
delivered again changes nothing.
-/

namespace Hmmp
namespace Resilience

open Foundation
open Models
open Wire

namespace CircuitBreaker

/-!
# One flag
-/

def tell (b : CircuitBreaker) (told : Bool × Rat) : CircuitBreaker :=
  if told.1 then b.onRemoteErrorFlagSet told.2
  else b.onRemoteErrorFlagCleared told.2

/-- The breaker is in accord with the flag it has been told. -/
structure Settled (flag : Bool) (b : CircuitBreaker) : Prop where
  flag_eq : b.remoteErrorFlag = flag
  tripped : flag = true -> b.state = CircuitState.closed ->
    b.failureCount < max 1 (b.config.failureThreshold / 2)
  recovering : flag = false -> b.state ≠ CircuitState.open_

/-- What flags leave alone: the counters of requests, the configuration and the
other signal; and they close no breaker. -/
structure Kept (b b' : CircuitBreaker) : Prop where
  config : b'.config = b.config
  failureCount : b'.failureCount = b.failureCount
  totalRequests : b'.totalRequests = b.totalRequests
  backpressureActive : b'.backpressureActive = b.backpressureActive
  closed : b'.state = CircuitState.closed -> b.state = CircuitState.closed

theorem Kept.refl (b : CircuitBreaker) : Kept b b :=
  ⟨rfl, rfl, rfl, rfl, fun h => h⟩

theorem Kept.trans {b b' b'' : CircuitBreaker} (h : Kept b b')
    (h' : Kept b' b'') : Kept b b'' where
  config := h'.config.trans h.config
  failureCount := h'.failureCount.trans h.failureCount
  totalRequests := h'.totalRequests.trans h.totalRequests
  backpressureActive := h'.backpressureActive.trans h.backpressureActive
  closed hclosed := h.closed (h'.closed hclosed)

theorem settled_tell (b : CircuitBreaker) (flag : Bool) (now : Rat) :
    Settled flag (b.tell (flag, now)) ∧ Kept b (b.tell (flag, now)) := by
  cases flag with
  | true =>
      show Settled true (b.onRemoteErrorFlagSet now) ∧
        Kept b (b.onRemoteErrorFlagSet now)
      unfold onRemoteErrorFlagSet
      simp only
      split
      · refine ⟨⟨rfl, ?_, fun h => by cases h⟩, ⟨rfl, rfl, rfl, rfl, ?_⟩⟩
        · intro _ hclosed
          cases hclosed
        · intro hclosed
          cases hclosed
      · rename_i hkeep
        refine ⟨⟨rfl, ?_, fun h => by cases h⟩, ⟨rfl, rfl, rfl, rfl, ?_⟩⟩
        · intro _ hclosed
          exact lt_of_not_ge fun henough => hkeep ⟨hclosed, henough⟩
        · exact fun hclosed => hclosed
  | false =>
      show Settled false (b.onRemoteErrorFlagCleared now) ∧
        Kept b (b.onRemoteErrorFlagCleared now)
      unfold onRemoteErrorFlagCleared
      simp only
      split
      · refine ⟨⟨rfl, fun h => absurd h Bool.false_ne_true, ?_⟩,
          ⟨rfl, rfl, rfl, rfl, ?_⟩⟩
        · intro _ hopen
          cases hopen
        · intro hclosed
          cases hclosed
      · rename_i hkeep
        exact ⟨⟨rfl, fun h => absurd h Bool.false_ne_true, fun _ => hkeep⟩,
          ⟨rfl, rfl, rfl, rfl, fun hclosed => hclosed⟩⟩

theorem tell_of_settled {b : CircuitBreaker} {flag : Bool}
    (h : Settled flag b) (now : Rat) : b.tell (flag, now) = b := by
  have hflag : { b with remoteErrorFlag := flag } = b := by
    rw [← h.flag_eq]
  cases flag with
  | true =>
      show b.onRemoteErrorFlagSet now = b
      unfold onRemoteErrorFlagSet
      simp only [hflag]
      rw [if_neg]
      rintro ⟨hclosed, henough⟩
      exact absurd (h.tripped rfl hclosed) (not_lt_of_ge henough)
  | false =>
      show b.onRemoteErrorFlagCleared now = b
      unfold onRemoteErrorFlagCleared
      simp only [hflag]
      rw [if_neg (h.recovering rfl)]

/-!
# Flags in a row
-/

theorem kept_told (b : CircuitBreaker) (told : List (Bool × Rat)) :
    Kept b (told.foldl tell b) := by
  induction told generalizing b with
  | nil => exact Kept.refl b
  | cons flag told ih =>
      exact (b.settled_tell flag.1 flag.2).2.trans (ih (b.tell flag))

/-- The last flag of a row decides. -/
theorem settled_told (b : CircuitBreaker) {told : List (Bool × Rat)}
    {before : List Bool} {flag : Bool}
    (h : told.map Prod.fst = before ++ [flag]) :
    Settled flag (told.foldl tell b) := by
  rcases List.map_eq_append_iff.mp h with ⟨front, back, rfl, _, hback⟩
  rcases List.map_eq_singleton_iff.mp hback with ⟨⟨flag', now⟩, rfl, rfl⟩
  rw [List.foldl_append]
  exact ((front.foldl tell b).settled_tell flag' now).1

theorem told_of_settled {b : CircuitBreaker} {flag : Bool}
    (h : Settled flag b) {told : List (Bool × Rat)}
    (hsame : forall x, x ∈ told.map Prod.fst -> x = flag) :
    told.foldl tell b = b := by
  induction told with
  | nil => rfl
  | cons first told ih =>
      rcases first with ⟨flag', now⟩
      have hfirst : flag' = flag := hsame flag' List.mem_cons_self
      subst hfirst
      rw [List.foldl_cons, tell_of_settled h]
      exact ih fun x hx => hsame x (List.mem_cons_of_mem _ hx)

end CircuitBreaker

namespace CircuitBreakerRegistry

open CircuitBreaker

variable {ω : Type}

/-!
# A whole snapshot
-/

def errorFlag (i : ServiceInstance ω) : Bool :=
  (unpackMetricsPack i.metricsPack).error

/-- The error flags with which the instance of a name is listed. -/
def listedFlags (name : Text) (instances : List (ServiceInstance ω)) :
    List Bool :=
  (instances.filter fun i => decide (instanceId i.ip i.port = name)).map
    errorFlag

def toldAt (name : Text) (listed : ServiceInstance ω × Rat) :
    List (Bool × Rat) :=
  if instanceId listed.1.ip listed.1.port = name then
    [(errorFlag listed.1, listed.2)]
  else []

theorem map_fst_toldAt (name : Text) (clock : Nat -> Rat)
    (instances : List (ServiceInstance ω)) :
    ((readings clock instances).flatMap (toldAt name)).map Prod.fst =
      listedFlags name instances := by
  unfold readings listedFlags
  generalize 0 = start
  induction instances generalizing start with
  | nil => rfl
  | cons i instances ih =>
      rw [List.zipIdx_cons, List.map_cons, List.flatMap_cons, List.map_append,
        ih, toldAt]
      by_cases hname : instanceId i.ip i.port = name
      · rw [if_pos hname, List.filter_cons_of_pos (by simpa using hname)]
        rfl
      · rw [if_neg hname, List.filter_cons_of_neg (by simpa using hname)]
        rfl

theorem foldl_map_tell (breaker : Option CircuitBreaker)
    (told : List (Bool × Rat)) :
    told.foldl (fun breaker flag => breaker.map fun b => b.tell flag) breaker =
      breaker.map fun b => told.foldl tell b := by
  induction told generalizing breaker with
  | nil => cases breaker <;> rfl
  | cons flag told ih =>
      rw [List.foldl_cons, ih]
      cases breaker <;> rfl

theorem breakerOf_pushed (r : CircuitBreakerRegistry) (clock : Nat -> Rat)
    (snapshot : ServiceSnapshot ω) (name : Text) :
    breakerOf name (r.onServiceSnapshotUpdated clock (some snapshot)) =
      (breakerOf name r).map fun b =>
        ((readings clock snapshot.instances).flatMap (toldAt name)).foldl
          tell b := by
  rw [← foldl_map_tell]
  apply foldl_decomposes
  intro r listed name
  unfold onInstanceUpdated toldAt
  rw [breakerOf_onBreaker]
  by_cases hname : instanceId listed.1.ip listed.1.port = name
  · rw [if_pos hname, if_pos hname]
    rfl
  · rw [if_neg hname, if_neg hname]
    rfl

theorem mem_listedFlags {name : Text} {instances : List (ServiceInstance ω)}
    {flag : Bool} :
    flag ∈ listedFlags name instances <->
      exists i, i ∈ instances ∧ instanceId i.ip i.port = name ∧
        errorFlag i = flag := by
  unfold listedFlags
  constructor
  · intro h
    rcases List.mem_map.mp h with ⟨i, hi, hflag⟩
    rcases List.mem_filter.mp hi with ⟨hmem, hname⟩
    exact ⟨i, hmem, of_decide_eq_true hname, hflag⟩
  · rintro ⟨i, hmem, hname, hflag⟩
    exact List.mem_map.mpr
      ⟨i, List.mem_filter.mpr ⟨hmem, decide_eq_true hname⟩, hflag⟩

/--
A pushed snapshot creates no breaker and leaves those alone that it does not
list.  A listed breaker ends in accord with the flag of its last listing, with
its counters kept.  A snapshot that lists no instance with both flags can be
delivered again, at any readings, without any effect.
-/
theorem push_settles (r : CircuitBreakerRegistry) (clock : Nat -> Rat)
    (snapshot : ServiceSnapshot ω) :
    (forall name, breakerOf name r = none ->
      breakerOf name (r.onServiceSnapshotUpdated clock (some snapshot)) =
        none) ∧
    (forall name, (forall i, i ∈ snapshot.instances ->
        instanceId i.ip i.port ≠ name) ->
      breakerOf name (r.onServiceSnapshotUpdated clock (some snapshot)) =
        breakerOf name r) ∧
    (forall name b before flag, breakerOf name r = some b ->
      listedFlags name snapshot.instances = before ++ [flag] ->
        exists b',
          breakerOf name (r.onServiceSnapshotUpdated clock (some snapshot)) =
              some b' ∧ Settled flag b' ∧ Kept b b') ∧
    ((forall i j, i ∈ snapshot.instances -> j ∈ snapshot.instances ->
        instanceId i.ip i.port = instanceId j.ip j.port ->
          errorFlag i = errorFlag j) ->
      forall clock' name,
        breakerOf name ((r.onServiceSnapshotUpdated clock (some snapshot))
            |>.onServiceSnapshotUpdated clock' (some snapshot)) =
          breakerOf name
            (r.onServiceSnapshotUpdated clock (some snapshot))) := by
  refine ⟨?_, ?_, ?_, ?_⟩
  · intro name hnone
    rw [breakerOf_pushed, hnone]
    rfl
  · intro name hunlisted
    have hnothing : listedFlags name snapshot.instances = [] := by
      rw [List.eq_nil_iff_forall_not_mem]
      intro flag hflag
      rcases mem_listedFlags.mp hflag with ⟨i, hi, hname, _⟩
      exact hunlisted i hi hname
    rw [← map_fst_toldAt name clock, List.map_eq_nil_iff] at hnothing
    rw [breakerOf_pushed, hnothing]
    cases breakerOf name r <;> rfl
  · intro name b before flag hb hlast
    refine ⟨_, by rw [breakerOf_pushed, hb]; rfl, ?_, b.kept_told _⟩
    rw [← map_fst_toldAt name clock] at hlast
    exact b.settled_told hlast
  · intro hconsistent clock' name
    rw [breakerOf_pushed _ clock', breakerOf_pushed]
    cases hb : breakerOf name r with
    | none => rfl
    | some b =>
        simp only [Option.map_some, Option.some.injEq]
        rcases List.eq_nil_or_concat' (listedFlags name snapshot.instances)
          with hnothing | ⟨before, flag, hlast⟩
        · rw [← map_fst_toldAt name clock', List.map_eq_nil_iff] at hnothing
          rw [hnothing]
          rfl
        · have hsettled := hlast
          rw [← map_fst_toldAt name clock] at hsettled
          apply told_of_settled (b.settled_told hsettled)
          rw [map_fst_toldAt]
          intro x hx
          have hflag : flag ∈ listedFlags name snapshot.instances := by
            rw [hlast]
            exact List.mem_append_right before List.mem_cons_self
          rcases mem_listedFlags.mp hx with ⟨i, hi, hiname, hix⟩
          rcases mem_listedFlags.mp hflag with ⟨j, hj, hjname, hjflag⟩
          rw [← hix, ← hjflag]
          exact hconsistent i j hi hj (hiname.trans hjname.symm)

end CircuitBreakerRegistry

end Resilience
end Hmmp
