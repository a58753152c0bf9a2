import Hmmp.Cache.SnapshotFreshness

/-!
# The guard of topology versions

The version held under a key is the largest one offered since the key was last
invalidated; a put is accepted exactly when it exceeds all of them, and a
rejected put leaves every map of the cache as it is.
-/

namespace Hmmp
namespace Cache

open Foundation
open Models

namespace ServiceSnapshotCache

variable {ω : Type}

def heldVersion (c : ServiceSnapshotCache ω) (key : Text) : Option Nat :=
  (c.cache.get? key).map ServiceSnapshot.topologyVersion

/-- The versions offered under a key since its last invalidation. -/
def offered (key : Text) (history : List (Operation ω)) : List Nat :=
  (putsUnder key history).map version

theorem heldVersion_of_holds {c : ServiceSnapshotCache ω} {key : Text}
    {entry : Option (ServiceSnapshot ω × Rat)} (h : c.Holds key entry) :
    c.heldVersion key = entry.map version := by
  rw [heldVersion, h.1, Option.map_map]
  rfl

/-- The version of the newest put is the largest one offered. -/
theorem newest_version (key : Text) (history : List (Operation ω)) :
    (newest key history).map version = (offered key history).max? := by
  cases hnewest : newest key history with
  | none =>
      have hnothing : putsUnder key history = [] :=
        List.argmax_eq_none.mp hnewest
      simp [offered, hnothing]
  | some entry =>
      symm
      rw [Option.map_some, List.max?_eq_some_iff]
      constructor
      · exact List.mem_map_of_mem (List.argmax_mem hnewest)
      · intro v hv
        rcases List.mem_map.mp hv with ⟨put, hput, rfl⟩
        exact version_le_newest hput hnewest

theorem after_heldVersion (ttlMs : Int) (history : List (Operation ω))
    (key : Text) :
    (after ttlMs history).heldVersion key = (offered key history).max? := by
  rw [heldVersion_of_holds (after_holds_newest ttlMs history key),
    newest_version]

/-!
# One put
-/

theorem put_answer (c : ServiceSnapshotCache ω)
    (tenant group serviceName : Text) (snapshot : ServiceSnapshot ω)
    (now : Rat) :
    (c.put tenant group serviceName snapshot now).1 =
      !c.stale (cacheKey tenant group serviceName) snapshot := by
  cases hstale : c.stale (cacheKey tenant group serviceName) snapshot <;>
    simp [put, hstale]

theorem put_accepted_iff (c : ServiceSnapshotCache ω)
    (tenant group serviceName : Text) (snapshot : ServiceSnapshot ω)
    (now : Rat) :
    (c.put tenant group serviceName snapshot now).1 = true <->
      forall v, c.heldVersion (cacheKey tenant group serviceName) = some v ->
        v < snapshot.topologyVersion := by
  rw [put_answer]
  cases hcache : c.cache.get? (cacheKey tenant group serviceName) with
  | none => simp [stale, heldVersion, hcache]
  | some existing => simp [stale, heldVersion, hcache]

theorem put_heldVersion {c : ServiceSnapshotCache ω}
    {tenant group serviceName : Text} {snapshot : ServiceSnapshot ω}
    {now : Rat}
    (h : (c.put tenant group serviceName snapshot now).1 = true) :
    (c.put tenant group serviceName snapshot now).2.heldVersion
        (cacheKey tenant group serviceName) =
      some snapshot.topologyVersion := by
  have hfresh : c.stale (cacheKey tenant group serviceName) snapshot =
      false := by
    simpa [put_answer] using h
  simp [put, hfresh, heldVersion, Dict.get?_set_self]

theorem put_of_rejected {c : ServiceSnapshotCache ω}
    {tenant group serviceName : Text} {snapshot : ServiceSnapshot ω}
    {now : Rat}
    (h : (c.put tenant group serviceName snapshot now).1 = false) :
    (c.put tenant group serviceName snapshot now).2 = c := by
  have hstale : c.stale (cacheKey tenant group serviceName) snapshot =
      true := by
    simpa [put_answer] using h
  simp [put, hstale]

theorem exceeds_all_iff {versions : List Nat} {n : Nat} :
    (forall v, versions.max? = some v -> v < n) <->
      forall v, v ∈ versions -> v < n := by
  constructor
  · intro h v hv
    cases hmax : versions.max? with
    | none =>
        rw [List.max?_eq_none_iff.mp hmax] at hv
        cases hv
    | some top =>
        have hle : v <= top := (List.max?_eq_some_iff.mp hmax).2 v hv
        exact Nat.lt_of_le_of_lt hle (h top hmax)
  · intro h v hmax
    exact h v (List.max?_eq_some_iff.mp hmax).1

/--
After every history each key holds the largest version offered since its last
invalidation.  The next put is accepted exactly when its version exceeds all of
these, and then raises the version held; a rejected put changes nothing.
-/
theorem topology_guarded (ttlMs : Int) (history : List (Operation ω)) :
    (forall key, (after ttlMs history).heldVersion key =
      (offered key history).max?) ∧
    forall (tenant group serviceName : Text) (snapshot : ServiceSnapshot ω)
      (now : Rat),
      ((((after ttlMs history).put tenant group serviceName snapshot
          now).1 = true) <->
        forall v, v ∈ offered (cacheKey tenant group serviceName) history ->
          v < snapshot.topologyVersion) ∧
      (((after ttlMs history).put tenant group serviceName snapshot
          now).1 = true ->
        ((after ttlMs history).put tenant group serviceName snapshot
            now).2.heldVersion (cacheKey tenant group serviceName) =
          some snapshot.topologyVersion ∧
        forall v, (after ttlMs history).heldVersion
            (cacheKey tenant group serviceName) = some v ->
          v < snapshot.topologyVersion) ∧
      (((after ttlMs history).put tenant group serviceName snapshot
          now).1 = false ->
        ((after ttlMs history).put tenant group serviceName snapshot
            now).2 = after ttlMs history) := by
  refine ⟨after_heldVersion ttlMs history, ?_⟩
  intro tenant group serviceName snapshot now
  refine ⟨?_, ?_, put_of_rejected⟩
  · rw [put_accepted_iff, after_heldVersion, exceeds_all_iff]
  · intro haccepted
    exact ⟨put_heldVersion haccepted, (put_accepted_iff ..).mp haccepted⟩

end ServiceSnapshotCache

end Cache
end Hmmp
