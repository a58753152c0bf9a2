import Hmmp.Models.Service

/-!
# The cache of service snapshots

Each key holds the snapshot of the largest topology version put under it and
the clock reading of the put that stored it.  Every operation that looks at the
clock takes its reading, in milliseconds, as an argument.
-/

namespace Hmmp
namespace Cache

open Foundation
open Models

structure ServiceSnapshotCache (ω : Type) where
  cache : Dict Text (ServiceSnapshot ω) := Dict.empty
  fetchTime : Dict Text Rat := Dict.empty
  metadataHashCache : Dict Text Nat := Dict.empty
  ttlMs : Int := 30000

namespace ServiceSnapshotCache

variable {ω : Type}

def cacheKey (tenant group serviceName : Text) : Text :=
  tenant ++ text "+" ++ group ++ text "+" ++ serviceName

/-- The cached snapshot, if it is not expired at the reading. -/
def get (c : ServiceSnapshotCache ω) (tenant group serviceName : Text)
    (now : Rat) : Option (ServiceSnapshot ω) :=
  let key := cacheKey tenant group serviceName
  match c.cache.get? key, c.fetchTime.get? key with
  | some cached, some fetchedAt =>
      if now - fetchedAt < c.ttlMs then some cached else none
  | _, _ => none

/-- The hash of each instance is remembered under its address. -/
def detectMetadataHashChanges (hashes : Dict Text Nat)
    (snapshot : ServiceSnapshot ω) : Dict Text Nat :=
  snapshot.instances.foldl
    (fun acc inst =>
      acc.set (inst.ip ++ text ":" ++ decimal inst.port) inst.metadataHash)
    hashes

/-- The guard of {lit}`put`: the topology version does not grow. -/
def stale (c : ServiceSnapshotCache ω) (key : Text)
    (snapshot : ServiceSnapshot ω) : Bool :=
  match c.cache.get? key with
  | some existing =>
      decide (snapshot.topologyVersion <= existing.topologyVersion)
  | none => false

/-- Put a snapshot under the guard of its topology version; the answer tells
whether it was accepted. -/
def put (c : ServiceSnapshotCache ω) (tenant group serviceName : Text)
    (snapshot : ServiceSnapshot ω) (now : Rat) :
    Bool × ServiceSnapshotCache ω :=
  let key := cacheKey tenant group serviceName
  if c.stale key snapshot then
    (false, c)
  else
    (true,
      { c with
        cache := c.cache.set key snapshot
        fetchTime := c.fetchTime.set key now
        metadataHashCache :=
          detectMetadataHashChanges c.metadataHashCache snapshot })

def invalidate (c : ServiceSnapshotCache ω)
    (tenant group serviceName : Text) : ServiceSnapshotCache ω :=
  let key := cacheKey tenant group serviceName
  { c with cache := c.cache.pop key, fetchTime := c.fetchTime.pop key }

/-!
# Histories
-/

inductive Operation (ω : Type) where
  | put (tenant group serviceName : Text) (snapshot : ServiceSnapshot ω)
      (now : Rat)
  | get (tenant group serviceName : Text) (now : Rat)
  | invalidate (tenant group serviceName : Text)

def apply (c : ServiceSnapshotCache ω) :
    Operation ω -> ServiceSnapshotCache ω
  | .put tenant group serviceName snapshot now =>
      (c.put tenant group serviceName snapshot now).2
  | .get _ _ _ _ => c
  | .invalidate tenant group serviceName =>
      c.invalidate tenant group serviceName

/-- The cache after a history of operations on a new one. -/
def after (ttlMs : Int) (history : List (Operation ω)) :
    ServiceSnapshotCache ω :=
  history.foldl apply { ttlMs := ttlMs }

/-!
# What an operation does to one entry

An entry is the snapshot under a key together with its fetch time; the two are
always set and removed together.
-/

def Holds (c : ServiceSnapshotCache ω) (key : Text)
    (entry : Option (ServiceSnapshot ω × Rat)) : Prop :=
  c.cache.get? key = entry.map Prod.fst ∧
    c.fetchTime.get? key = entry.map Prod.snd

def raised (snapshot : ServiceSnapshot ω) (now : Rat) :
    Option (ServiceSnapshot ω × Rat) -> ServiceSnapshot ω × Rat
  | none => (snapshot, now)
  | some entry =>
      if snapshot.topologyVersion <= entry.1.topologyVersion then
        entry
      else
        (snapshot, now)

theorem get_of_holds {c : ServiceSnapshotCache ω}
    {tenant group serviceName : Text}
    {entry : Option (ServiceSnapshot ω × Rat)}
    (h : c.Holds (cacheKey tenant group serviceName) entry) (now : Rat) :
    c.get tenant group serviceName now =
      (entry.filter fun e => decide (now - e.2 < c.ttlMs)).map Prod.fst := by
  simp only [get, h.1, h.2]
  cases entry with
  | none => rfl
  | some e =>
      by_cases hfresh : now - e.2 < c.ttlMs <;> simp [Option.filter, hfresh]

theorem holds_new (ttlMs : Int) (key : Text) :
    ({ ttlMs := ttlMs } : ServiceSnapshotCache ω).Holds key none :=
  ⟨rfl, rfl⟩

theorem holds_put_self {c : ServiceSnapshotCache ω}
    {tenant group serviceName : Text}
    {entry : Option (ServiceSnapshot ω × Rat)}
    (h : c.Holds (cacheKey tenant group serviceName) entry)
    (snapshot : ServiceSnapshot ω) (now : Rat) :
    (c.put tenant group serviceName snapshot now).2.Holds
      (cacheKey tenant group serviceName)
      (some (raised snapshot now entry)) := by
  rcases h with ⟨hcache, hfetch⟩
  cases entry with
  | none =>
      have hnew : c.stale (cacheKey tenant group serviceName) snapshot =
          false := by
        simp [stale, hcache]
      simp [put, hnew, raised, Holds, Dict.get?_set_self]
  | some e =>
      have hguard : c.stale (cacheKey tenant group serviceName) snapshot =
          decide (snapshot.topologyVersion <= e.1.topologyVersion) := by
        simp [stale, hcache]
      by_cases hstale : snapshot.topologyVersion <= e.1.topologyVersion
      · simp [put, hguard, hcache, hfetch, hstale, raised, Holds]
      · simp [put, hguard, hstale, raised, Holds, Dict.get?_set_self]

theorem holds_put_of_ne {c : ServiceSnapshotCache ω} {key : Text}
    {tenant group serviceName : Text}
    {entry : Option (ServiceSnapshot ω × Rat)} (h : c.Holds key entry)
    (hkey : cacheKey tenant group serviceName ≠ key)
    (snapshot : ServiceSnapshot ω) (now : Rat) :
    (c.put tenant group serviceName snapshot now).2.Holds key entry := by
  rcases h with ⟨hcache, hfetch⟩
  cases hstale : c.stale (cacheKey tenant group serviceName) snapshot with
  | true =>
      simp only [put, hstale, if_true]
      exact ⟨hcache, hfetch⟩
  | false =>
      simp only [put, hstale]
      constructor
      · exact (Dict.get?_set_of_ne _ _ hkey.symm).trans hcache
      · exact (Dict.get?_set_of_ne _ _ hkey.symm).trans hfetch

theorem holds_invalidate_self (c : ServiceSnapshotCache ω)
    (tenant group serviceName : Text) :
    (c.invalidate tenant group serviceName).Holds
      (cacheKey tenant group serviceName) none :=
  ⟨Dict.get?_pop_self _ _, Dict.get?_pop_self _ _⟩

theorem holds_invalidate_of_ne {c : ServiceSnapshotCache ω} {key : Text}
    {tenant group serviceName : Text}
    {entry : Option (ServiceSnapshot ω × Rat)} (h : c.Holds key entry)
    (hkey : cacheKey tenant group serviceName ≠ key) :
    (c.invalidate tenant group serviceName).Holds key entry :=
  ⟨(Dict.get?_pop_of_ne _ hkey.symm).trans h.1,
    (Dict.get?_pop_of_ne _ hkey.symm).trans h.2⟩

theorem apply_ttlMs (c : ServiceSnapshotCache ω) (operation : Operation ω) :
    (c.apply operation).ttlMs = c.ttlMs := by
  cases operation with
  | put tenant group serviceName snapshot now =>
      cases hstale : c.stale (cacheKey tenant group serviceName) snapshot <;>
        simp [apply, put, hstale]
  | get tenant group serviceName now => rfl
  | invalidate tenant group serviceName => rfl

theorem after_concat (ttlMs : Int) (history : List (Operation ω))
    (operation : Operation ω) :
    after ttlMs (history ++ [operation]) =
      (after ttlMs history).apply operation := by
  simp [after]

theorem after_ttlMs (ttlMs : Int) (history : List (Operation ω)) :
    (after ttlMs history).ttlMs = ttlMs := by
  induction history using List.reverseRecOn with
  | nil => rfl
  | append_singleton history operation ih =>
      rw [after_concat, apply_ttlMs, ih]

end ServiceSnapshotCache

end Cache
end Hmmp
