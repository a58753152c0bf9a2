import Hmmp.Cache.SnapshotCache

/-!
# Changes of metadata hashes

Every accepted snapshot brings the metadata hashes of its instances, and the
cache logs each that differs from the one it has seen last under the same
address.  Over a whole history the changes logged for an address are the
neighbours that differ among the hashes accepted for it.
-/

namespace Hmmp
namespace Cache

open Foundation
open Models

/-- A change of a metadata hash, as it is logged. -/
structure HashChange where
  instKey : Text
  previousHash : Nat
  currentHash : Nat
  deriving DecidableEq

namespace ServiceSnapshotCache

variable {ω : Type}

/-- The address under which the hash of an instance is remembered. -/
def instKey (i : ServiceInstance ω) : Text :=
  i.ip ++ text ":" ++ decimal i.port

def hashChange (previousHash : Option Nat) (i : ServiceInstance ω) :
    List HashChange :=
  match previousHash with
  | none => []
  | some previous =>
      if previous ≠ i.metadataHash then
        [{ instKey := instKey i
           previousHash := previous
           currentHash := i.metadataHash }]
      else []

/-- The loop over the instances of a snapshot, with what it logs. -/
def detectChanges : Dict Text Nat -> List (ServiceInstance ω) ->
    List HashChange
  | _, [] => []
  | hashes, i :: rest =>
      hashChange (hashes.get? (instKey i)) i ++
        detectChanges (hashes.set (instKey i) i.metadataHash) rest

/-- The instances a put brings into the cache, none if it is rejected. -/
def acceptedBy (c : ServiceSnapshotCache ω) :
    Operation ω -> List (ServiceInstance ω)
  | .put tenant group serviceName snapshot now =>
      if (c.put tenant group serviceName snapshot now).1 then
        snapshot.instances
      else []
  | .get _ _ _ _ => []
  | .invalidate _ _ _ => []

/-- A cache with what it has accepted and logged so far. -/
structure Record (ω : Type) where
  cache : ServiceSnapshotCache ω
  accepted : List (ServiceInstance ω) := []
  logged : List HashChange := []

def Record.apply (s : Record ω) (operation : Operation ω) : Record ω where
  cache := s.cache.apply operation
  accepted := s.accepted ++ s.cache.acceptedBy operation
  logged := s.logged ++
    detectChanges s.cache.metadataHashCache (s.cache.acceptedBy operation)

/-- The record of a history of operations on a new cache. -/
def recordOf (ttlMs : Int) (history : List (Operation ω)) : Record ω :=
  history.foldl Record.apply { cache := { ttlMs := ttlMs } }

/-- The hashes that instances bring for an address, in order. -/
def hashesOf (key : Text) (instances : List (ServiceInstance ω)) : List Nat :=
  (instances.filter fun i => decide (instKey i = key)).map
    ServiceInstance.metadataHash

def changesOf (key : Text) (logged : List HashChange) : List (Nat × Nat) :=
  (logged.filter fun c => decide (c.instKey = key)).map fun c =>
    (c.previousHash, c.currentHash)

def differingNeighbours (hashes : List Nat) : List (Nat × Nat) :=
  (hashes.zip hashes.tail).filter fun pair => decide (pair.1 ≠ pair.2)

/-!
# Hashes after a first one
-/

/-- The neighbours that differ when a hash stands in front. -/
def changesFrom : Option Nat -> List Nat -> List (Nat × Nat)
  | _, [] => []
  | none, hash :: rest => changesFrom (some hash) rest
  | some previous, hash :: rest =>
      (if previous ≠ hash then [(previous, hash)] else []) ++
        changesFrom (some hash) rest

theorem changesFrom_some (previous : Nat) (hashes : List Nat) :
    changesFrom (some previous) hashes =
      differingNeighbours (previous :: hashes) := by
  induction hashes generalizing previous with
  | nil => rfl
  | cons hash rest ih =>
      rw [changesFrom, ih]
      unfold differingNeighbours
      simp only [List.tail_cons, List.zip_cons_cons, List.filter_cons]
      by_cases hsame : previous = hash
      · simp [hsame]
      · simp [hsame]

theorem changesFrom_none (hashes : List Nat) :
    changesFrom none hashes = differingNeighbours hashes := by
  cases hashes with
  | nil => rfl
  | cons hash rest => exact changesFrom_some hash rest

theorem changesFrom_append (previous : Option Nat) (xs ys : List Nat) :
    changesFrom previous (xs ++ ys) =
      changesFrom previous xs ++ changesFrom (xs.getLast?.or previous) ys := by
  induction xs generalizing previous with
  | nil => rfl
  | cons x xs ih =>
      have hlast : (x :: xs).getLast?.or previous =
          xs.getLast?.or (some x) := by
        rw [List.getLast?_cons]
        cases xs.getLast? <;> rfl
      rw [hlast]
      cases previous with
      | none => exact ih (some x)
      | some p =>
          rw [List.cons_append, changesFrom, changesFrom, ih, List.append_assoc]

/-!
# One loop
-/

theorem hashesOf_cons (key : Text) (i : ServiceInstance ω)
    (rest : List (ServiceInstance ω)) :
    hashesOf key (i :: rest) =
      if instKey i = key then i.metadataHash :: hashesOf key rest
      else hashesOf key rest := by
  unfold hashesOf
  by_cases hkey : instKey i = key
  · rw [if_pos hkey, List.filter_cons_of_pos (by simpa using hkey)]
    rfl
  · rw [if_neg hkey, List.filter_cons_of_neg (by simpa using hkey)]

theorem changesOf_append (key : Text) (first second : List HashChange) :
    changesOf key (first ++ second) =
      changesOf key first ++ changesOf key second := by
  unfold changesOf
  rw [List.filter_append, List.map_append]

theorem changesOf_hashChange (key : Text) (previousHash : Option Nat)
    (i : ServiceInstance ω) :
    changesOf key (hashChange previousHash i) =
      if instKey i = key then changesFrom previousHash [i.metadataHash]
      else [] := by
  cases previousHash with
  | none =>
      by_cases hkey : instKey i = key
      · rw [if_pos hkey]
        rfl
      · rw [if_neg hkey]
        rfl
  | some previous =>
      unfold hashChange changesOf
      by_cases hsame : previous = i.metadataHash
      · simp [hsame, changesFrom]
      · by_cases hkey : instKey i = key
        · simp [hsame, hkey, changesFrom]
        · simp [hsame, hkey]

theorem detectChanges_eq (hashes : Dict Text Nat)
    (instances : List (ServiceInstance ω)) (key : Text) :
    changesOf key (detectChanges hashes instances) =
      changesFrom (hashes.get? key) (hashesOf key instances) := by
  induction instances generalizing hashes with
  | nil => rfl
  | cons i rest ih =>
      rw [detectChanges, changesOf_append, changesOf_hashChange, ih,
        hashesOf_cons, Dict.get?_set]
      by_cases hkey : instKey i = key
      · rw [if_pos hkey, if_pos hkey, if_pos hkey.symm, hkey]
        cases hashes.get? key with
        | none => rfl
        | some previous => simp [changesFrom]
      · rw [if_neg hkey, if_neg hkey, if_neg fun h => hkey h.symm]
        rfl

theorem remembered_eq (hashes : Dict Text Nat)
    (snapshot : ServiceSnapshot ω) (key : Text) :
    (detectMetadataHashChanges hashes snapshot).get? key =
      (hashesOf key snapshot.instances).getLast?.or (hashes.get? key) := by
  show (snapshot.instances.foldl
    (fun acc i => acc.set (instKey i) i.metadataHash) hashes).get? key = _
  induction snapshot.instances generalizing hashes with
  | nil => rfl
  | cons i rest ih =>
      rw [List.foldl_cons, ih, hashesOf_cons, Dict.get?_set]
      by_cases hkey : instKey i = key
      · rw [if_pos hkey, if_pos hkey.symm, List.getLast?_cons]
        cases (hashesOf key rest).getLast? <;> rfl
      · rw [if_neg hkey, if_neg]
        exact fun h => hkey h.symm

/-!
# Histories
-/

theorem apply_remembered (c : ServiceSnapshotCache ω)
    (operation : Operation ω) (key : Text) :
    (c.apply operation).metadataHashCache.get? key =
      (hashesOf key (c.acceptedBy operation)).getLast?.or
        (c.metadataHashCache.get? key) := by
  cases operation with
  | put tenant group serviceName snapshot now =>
      cases hstale : c.stale (cacheKey tenant group serviceName) snapshot with
      | true =>
          simp [apply, acceptedBy, put, hstale, hashesOf]
      | false =>
          simp only [apply, acceptedBy, put, hstale, if_true,
            Bool.false_eq_true, if_false]
          exact remembered_eq c.metadataHashCache snapshot key
  | get tenant group serviceName now => rfl
  | invalidate tenant group serviceName => rfl

theorem recordOf_concat (ttlMs : Int) (history : List (Operation ω))
    (operation : Operation ω) :
    recordOf ttlMs (history ++ [operation]) =
      (recordOf ttlMs history).apply operation := by
  simp [recordOf]

/--
After every history of operations on a snapshot cache, the changes logged for an
address are exactly the neighbours that differ among the hashes which accepted
snapshots have brought for it, in order, and the hash remembered is the last of
them: rejected snapshots and invalidations neither log nor forget anything.
-/
theorem logged_history (ttlMs : Int) (history : List (Operation ω)) :
    (recordOf ttlMs history).cache = after ttlMs history ∧
    forall key,
      changesOf key (recordOf ttlMs history).logged =
          differingNeighbours
            (hashesOf key (recordOf ttlMs history).accepted) ∧
        (after ttlMs history).metadataHashCache.get? key =
          (hashesOf key (recordOf ttlMs history).accepted).getLast? := by
  induction history using List.reverseRecOn with
  | nil => exact ⟨rfl, fun key => ⟨rfl, rfl⟩⟩
  | append_singleton history operation ih =>
      rcases ih with ⟨hcache, hkeys⟩
      rw [recordOf_concat, after_concat]
      generalize recordOf ttlMs history = s at hcache hkeys
      rw [← hcache] at hkeys ⊢
      refine ⟨rfl, fun key => ?_⟩
      rcases hkeys key with ⟨hlogged, hlast⟩
      have haccepted : hashesOf key (s.apply operation).accepted =
          hashesOf key s.accepted ++
            hashesOf key (s.cache.acceptedBy operation) := by
        simp [Record.apply, hashesOf]
      constructor
      · rw [haccepted, ← changesFrom_none, changesFrom_append,
          changesFrom_none, ← hlogged, Option.or_none, ← hlast]
        show changesOf key (s.logged ++ _) = _
        rw [changesOf_append, detectChanges_eq]
      · rw [haccepted, apply_remembered, hlast, List.getLast?_append]

end ServiceSnapshotCache

end Cache
end Hmmp
