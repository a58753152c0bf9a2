import Hmmp.Cache.SnapshotFreshness

/-!
# Convergence of snapshot caches

Pushes may be delivered in any order and more than once.  Caches that have been
offered the same snapshots under a key hold the same one, as long as a topology
version stands for a single snapshot.
-/

namespace Hmmp
namespace Cache

open Foundation
open Models

theorem argmax_map_eq {α β : Type} {f : α -> Nat} {g : β -> Nat} {p : α -> β}
    (hg : forall a, g (p a) = f a) {xs ys : List α}
    (hsame : forall b, b ∈ xs.map p <-> b ∈ ys.map p)
    (hunique : forall b c, b ∈ xs.map p -> c ∈ xs.map p -> g b = g c -> b = c) :
    (xs.argmax f).map p = (ys.argmax f).map p := by
  cases hx : xs.argmax f with
  | none =>
      have hxs : xs = [] := List.argmax_eq_none.mp hx
      have hys : ys = [] := by
        rw [← List.map_eq_nil_iff (f := p), List.eq_nil_iff_forall_not_mem]
        intro b hb
        rw [← hsame, hxs] at hb
        cases hb
      rw [hys]
      rfl
  | some x =>
      have hxmem : p x ∈ xs.map p := List.mem_map_of_mem (List.argmax_mem hx)
      cases hy : ys.argmax f with
      | none =>
          rw [hsame, List.argmax_eq_none.mp hy] at hxmem
          cases hxmem
      | some y =>
          have hymem : p y ∈ ys.map p :=
            List.mem_map_of_mem (List.argmax_mem hy)
          -- Each of the two is among the elements of the other list.
          rcases List.mem_map.mp ((hsame (p x)).mp hxmem) with ⟨x', hx', hpx⟩
          rcases List.mem_map.mp ((hsame (p y)).mpr hymem) with ⟨y', hy', hpy⟩
          have hle : f x <= f y := by
            rw [← hg x, ← hpx, hg]
            exact List.le_of_mem_argmax hx' hy
          have hge : f y <= f x := by
            rw [← hg y, ← hpy, hg]
            exact List.le_of_mem_argmax hy' hx
          have hvalue : g (p x) = g (p y) := by
            rw [hg, hg]
            exact Nat.le_antisymm hle hge
          rw [Option.map_some, Option.map_some,
            hunique (p x) (p y) hxmem ((hsame (p y)).mpr hymem) hvalue]

namespace ServiceSnapshotCache

variable {ω : Type}

/-- The snapshots offered under a key since its last invalidation. -/
def offeredSnapshots (key : Text) (history : List (Operation ω)) :
    List (ServiceSnapshot ω) :=
  (putsUnder key history).map Prod.fst

/-- A version stands for a single snapshot. -/
def VersionsIdentify (snapshots : List (ServiceSnapshot ω)) : Prop :=
  forall s t, s ∈ snapshots -> t ∈ snapshots ->
    s.topologyVersion = t.topologyVersion -> s = t

theorem newest_snapshot_eq {first second : List (Operation ω)} {key : Text}
    (hsame : forall s, s ∈ offeredSnapshots key first <->
      s ∈ offeredSnapshots key second)
    (hversions : VersionsIdentify (offeredSnapshots key first)) :
    (newest key first).map Prod.fst = (newest key second).map Prod.fst :=
  argmax_map_eq (g := ServiceSnapshot.topologyVersion) (fun _ => rfl) hsame
    hversions

/--
Caches that have been offered the same snapshots under a key since they last
invalidated it hold the same snapshot, whatever the order and the repetitions of
the offers; and what they return for a service with this key, before it
expires, is the same.
-/
theorem offers_converge (ttlMs ttlMs' : Int) (first second : List (Operation ω))
    (key : Text)
    (hsame : forall s, s ∈ offeredSnapshots key first <->
      s ∈ offeredSnapshots key second)
    (hversions : VersionsIdentify (offeredSnapshots key first)) :
    (after ttlMs first).cache.get? key = (after ttlMs' second).cache.get? key ∧
    forall (tenant group serviceName : Text) (now now' : Rat)
      (found found' : ServiceSnapshot ω),
      cacheKey tenant group serviceName = key ->
      (after ttlMs first).get tenant group serviceName now = some found ->
      (after ttlMs' second).get tenant group serviceName now' = some found' ->
        found = found' := by
  have hnewest := newest_snapshot_eq hsame hversions
  constructor
  · rw [(after_holds_newest ttlMs first key).1,
      (after_holds_newest ttlMs' second key).1, hnewest]
  · rintro tenant group serviceName now now' found found' rfl hget hget'
    rcases (get_after ttlMs first ..).mp hget with ⟨reading, hheld, _⟩
    rcases (get_after ttlMs' second ..).mp hget' with ⟨reading', hheld', _⟩
    rw [hheld, hheld'] at hnewest
    injection hnewest

def pushOrders (version : Nat) (now : Rat) : Operation Rat :=
  .put (text "t") (text "g") (text "orders")
    { ordersSnapshot with topologyVersion := version } now

/-- One cache hears the second version last, and the other one first and once
more at the end. -/
theorem offers_converge_orders :
    (after 1000 [pushOrders 1 0, pushOrders 2 5]).cache.get?
        (cacheKey (text "t") (text "g") (text "orders")) =
      (after 1000 [pushOrders 2 0, pushOrders 1 5, pushOrders 2 9]).cache.get?
        (cacheKey (text "t") (text "g") (text "orders")) := by
  have hfirst : offeredSnapshots (cacheKey (text "t") (text "g") (text "orders"))
      [pushOrders 1 0, pushOrders 2 5] =
        [{ ordersSnapshot with topologyVersion := 1 },
          { ordersSnapshot with topologyVersion := 2 }] := rfl
  have hsecond :
      offeredSnapshots (cacheKey (text "t") (text "g") (text "orders"))
        [pushOrders 2 0, pushOrders 1 5, pushOrders 2 9] =
        [{ ordersSnapshot with topologyVersion := 2 },
          { ordersSnapshot with topologyVersion := 1 },
          { ordersSnapshot with topologyVersion := 2 }] := rfl
  refine (offers_converge 1000 1000 _ _ _ ?_ ?_).1
  · intro s
    rw [hfirst, hsecond]
    simp only [List.mem_cons, List.not_mem_nil, or_false]
    tauto
  · rw [hfirst]
    intro s t hs ht hversion
    simp only [List.mem_cons, List.not_mem_nil, or_false] at hs ht
    rcases hs with rfl | rfl <;> rcases ht with rfl | rfl
    · rfl
    · cases hversion
    · cases hversion
    · rfl

end ServiceSnapshotCache

end Cache
end Hmmp
