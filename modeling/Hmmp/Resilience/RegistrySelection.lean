import Hmmp.Resilience.LoadBalancerPermits
import Hmmp.Resilience.WeightedSelection

/-!
# Selection behind a registry

A test of the registry spends permits, so an instance that is listed twice may
be refused the second time, and refused ones are tested again.  The selection
still returns an instance of the best tier that the breakers had before it.
-/

namespace Hmmp
namespace Resilience

open Foundation
open Models

/-- Whether the breaker of an instance admits a call now. -/
def CircuitBreakerRegistry.admits (r : CircuitBreakerRegistry) (now : Rat)
    (host : Text) (port : Nat) : Bool :=
  (r.isInstanceAvailable now host port).1

variable {r : CircuitBreakerRegistry} {now : Rat}

theorem availableBy_admits (r : CircuitBreakerRegistry) (now : Rat)
    (i : Instance) :
    AvailableBy (r.admits now) i <->
      r.answerAfter now [] (address i) = true := by
  have hanswer := (CircuitBreakerRegistry.isInstanceAvailable_after
    (CircuitBreakerRegistry.after_nil now r) i.ip i.port).1
  unfold AvailableBy CircuitBreakerRegistry.admits
  rw [hanswer]
  rfl

/-- A test spends permits and never gives any back. -/
theorem answerAfter_first {tested : List Text} {id : Text}
    (h : r.answerAfter now tested id = true) :
    r.answerAfter now [] id = true := by
  unfold CircuitBreakerRegistry.answerAfter at h ⊢
  cases hheld : r.breakers.get? id with
  | none => rfl
  | some b =>
      rw [hheld] at h
      simp only [CircuitBreaker.answerAfter] at h ⊢
      cases hstate : b.state with
      | closed => rfl
      | open_ | halfOpen =>
          simp only [hstate, decide_eq_true_eq] at h
          rw [List.count_nil]
          exact decide_eq_true ⟨h.1, by omega⟩

theorem answerAfter_untested {tested : List Text} {id : Text}
    (h : id ∉ tested) :
    r.answerAfter now tested id = r.answerAfter now [] id := by
  unfold CircuitBreakerRegistry.answerAfter
  rw [List.count_eq_zero_of_not_mem h, List.count_nil]

theorem mem_available {tested : List Text} {instances : List Instance}
    {i : Instance} (h : i ∈ available r now tested instances) :
    i ∈ instances ∧ AvailableBy (r.admits now) i := by
  induction instances generalizing tested with
  | nil => cases h
  | cons first rest ih =>
      unfold available at h
      split at h
      · rename_i hanswer
        rcases List.mem_cons.mp h with rfl | hrest
        · exact ⟨List.mem_cons_self,
            (availableBy_admits r now i).mpr (answerAfter_first hanswer)⟩
        · exact ⟨List.mem_cons_of_mem first (ih hrest).1, (ih hrest).2⟩
      · exact ⟨List.mem_cons_of_mem first (ih h).1, (ih h).2⟩

theorem available_ne_nil {tested : List Text} {instances : List Instance}
    {j : Instance} (hj : j ∈ instances) (hnew : address j ∉ tested)
    (havailable : AvailableBy (r.admits now) j) :
    available r now tested instances ≠ [] := by
  induction instances generalizing tested with
  | nil => cases hj
  | cons first rest ih =>
      unfold available
      split
      · exact List.cons_ne_nil _ _
      · rename_i hrefused
        -- The one that was refused is another instance.
        have hother : address j ≠ address first := by
          intro hsame
          rw [← hsame, answerAfter_untested hnew] at hrefused
          exact hrefused ((availableBy_admits r now j).mp havailable)
        rcases List.mem_cons.mp hj with rfl | hrest
        · exact absurd rfl hother
        · apply ih hrest
          intro hmem
          rcases List.mem_append.mp hmem with hbefore | hlast
          · exact hnew hbefore
          · exact hother (List.mem_singleton.mp hlast)

theorem mem_of_drawn {draw : RandomDraw} {instances : List Instance}
    {i : Instance} (h : Drawn draw instances i) : i ∈ instances :=
  select_mem ((select_eq_some_iff draw instances i).mpr h)

theorem healthyPass_ne_nil {instances : List Instance}
    (h : exists j, j ∈ instances ∧ j.healthy = true ∧
      AvailableBy (r.admits now) j) :
    available r now [] (healthyOf instances) ≠ [] := by
  rcases h with ⟨j, hj, hhealthy, havailable⟩
  have hmem : j ∈ healthyOf instances := List.mem_filter.mpr ⟨hj, hhealthy⟩
  exact available_ne_nil hmem List.not_mem_nil havailable

theorem secondPass_ne_nil {instances : List Instance}
    (hpass : available r now [] (healthyOf instances) = [])
    (h : exists j, j ∈ instances ∧ AvailableBy (r.admits now) j) :
    available r now ((healthyOf instances).map address) instances ≠ [] := by
  rcases h with ⟨j, hj, havailable⟩
  refine available_ne_nil hj ?_ havailable
  intro htested
  rcases List.mem_map.mp htested with ⟨k, hk, haddress⟩
  have hsame : AvailableBy (r.admits now) k := by
    rw [availableBy_admits, haddress]
    exact (availableBy_admits r now j).mp havailable
  exact available_ne_nil hk List.not_mem_nil hsame hpass

theorem bestTier_of_pointedAt {draw : RandomDraw} {instances : List Instance}
    {i : Instance} (h : PointedAt r now draw instances i) :
    BestTier (r.admits now) instances i := by
  unfold PointedAt contenders at h
  cases hpass : available r now [] (healthyOf instances) with
  | cons first rest =>
      simp only [hpass] at h
      have hfound : i ∈ available r now [] (healthyOf instances) := by
        rw [hpass]
        exact mem_of_drawn h
      rcases mem_available hfound with ⟨hmem, havailable⟩
      rcases List.mem_filter.mp hmem with ⟨hlisted, hhealthy⟩
      exact
        { listed := hlisted
          healthy := fun _ => ⟨hhealthy, havailable⟩
          available := fun _ => havailable
          first := fun hnone => absurd havailable (hnone i hlisted) }
  | nil =>
      have hsick : ¬ exists j, j ∈ instances ∧ j.healthy = true ∧
          AvailableBy (r.admits now) j :=
        fun hsome => healthyPass_ne_nil hsome hpass
      simp only [hpass] at h
      cases hall : available r now ((healthyOf instances).map address)
          instances with
      | cons first rest =>
          simp only [hall] at h
          have hfound : i ∈ available r now
              ((healthyOf instances).map address) instances := by
            rw [hall]
            exact mem_of_drawn h
          rcases mem_available hfound with ⟨hlisted, havailable⟩
          exact
            { listed := hlisted
              healthy := fun hsome => absurd hsome hsick
              available := fun _ => havailable
              first := fun hnone => absurd havailable (hnone i hlisted) }
      | nil =>
          simp only [hall] at h
          have hnone : ¬ exists j, j ∈ instances ∧
              AvailableBy (r.admits now) j :=
            fun hsome => secondPass_ne_nil hpass hsome hall
          exact
            { listed := List.mem_of_mem_head? h
              healthy := fun hsome => absurd hsome hsick
              available := fun hsome => absurd hsome hnone
              first := fun _ => h }

/--
Behind a registry the selection from a snapshot that is not empty returns an
instance of the best tier: one that is healthy and admitted by its breaker, else
one that is admitted, else the first.  What the breakers would answer is judged
before the selection, whose own tests change them.
-/
theorem registrySelection_bestTier (r : CircuitBreakerRegistry) (now : Rat)
    (draw : RandomDraw) (snapshot : ServiceSnapshot Rat)
    (hsome : snapshot.instances ≠ []) :
    exists i, (registrySelection r now draw snapshot).1 = some i ∧
      BestTier (r.admits now) snapshot.instances i := by
  rcases exists_pointedAt r now draw hsome with ⟨i, hpointed⟩
  exact ⟨i, ((registrySelection_eq r now draw snapshot).1 i).mpr hpointed,
    bestTier_of_pointedAt hpointed⟩

/-- Both instances of the snapshot have a permit left. -/
theorem registrySelection_bestTier_probed :
    exists i, (registrySelection probedRegistry 0 lowestDraw
        probedSnapshot).1 = some i ∧
      BestTier (probedRegistry.admits 0) probedSnapshot.instances i :=
  registrySelection_bestTier probedRegistry 0 lowestDraw probedSnapshot
    (List.cons_ne_nil _ _)

end Resilience
end Hmmp
