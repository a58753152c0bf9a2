import Mathlib.Order.Interval.Set.OrdConnected
import Mathlib.Tactic.NormNum
import Hmmp.Resilience.LoadBalancer

/-!
# Which instance is selected

The draws for which the weighted loop stops at a healthy instance form an
interval whose length is the share of its weight.  Behind an availability test
that changes nothing the selection is made from the best tier there is.
-/

namespace Hmmp
namespace Resilience

open Foundation
open Models

/-!
# Shares
-/

/-- The draws at which the loop over the healthy instances stops at the
{lit}`k`-th of them. -/
def drawsOf (instances : List Instance) (k : Nat) : Set Rat :=
  fun u => 0 <= u ∧ u < 1 ∧ StopsAt computeEffectiveWeight
    (u * healthyWeight instances) (instances.filter (·.healthy)) k

/-- The part of the total weight that the first healthy instances have. -/
def shareOfFirst (instances : List Instance) (k : Nat) : Rat :=
  prefixWeight computeEffectiveWeight (instances.filter (·.healthy)) k /
    healthyWeight instances

variable {instances : List Instance} {draw : RandomDraw} {k : Nat}
variable {i : Instance}

theorem drawn_le_total (draw : RandomDraw)
    (hhealthy : instances.filter (·.healthy) ≠ []) :
    draw.random * healthyWeight instances <= healthyWeight instances :=
  mul_le_of_le_one_left (le_of_lt (healthyWeight_pos hhealthy))
    (le_of_lt draw.lt_one)

theorem exists_drawsOf (draw : RandomDraw)
    (hhealthy : instances.filter (·.healthy) ≠ []) :
    exists k, draw.random ∈ drawsOf instances k := by
  rcases exists_stopsAt hhealthy (drawn_le_total draw hhealthy) with ⟨k, hk⟩
  exact ⟨k, draw.nonneg, draw.lt_one, hk⟩

theorem select_of_drawsOf (hmany : 2 <= instances.length)
    (hi : (instances.filter (·.healthy))[k]? = some i)
    (hdraw : draw.random ∈ drawsOf instances k) :
    select draw instances = some i := by
  have hhealthy : instances.filter (·.healthy) ≠ [] := by
    intro hnil
    rw [hnil] at hi
    cases hi
  rw [select_of_healthy draw hmany hhealthy]
  exact pick_of_stopsAt hdraw.2.2 hi

theorem weights_nonneg (instances : List Instance) (j : Instance)
    (_ : j ∈ instances.filter (·.healthy)) : 0 <= computeEffectiveWeight j :=
  le_of_lt (computeEffectiveWeight_pos j)

theorem mem_drawsOf_iff (hi : (instances.filter (·.healthy))[k]? = some i)
    {u : Rat} :
    u ∈ drawsOf instances k <-> (0 <= u ∧ u < 1) ∧
      (k = 0 ∨ shareOfFirst instances k < u) ∧
        u <= shareOfFirst instances (k + 1) := by
  have hlt : k < (instances.filter (·.healthy)).length :=
    (List.getElem?_eq_some_iff.mp hi).1
  have hhealthy : instances.filter (·.healthy) ≠ [] :=
    List.ne_nil_of_length_pos (Nat.zero_lt_of_lt hlt)
  have hpos := healthyWeight_pos hhealthy
  unfold shareOfFirst
  rw [div_lt_iff₀ hpos, le_div_iff₀ hpos,
    ← stopsAt_iff (weights_nonneg instances) hlt, and_assoc]
  rfl

theorem shareOfFirst_succ
    (hi : (instances.filter (·.healthy))[k]? = some i) :
    shareOfFirst instances (k + 1) - shareOfFirst instances k =
      computeEffectiveWeight i / healthyWeight instances := by
  unfold shareOfFirst
  rw [prefixWeight_succ hi, ← sub_div, add_sub_cancel_left]

theorem shareOfFirst_nonneg
    (hhealthy : instances.filter (·.healthy) ≠ []) (k : Nat) :
    0 <= shareOfFirst instances k := by
  have hzero := prefixWeight_mono (weights_nonneg instances) (Nat.zero_le k)
  have hnone : prefixWeight computeEffectiveWeight
      (instances.filter (·.healthy)) 0 = 0 := by
    simp [prefixWeight, totalWeight]
  rw [hnone] at hzero
  exact div_nonneg hzero (le_of_lt (healthyWeight_pos hhealthy))

theorem shareOfFirst_le_one
    (hi : (instances.filter (·.healthy))[k]? = some i) :
    shareOfFirst instances (k + 1) <= 1 := by
  have hlt : k < (instances.filter (·.healthy)).length :=
    (List.getElem?_eq_some_iff.mp hi).1
  have hhealthy : instances.filter (·.healthy) ≠ [] :=
    List.ne_nil_of_length_pos (Nat.zero_lt_of_lt hlt)
  have hall := prefixWeight_mono (weights_nonneg instances)
    (Nat.succ_le_of_lt hlt)
  rw [prefixWeight_length] at hall
  exact (div_le_one (healthyWeight_pos hhealthy)).mpr hall

theorem drawsOf_ordConnected
    (hi : (instances.filter (·.healthy))[k]? = some i) :
    (drawsOf instances k).OrdConnected := by
  constructor
  intro u hu v hv w hw
  rw [mem_drawsOf_iff hi] at hu hv ⊢
  rcases hu with ⟨⟨hnonneg, _⟩, hbefore, _⟩
  rcases hv with ⟨⟨_, hone⟩, _, hreached⟩
  refine ⟨⟨hnonneg.trans hw.1, lt_of_le_of_lt hw.2 hone⟩, ?_,
    hw.2.trans hreached⟩
  exact hbefore.imp_right fun hlt => lt_of_lt_of_le hlt hw.1

/-- The draws for a position fill the interval between two shares, but for its
ends. -/
theorem drawsOf_fill (hi : (instances.filter (·.healthy))[k]? = some i) :
    Set.Ioo (shareOfFirst instances k) (shareOfFirst instances (k + 1)) ⊆
        drawsOf instances k ∧
      drawsOf instances k ⊆
        Set.Icc (shareOfFirst instances k)
          (shareOfFirst instances (k + 1)) := by
  have hhealthy : instances.filter (·.healthy) ≠ [] := by
    intro hnil
    rw [hnil] at hi
    cases hi
  constructor
  · intro u hu
    rw [mem_drawsOf_iff hi]
    exact ⟨⟨(shareOfFirst_nonneg hhealthy k).trans (le_of_lt hu.1),
      lt_of_lt_of_le hu.2 (shareOfFirst_le_one hi)⟩, Or.inr hu.1,
      le_of_lt hu.2⟩
  · intro u hu
    rw [mem_drawsOf_iff hi] at hu
    rcases hu with ⟨⟨hnonneg, _⟩, hbefore, hreached⟩
    refine ⟨?_, hreached⟩
    rcases hbefore with rfl | hlt
    · have hnone : shareOfFirst instances 0 = 0 := by
        simp [shareOfFirst, prefixWeight, totalWeight]
      rw [hnone]
      exact hnonneg
    · exact le_of_lt hlt

theorem drawsOf_of_select (hmany : 2 <= instances.length)
    (hdistinct : (instances.filter (·.healthy)).Nodup)
    (hi : (instances.filter (·.healthy))[k]? = some i)
    (h : select draw instances = some i) :
    draw.random ∈ drawsOf instances k := by
  have hlt : k < (instances.filter (·.healthy)).length :=
    (List.getElem?_eq_some_iff.mp hi).1
  have hhealthy : instances.filter (·.healthy) ≠ [] :=
    List.ne_nil_of_length_pos (Nat.zero_lt_of_lt hlt)
  rcases exists_drawsOf draw hhealthy with ⟨k', hdraw⟩
  have hi' := List.getElem?_eq_some_iff.mpr ⟨hdraw.2.2.1, rfl⟩
  have hselected := select_of_drawsOf hmany hi' hdraw
  rw [h] at hselected
  have hsame : k = k' := by
    apply (List.getElem?_inj hlt hdistinct).mp
    rw [hi, hi', hselected]
  rw [hsame]
  exact hdraw

/--
Weighted selection is exact.  Every draw selects the first healthy instance at
which the cumulative weight reaches the drawn part of the total, and the loop
never runs through.  The draws that stop the loop at a healthy instance select
it, no others do if it is not listed twice, and they form an interval whose
length is the share of its weight.
-/
theorem select_exact (instances : List Instance)
    (hmany : 2 <= instances.length)
    (hhealthy : instances.filter (·.healthy) ≠ []) :
    0 < healthyWeight instances ∧
    (forall draw : RandomDraw, exists k i,
      (instances.filter (·.healthy))[k]? = some i ∧
        StopsAt computeEffectiveWeight
          (draw.random * healthyWeight instances)
          (instances.filter (·.healthy)) k ∧
        select draw instances = some i ∧ i ∈ instances ∧ i.healthy = true ∧
        pick computeEffectiveWeight (draw.random * healthyWeight instances) 0
          (instances.filter (·.healthy)) = some i) ∧
    forall k i, (instances.filter (·.healthy))[k]? = some i ->
      (forall draw : RandomDraw, draw.random ∈ drawsOf instances k ->
        select draw instances = some i) ∧
      ((instances.filter (·.healthy)).Nodup -> forall draw : RandomDraw,
        select draw instances = some i ->
          draw.random ∈ drawsOf instances k) ∧
      (drawsOf instances k).OrdConnected ∧
      Set.Ioo (shareOfFirst instances k) (shareOfFirst instances (k + 1)) ⊆
        drawsOf instances k ∧
      drawsOf instances k ⊆
        Set.Icc (shareOfFirst instances k)
          (shareOfFirst instances (k + 1)) ∧
      shareOfFirst instances (k + 1) - shareOfFirst instances k =
        computeEffectiveWeight i / healthyWeight instances := by
  refine ⟨healthyWeight_pos hhealthy, ?_, ?_⟩
  · intro draw
    rcases exists_drawsOf draw hhealthy with ⟨k, hdraw⟩
    have hi := List.getElem?_eq_some_iff.mpr ⟨hdraw.2.2.1, rfl⟩
    have hmem := List.mem_filter.mp (List.mem_of_getElem? hi)
    have hselected := select_of_drawsOf hmany hi hdraw
    refine ⟨k, _, hi, hdraw.2.2, hselected, hmem.1, hmem.2, ?_⟩
    rw [← select_of_healthy draw hmany hhealthy]
    exact hselected
  · intro k i hi
    refine ⟨fun draw => select_of_drawsOf hmany hi, ?_,
      drawsOf_ordConnected hi, (drawsOf_fill hi).1, (drawsOf_fill hi).2,
      shareOfFirst_succ hi⟩
    intro hdistinct draw
    exact drawsOf_of_select hmany hdistinct hi

def neighbour (port : Nat) : Instance where
  serviceName := []
  ip := []
  port := port
  weight := 1

theorem select_exact_neighbours :
    0 < healthyWeight [neighbour 1, neighbour 2] ∧
      shareOfFirst [neighbour 1, neighbour 2] 1 -
          shareOfFirst [neighbour 1, neighbour 2] 0 =
        computeEffectiveWeight (neighbour 1) /
          healthyWeight [neighbour 1, neighbour 2] :=
  ⟨(select_exact [neighbour 1, neighbour 2] (by decide) (by decide)).1,
    ((select_exact [neighbour 1, neighbour 2] (by decide)
      (by decide)).2.2 0 _ rfl).2.2.2.2.2⟩

/-!
# Tiers

An availability test without side effects is a predicate on addresses.
-/

/-- The test that answers as a predicate does and changes nothing. -/
def pureTest {σ : Type} (p : Text -> Nat -> Bool) : AvailabilityTest σ :=
  fun ip port s => (p ip port, s)

def AvailableBy (p : Text -> Nat -> Bool) (i : Instance) : Prop :=
  p i.ip i.port = true

variable {σ : Type} {p : Text -> Nat -> Bool}

theorem filterAvailable_pure (p : Text -> Nat -> Bool)
    (eligible : Instance -> Bool) (instances : List Instance) (s : σ) :
    filterAvailable (pureTest p) eligible instances s =
      (instances.filter fun i => eligible i && p i.ip i.port, s) := by
  induction instances with
  | nil => rfl
  | cons i rest ih =>
      unfold filterAvailable
      cases heligible : eligible i with
      | false =>
          rw [List.filter_cons_of_neg (by simp [heligible])]
          exact ih
      | true =>
          show (if p i.ip i.port = true then
              i :: (filterAvailable (pureTest p) eligible rest s).1
            else (filterAvailable (pureTest p) eligible rest s).1,
            (filterAvailable (pureTest p) eligible rest s).2) = _
          rw [ih]
          cases havailable : p i.ip i.port with
          | false =>
              rw [List.filter_cons_of_neg (by simp [havailable])]
              rfl
          | true =>
              rw [List.filter_cons_of_pos (by simp [heligible, havailable])]
              rfl

theorem select_mem (h : select draw instances = some i) : i ∈ instances := by
  cases (select_eq_some_iff draw instances i).mp h with
  | only => exact List.mem_singleton.mpr rfl
  | sick => exact List.mem_cons_self
  | weighted hmany hpoints =>
      rcases hpoints with ⟨before, after, hsplit, _⟩
      have hmem : i ∈ instances.filter (·.healthy) := by
        rw [hsplit]
        exact List.mem_append_right _ List.mem_cons_self
      exact List.mem_of_mem_filter hmem

/-- The instance is of the best tier there is: healthy and available, else
available, else the first one. -/
structure BestTier (p : Text -> Nat -> Bool) (instances : List Instance)
    (i : Instance) : Prop where
  listed : i ∈ instances
  healthy : (exists j, j ∈ instances ∧ j.healthy = true ∧ AvailableBy p j) ->
    i.healthy = true ∧ AvailableBy p i
  available : (exists j, j ∈ instances ∧ AvailableBy p j) -> AvailableBy p i
  first : (forall j, j ∈ instances -> ¬ AvailableBy p j) ->
    instances.head? = some i

theorem availableInstances_pure (p : Text -> Nat -> Bool)
    (instances : List Instance) (s : σ) :
    availableInstances (pureTest p) instances s =
      (match instances.filter fun i => i.healthy && p i.ip i.port with
      | [] => instances.filter fun i => p i.ip i.port
      | found => found, s) := by
  unfold availableInstances
  rw [filterAvailable_pure]
  cases hfound : instances.filter fun i => i.healthy && p i.ip i.port with
  | nil =>
      simp only
      rw [filterAvailable_pure]
      simp only [Bool.true_and]
  | cons j rest => rfl

theorem tier_healthy (draw : RandomDraw)
    (hfound : (instances.filter fun i => i.healthy && p i.ip i.port) ≠ []) :
    exists i, select draw
        (instances.filter fun i => i.healthy && p i.ip i.port) = some i ∧
      BestTier p instances i := by
  rcases select_isSome draw hfound with ⟨i, hselected⟩
  have hmem := List.mem_filter.mp (select_mem hselected)
  have hboth := Bool.and_eq_true_iff.mp hmem.2
  refine ⟨i, hselected, hmem.1, fun _ => hboth, fun _ => hboth.2, ?_⟩
  intro hnone
  exact absurd hboth.2 (hnone i hmem.1)

theorem tier_available (draw : RandomDraw)
    (hsick : (instances.filter fun i => i.healthy && p i.ip i.port) = [])
    (hfound : (instances.filter fun i => p i.ip i.port) ≠ []) :
    exists i, select draw (instances.filter fun i => p i.ip i.port) =
        some i ∧ BestTier p instances i := by
  rcases select_isSome draw hfound with ⟨i, hselected⟩
  have hmem := List.mem_filter.mp (select_mem hselected)
  refine ⟨i, hselected, hmem.1, ?_, fun _ => hmem.2, ?_⟩
  · rintro ⟨j, hj, hhealthy, havailable⟩
    have hnone := List.filter_eq_nil_iff.mp hsick j hj
    exact absurd (Bool.and_eq_true_iff.mpr ⟨hhealthy, havailable⟩) hnone
  · intro hnone
    exact absurd hmem.2 (hnone i hmem.1)

theorem tier_first {first : Instance} {others : List Instance}
    (hnone : ((first :: others).filter fun i => p i.ip i.port) = []) :
    BestTier p (first :: others) first := by
  have hunavailable : forall j, j ∈ first :: others -> ¬ AvailableBy p j :=
    fun j hj => List.filter_eq_nil_iff.mp hnone j hj
  refine ⟨List.mem_cons_self, ?_, ?_, fun _ => rfl⟩
  · rintro ⟨j, hj, _, havailable⟩
    exact absurd havailable (hunavailable j hj)
  · rintro ⟨j, hj, havailable⟩
    exact absurd havailable (hunavailable j hj)

/--
Behind an availability test without side effects the selection from a snapshot
that is not empty returns an instance of the best tier.
-/
theorem selectWithCircuitBreaker_bestTier (p : Text -> Nat -> Bool)
    (draw : RandomDraw) (snapshot : ServiceSnapshot Rat) (s : σ)
    (hsome : snapshot.instances ≠ []) :
    exists i, selectWithCircuitBreaker (pureTest p) draw snapshot s =
        (some i, s) ∧ BestTier p snapshot.instances i := by
  unfold selectWithCircuitBreaker
  cases hinstances : snapshot.instances with
  | nil => exact absurd hinstances hsome
  | cons first others =>
      simp only
      rw [availableInstances_pure]
      cases hhealthy :
        (first :: others).filter fun i => i.healthy && p i.ip i.port with
      | cons j rest =>
          have hfound : ((first :: others).filter fun i =>
              i.healthy && p i.ip i.port) ≠ [] := by
            rw [hhealthy]
            exact List.cons_ne_nil j rest
          rcases tier_healthy draw hfound with ⟨i, hselected, htier⟩
          rw [hhealthy] at hselected
          refine ⟨i, ?_, htier⟩
          simp only [hselected]
      | nil =>
          cases havailable :
            (first :: others).filter fun i => p i.ip i.port with
          | cons j rest =>
              have hfound : ((first :: others).filter fun i =>
                  p i.ip i.port) ≠ [] := by
                rw [havailable]
                exact List.cons_ne_nil j rest
              rcases tier_available draw hhealthy hfound with
                ⟨i, hselected, htier⟩
              rw [havailable] at hselected
              refine ⟨i, ?_, htier⟩
              simp only [hselected]
          | nil => exact ⟨first, rfl, tier_first havailable⟩

def middleDraw : RandomDraw where
  random := 1 / 2
  choice := 0
  nonneg := by norm_num
  lt_one := by norm_num

def neighbours : ServiceSnapshot Rat where
  serviceName := []
  topologyVersion := 1
  instances := [neighbour 1, neighbour 2]

theorem selectWithCircuitBreaker_bestTier_neighbours :
    exists i, selectWithCircuitBreaker (pureTest fun _ port => port == 2)
        middleDraw neighbours () = (some i, ()) ∧
      BestTier (fun _ port => port == 2) neighbours.instances i :=
  selectWithCircuitBreaker_bestTier _ middleDraw neighbours ()
    (List.cons_ne_nil _ _)

end Resilience
end Hmmp
