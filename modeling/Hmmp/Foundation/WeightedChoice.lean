import Mathlib.Algebra.Order.Group.Defs
import Mathlib.Algebra.Order.BigOperators.Group.List
import Mathlib.Data.Nat.Find

/-!
# Weighted choice

A value between zero and the sum of the weights picks the item in whose
interval it lies, the intervals being laid end to end in the order of the
items.
-/

namespace Hmmp
namespace Foundation

variable {α W : Type} [AddCommGroup W] [LinearOrder W] [IsOrderedAddMonoid W]

def totalWeight (weight : α -> W) (items : List α) : W :=
  (items.map weight).sum

/-- The first item at which the cumulative weight reaches the value. -/
def pick (weight : α -> W) (value : W) : W -> List α -> Option α
  | _, [] => none
  | cumulative, a :: rest =>
      if value <= cumulative + weight a then some a
      else pick weight value (cumulative + weight a) rest

/-- The value lies in the interval of {lit}`a`, which ends at the weight of
{lit}`a` and of all items before it. -/
def PointsAt (weight : α -> W) (value : W) (items : List α) (a : α) : Prop :=
  exists before after, items = before ++ a :: after ∧
    (before = [] ∨ totalWeight weight before < value) ∧
      value <= totalWeight weight before + weight a

omit [LinearOrder W] [IsOrderedAddMonoid W] in
theorem totalWeight_cons (weight : α -> W) (a : α) (items : List α) :
    totalWeight weight (a :: items) = weight a + totalWeight weight items :=
  List.sum_cons

theorem totalWeight_nonneg {weight : α -> W} {items : List α}
    (h : forall a, a ∈ items -> 0 <= weight a) :
    0 <= totalWeight weight items := by
  apply List.sum_nonneg
  intro w hw
  rcases List.mem_map.mp hw with ⟨a, ha, rfl⟩
  exact h a ha

/-- {lit}`PointsAt` for a loop that has already passed a cumulative weight. -/
def PointsFrom (weight : α -> W) (value cumulative : W) (items : List α)
    (a : α) : Prop :=
  exists before after, items = before ++ a :: after ∧
    (before = [] ∨ cumulative + totalWeight weight before < value) ∧
      value <= cumulative + (totalWeight weight before + weight a)

section

variable {weight : α -> W} {value cumulative : W} {rest : List α} {a b : α}

omit [IsOrderedAddMonoid W] in
theorem pointsFrom_nil : ¬ PointsFrom weight value cumulative [] a := by
  intro h
  rcases h with ⟨before, after, hitems, _⟩
  cases before <;> cases hitems

theorem pointsFrom_cons_of_reached
    (hnonneg : forall c, c ∈ rest -> 0 <= weight c)
    (hreached : value <= cumulative + weight b) :
    PointsFrom weight value cumulative (b :: rest) a <-> b = a := by
  constructor
  · intro h
    rcases h with ⟨before, after, hitems, hbefore, _⟩
    cases before with
    | nil =>
        injection hitems
    | cons c before =>
        injection hitems with hb hsplit
        subst hb
        rcases hbefore with hnil | hlt
        · cases hnil
        · have hnonneg' : 0 <= totalWeight weight before := by
            apply totalWeight_nonneg
            intro d hd
            apply hnonneg
            rw [hsplit]
            exact List.mem_append_left _ hd
          rw [totalWeight_cons, ← add_assoc] at hlt
          exact absurd (lt_of_lt_of_le hlt hreached)
            (not_lt.mpr (le_add_of_nonneg_right hnonneg'))
  · intro h
    subst h
    exact ⟨[], rest, rfl, Or.inl rfl, by simpa [totalWeight]⟩

omit [IsOrderedAddMonoid W] in
theorem pointsFrom_cons_of_passed
    (hpassed : ¬ value <= cumulative + weight b) :
    PointsFrom weight value cumulative (b :: rest) a <->
      PointsFrom weight value (cumulative + weight b) rest a := by
  constructor
  · intro h
    rcases h with ⟨before, after, hitems, hbefore, hvalue⟩
    cases before with
    | nil =>
        injection hitems with hb
        subst hb
        exact absurd (by simpa [totalWeight] using hvalue) hpassed
    | cons c before =>
        injection hitems with hb hsplit
        subst hb
        rw [totalWeight_cons, add_assoc (weight b),
          ← add_assoc cumulative] at hvalue
        refine ⟨before, after, hsplit, ?_, hvalue⟩
        rcases hbefore with hnil | hlt
        · cases hnil
        · right
          rw [totalWeight_cons, ← add_assoc] at hlt
          exact hlt
  · intro h
    rcases h with ⟨before, after, hitems, hbefore, hvalue⟩
    subst hitems
    refine ⟨b :: before, after, rfl, Or.inr ?_, ?_⟩
    · rw [totalWeight_cons, ← add_assoc]
      rcases hbefore with hnil | hlt
      · subst hnil
        simpa [totalWeight] using hpassed
      · exact hlt
    · rw [totalWeight_cons, add_assoc (weight b), ← add_assoc]
      exact hvalue

end

theorem pick_eq_some {weight : α -> W} {value : W} {items : List α} {a : α}
    (hnonneg : forall b, b ∈ items -> 0 <= weight b) (cumulative : W) :
    pick weight value cumulative items = some a <->
      PointsFrom weight value cumulative items a := by
  induction items generalizing cumulative with
  | nil =>
      constructor
      · intro h
        cases h
      · intro h
        exact absurd h pointsFrom_nil
  | cons b rest ih =>
      have hrest : forall c, c ∈ rest -> 0 <= weight c :=
        fun c hc => hnonneg c (List.mem_cons_of_mem b hc)
      unfold pick
      by_cases hreached : value <= cumulative + weight b
      · rw [if_pos hreached, pointsFrom_cons_of_reached hrest hreached]
        exact Option.some_inj
      · rw [if_neg hreached, ih hrest, pointsFrom_cons_of_passed hreached]

theorem pick_eq_some_iff {weight : α -> W} {value : W} {items : List α}
    {a : α} (hnonneg : forall b, b ∈ items -> 0 <= weight b) :
    pick weight value 0 items = some a <-> PointsAt weight value items a := by
  rw [pick_eq_some hnonneg]
  simp only [PointsFrom, zero_add]
  rfl

omit [IsOrderedAddMonoid W] in
theorem pick_of_le_total {weight : α -> W} {value : W} {items : List α}
    (hitems : items ≠ []) {cumulative : W}
    (h : value <= cumulative + totalWeight weight items) :
    exists a, pick weight value cumulative items = some a := by
  induction items generalizing cumulative with
  | nil => exact absurd rfl hitems
  | cons b rest ih =>
      unfold pick
      by_cases hreached : value <= cumulative + weight b
      · exact ⟨b, if_pos hreached⟩
      · rw [if_neg hreached]
        rw [totalWeight_cons, ← add_assoc] at h
        apply ih _ h
        intro heq
        subst heq
        simp only [totalWeight, List.map_nil, List.sum_nil, add_zero] at h
        exact hreached h

/-!
# Where the loop stops
-/

section

variable {weight : α -> W} {value : W} {items : List α} {k k' : Nat} {a : α}

def prefixWeight (weight : α -> W) (items : List α) (k : Nat) : W :=
  totalWeight weight (items.take k)

/-- The {lit}`k`-th item is the first at which the cumulative weight reaches
the value. -/
def StopsAt (weight : α -> W) (value : W) (items : List α) (k : Nat) : Prop :=
  k < items.length ∧ value <= prefixWeight weight items (k + 1) ∧
    forall j, j < k -> prefixWeight weight items (j + 1) < value

omit [LinearOrder W] [IsOrderedAddMonoid W] in
theorem prefixWeight_succ (h : items[k]? = some a) :
    prefixWeight weight items (k + 1) =
      prefixWeight weight items k + weight a := by
  unfold prefixWeight totalWeight
  rw [List.take_add_one, h, List.map_append, List.sum_append]
  simp

omit [LinearOrder W] [IsOrderedAddMonoid W] in
theorem prefixWeight_cons (weight : α -> W) (a : α) (items : List α)
    (k : Nat) : prefixWeight weight (a :: items) (k + 1) =
      weight a + prefixWeight weight items k := by
  unfold prefixWeight
  rw [List.take_succ_cons, totalWeight_cons]

omit [LinearOrder W] [IsOrderedAddMonoid W] in
theorem prefixWeight_length (weight : α -> W) (items : List α) :
    prefixWeight weight items items.length = totalWeight weight items := by
  rw [prefixWeight, List.take_length]

theorem prefixWeight_mono (h : forall a, a ∈ items -> 0 <= weight a)
    (hk : k <= k') :
    prefixWeight weight items k <= prefixWeight weight items k' := by
  have hsplit : items.take k' = items.take k ++ (items.take k').drop k := by
    have hfront : (items.take k').take k = items.take k := by
      rw [List.take_take, Nat.min_eq_left hk]
    rw [← hfront, List.take_append_drop]
  have hrest : 0 <= totalWeight weight ((items.take k').drop k) := by
    apply totalWeight_nonneg
    intro b hb
    exact h b (List.mem_of_mem_take (List.mem_of_mem_drop hb))
  unfold prefixWeight
  rw [hsplit]
  unfold totalWeight at hrest ⊢
  rw [List.map_append, List.sum_append]
  exact le_add_of_nonneg_right hrest

omit [IsOrderedAddMonoid W] in
theorem StopsAt.unique (h : StopsAt weight value items k)
    (h' : StopsAt weight value items k') : k = k' := by
  rcases Nat.lt_trichotomy k k' with hlt | heq | hgt
  · exact absurd h.2.1 (not_le.mpr (h'.2.2 k hlt))
  · exact heq
  · exact absurd h'.2.1 (not_le.mpr (h.2.2 k' hgt))

omit [IsOrderedAddMonoid W] in
theorem exists_stopsAt (hitems : items ≠ [])
    (h : value <= totalWeight weight items) :
    exists k, StopsAt weight value items k := by
  classical
  have hlast : exists k, value <= prefixWeight weight items (k + 1) := by
    refine ⟨items.length - 1, ?_⟩
    have hpos := List.length_pos_iff.mpr hitems
    rw [Nat.sub_add_cancel hpos, prefixWeight_length]
    exact h
  refine ⟨Nat.find hlast, ?_, Nat.find_spec hlast, ?_⟩
  · have hpos := List.length_pos_iff.mpr hitems
    have hle : Nat.find hlast <= items.length - 1 := by
      apply Nat.find_min'
      rw [Nat.sub_add_cancel hpos, prefixWeight_length]
      exact h
    omega
  · intro j hj
    exact not_le.mp (Nat.find_min hlast hj)

theorem stopsAt_iff (hnonneg : forall a, a ∈ items -> 0 <= weight a)
    (hk : k < items.length) :
    StopsAt weight value items k <->
      (k = 0 ∨ prefixWeight weight items k < value) ∧
        value <= prefixWeight weight items (k + 1) := by
  constructor
  · rintro ⟨_, hreached, hbefore⟩
    refine ⟨?_, hreached⟩
    cases k with
    | zero => exact Or.inl rfl
    | succ j => exact Or.inr (hbefore j (Nat.lt_succ_self j))
  · rintro ⟨hbefore, hreached⟩
    refine ⟨hk, hreached, ?_⟩
    intro j hj
    rcases hbefore with rfl | hlt
    · exact absurd hj (Nat.not_lt_zero j)
    · exact lt_of_le_of_lt (prefixWeight_mono hnonneg hj) hlt

omit [IsOrderedAddMonoid W] in
theorem pick_of_first {cumulative : W} (ha : items[k]? = some a)
    (hreached : value <= cumulative + prefixWeight weight items (k + 1))
    (hbefore : forall j, j < k ->
      cumulative + prefixWeight weight items (j + 1) < value) :
    pick weight value cumulative items = some a := by
  induction items generalizing k cumulative with
  | nil => cases ha
  | cons b rest ih =>
      have hfirst : prefixWeight weight (b :: rest) 1 = weight b := by
        simp [prefixWeight, totalWeight]
      unfold pick
      cases k with
      | zero =>
          injection ha with ha
          subst ha
          rw [hfirst] at hreached
          rw [if_pos hreached]
      | succ k =>
          have hpassed := hbefore 0 (Nat.succ_pos k)
          rw [hfirst] at hpassed
          rw [if_neg (not_le.mpr hpassed)]
          apply ih ha
          · rw [prefixWeight_cons, ← add_assoc] at hreached
            exact hreached
          · intro j hj
            have hlt := hbefore (j + 1) (Nat.succ_lt_succ hj)
            rw [prefixWeight_cons, ← add_assoc] at hlt
            exact hlt

omit [IsOrderedAddMonoid W] in
theorem pick_of_stopsAt (h : StopsAt weight value items k)
    (ha : items[k]? = some a) : pick weight value 0 items = some a := by
  apply pick_of_first ha
  · rw [zero_add]
    exact h.2.1
  · intro j hj
    rw [zero_add]
    exact h.2.2 j hj

end

end Foundation
end Hmmp
