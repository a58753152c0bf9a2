import Mathlib.Tactic.Common

/-!
# At most one element

Lists of which at most one element satisfies a predicate, and how they stay so
when an element is changed or added.
-/

namespace Hmmp
namespace Foundation

variable {α : Type} {p q : α -> Prop} {xs : List α} {t : Nat} {f : α -> α}

def AtMostOne (p : α -> Prop) (xs : List α) : Prop :=
  forall (i j : Nat) (x y : α), xs[i]? = some x -> xs[j]? = some y ->
    p x -> p y -> i = j

theorem AtMostOne.mono (h : AtMostOne q xs)
    (hpq : forall x, x ∈ xs -> p x -> q x) : AtMostOne p xs := by
  intro i j x y hx hy hpx hpy
  exact h i j x y hx hy (hpq x (List.mem_of_getElem? hx) hpx)
    (hpq y (List.mem_of_getElem? hy) hpy)

theorem getElem?_modify_cases {i : Nat} {x : α}
    (h : (xs.modify t f)[i]? = some x) :
    (i ≠ t ∧ xs[i]? = some x) ∨
      (i = t ∧ exists y, xs[t]? = some y ∧ f y = x) := by
  by_cases hit : i = t
  · subst hit
    rw [List.getElem?_modify_eq] at h
    rcases Option.map_eq_some_iff.mp h with ⟨y, hy, hyx⟩
    exact Or.inr ⟨rfl, y, hy, hyx⟩
  · rw [List.getElem?_modify_ne _ _ (Ne.symm hit)] at h
    exact Or.inl ⟨hit, h⟩

theorem forall_mem_modify (h : forall x, x ∈ xs -> p x)
    (hf : forall x, xs[t]? = some x -> p (f x)) :
    forall x, x ∈ xs.modify t f -> p x := by
  intro x hx
  rcases List.mem_iff_getElem?.mp hx with ⟨i, hi⟩
  rcases getElem?_modify_cases hi with ⟨-, hold⟩ | ⟨-, y, hy, rfl⟩
  · exact h x (List.mem_of_getElem? hold)
  · exact hf y hy

theorem exists_of_mem_modify (h : exists x, x ∈ xs.modify t f ∧ p x) :
    (exists x, x ∈ xs ∧ p x) ∨ exists x, xs[t]? = some x ∧ p (f x) := by
  rcases h with ⟨x, hx, hpx⟩
  rcases List.mem_iff_getElem?.mp hx with ⟨i, hi⟩
  rcases getElem?_modify_cases hi with ⟨-, hold⟩ | ⟨-, y, hy, rfl⟩
  · exact Or.inl ⟨x, List.mem_of_getElem? hold, hpx⟩
  · exact Or.inr ⟨y, hy, hpx⟩

theorem AtMostOne.modify (h : AtMostOne p xs)
    (hf : forall x, xs[t]? = some x -> p (f x) -> p x) :
    AtMostOne p (xs.modify t f) := by
  intro i j x y hx hy hpx hpy
  rcases getElem?_modify_cases hx with ⟨-, hx'⟩ | ⟨rfl, x', hx', rfl⟩
  · rcases getElem?_modify_cases hy with ⟨-, hy'⟩ | ⟨rfl, y', hy', rfl⟩
    · exact h i j x y hx' hy' hpx hpy
    · exact h i j x y' hx' hy' hpx (hf y' hy' hpy)
  · rcases getElem?_modify_cases hy with ⟨-, hy'⟩ | ⟨rfl, -⟩
    · exact h i j x' y hx' hy' (hf x' hx' hpx) hpy
    · rfl

/-!
The element at {lit}`t` is known.
-/

theorem forall_mem_modify_at {x : α} (hx : xs[t]? = some x)
    (h : forall y, y ∈ xs -> p y) (hf : p (f x)) :
    forall y, y ∈ xs.modify t f -> p y := by
  apply forall_mem_modify h
  intro y hy
  rw [hx] at hy
  rw [← Option.some.inj hy]
  exact hf

theorem AtMostOne.modify_at {x : α} (hx : xs[t]? = some x)
    (h : AtMostOne p xs) (hf : p (f x) -> p x) :
    AtMostOne p (xs.modify t f) := by
  apply h.modify
  intro y hy
  rw [hx] at hy
  rw [← Option.some.inj hy]
  exact hf

theorem atMostOne_modify_of_others
    (h : forall (i : Nat) x, i ≠ t -> xs[i]? = some x -> ¬ p x) :
    AtMostOne p (xs.modify t f) := by
  intro i j x y hx hy hpx hpy
  rcases getElem?_modify_cases hx with ⟨hi, hx⟩ | ⟨rfl, -⟩
  · exact absurd hpx (h i x hi hx)
  · rcases getElem?_modify_cases hy with ⟨hj, hy⟩ | ⟨rfl, -⟩
    · exact absurd hpy (h j y hj hy)
    · rfl

theorem modify_append_left {ys : List α} (h : t < xs.length) :
    (xs ++ ys).modify t f = xs.modify t f ++ ys := by
  induction xs generalizing t with
  | nil => cases h
  | cons x xs ih =>
      cases t with
      | zero => rfl
      | succ t =>
          simp only [List.cons_append, List.modify_succ_cons]
          rw [ih (Nat.lt_of_succ_lt_succ h)]

theorem modify_of_fixed {x : α} (hx : xs[t]? = some x) (hf : f x = x) :
    xs.modify t f = xs := by
  apply List.ext_getElem?
  intro i
  by_cases hit : i = t
  · subst hit
    rw [List.getElem?_modify_eq, hx]
    exact congrArg some hf
  · rw [List.getElem?_modify_ne _ _ (Ne.symm hit)]

theorem modify_concat_length (xs : List α) (x : α) (f : α -> α) :
    (xs ++ [x]).modify xs.length f = xs ++ [f x] := by
  induction xs with
  | nil => rfl
  | cons y ys ih =>
      simp only [List.cons_append, List.length_cons, List.modify_succ_cons]
      rw [ih]

theorem getElem?_append_some {i : Nat} {x : α} (h : xs[i]? = some x)
    (ys : List α) : (xs ++ ys)[i]? = some x := by
  rw [List.getElem?_append_left (List.getElem?_eq_some_iff.mp h).1]
  exact h

theorem getElem?_concat_cases {i : Nat} {x y : α}
    (h : (xs ++ [x])[i]? = some y) :
    xs[i]? = some y ∨ (i = xs.length ∧ y = x) := by
  rcases Nat.lt_or_ge i xs.length with hlt | hge
  · rw [List.getElem?_append_left hlt] at h
    exact Or.inl h
  · rw [List.getElem?_append_right hge, List.getElem?_singleton] at h
    split at h
    · exact Or.inr ⟨by omega, (Option.some.inj h).symm⟩
    · cases h

theorem AtMostOne.concat {x : α} (h : AtMostOne p xs) (hx : ¬ p x) :
    AtMostOne p (xs ++ [x]) := by
  intro i j y z hy hz hpy hpz
  rcases getElem?_concat_cases hy with hy | ⟨-, rfl⟩
  · rcases getElem?_concat_cases hz with hz | ⟨-, rfl⟩
    · exact h i j y z hy hz hpy hpz
    · exact absurd hpz hx
  · exact absurd hpy hx

theorem atMostOne_concat_of_none {x : α} (h : forall y, y ∈ xs -> ¬ p y) :
    AtMostOne p (xs ++ [x]) := by
  intro i j y z hy hz hpy hpz
  rcases getElem?_concat_cases hy with hy | ⟨rfl, -⟩
  · exact absurd hpy (h y (List.mem_of_getElem? hy))
  · rcases getElem?_concat_cases hz with hz | ⟨rfl, -⟩
    · exact absurd hpz (h z (List.mem_of_getElem? hz))
    · rfl

end Foundation
end Hmmp
