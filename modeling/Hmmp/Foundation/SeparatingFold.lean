import Mathlib.Data.Set.Function
import Mathlib.Tactic.Common

/-!
# Folds that tell single edits apart

A fold whose step is injective in the state and in the letter gives different
results for two words that differ in a single letter, wherever it stands and
whatever surrounds it.
-/

namespace Hmmp
namespace Foundation

variable {α σ : Type}

/-- The words have one length and differ at exactly one position. -/
def DifferInOne (xs ys : List α) : Prop :=
  xs.length = ys.length ∧ ∃! i : Nat, xs[i]? ≠ ys[i]?

def OneEdit (xs ys : List α) : Prop :=
  exists front x y back, x ≠ y ∧ xs = front ++ x :: back ∧
    ys = front ++ y :: back

/-- A step that is injective in either argument on the good states. -/
structure SeparatingStep (step : σ -> α -> σ) (good : Set σ) : Prop where
  maps : forall s a, s ∈ good -> step s a ∈ good
  state_inj : forall a, Set.InjOn (fun s => step s a) good
  letter_inj : forall s, s ∈ good -> Function.Injective (step s)

/-!
# Edits
-/

theorem DifferInOne.symm {xs ys : List α} (h : DifferInOne xs ys) :
    DifferInOne ys xs := by
  rcases h with ⟨hlength, i, hdiffer, honly⟩
  exact ⟨hlength.symm, i, hdiffer.symm, fun j hj => honly j hj.symm⟩

theorem DifferInOne.oneEdit {xs ys : List α} (h : DifferInOne xs ys) :
    OneEdit xs ys := by
  rcases h with ⟨hlength, i, hdiffer, honly⟩
  have hi : i < xs.length := by
    by_contra hout
    have hout : xs.length <= i := Nat.le_of_not_lt hout
    apply hdiffer
    rw [List.getElem?_eq_none hout, List.getElem?_eq_none (hlength ▸ hout)]
  have hi' : i < ys.length := hlength ▸ hi
  have hsame : forall j, j ≠ i -> xs[j]? = ys[j]? := by
    intro j hj
    by_contra hne
    exact hj (honly j hne)
  have hfront : xs.take i = ys.take i := by
    apply List.ext_getElem?
    intro j
    rw [List.getElem?_take, List.getElem?_take]
    split
    · rename_i hlt
      exact hsame j (Nat.ne_of_lt hlt)
    · rfl
  have hback : xs.drop (i + 1) = ys.drop (i + 1) := by
    apply List.ext_getElem?
    intro j
    rw [List.getElem?_drop, List.getElem?_drop]
    exact hsame (i + 1 + j) (by omega)
  have hxs := List.take_append_drop i xs
  have hys := List.take_append_drop i ys
  rw [List.drop_eq_getElem_cons hi] at hxs
  rw [List.drop_eq_getElem_cons hi', ← hfront, ← hback] at hys
  refine ⟨xs.take i, xs[i], ys[i], xs.drop (i + 1), ?_, hxs.symm, hys.symm⟩
  intro heq
  apply hdiffer
  rw [List.getElem?_eq_getElem hi, List.getElem?_eq_getElem hi', heq]

theorem OneEdit.context {xs ys : List α} (h : OneEdit xs ys)
    (before after : List α) :
    OneEdit (before ++ xs ++ after) (before ++ ys ++ after) := by
  rcases h with ⟨front, x, y, back, hne, rfl, rfl⟩
  exact ⟨before ++ front, x, y, back ++ after, hne, by simp, by simp⟩

/-!
# Folds
-/

theorem SeparatingStep.foldl_mem {step : σ -> α -> σ} {good : Set σ}
    (h : SeparatingStep step good) {s : σ} (hs : s ∈ good) (word : List α) :
    word.foldl step s ∈ good := by
  induction word generalizing s with
  | nil => exact hs
  | cons a word ih => exact ih (h.maps s a hs)

theorem SeparatingStep.foldl_injOn {step : σ -> α -> σ} {good : Set σ}
    (h : SeparatingStep step good) (word : List α) :
    Set.InjOn (fun s => word.foldl step s) good := by
  induction word with
  | nil => exact Set.injOn_id good
  | cons a word ih =>
      intro s hs t ht heq
      exact h.state_inj a hs ht (ih (h.maps s a hs) (h.maps t a ht) heq)

theorem SeparatingStep.foldl_ne {step : σ -> α -> σ} {good : Set σ}
    (h : SeparatingStep step good) {s : σ} (hs : s ∈ good) {xs ys : List α}
    (hedit : OneEdit xs ys) : xs.foldl step s ≠ ys.foldl step s := by
  rcases hedit with ⟨front, x, y, back, hne, rfl, rfl⟩
  intro heq
  rw [List.foldl_append, List.foldl_append] at heq
  have hmid := h.foldl_mem hs front
  have hstep := h.foldl_injOn back (h.maps _ x hmid) (h.maps _ y hmid) heq
  exact hne (h.letter_inj _ hmid hstep)

end Foundation
end Hmmp
