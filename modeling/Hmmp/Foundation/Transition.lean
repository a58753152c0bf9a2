import Mathlib.Tactic.Common

/-!
# Labelled runs

Runs of a labelled step relation, and the two rules by which a property of
single steps becomes a property of whole runs: an invariant that every step
keeps, and an invariant that is kept by the steps that meet a side condition.
-/

namespace Hmmp
namespace Foundation

variable {σ ι : Type}

/-- {lit}`Run step s labels s'`: the labelled steps lead from {lit}`s` to
{lit}`s'`. -/
inductive Run (step : σ -> ι -> σ -> Prop) : σ -> List ι -> σ -> Prop where
  | nil (s : σ) : Run step s [] s
  | cons {s s' s'' : σ} {i : ι} {labels : List ι} :
      step s i s' -> Run step s' labels s'' -> Run step s (i :: labels) s''

def Reachable (step : σ -> ι -> σ -> Prop) (start s : σ) : Prop :=
  exists labels, Run step start labels s

/-- The steps of a relation that meet a condition on the state before them. -/
def Guarded (step : σ -> ι -> σ -> Prop) (guard : σ -> ι -> Prop) :
    σ -> ι -> σ -> Prop :=
  fun s i s' => guard s i ∧ step s i s'

theorem Run.single {step : σ -> ι -> σ -> Prop} {s s' : σ} {i : ι}
    (h : step s i s') : Run step s [i] s' :=
  Run.cons h (Run.nil s')

theorem Run.append {step : σ -> ι -> σ -> Prop} {s s' s'' : σ}
    {first second : List ι}
    (h : Run step s first s') (h' : Run step s' second s'') :
    Run step s (first ++ second) s'' := by
  induction h with
  | nil _ => exact h'
  | cons hstep _ ih => exact Run.cons hstep (ih h')

theorem Run.invariant {step : σ -> ι -> σ -> Prop} {inv : σ -> Prop}
    (hkeep : forall s i s', inv s -> step s i s' -> inv s')
    {s s' : σ} {labels : List ι} (hrun : Run step s labels s')
    (hs : inv s) : inv s' := by
  induction hrun with
  | nil _ => exact hs
  | cons hstep _ ih => exact ih (hkeep _ _ _ hs hstep)

theorem Reachable.refl (step : σ -> ι -> σ -> Prop) (s : σ) :
    Reachable step s s :=
  ⟨[], Run.nil s⟩

theorem Reachable.invariant {step : σ -> ι -> σ -> Prop} {inv : σ -> Prop}
    (hkeep : forall s i s', inv s -> step s i s' -> inv s')
    {start s : σ} (h : Reachable step start s) (hstart : inv start) :
    inv s := by
  rcases h with ⟨labels, hrun⟩
  exact hrun.invariant hkeep hstart

/-!
# Executable steps

A step function that may fail runs a list of labels by a monadic fold; its runs
are the runs of the step relation it induces.
-/

def StepOf (next : σ -> ι -> Option σ) : σ -> ι -> σ -> Prop :=
  fun s i s' => next s i = some s'

theorem run_stepOf_iff {next : σ -> ι -> Option σ} {s s' : σ}
    {labels : List ι} :
    Run (StepOf next) s labels s' <-> labels.foldlM next s = some s' := by
  induction labels generalizing s with
  | nil =>
      constructor
      · intro h
        cases h
        rfl
      · intro h
        cases h
        exact Run.nil _
  | cons i labels ih =>
      rw [List.foldlM_cons]
      constructor
      · intro h
        cases h with
        | cons hstep hrest =>
            rw [show next s i = some _ from hstep]
            exact ih.mp hrest
      · intro h
        rcases Option.bind_eq_some_iff.mp h with ⟨mid, hstep, hrest⟩
        exact Run.cons hstep (ih.mpr hrest)

theorem run_guarded_iff {next : σ -> ι -> Option σ} {guard : σ -> ι -> Prop}
    [forall s i, Decidable (guard s i)] {s s' : σ} {labels : List ι} :
    Run (Guarded (StepOf next) guard) s labels s' <->
      labels.foldlM (fun s i => if guard s i then next s i else none) s =
        some s' := by
  rw [← run_stepOf_iff]
  have hstep : StepOf (fun s i => if guard s i then next s i else none) =
      Guarded (StepOf next) guard := by
    funext s i s'
    simp only [StepOf, Guarded, Option.ite_none_right_eq_some]
  rw [hstep]

theorem lookup_guarded_eq_some {α : Type} {found : Option α}
    {guard : α -> Prop} [DecidablePred guard] {next : α -> Option σ} {s : σ} :
    (do
      let a ← found
      if guard a then next a else none) = some s <->
      exists a, found = some a ∧ guard a ∧ next a = some s := by
  cases found with
  | none =>
      constructor
      · intro h
        cases h
      · rintro ⟨a, ha, _⟩
        cases ha
  | some a =>
      constructor
      · intro h
        rcases Option.ite_none_right_eq_some.mp h with ⟨hguard, hnext⟩
        exact ⟨a, rfl, hguard, hnext⟩
      · rintro ⟨a', ha, hguard, hnext⟩
        injection ha with ha
        subst ha
        exact (if_pos hguard).trans hnext

/-- A step function that never fails on the states of an invariant runs every
list of labels. -/
theorem foldlM_total {next : σ -> ι -> Option σ} {inv : σ -> Prop}
    (hnext : forall s i, inv s -> exists s', next s i = some s' ∧ inv s')
    {s : σ} (hs : inv s) (labels : List ι) :
    exists s', labels.foldlM next s = some s' ∧ inv s' := by
  induction labels generalizing s with
  | nil => exact ⟨s, rfl, hs⟩
  | cons i labels ih =>
      rcases hnext s i hs with ⟨mid, hstep, hmid⟩
      rcases ih hmid with ⟨s', hrest, hs'⟩
      refine ⟨s', ?_, hs'⟩
      rw [List.foldlM_cons, hstep]
      exact hrest

end Foundation
end Hmmp
