import Mathlib.Data.List.Basic

/-!
# Purged histories

The view of one observer on a system that runs through a history.  When some
operations do not touch the view, and the view after the others depends on
nothing but the view before them, then the history without those operations
leaves the same view.
-/

namespace Hmmp
namespace Foundation

variable {σ ι α : Type}

/-- The history without the operations that meet a condition. -/
def purge (hidden : ι -> Prop) [DecidablePred hidden] (history : List ι) :
    List ι :=
  history.filter fun i => decide (¬ hidden i)

/-- The states of an invariant run on their own, and what the observer sees
after an operation is determined by what it sees before. -/
structure Autonomous (apply : σ -> ι -> σ) (inv : σ -> Prop) (view : σ -> α) :
    Prop where
  keep : forall s i, inv s -> inv (apply s i)
  view_apply : forall s s' i, inv s -> inv s' -> view s = view s' ->
    view (apply s i) = view (apply s' i)

theorem Autonomous.view_purge {apply : σ -> ι -> σ} {inv : σ -> Prop}
    {view : σ -> α} (h : Autonomous apply inv view) {hidden : ι -> Prop}
    [DecidablePred hidden]
    (hquiet : forall s i, inv s -> hidden i -> view (apply s i) = view s)
    {s s' : σ} (hs : inv s) (hs' : inv s') (hsame : view s = view s')
    (history : List ι) :
    view (history.foldl apply s) =
      view ((purge hidden history).foldl apply s') := by
  induction history generalizing s s' with
  | nil => exact hsame
  | cons i history ih =>
      by_cases hi : hidden i
      · have hkeep : view (apply s i) = view s' :=
          (hquiet s i hs hi).trans hsame
        simpa [purge, hi] using ih (h.keep s i hs) hs' hkeep
      · simpa [purge, hi] using
          ih (h.keep s i hs) (h.keep s' i hs')
            (h.view_apply s s' i hs hs' hsame)

end Foundation
end Hmmp
