import Mathlib.Tactic.Common

/-!
# Histories of single keys

A store holds an entry under every key.  When all that an operation does to the
entry of a key is a list of events of that key, the entry after a history is the
entry before it after the events of the key: the store is its entries side by
side.
-/

namespace Hmmp
namespace Foundation

variable {σ ι κ ν ε : Type}

/-- A step that returns does to the entry of each key the events it has for the
key, and all of them return. -/
structure Decomposes (next : σ -> ι -> Option σ) (entry : κ -> σ -> ν)
    (events : κ -> ι -> List ε) (change : ν -> ε -> Option ν) : Prop where
  step : forall s i s', next s i = some s' -> forall k,
    (events k i).foldlM change (entry k s) = some (entry k s')

namespace Decomposes

variable {next : σ -> ι -> Option σ} {entry : κ -> σ -> ν}
variable {events : κ -> ι -> List ε} {change : ν -> ε -> Option ν}

theorem run (h : Decomposes next entry events change) {s s' : σ}
    {history : List ι} (hrun : history.foldlM next s = some s') (k : κ) :
    (history.flatMap (events k)).foldlM change (entry k s) =
      some (entry k s') := by
  induction history generalizing s with
  | nil =>
      injection hrun with hrun
      subst hrun
      rfl
  | cons i history ih =>
      rw [List.foldlM_cons] at hrun
      rcases Option.bind_eq_some_iff.mp hrun with ⟨mid, hstep, hrest⟩
      rw [List.flatMap_cons, List.foldlM_append, h.step s i mid hstep k]
      exact ih hrest

end Decomposes

theorem foldl_decomposes {apply : σ -> ι -> σ} {entry : κ -> σ -> ν}
    {events : κ -> ι -> List ε} {change : ν -> ε -> ν}
    (h : forall s i k,
      entry k (apply s i) = (events k i).foldl change (entry k s))
    (s : σ) (history : List ι) (k : κ) :
    entry k (history.foldl apply s) =
      (history.flatMap (events k)).foldl change (entry k s) := by
  induction history generalizing s with
  | nil => rfl
  | cons i history ih =>
      rw [List.foldl_cons, ih, h, List.flatMap_cons, List.foldl_append]

end Foundation
end Hmmp
