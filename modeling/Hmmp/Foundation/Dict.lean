import Mathlib.Data.List.Nodup
import Mathlib.Tactic.Common

/-!
# Insertion-ordered dictionaries

A dictionary is a list of entries whose keys are pairwise distinct.  Assigning
to a key that is present keeps its place; a new key goes to the end.
-/

namespace Hmmp
namespace Foundation

structure Dict (κ ν : Type) where
  entries : List (κ × ν)
  nodup : (entries.map Prod.fst).Nodup

namespace Dict

theorem eq_of_entries {κ ν : Type} {d e : Dict κ ν}
    (h : d.entries = e.entries) : d = e := by
  rcases d with ⟨entries, nodup⟩
  rcases e with ⟨entries', nodup'⟩
  subst h
  rfl

variable {κ ν : Type} [DecidableEq κ]

instance [DecidableEq ν] : DecidableEq (Dict κ ν) := fun d e =>
  decidable_of_iff (d.entries = e.entries) (by
    rcases d with ⟨entries, nodup⟩
    rcases e with ⟨entries', nodup'⟩
    simp)

def keys (d : Dict κ ν) : List κ :=
  d.entries.map Prod.fst

def empty : Dict κ ν :=
  { entries := [], nodup := List.nodup_nil }

/-!
# Operations on the entries
-/

def lookupIn (k : κ) : List (κ × ν) -> Option ν
  | [] => none
  | (k', v) :: rest => if k' = k then some v else lookupIn k rest

def setIn (k : κ) (v : ν) : List (κ × ν) -> List (κ × ν)
  | [] => [(k, v)]
  | (k', v') :: rest =>
      if k' = k then (k, v) :: rest else (k', v') :: setIn k v rest

def popIn (k : κ) (entries : List (κ × ν)) : List (κ × ν) :=
  entries.filter fun entry => decide (entry.1 ≠ k)

theorem mem_keys_setIn {k x : κ} {v : ν} {entries : List (κ × ν)} :
    x ∈ (setIn k v entries).map Prod.fst <->
      x = k ∨ x ∈ entries.map Prod.fst := by
  induction entries with
  | nil => simp [setIn]
  | cons entry rest ih =>
      rcases entry with ⟨k', v'⟩
      by_cases hk : k' = k
      · simp [setIn, hk]
      · simp only [setIn, if_neg hk, List.map_cons, List.mem_cons, ih]
        constructor
        · intro hcase
          rcases hcase with h | h | h
          · exact Or.inr (Or.inl h)
          · exact Or.inl h
          · exact Or.inr (Or.inr h)
        · intro hcase
          rcases hcase with h | h | h
          · exact Or.inr (Or.inl h)
          · exact Or.inl h
          · exact Or.inr (Or.inr h)

theorem nodup_setIn (k : κ) (v : ν) {entries : List (κ × ν)}
    (h : (entries.map Prod.fst).Nodup) :
    ((setIn k v entries).map Prod.fst).Nodup := by
  induction entries with
  | nil => simp [setIn]
  | cons entry rest ih =>
      rcases entry with ⟨k', v'⟩
      rw [List.map_cons, List.nodup_cons] at h
      by_cases hk : k' = k
      · subst hk
        simp only [setIn, if_true, List.map_cons, List.nodup_cons]
        exact h
      · simp only [setIn, if_neg hk, List.map_cons, List.nodup_cons]
        refine ⟨?_, ih h.2⟩
        intro hmem
        rcases mem_keys_setIn.mp hmem with heq | hrest
        · exact hk heq
        · exact h.1 hrest

theorem setIn_of_notMem {k : κ} (v : ν) {entries : List (κ × ν)}
    (h : k ∉ entries.map Prod.fst) :
    setIn k v entries = entries ++ [(k, v)] := by
  induction entries with
  | nil => rfl
  | cons entry rest ih =>
      rcases entry with ⟨k', v'⟩
      rw [List.map_cons, List.mem_cons, not_or] at h
      have hk : ¬ k' = k := fun heq => h.1 heq.symm
      rw [setIn, if_neg hk, ih h.2]
      rfl

theorem nodup_popIn (k : κ) {entries : List (κ × ν)}
    (h : (entries.map Prod.fst).Nodup) :
    ((popIn k entries).map Prod.fst).Nodup :=
  List.Nodup.sublist (List.Sublist.map Prod.fst List.filter_sublist) h

/-!
# The dictionary operations
-/

/-- The value under a key, if there is one. -/
def get? (d : Dict κ ν) (k : κ) : Option ν :=
  lookupIn k d.entries

def set (d : Dict κ ν) (k : κ) (v : ν) : Dict κ ν :=
  { entries := setIn k v d.entries, nodup := nodup_setIn k v d.nodup }

def pop (d : Dict κ ν) (k : κ) : Dict κ ν :=
  { entries := popIn k d.entries, nodup := nodup_popIn k d.nodup }

/-- Assign every entry of another dictionary, in its order. -/
def update (d e : Dict κ ν) : Dict κ ν :=
  e.entries.foldl (fun acc entry => acc.set entry.1 entry.2) d

theorem lookupIn_eq_some {k : κ} {v : ν} {entries : List (κ × ν)}
    (h : (entries.map Prod.fst).Nodup) :
    lookupIn k entries = some v <-> (k, v) ∈ entries := by
  induction entries with
  | nil => simp [lookupIn]
  | cons entry rest ih =>
      rcases entry with ⟨k', v'⟩
      rw [List.map_cons, List.nodup_cons] at h
      by_cases hk : k' = k
      · subst hk
        have habsent : (k', v) ∉ rest := fun hmem =>
          h.1 (List.mem_map.mpr ⟨(k', v), hmem, rfl⟩)
        simp [lookupIn, habsent, eq_comm]
      · rw [lookupIn, if_neg hk, ih h.2, List.mem_cons]
        constructor
        · exact Or.inr
        · rintro (heq | hmem)
          · injection heq with heq
            exact absurd heq.symm hk
          · exact hmem

theorem get?_eq_some {d : Dict κ ν} {k : κ} {v : ν} :
    d.get? k = some v <-> (k, v) ∈ d.entries :=
  lookupIn_eq_some d.nodup

theorem mem_keys_iff {d : Dict κ ν} {k : κ} :
    k ∈ d.keys <-> exists v, d.get? k = some v := by
  constructor
  · intro h
    rcases List.mem_map.mp h with ⟨⟨k', v⟩, hmem, rfl⟩
    exact ⟨v, get?_eq_some.mpr hmem⟩
  · rintro ⟨v, hv⟩
    exact List.mem_map_of_mem (get?_eq_some.mp hv)

@[simp] theorem get?_empty (k : κ) : (empty : Dict κ ν).get? k = none := rfl

theorem get?_set_self (d : Dict κ ν) (k : κ) (v : ν) :
    (d.set k v).get? k = some v := by
  show lookupIn k (setIn k v d.entries) = some v
  induction d.entries with
  | nil => simp [setIn, lookupIn]
  | cons entry rest ih =>
      rcases entry with ⟨k', v'⟩
      by_cases hk : k' = k
      · simp [setIn, lookupIn, hk]
      · simp [setIn, lookupIn, hk, ih]

theorem get?_set_of_ne (d : Dict κ ν) {k x : κ} (v : ν) (h : x ≠ k) :
    (d.set k v).get? x = d.get? x := by
  show lookupIn x (setIn k v d.entries) = lookupIn x d.entries
  induction d.entries with
  | nil => simp [setIn, lookupIn, h.symm]
  | cons entry rest ih =>
      rcases entry with ⟨k', v'⟩
      by_cases hk : k' = k
      · subst hk
        simp [setIn, lookupIn, h.symm]
      · simp [setIn, lookupIn, hk, ih]

theorem get?_set (d : Dict κ ν) (k x : κ) (v : ν) :
    (d.set k v).get? x = if x = k then some v else d.get? x := by
  by_cases h : x = k
  · subst h
    rw [if_pos rfl, get?_set_self]
  · rw [if_neg h, get?_set_of_ne d v h]

theorem get?_pop_self (d : Dict κ ν) (k : κ) : (d.pop k).get? k = none := by
  show lookupIn k (popIn k d.entries) = none
  induction d.entries with
  | nil => rfl
  | cons entry rest ih =>
      rcases entry with ⟨k', v'⟩
      by_cases hk : k' = k
      · simpa [popIn, hk] using ih
      · simpa [popIn, lookupIn, hk] using ih

theorem get?_pop_of_ne (d : Dict κ ν) {k x : κ} (h : x ≠ k) :
    (d.pop k).get? x = d.get? x := by
  show lookupIn x (popIn k d.entries) = lookupIn x d.entries
  induction d.entries with
  | nil => rfl
  | cons entry rest ih =>
      rcases entry with ⟨k', v'⟩
      by_cases hk : k' = k
      · subst hk
        simpa [popIn, lookupIn, h.symm] using ih
      · by_cases hx : k' = x
        · subst hx
          simp [popIn, lookupIn, hk]
        · simpa [popIn, lookupIn, hk, hx] using ih

theorem get?_pop (d : Dict κ ν) (k x : κ) :
    (d.pop k).get? x = if x = k then none else d.get? x := by
  by_cases h : x = k
  · subst h
    rw [if_pos rfl, get?_pop_self]
  · rw [if_neg h, get?_pop_of_ne d h]

theorem get?_update_of_none (d : Dict κ ν) {e : Dict κ ν} {k : κ}
    (h : e.get? k = none) : (d.update e).get? k = d.get? k := by
  have habsent : forall entry, entry ∈ e.entries -> k ≠ entry.1 := by
    intro entry hentry hk
    have hfound : e.get? k = some entry.2 :=
      get?_eq_some.mpr (hk ▸ hentry)
    rw [h] at hfound
    cases hfound
  unfold update
  generalize e.entries = entries at habsent
  induction entries generalizing d with
  | nil => rfl
  | cons entry rest ih =>
      rcases List.forall_mem_cons.mp habsent with ⟨hfirst, hrest⟩
      rw [List.foldl_cons, ih (d.set entry.1 entry.2) hrest]
      exact d.get?_set_of_ne entry.2 hfirst

end Dict

end Foundation
end Hmmp
