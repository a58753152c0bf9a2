import Mathlib.Data.List.SplitBy
import Mathlib.Tactic.Common
import Hmmp.Foundation.Utf8

/-!
# Separators

A separator that does not occur in the parts it separates gives every joined
text a single way to be split.
-/

namespace Hmmp
namespace Foundation

variable {α : Type} {sep : α}

theorem separator_split {x y u v : List α} (hx : sep ∉ x) (hy : sep ∉ y)
    (h : x ++ sep :: u = y ++ sep :: v) : x = y ∧ u = v := by
  induction x generalizing y with
  | nil =>
      cases y with
      | nil =>
          injection h with _ huv
          exact ⟨rfl, huv⟩
      | cons b y =>
          injection h with hsep _
          exact absurd (hsep ▸ List.mem_cons_self) hy
  | cons a x ih =>
      cases y with
      | nil =>
          injection h with hsep _
          exact absurd (hsep ▸ List.mem_cons_self) hx
      | cons b y =>
          injection h with hab hrest
          rcases ih (fun hmem => hx (List.mem_cons_of_mem a hmem))
            (fun hmem => hy (List.mem_cons_of_mem b hmem)) hrest with
            ⟨hxy, huv⟩
          exact ⟨by rw [hab, hxy], huv⟩

theorem splitOn_inj [DecidableEq α] (sep : α) {xs ys : List α} :
    xs.splitOn sep = ys.splitOn sep <-> xs = ys := by
  constructor
  · intro h
    calc
      xs = [sep].intercalate (xs.splitOn sep) :=
        (List.intercalate_splitOn sep).symm
      _ = [sep].intercalate (ys.splitOn sep) := by rw [h]
      _ = ys := List.intercalate_splitOn sep
  · intro h
    rw [h]

theorem mem_intercalate {c : α} {parts : List (List α)}
    (h : c ∈ [sep].intercalate parts) :
    c = sep ∨ exists part, part ∈ parts ∧ c ∈ part := by
  induction parts with
  | nil => cases h
  | cons part parts ih =>
      cases parts with
      | nil =>
          rw [List.intercalate_singleton] at h
          exact Or.inr ⟨part, List.mem_cons_self, h⟩
      | cons next parts =>
          rw [List.intercalate_cons_cons] at h
          rcases List.mem_append.mp h with hfirst | hrest
          · rcases List.mem_append.mp hfirst with hpart | hsep
            · exact Or.inr ⟨part, List.mem_cons_self, hpart⟩
            · exact Or.inl (List.mem_singleton.mp hsep)
          · rcases ih hrest with hsep | ⟨other, hother, hmem⟩
            · exact Or.inl hsep
            · exact Or.inr ⟨other, List.mem_cons_of_mem _ hother, hmem⟩

theorem notMem_decimal {c : Char} (hc : c.isDigit = false) (n : Nat) :
    codePointOf c ∉ decimal n := by
  intro hmem
  rcases List.mem_map.mp hmem with ⟨d, hd, hdc⟩
  have hdigit := Nat.isDigit_of_mem_toDigits (by decide) (by decide) hd
  rw [codePointOf_injective hdc, hc] at hdigit
  cases hdigit

end Foundation
end Hmmp
