import Mathlib.Data.Int.Log
import Mathlib.Data.Rat.Floor
import Mathlib.Tactic.Linarith
import Mathlib.Tactic.NormNum
import Mathlib.Tactic.Ring

/-!
# Rounding to binary64

The nearest number with a significand of 53 bits and an exponent of at least
-1074, ties to the even one.  Numbers beyond the largest finite one are left
out: rounding has no upper bound here.
-/

namespace Hmmp
namespace Foundation

/-- The nearest integer, ties to the even one. -/
def roundHalfEven (x : Rat) : Int :=
  if x - ⌊x⌋ < 1 / 2 then ⌊x⌋
  else if 1 / 2 < x - ⌊x⌋ then ⌊x⌋ + 1
  else if ⌊x⌋ % 2 = 0 then ⌊x⌋
  else ⌊x⌋ + 1

theorem floor_le_roundHalfEven (x : Rat) : ⌊x⌋ <= roundHalfEven x := by
  unfold roundHalfEven
  split_ifs <;> omega

theorem roundHalfEven_le (x : Rat) : roundHalfEven x <= ⌊x⌋ + 1 := by
  unfold roundHalfEven
  split_ifs <;> omega

@[simp] theorem roundHalfEven_intCast (n : Int) :
    roundHalfEven (n : Rat) = n := by
  simp [roundHalfEven]

theorem roundHalfEven_mono {x y : Rat} (h : x <= y) :
    roundHalfEven x <= roundHalfEven y := by
  rcases (Int.floor_mono h).lt_or_eq with hlt | heq
  · calc
      roundHalfEven x <= ⌊x⌋ + 1 := roundHalfEven_le x
      _ <= ⌊y⌋ := hlt
      _ <= roundHalfEven y := floor_le_roundHalfEven y
  · unfold roundHalfEven
    rw [heq]
    split_ifs <;> first | omega | linarith

-- the half is rounded down to zero
theorem roundHalfEven_le_double {x : Rat} (h : 0 <= x) :
    (roundHalfEven x : Rat) <= 2 * x := by
  have hfloor := Int.floor_le x
  rcases (Int.floor_nonneg.mpr h).lt_or_eq with hone | hzero
  · have hround : (roundHalfEven x : Rat) <= ⌊x⌋ + 1 := by
      exact_mod_cast roundHalfEven_le x
    have hone : (1 : Rat) <= ⌊x⌋ := by exact_mod_cast hone
    linarith
  · unfold roundHalfEven
    rw [← hzero]
    split_ifs with hlow hhigh
    · simpa using h
    · push_cast at hhigh ⊢
      linarith
    · simpa using h
    · omega

/-- The exponent of the last place of a number. -/
def lastPlace (x : Rat) : Int :=
  max (-1074) (Int.log 2 |x| - 52)

def roundBinary64 (x : Rat) : Rat :=
  roundHalfEven (x / 2 ^ lastPlace x) * 2 ^ lastPlace x

variable {x y : Rat}

theorem two_zpow_pos (e : Int) : (0 : Rat) < 2 ^ e :=
  zpow_pos two_pos e

theorem lastPlace_mono (hx : 0 < x) (h : x <= y) :
    lastPlace x <= lastPlace y := by
  have hlog : Int.log 2 |x| <= Int.log 2 |y| := by
    rw [abs_of_pos hx, abs_of_pos (hx.trans_le h)]
    exact Int.log_mono_right hx h
  unfold lastPlace
  omega

theorem roundBinary64_of_multiple {n : Int}
    (h : x = n * 2 ^ lastPlace x) : roundBinary64 x = x := by
  have hquotient : x / 2 ^ lastPlace x = n := by
    rw [div_eq_iff (two_zpow_pos _).ne']
    exact h
  unfold roundBinary64
  rw [hquotient, roundHalfEven_intCast]
  exact h.symm

@[simp] theorem roundBinary64_zero : roundBinary64 0 = 0 :=
  roundBinary64_of_multiple (n := 0) (by simp)

@[simp] theorem roundBinary64_one : roundBinary64 1 = 1 := by
  apply roundBinary64_of_multiple (n := 2 ^ 52)
  have hlast : lastPlace 1 = -52 := by simp [lastPlace]
  rw [hlast]
  norm_num

theorem zpow_div_lastPlace {e : Int} (hlast : lastPlace x <= e) :
    (2 : Rat) ^ e / 2 ^ lastPlace x =
      ((2 ^ (e - lastPlace x).toNat : Int) : Rat) := by
  rw [← zpow_sub₀ two_ne_zero]
  push_cast
  rw [← zpow_natCast, Int.toNat_of_nonneg (by omega)]

/-- Rounding does not cross a power of two. -/
theorem roundBinary64_le_zpow {e : Int} (h : x <= 2 ^ e)
    (hlast : lastPlace x <= e) : roundBinary64 x <= 2 ^ e := by
  have hpower := zpow_div_lastPlace hlast
  have hround : roundHalfEven (x / 2 ^ lastPlace x) <=
      2 ^ (e - lastPlace x).toNat := by
    rw [← roundHalfEven_intCast (2 ^ (e - lastPlace x).toNat), ← hpower]
    exact roundHalfEven_mono
      (div_le_div_of_nonneg_right h (two_zpow_pos _).le)
  calc
    roundBinary64 x <= ((2 ^ (e - lastPlace x).toNat : Int) : Rat) *
        2 ^ lastPlace x :=
      mul_le_mul_of_nonneg_right (by exact_mod_cast hround)
        (two_zpow_pos _).le
    _ = 2 ^ e := by
      rw [← hpower]
      exact div_mul_cancel₀ _ (two_zpow_pos _).ne'

theorem zpow_le_roundBinary64 {e : Int} (h : (2 : Rat) ^ e <= x)
    (hlast : lastPlace x <= e) : 2 ^ e <= roundBinary64 x := by
  have hpower := zpow_div_lastPlace hlast
  have hround : 2 ^ (e - lastPlace x).toNat <=
      roundHalfEven (x / 2 ^ lastPlace x) := by
    rw [← roundHalfEven_intCast (2 ^ (e - lastPlace x).toNat), ← hpower]
    exact roundHalfEven_mono
      (div_le_div_of_nonneg_right h (two_zpow_pos _).le)
  calc
    (2 : Rat) ^ e = ((2 ^ (e - lastPlace x).toNat : Int) : Rat) *
        2 ^ lastPlace x := by
      rw [← hpower]
      exact (div_mul_cancel₀ _ (two_zpow_pos _).ne').symm
    _ <= roundBinary64 x :=
      mul_le_mul_of_nonneg_right (by exact_mod_cast hround)
        (two_zpow_pos _).le

theorem roundBinary64_nonneg (h : 0 <= x) : 0 <= roundBinary64 x := by
  have hquotient : 0 <= x / 2 ^ lastPlace x :=
    div_nonneg h (two_zpow_pos _).le
  have hround : 0 <= roundHalfEven (x / 2 ^ lastPlace x) :=
    (Int.floor_nonneg.mpr hquotient).trans (floor_le_roundHalfEven _)
  exact mul_nonneg (by exact_mod_cast hround) (two_zpow_pos _).le

theorem roundBinary64_mono (hx : 0 <= x) (h : x <= y) :
    roundBinary64 x <= roundBinary64 y := by
  rcases hx.eq_or_lt with rfl | hx
  · rw [roundBinary64_zero]
    exact roundBinary64_nonneg h
  have hy := hx.trans_le h
  rcases (lastPlace_mono hx h).lt_or_eq with hlt | heq
  · -- the greatest power of two up to the greater number is above the other
    have hlast : lastPlace y = Int.log 2 y - 52 := by
      unfold lastPlace at hlt ⊢
      rw [abs_of_pos hy] at hlt ⊢
      omega
    have hlog : Int.log 2 x < Int.log 2 y := by
      unfold lastPlace at hlt
      rw [abs_of_pos hx, abs_of_pos hy] at hlt
      omega
    have hbelow : x <= 2 ^ Int.log 2 y :=
      ((Int.lt_zpow_iff_log_lt one_lt_two hx).mpr hlog).le
    have habove : (2 : Rat) ^ Int.log 2 y <= y :=
      Int.zpow_log_le_self one_lt_two hy
    exact (roundBinary64_le_zpow hbelow (by omega)).trans
      (zpow_le_roundBinary64 habove (by omega))
  · unfold roundBinary64
    rw [heq]
    have hquotient : x / 2 ^ lastPlace y <= y / 2 ^ lastPlace y :=
      div_le_div_of_nonneg_right h (two_zpow_pos _).le
    exact mul_le_mul_of_nonneg_right
      (by exact_mod_cast roundHalfEven_mono hquotient) (two_zpow_pos _).le

theorem roundBinary64_le_double (h : 0 <= x) :
    roundBinary64 x <= 2 * x := by
  have hquotient : 0 <= x / 2 ^ lastPlace x :=
    div_nonneg h (two_zpow_pos _).le
  have hscaled := mul_le_mul_of_nonneg_right
    (roundHalfEven_le_double hquotient) (two_zpow_pos (lastPlace x)).le
  rw [mul_assoc, div_mul_cancel₀ _ (two_zpow_pos _).ne'] at hscaled
  exact hscaled

theorem one_le_roundBinary64 (h : 1 <= x) : 1 <= roundBinary64 x := by
  have hmono := roundBinary64_mono zero_le_one h
  rwa [roundBinary64_one] at hmono

theorem roundBinary64_le_one (hx : 0 <= x) (h : x <= 1) :
    roundBinary64 x <= 1 := by
  have hmono := roundBinary64_mono hx h
  rwa [roundBinary64_one] at hmono

example : 7 / 25 < roundBinary64 (7 / 25) := by decide +kernel

end Foundation
end Hmmp
