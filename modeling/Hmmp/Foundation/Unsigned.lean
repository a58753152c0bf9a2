import Mathlib.Algebra.Group.Nat.Defs
import Mathlib.Data.List.Induction
import Hmmp.Foundation.Codec

/-!
# Big-endian unsigned integers

Fixed-width big-endian encodings of natural numbers.  Encoding a number that is
too large keeps its low-order bytes only, which is what masking a value before
packing it does.
-/

namespace Hmmp
namespace Foundation

/-- The {lit}`width` low-order bytes of {lit}`n`, most significant first. -/
def bigEndian : Nat -> Nat -> Bytes
  | 0, _ => []
  | width + 1, n => bigEndian width (n / 256) ++ [UInt8.ofNat n]

/-- The number a byte string denotes, most significant byte first. -/
def fromBigEndian (bs : Bytes) : Nat :=
  bs.foldl (fun acc b => acc * 256 + b.toNat) 0

@[simp] theorem bigEndian_length (width n : Nat) :
    (bigEndian width n).length = width := by
  induction width generalizing n with
  | zero => rfl
  | succ width ih => simp [bigEndian, ih]

@[simp] theorem fromBigEndian_nil : fromBigEndian [] = 0 := rfl

theorem fromBigEndian_concat (bs : Bytes) (b : UInt8) :
    fromBigEndian (bs ++ [b]) = fromBigEndian bs * 256 + b.toNat := by
  simp [fromBigEndian]

theorem fromBigEndian_append (front back : Bytes) :
    fromBigEndian (front ++ back) =
      fromBigEndian front * 256 ^ back.length + fromBigEndian back := by
  induction back using List.reverseRecOn with
  | nil => simp
  | append_singleton back b ih =>
      rw [← List.append_assoc, fromBigEndian_concat, ih, fromBigEndian_concat,
        List.length_append, List.length_singleton, Nat.pow_succ,
        Nat.add_mul, Nat.mul_assoc, Nat.add_assoc]

theorem fromBigEndian_bigEndian (width n : Nat) :
    fromBigEndian (bigEndian width n) = n % 256 ^ width := by
  induction width generalizing n with
  | zero => simp [bigEndian, Nat.mod_one]
  | succ width ih =>
      have hbyte : (UInt8.ofNat n).toNat = n % 256 := by simp
      rw [bigEndian, fromBigEndian_concat, ih, hbyte, Nat.pow_succ,
        Nat.mul_comm (256 ^ width) 256, Nat.mod_mul]
      omega

theorem fromBigEndian_lt (bs : Bytes) :
    fromBigEndian bs < 256 ^ bs.length := by
  induction bs using List.reverseRecOn with
  | nil => simp
  | append_singleton bs b ih =>
      have hb : b.toNat < 256 := b.toNat_lt
      rw [fromBigEndian_concat, List.length_append, List.length_singleton,
        Nat.pow_succ]
      omega

theorem bigEndian_fromBigEndian (bs : Bytes) :
    bigEndian bs.length (fromBigEndian bs) = bs := by
  induction bs using List.reverseRecOn with
  | nil => rfl
  | append_singleton bs b ih =>
      have hb : b.toNat < 256 := b.toNat_lt
      have hdiv : (fromBigEndian bs * 256 + b.toNat) / 256 =
          fromBigEndian bs := by
        omega
      have hbyte : UInt8.ofNat (fromBigEndian bs * 256 + b.toNat) = b := by
        apply UInt8.toNat_inj.mp
        simp
      rw [fromBigEndian_concat, List.length_append, List.length_singleton,
        bigEndian, hdiv, hbyte, ih]

theorem bigEndian_mod (width n : Nat) :
    bigEndian width (n % 256 ^ width) = bigEndian width n := by
  have h := bigEndian_fromBigEndian (bigEndian width n)
  rw [fromBigEndian_bigEndian, bigEndian_length] at h
  exact h

def Codec.uint (width : Nat) : Codec Nat :=
  (Codec.raw width).imap
    (fun bs => if bs.length = width then some (fromBigEndian bs) else none)
    (fun n => if n < 256 ^ width then some (bigEndian width n) else none)
    (by
      intro bs n
      constructor
      · intro h
        split at h
        · rename_i hlen
          injection h with hn
          subst hn
          subst hlen
          rw [if_pos (fromBigEndian_lt bs), bigEndian_fromBigEndian]
        · cases h
      · intro h
        split at h
        · rename_i hn
          injection h with hbs
          subst hbs
          rw [if_pos (bigEndian_length width n), fromBigEndian_bigEndian,
            Nat.mod_eq_of_lt hn]
        · cases h)

theorem Codec.uint_encode (width n : Nat) :
    (Codec.uint width).encode n =
      if n < 256 ^ width then some (bigEndian width n) else none := by
  by_cases hn : n < 256 ^ width <;> simp [Codec.uint, imap, raw, hn]

def Codec.flag : Codec Bool :=
  (Codec.uint 1).imap
    (fun n => if n = 0 then some false else if n = 1 then some true else none)
    (fun b => some (if b then 1 else 0))
    (by
      intro n b
      cases b with
      | false =>
          constructor
          · intro h
            split at h
            · rename_i hn
              rw [hn]
              rfl
            · split at h <;> cases h
          · intro h
            injection h with h
            rw [← h]
            rfl
      | true =>
          constructor
          · intro h
            split at h
            · cases h
            · split at h
              · rename_i hn
                rw [hn]
                rfl
              · cases h
          · intro h
            injection h with h
            rw [← h]
            rfl)

def Codec.word : Codec UInt32 :=
  (Codec.uint 4).imap
    (fun n => if n < 256 ^ 4 then some (UInt32.ofNat n) else none)
    (fun w => some w.toNat)
    (by
      intro n w
      have hw : w.toNat < 256 ^ 4 := w.toNat_lt
      constructor
      · intro h
        split at h
        · rename_i hn
          injection h with h
          rw [← h, UInt32.toNat_ofNat_of_lt' hn]
        · cases h
      · intro h
        injection h with h
        rw [← h, if_pos hw, UInt32.ofNat_toNat])

end Foundation
end Hmmp
