import Hmmp.Foundation.Codec

/-!
# Text and UTF-8

Text is a list of code points, lone surrogates included.  UTF-8 encodes every
code point except the surrogates, and the strict decoder accepts exactly the
shortest encodings, so the two form a self-delimiting codec for one code point
and a format for whole texts.
-/

namespace Hmmp
namespace Foundation

abbrev CodePoint := Fin 0x110000

abbrev Text := List CodePoint

theorem toNat_lt_codePoints (c : Char) : c.toNat < 0x110000 := by
  have h : c.val.toNat.isValidChar := c.valid
  show c.val.toNat < 0x110000
  rcases h with h | ⟨_, h⟩ <;> omega

def codePointOf (c : Char) : CodePoint :=
  ⟨c.toNat, toNat_lt_codePoints c⟩

theorem codePointOf_injective : Function.Injective codePointOf := by
  intro c d h
  have hval : c.toNat = d.toNat := Fin.mk.inj h
  exact Char.toNat_inj.mp hval

def text (s : String) : Text :=
  s.toList.map codePointOf

def decimal (n : Nat) : Text :=
  (Nat.toDigits 10 n).map codePointOf

theorem decimal_injective : Function.Injective decimal := by
  intro m n h
  have hdigits : Nat.toDigits 10 m = Nat.toDigits 10 n :=
    List.map_injective_iff.mpr codePointOf_injective h
  rw [← Nat.ofDigitChars_ten_toDigits (n := m), hdigits,
    Nat.ofDigitChars_ten_toDigits]

namespace Utf8

/-!
# One code point
-/

def IsSurrogate (n : Nat) : Prop :=
  0xD800 <= n ∧ n < 0xE000

instance (n : Nat) : Decidable (IsSurrogate n) :=
  inferInstanceAs (Decidable (0xD800 <= n ∧ n < 0xE000))

def IsTail (b : UInt8) : Prop :=
  0x80 <= b.toNat ∧ b.toNat < 0xC0

instance (b : UInt8) : Decidable (IsTail b) :=
  inferInstanceAs (Decidable (0x80 <= b.toNat ∧ b.toNat < 0xC0))

/-- A continuation byte that carries the six low-order bits of {lit}`n`. -/
def tailByte (n : Nat) : UInt8 :=
  UInt8.ofNat (0x80 + n % 64)

def encodeCodePoint (c : CodePoint) : Option Bytes :=
  let n := c.val
  if n < 0x80 then
    some [UInt8.ofNat n]
  else if n < 0x800 then
    some [UInt8.ofNat (0xC0 + n / 64), tailByte n]
  else if IsSurrogate n then
    none
  else if n < 0x10000 then
    some [UInt8.ofNat (0xE0 + n / 4096), tailByte (n / 64), tailByte n]
  else
    some [UInt8.ofNat (0xF0 + n / 262144), tailByte (n / 4096),
      tailByte (n / 64), tailByte n]

/-- A code point at or above {lit}`least`, the bound below which its encoding
would not be the shortest one. -/
def scalar (least n : Nat) : Option CodePoint :=
  if h : n < 0x110000 then
    if least <= n ∧ ¬ IsSurrogate n then some ⟨n, h⟩ else none
  else
    none

def decodeCodePoint : Bytes -> Option (CodePoint × Bytes)
  | [] => none
  | b :: rest =>
      let n := b.toNat
      if n < 0x80 then
        (scalar 0 n).map fun c => (c, rest)
      else if n < 0xC0 then
        none
      else if n < 0xE0 then
        match rest with
        | x :: rest =>
            if IsTail x then
              (scalar 0x80 ((n - 0xC0) * 64 + (x.toNat - 0x80))).map
                fun c => (c, rest)
            else
              none
        | _ => none
      else if n < 0xF0 then
        match rest with
        | x :: y :: rest =>
            if IsTail x ∧ IsTail y then
              (scalar 0x800 ((n - 0xE0) * 4096 + (x.toNat - 0x80) * 64 +
                (y.toNat - 0x80))).map fun c => (c, rest)
            else
              none
        | _ => none
      else if n < 0xF8 then
        match rest with
        | x :: y :: z :: rest =>
            if IsTail x ∧ IsTail y ∧ IsTail z then
              (scalar 0x10000 ((n - 0xF0) * 262144 +
                (x.toNat - 0x80) * 4096 + (y.toNat - 0x80) * 64 +
                (z.toNat - 0x80))).map fun c => (c, rest)
            else
              none
        | _ => none
      else
        none

theorem scalar_eq_some {least n : Nat} {c : CodePoint} :
    scalar least n = some c <->
      c.val = n ∧ least <= n ∧ ¬ IsSurrogate n := by
  unfold scalar
  constructor
  · intro h
    split at h
    · split at h
      · rename_i hcond
        injection h with hc
        subst hc
        exact ⟨rfl, hcond⟩
      · cases h
    · cases h
  · intro hparts
    rcases hparts with ⟨rfl, hcond⟩
    rw [dif_pos c.isLt, if_pos hcond]

theorem isTail_tailByte (n : Nat) : IsTail (tailByte n) := by
  unfold IsTail tailByte
  simp
  omega

theorem tailByte_toNat (n : Nat) : (tailByte n).toNat = 0x80 + n % 64 := by
  unfold tailByte
  simp
  omega

theorem tailByte_eq {b : UInt8} {n : Nat} (hb : IsTail b)
    (hn : n % 64 = b.toNat - 0x80) : tailByte n = b := by
  rcases hb with ⟨hlow, hhigh⟩
  apply UInt8.toNat_inj.mp
  rw [tailByte_toNat]
  omega

theorem leadByte_toNat {n : Nat} (hn : n < 256) :
    (UInt8.ofNat n).toNat = n := by
  simp
  omega

theorem leadByte_eq {b : UInt8} {n : Nat} (h : n = b.toNat) :
    UInt8.ofNat n = b := by
  rw [h]
  simp

theorem read_scalar_eq_some {least n : Nat} {rest rest' : Bytes}
    {c : CodePoint} :
    (scalar least n).map (fun c => (c, rest)) = some (c, rest') <->
      c.val = n ∧ least <= n ∧ ¬ IsSurrogate n ∧ rest' = rest := by
  rw [Option.map_eq_some_iff]
  constructor
  · intro h
    rcases h with ⟨c', hscalar, hpair⟩
    injection hpair with hc hrest
    subst hc hrest
    rcases scalar_eq_some.mp hscalar with ⟨hval, hleast, hsur⟩
    exact ⟨hval, hleast, hsur, rfl⟩
  · intro h
    rcases h with ⟨hval, hleast, hsur, hrest⟩
    subst hrest
    exact ⟨c, scalar_eq_some.mpr ⟨hval, hleast, hsur⟩, rfl⟩

/-!
# Encodings by length

The bytes that decode to a code point are those it is encoded with, one lemma
for each length of a sequence.
-/

section

variable {c : CodePoint} {b x y z : UInt8}

theorem encodeCodePoint_one (hb : b.toNat < 0x80) (hval : c.val = b.toNat) :
    encodeCodePoint c = some [b] := by
  have hn : c.val < 0x80 := by omega
  simp only [encodeCodePoint, if_pos hn]
  rw [leadByte_eq (b := b) hval]

theorem encodeCodePoint_two (hlow : ¬ b.toNat < 0xC0) (hhigh : b.toNat < 0xE0)
    (hx : IsTail x)
    (hval : c.val = (b.toNat - 0xC0) * 64 + (x.toNat - 0x80))
    (hleast : 0x80 <= c.val) : encodeCodePoint c = some [b, x] := by
  have htail := hx
  unfold IsTail at htail
  have hn₀ : ¬ c.val < 0x80 := by omega
  have hn₁ : c.val < 0x800 := by omega
  simp only [encodeCodePoint, if_neg hn₀, if_pos hn₁]
  rw [leadByte_eq (b := b) (by omega), tailByte_eq hx (by omega)]

theorem encodeCodePoint_three (hlow : ¬ b.toNat < 0xE0)
    (hhigh : b.toNat < 0xF0) (hx : IsTail x) (hy : IsTail y)
    (hval : c.val = (b.toNat - 0xE0) * 4096 + (x.toNat - 0x80) * 64 +
      (y.toNat - 0x80))
    (hleast : 0x800 <= c.val) (hsur : ¬ IsSurrogate c.val) :
    encodeCodePoint c = some [b, x, y] := by
  have htails := And.intro hx hy
  unfold IsTail at htails
  have hn₀ : ¬ c.val < 0x80 := by omega
  have hn₁ : ¬ c.val < 0x800 := by omega
  have hn₂ : c.val < 0x10000 := by omega
  simp only [encodeCodePoint, if_neg hn₀, if_neg hn₁, if_neg hsur,
    if_pos hn₂]
  rw [leadByte_eq (b := b) (by omega), tailByte_eq hx (by omega),
    tailByte_eq hy (by omega)]

theorem encodeCodePoint_four (hlow : ¬ b.toNat < 0xF0) (hx : IsTail x)
    (hy : IsTail y) (hz : IsTail z)
    (hval : c.val = (b.toNat - 0xF0) * 262144 + (x.toNat - 0x80) * 4096 +
      (y.toNat - 0x80) * 64 + (z.toNat - 0x80))
    (hleast : 0x10000 <= c.val) (hsur : ¬ IsSurrogate c.val) :
    encodeCodePoint c = some [b, x, y, z] := by
  have htails := And.intro hx (And.intro hy hz)
  unfold IsTail at htails
  have hn₀ : ¬ c.val < 0x80 := by omega
  have hn₁ : ¬ c.val < 0x800 := by omega
  have hn₂ : ¬ c.val < 0x10000 := by omega
  simp only [encodeCodePoint, if_neg hn₀, if_neg hn₁, if_neg hsur,
    if_neg hn₂]
  rw [leadByte_eq (b := b) (by omega), tailByte_eq hx (by omega),
    tailByte_eq hy (by omega), tailByte_eq hz (by omega)]

end

theorem decodeCodePoint_sound {c : CodePoint} {bs rest : Bytes}
    (h : decodeCodePoint bs = some (c, rest)) :
    exists front, encodeCodePoint c = some front ∧ bs = front ++ rest := by
  unfold decodeCodePoint at h
  split at h
  · cases h
  · rename_i b rest₀
    simp only at h
    split at h
    · -- one byte
      rename_i hb
      rcases read_scalar_eq_some.mp h with ⟨hval, _, _, hrest⟩
      exact ⟨[b], encodeCodePoint_one hb hval, by rw [hrest]; rfl⟩
    · split at h
      · cases h
      · split at h
        · -- two bytes
          rename_i hlow hhigh
          split at h
          · rename_i x rest₁
            split at h
            · rename_i hx
              rcases read_scalar_eq_some.mp h with ⟨hval, hleast, _, hrest⟩
              rw [← hval] at hleast
              exact ⟨[b, x], encodeCodePoint_two hlow hhigh hx hval hleast,
                by rw [hrest]; rfl⟩
            · cases h
          · cases h
        · split at h
          · -- three bytes
            rename_i hlow hhigh
            split at h
            · rename_i x y rest₁
              split at h
              · rename_i hxy
                rcases hxy with ⟨hx, hy⟩
                rcases read_scalar_eq_some.mp h with
                  ⟨hval, hleast, hsur, hrest⟩
                rw [← hval] at hleast hsur
                exact ⟨[b, x, y],
                  encodeCodePoint_three hlow hhigh hx hy hval hleast hsur,
                  by rw [hrest]; rfl⟩
              · cases h
            · cases h
          · split at h
            · -- four bytes
              rename_i hlow _
              split at h
              · rename_i x y z rest₁
                split at h
                · rename_i hxyz
                  rcases hxyz with ⟨hx, hy, hz⟩
                  rcases read_scalar_eq_some.mp h with
                    ⟨hval, hleast, hsur, hrest⟩
                  rw [← hval] at hleast hsur
                  exact ⟨[b, x, y, z],
                    encodeCodePoint_four hlow hx hy hz hval hleast hsur,
                    by rw [hrest]; rfl⟩
                · cases h
              · cases h
            · cases h

/-!
# Decodings by length
-/

section

variable {c : CodePoint} (rest : Bytes)

theorem decodeCodePoint_one (hn : c.val < 0x80) :
    decodeCodePoint (UInt8.ofNat c.val :: rest) = some (c, rest) := by
  have hlead : (UInt8.ofNat c.val).toNat = c.val :=
    leadByte_toNat (by omega)
  simp only [decodeCodePoint, hlead, if_pos hn]
  exact read_scalar_eq_some.mpr
    ⟨rfl, Nat.zero_le _, by unfold IsSurrogate; omega, rfl⟩

theorem decodeCodePoint_two (hlow : ¬ c.val < 0x80) (hhigh : c.val < 0x800) :
    decodeCodePoint
        (UInt8.ofNat (0xC0 + c.val / 64) :: tailByte c.val :: rest) =
      some (c, rest) := by
  have hlead : (UInt8.ofNat (0xC0 + c.val / 64)).toNat =
      0xC0 + c.val / 64 := leadByte_toNat (by omega)
  have hvalue : (0xC0 + c.val / 64 - 0xC0) * 64 +
      ((tailByte c.val).toNat - 0x80) = c.val := by
    rw [tailByte_toNat]
    omega
  simp only [decodeCodePoint, hlead]
  rw [if_neg (by omega), if_neg (by omega), if_pos (by omega),
    if_pos (isTail_tailByte _), hvalue]
  exact read_scalar_eq_some.mpr
    ⟨rfl, by omega, by unfold IsSurrogate; omega, rfl⟩

theorem decodeCodePoint_three (hlow : ¬ c.val < 0x800)
    (hhigh : c.val < 0x10000) (hsur : ¬ IsSurrogate c.val) :
    decodeCodePoint
        (UInt8.ofNat (0xE0 + c.val / 4096) :: tailByte (c.val / 64) ::
          tailByte c.val :: rest) =
      some (c, rest) := by
  have hlead : (UInt8.ofNat (0xE0 + c.val / 4096)).toNat =
      0xE0 + c.val / 4096 := leadByte_toNat (by omega)
  have hvalue : (0xE0 + c.val / 4096 - 0xE0) * 4096 +
      ((tailByte (c.val / 64)).toNat - 0x80) * 64 +
      ((tailByte c.val).toNat - 0x80) = c.val := by
    rw [tailByte_toNat, tailByte_toNat]
    omega
  simp only [decodeCodePoint, hlead]
  rw [if_neg (by omega), if_neg (by omega), if_neg (by omega),
    if_pos (by omega), if_pos ⟨isTail_tailByte _, isTail_tailByte _⟩, hvalue]
  exact read_scalar_eq_some.mpr ⟨rfl, by omega, hsur, rfl⟩

theorem decodeCodePoint_four (hlow : ¬ c.val < 0x10000)
    (hsur : ¬ IsSurrogate c.val) :
    decodeCodePoint
        (UInt8.ofNat (0xF0 + c.val / 262144) :: tailByte (c.val / 4096) ::
          tailByte (c.val / 64) :: tailByte c.val :: rest) =
      some (c, rest) := by
  have hc := c.isLt
  have hlead : (UInt8.ofNat (0xF0 + c.val / 262144)).toNat =
      0xF0 + c.val / 262144 := leadByte_toNat (by omega)
  have hvalue : (0xF0 + c.val / 262144 - 0xF0) * 262144 +
      ((tailByte (c.val / 4096)).toNat - 0x80) * 4096 +
      ((tailByte (c.val / 64)).toNat - 0x80) * 64 +
      ((tailByte c.val).toNat - 0x80) = c.val := by
    rw [tailByte_toNat, tailByte_toNat, tailByte_toNat]
    omega
  simp only [decodeCodePoint, hlead]
  rw [if_neg (by omega), if_neg (by omega), if_neg (by omega),
    if_neg (by omega), if_pos (by omega),
    if_pos ⟨isTail_tailByte _, isTail_tailByte _, isTail_tailByte _⟩, hvalue]
  exact read_scalar_eq_some.mpr ⟨rfl, by omega, hsur, rfl⟩

end

theorem decodeCodePoint_complete {c : CodePoint} {front : Bytes}
    (h : encodeCodePoint c = some front) (rest : Bytes) :
    decodeCodePoint (front ++ rest) = some (c, rest) := by
  unfold encodeCodePoint at h
  simp only at h
  split at h
  · rename_i hn
    injection h with h
    subst h
    exact decodeCodePoint_one rest hn
  · split at h
    · rename_i hlow hhigh
      injection h with h
      subst h
      exact decodeCodePoint_two rest hlow hhigh
    · split at h
      · cases h
      · rename_i _ hlow hsur
        split at h
        · rename_i hhigh
          injection h with h
          subst h
          exact decodeCodePoint_three rest hlow hhigh hsur
        · rename_i hlow'
          injection h with h
          subst h
          exact decodeCodePoint_four rest hlow' hsur

/-- One code point in its shortest encoding. -/
def codePoint : Codec CodePoint where
  encode := encodeCodePoint
  decode := decodeCodePoint
  decode_iff c bs rest := by
    constructor
    · exact decodeCodePoint_sound
    · intro h
      rcases h with ⟨front, hfront, rfl⟩
      exact decodeCodePoint_complete hfront rest

theorem encodeCodePoint_ne_nil (c : CodePoint) :
    codePoint.encode c ≠ some [] := by
  intro h
  have hempty := decodeCodePoint_complete h []
  cases hempty

/-!
# Whole texts
-/

/-- Texts without surrogates, as Python's strict codec handles them. -/
def utf8 : Format Text :=
  codePoint.all encodeCodePoint_ne_nil

end Utf8

/-- The UTF-8 bytes of a text, or nothing when it holds a lone surrogate. -/
def encodeUtf8 (s : Text) : Option Bytes :=
  Utf8.utf8.encode s

def decodeUtf8 (bs : Bytes) : Option Text :=
  Utf8.utf8.decode bs

theorem decodeUtf8_encodeUtf8 {s : Text} {bs : Bytes}
    (h : encodeUtf8 s = some bs) : decodeUtf8 bs = some s :=
  Utf8.utf8.decode_encode h

@[simp] theorem encodeUtf8_nil : encodeUtf8 [] = some [] := rfl

end Foundation
end Hmmp
