import Mathlib.Data.List.Basic
import Mathlib.Tactic.Common

/-!
# Byte formats with exact decoders

A format pairs a partial encoder with a partial decoder.  The single law of
each structure says that the decoder accepts exactly the images of the encoder,
so a round trip, the injectivity of the encoder and the rejection of every
truncated input are all consequences of one field.
-/

namespace Hmmp
namespace Foundation

abbrev Bytes := List UInt8

/--
A format for a whole byte string: the decoder accepts {lit}`bs` as {lit}`a`
exactly when {lit}`bs` is the encoding of {lit}`a`.
-/
structure Format (α : Type) where
  encode : α -> Option Bytes
  decode : Bytes -> Option α
  decode_iff : forall (a : α) (bs : Bytes),
    decode bs = some a <-> encode a = some bs

/--
A self-delimiting format: the decoder splits an encoding off the front of its
input and returns the bytes that follow it.
-/
structure Codec (α : Type) where
  encode : α -> Option Bytes
  decode : Bytes -> Option (α × Bytes)
  decode_iff : forall (a : α) (bs rest : Bytes),
    decode bs = some (a, rest) <->
      exists front, encode a = some front ∧ bs = front ++ rest

variable {α β : Type}

/-!
# Consequences of the decoder law
-/

namespace Format

theorem decode_encode (f : Format α) {a : α} {bs : Bytes}
    (h : f.encode a = some bs) : f.decode bs = some a :=
  (f.decode_iff a bs).mpr h

theorem encode_inj (f : Format α) {a b : α} {bs : Bytes}
    (ha : f.encode a = some bs) (hb : f.encode b = some bs) : a = b := by
  have hdecode := f.decode_encode ha
  rw [f.decode_encode hb] at hdecode
  injection hdecode with hba
  exact hba.symm

end Format

namespace Codec

theorem decode_encode_append (c : Codec α) {a : α} {bs : Bytes}
    (h : c.encode a = some bs) (rest : Bytes) :
    c.decode (bs ++ rest) = some (a, rest) :=
  (c.decode_iff a (bs ++ rest) rest).mpr ⟨bs, h, rfl⟩

theorem decode_encode (c : Codec α) {a : α} {bs : Bytes}
    (h : c.encode a = some bs) : c.decode bs = some (a, []) := by
  simpa using c.decode_encode_append h []

theorem decode_nil_iff (c : Codec α) (a : α) (bs : Bytes) :
    c.decode bs = some (a, []) <-> c.encode a = some bs := by
  constructor
  · intro h
    rcases (c.decode_iff a bs []).mp h with ⟨front, hfront, hbs⟩
    rw [List.append_nil] at hbs
    rw [hbs]
    exact hfront
  · exact c.decode_encode

/-- A codec read up to the end of the input. -/
def whole (c : Codec α) : Format α where
  encode := c.encode
  decode bs :=
    match c.decode bs with
    | some (a, []) => some a
    | _ => none
  decode_iff a bs := by
    rw [← c.decode_nil_iff a bs]
    rcases c.decode bs with _ | ⟨b, _ | ⟨x, rest⟩⟩ <;> simp

/-!
# Basic codecs
-/

def fail : Codec α where
  encode _ := none
  decode _ := none
  decode_iff a bs rest := by simp

def absent : Codec (Option α) where
  encode
    | none => some []
    | some _ => none
  decode bs := some (none, bs)
  decode_iff o bs rest := by
    cases o with
    | none => simp [eq_comm]
    | some a => simp

def raw (n : Nat) : Codec Bytes where
  encode bs := if bs.length = n then some bs else none
  decode bs := if n <= bs.length then some (bs.take n, bs.drop n) else none
  decode_iff a bs rest := by
    constructor
    · intro h
      split at h
      · rename_i hlen
        injection h with hpair
        injection hpair with hfront hrest
        refine ⟨a, ?_, ?_⟩
        · rw [if_pos]
          rw [← hfront, List.length_take, Nat.min_eq_left hlen]
        · rw [← hfront, ← hrest, List.take_append_drop]
      · cases h
    · intro hparts
      rcases hparts with ⟨front, hfront, rfl⟩
      split at hfront
      · rename_i hlen
        injection hfront with hfront
        subst hfront
        subst hlen
        simp
      · cases hfront

/-!
# Combinators
-/

/-- One codec after another, the second one chosen by the first value. -/
def bind (c : Codec α) (d : α -> Codec β) : Codec (α × β) where
  encode p :=
    match c.encode p.1, (d p.1).encode p.2 with
    | some x, some y => some (x ++ y)
    | _, _ => none
  decode bs :=
    match c.decode bs with
    | none => none
    | some (a, rest) =>
        match (d a).decode rest with
        | none => none
        | some (b, rest') => some ((a, b), rest')
  decode_iff p bs rest := by
    rcases p with ⟨a, b⟩
    constructor
    · intro h
      cases hc : c.decode bs with
      | none =>
          rw [hc] at h
          cases h
      | some first =>
          rcases first with ⟨a', mid⟩
          rw [hc] at h
          cases hd : (d a').decode mid with
          | none =>
              simp only [hd] at h
              cases h
          | some second =>
              rcases second with ⟨b', rest'⟩
              simp only [hd, Option.some.injEq, Prod.mk.injEq] at h
              rcases h with ⟨⟨rfl, rfl⟩, rfl⟩
              rcases (c.decode_iff _ _ _).mp hc with ⟨x, hx, rfl⟩
              rcases ((d a').decode_iff _ _ _).mp hd with ⟨y, hy, rfl⟩
              refine ⟨x ++ y, ?_, (List.append_assoc x y rest').symm⟩
              simp [hx, hy]
    · intro hparts
      rcases hparts with ⟨front, hfront, rfl⟩
      cases hx : c.encode a with
      | none => simp [hx] at hfront
      | some x =>
          cases hy : (d a).encode b with
          | none => simp [hx, hy] at hfront
          | some y =>
              simp only [hx, hy, Option.some.injEq] at hfront
              subst hfront
              rw [List.append_assoc, c.decode_encode_append hx]
              simp [(d a).decode_encode_append hy]

def seq (c : Codec α) (d : Codec β) : Codec (α × β) :=
  c.bind fun _ => d

/-- A codec transported along a partial bijection. -/
def imap (c : Codec α) (into : α -> Option β) (back : β -> Option α)
    (h : forall a b, into a = some b <-> back b = some a) : Codec β where
  encode b := (back b).bind c.encode
  decode bs :=
    (c.decode bs).bind fun p => (into p.1).map fun b => (b, p.2)
  decode_iff b bs rest := by
    constructor
    · intro hdecode
      rcases Option.bind_eq_some_iff.mp hdecode with ⟨⟨a, mid⟩, hc, hinto⟩
      rcases Option.map_eq_some_iff.mp hinto with ⟨b', hb', hpair⟩
      injection hpair with hb hmid
      subst hb
      simp only at hmid
      subst hmid
      rcases (c.decode_iff _ _ _).mp hc with ⟨front, hfront, hbs⟩
      refine ⟨front, ?_, hbs⟩
      rw [(h a b').mp hb']
      exact hfront
    · intro hparts
      rcases hparts with ⟨front, hfront, rfl⟩
      rcases Option.bind_eq_some_iff.mp hfront with ⟨a, ha, henc⟩
      rw [c.decode_encode_append henc]
      simp [(h a b).mpr ha]

def encodeAll (c : Codec α) : List α -> Option Bytes
  | [] => some []
  | a :: as =>
      match c.encode a, encodeAll c as with
      | some x, some y => some (x ++ y)
      | _, _ => none

theorem encodeAll_cons_eq_some (c : Codec α) {a : α} {as : List α}
    {bs : Bytes} :
    c.encodeAll (a :: as) = some bs <->
      exists x y, c.encode a = some x ∧ c.encodeAll as = some y ∧
        bs = x ++ y := by
  cases hx : c.encode a with
  | none => simp [encodeAll, hx]
  | some x =>
      cases hy : c.encodeAll as with
      | none => simp [encodeAll, hx, hy]
      | some y =>
          simp only [encodeAll, hx, hy, Option.some.injEq]
          constructor
          · intro h
            subst h
            exact ⟨x, y, rfl, rfl, rfl⟩
          · intro h
            rcases h with ⟨x', y', rfl, rfl, rfl⟩
            rfl

theorem encodeAll_append_eq_some (c : Codec α) {as as' : List α}
    {bs : Bytes} :
    c.encodeAll (as ++ as') = some bs <->
      exists x y, c.encodeAll as = some x ∧ c.encodeAll as' = some y ∧
        bs = x ++ y := by
  induction as generalizing bs with
  | nil =>
      constructor
      · intro h
        exact ⟨[], bs, rfl, h, rfl⟩
      · rintro ⟨x, y, hx, hy, rfl⟩
        injection hx with hx
        rw [← hx]
        exact hy
  | cons a as ih =>
      rw [List.cons_append, c.encodeAll_cons_eq_some]
      constructor
      · rintro ⟨x, rest, hx, hrest, rfl⟩
        rcases ih.mp hrest with ⟨y, z, hy, hz, rfl⟩
        refine ⟨x ++ y, z, ?_, hz, (List.append_assoc x y z).symm⟩
        exact (c.encodeAll_cons_eq_some).mpr ⟨x, y, hx, hy, rfl⟩
      · rintro ⟨first, z, hfirst, hz, rfl⟩
        rcases (c.encodeAll_cons_eq_some).mp hfirst with ⟨x, y, hx, hy, rfl⟩
        exact ⟨x, y ++ z, hx, ih.mpr ⟨y, z, hy, hz, rfl⟩,
          List.append_assoc x y z⟩

theorem prefix_of_encodeAll (c : Codec α)
    (hne : forall a, c.encode a ≠ some []) {as as' : List α} {x y : Bytes}
    (h : c.encodeAll as = some x) (h' : c.encodeAll as' = some (x ++ y)) :
    as <+: as' := by
  induction as generalizing as' x with
  | nil => exact List.nil_prefix
  | cons a as ih =>
      rcases (c.encodeAll_cons_eq_some).mp h with ⟨u, v, hu, hv, rfl⟩
      cases as' with
      | nil =>
          injection h' with h'
          have hempty := (List.append_eq_nil_iff.mp
            (List.append_eq_nil_iff.mp h'.symm).1).1
          rw [hempty] at hu
          exact absurd hu (hne a)
      | cons b as' =>
          rcases (c.encodeAll_cons_eq_some).mp h' with ⟨u', v', hu', hv', hsplit⟩
          have hfirst := c.decode_encode_append hu (v ++ y)
          have hfirst' := c.decode_encode_append hu' v'
          rw [List.append_assoc] at hsplit
          rw [← hsplit, hfirst] at hfirst'
          injection hfirst' with hpair
          injection hpair with hhead hrest
          subst hhead
          rw [← hrest] at hv'
          exact List.cons_prefix_cons.mpr ⟨rfl, ih hv hv'⟩

def decodeMany (c : Codec α) : Nat -> Bytes -> Option (List α × Bytes)
  | 0, bs => some ([], bs)
  | n + 1, bs =>
      match c.decode bs with
      | none => none
      | some (a, rest) =>
          match decodeMany c n rest with
          | none => none
          | some (as, rest') => some (a :: as, rest')

theorem decodeMany_iff (c : Codec α) (n : Nat) (as : List α)
    (bs rest : Bytes) :
    c.decodeMany n bs = some (as, rest) <->
      as.length = n ∧
        exists front, c.encodeAll as = some front ∧ bs = front ++ rest := by
  induction n generalizing as bs with
  | zero =>
      constructor
      · intro h
        simp only [decodeMany, Option.some.injEq, Prod.mk.injEq] at h
        rcases h with ⟨rfl, rfl⟩
        exact ⟨rfl, [], rfl, rfl⟩
      · intro hparts
        rcases hparts with ⟨hlen, front, hfront, rfl⟩
        have has : as = [] := List.length_eq_zero_iff.mp hlen
        subst has
        simp only [encodeAll, Option.some.injEq] at hfront
        subst hfront
        rfl
  | succ n ih =>
      constructor
      · intro h
        unfold decodeMany at h
        cases hc : c.decode bs with
        | none => simp [hc] at h
        | some first =>
            rcases first with ⟨a, mid⟩
            cases hm : c.decodeMany n mid with
            | none => simp [hc, hm] at h
            | some tail =>
                rcases tail with ⟨as', rest'⟩
                simp only [hc, hm, Option.some.injEq, Prod.mk.injEq] at h
                rcases h with ⟨rfl, rfl⟩
                rcases (c.decode_iff _ _ _).mp hc with ⟨x, hx, rfl⟩
                rcases (ih as' mid).mp hm with ⟨hlen, y, hy, rfl⟩
                refine ⟨by simp [hlen], x ++ y, ?_, ?_⟩
                · exact (c.encodeAll_cons_eq_some).mpr ⟨x, y, hx, hy, rfl⟩
                · rw [List.append_assoc]
      · intro hparts
        rcases hparts with ⟨hlen, front, hfront, rfl⟩
        cases as with
        | nil => cases hlen
        | cons a as' =>
            rcases (c.encodeAll_cons_eq_some).mp hfront with
              ⟨x, y, hx, hy, rfl⟩
            have htail : c.decodeMany n (y ++ rest) = some (as', rest) :=
              (ih as' (y ++ rest)).mpr ⟨by simpa using hlen, y, hy, rfl⟩
            unfold decodeMany
            rw [List.append_assoc, c.decode_encode_append hx]
            simp [htail]

def many (c : Codec α) (n : Nat) : Codec (List α) where
  encode as := if as.length = n then c.encodeAll as else none
  decode := c.decodeMany n
  decode_iff as bs rest := by
    rw [c.decodeMany_iff]
    constructor
    · intro h
      rcases h with ⟨hlen, front, hfront, hbs⟩
      exact ⟨front, by rw [if_pos hlen]; exact hfront, hbs⟩
    · intro h
      rcases h with ⟨front, hfront, hbs⟩
      by_cases hlen : as.length = n
      · rw [if_pos hlen] at hfront
        exact ⟨hlen, front, hfront, hbs⟩
      · rw [if_neg hlen] at hfront
        cases hfront

def counted (len : Codec Nat) (c : Codec α) : Codec (List α) :=
  (len.bind fun n => c.many n).imap
    (fun p => if p.2.length = p.1 then some p.2 else none)
    (fun as => some (as.length, as))
    (by
      intro pair as'
      rcases pair with ⟨n, as⟩
      simp only [Option.ite_none_right_eq_some, Option.some.injEq,
        Prod.mk.injEq]
      constructor
      · intro h
        rcases h with ⟨rfl, rfl⟩
        exact ⟨rfl, rfl⟩
      · intro h
        rcases h with ⟨rfl, rfl⟩
        exact ⟨rfl, rfl⟩)

theorem counted_encode_eq_some (len : Codec Nat) (c : Codec α)
    {as : List α} {bs : Bytes} :
    (counted len c).encode as = some bs <->
      exists x y, len.encode as.length = some x ∧
        c.encodeAll as = some y ∧ bs = x ++ y := by
  cases hx : len.encode as.length with
  | none => simp [counted, imap, bind, many, hx]
  | some x =>
      cases hy : c.encodeAll as with
      | none => simp [counted, imap, bind, many, hx, hy]
      | some y =>
          simp only [counted, imap, bind, many, Option.bind_some, hx, hy,
            if_true, Option.some.injEq]
          constructor
          · intro h
            subst h
            exact ⟨x, y, rfl, rfl, rfl⟩
          · intro h
            rcases h with ⟨x', y', rfl, rfl, rfl⟩
            rfl

/-- A value behind a flag that tells whether it is there. -/
def optional (flag : Codec Bool) (c : Codec α) : Codec (Option α) :=
  (flag.bind fun present =>
    if present then
      c.imap (fun a => some (some a)) id (by simp [eq_comm])
    else absent).imap
    (fun p => if p.2.isSome = p.1 then some p.2 else none)
    (fun o => some (o.isSome, o))
    (by
      intro pair o'
      rcases pair with ⟨present, o⟩
      simp only [Option.ite_none_right_eq_some, Option.some.injEq,
        Prod.mk.injEq]
      constructor
      · intro h
        rcases h with ⟨rfl, rfl⟩
        exact ⟨rfl, rfl⟩
      · intro h
        rcases h with ⟨rfl, rfl⟩
        exact ⟨rfl, rfl⟩)

/-- A format behind the length of its encoding. -/
def block (len : Codec Nat) (f : Format α) : Codec α :=
  (len.bind fun n => raw n).imap
    (fun p => if p.2.length = p.1 then f.decode p.2 else none)
    (fun a => (f.encode a).map fun bs => (bs.length, bs))
    (by
      intro pair a
      rcases pair with ⟨n, bs⟩
      simp only [Option.ite_none_right_eq_some, Option.map_eq_some_iff,
        Prod.mk.injEq, f.decode_iff]
      constructor
      · intro hparts
        rcases hparts with ⟨rfl, h⟩
        exact ⟨bs, h, rfl, rfl⟩
      · intro hparts
        rcases hparts with ⟨bs', h, rfl, rfl⟩
        exact ⟨rfl, h⟩)

theorem block_encode_eq_some (len : Codec Nat) (f : Format α)
    {a : α} {bs : Bytes} :
    (block len f).encode a = some bs <->
      exists x y, f.encode a = some y ∧ len.encode y.length = some x ∧
        bs = x ++ y := by
  cases hy : f.encode a with
  | none => simp [block, imap, hy]
  | some y =>
      cases hx : len.encode y.length with
      | none => simp [block, imap, bind, raw, hx, hy]
      | some x =>
          simp only [block, imap, bind, raw, Option.map_some,
            Option.bind_some, hx, hy, if_true, Option.some.injEq]
          constructor
          · intro h
            subst h
            exact ⟨x, y, rfl, hx, rfl⟩
          · intro h
            rcases h with ⟨x', y', rfl, hx', rfl⟩
            rw [hx] at hx'
            injection hx' with hx'
            rw [hx']

end Codec

/-- A format or nothing at all, if the format never encodes to nothing. -/
def Format.optional (f : Format α) (h : forall a, f.encode a ≠ some []) :
    Format (Option α) where
  encode
    | none => some []
    | some a => f.encode a
  decode
    | [] => some none
    | b :: bs => (f.decode (b :: bs)).map some
  decode_iff o bs := by
    cases bs with
    | nil =>
        cases o with
        | none => simp
        | some a => simpa using h a
    | cons b bs =>
        cases o with
        | none => simp
        | some a => simp [f.decode_iff]

namespace Codec

/-!
# Texts of self-delimiting values

A codec whose encodings are never empty reads a whole byte string as a list of
values.  The fuel of the reader bounds the number of values by the number of
bytes.
-/

def decodeAll (c : Codec α) : Nat -> Bytes -> Option (List α)
  | _, [] => some []
  | 0, _ :: _ => none
  | fuel + 1, x :: bs =>
      match c.decode (x :: bs) with
      | none => none
      | some (a, rest) => (decodeAll c fuel rest).map fun as => a :: as

theorem encodeAll_of_decodeAll (c : Codec α) {fuel : Nat} {as : List α}
    {bs : Bytes} (h : c.decodeAll fuel bs = some as) :
    c.encodeAll as = some bs := by
  induction fuel generalizing as bs with
  | zero =>
      cases bs with
      | nil =>
          simp only [decodeAll, Option.some.injEq] at h
          subst h
          rfl
      | cons x bs => cases h
  | succ fuel ih =>
      cases bs with
      | nil =>
          simp only [decodeAll, Option.some.injEq] at h
          subst h
          rfl
      | cons x bs =>
          unfold decodeAll at h
          cases hc : c.decode (x :: bs) with
          | none => simp [hc] at h
          | some first =>
              rcases first with ⟨a, rest⟩
              simp only [hc, Option.map_eq_some_iff] at h
              rcases h with ⟨as', has', rfl⟩
              rcases (c.decode_iff _ _ _).mp hc with ⟨front, hfront, hbs⟩
              exact (c.encodeAll_cons_eq_some).mpr
                ⟨front, rest, hfront, ih has', hbs⟩

theorem decodeAll_of_encodeAll (c : Codec α)
    (hne : forall a, c.encode a ≠ some []) {as : List α} {fuel : Nat}
    {bs : Bytes} (hfuel : bs.length <= fuel)
    (h : c.encodeAll as = some bs) : c.decodeAll fuel bs = some as := by
  induction as generalizing fuel bs with
  | nil =>
      simp only [encodeAll, Option.some.injEq] at h
      subst h
      cases fuel <;> rfl
  | cons a as ih =>
      rcases (c.encodeAll_cons_eq_some).mp h with ⟨x, y, hx, hy, rfl⟩
      cases x with
      | nil => exact absurd hx (hne a)
      | cons b x =>
          cases fuel with
          | zero => simp at hfuel
          | succ fuel =>
              have hrest : y.length <= fuel := by
                simp only [List.cons_append, List.length_cons,
                  List.length_append] at hfuel
                omega
              have hfirst : c.decode (b :: (x ++ y)) = some (a, y) := by
                simpa using c.decode_encode_append hx y
              rw [List.cons_append, decodeAll, hfirst]
              simp [ih hrest hy]

/-- The values of a whole byte string, one after another. -/
def all (c : Codec α) (hne : forall a, c.encode a ≠ some []) :
    Format (List α) where
  encode := c.encodeAll
  decode bs := c.decodeAll bs.length bs
  decode_iff as bs := by
    constructor
    · exact c.encodeAll_of_decodeAll
    · exact c.decodeAll_of_encodeAll hne (Nat.le_refl _)

end Codec

end Foundation
end Hmmp
