import Mathlib.Data.Nat.GCD.Basic
import Mathlib.Data.Nat.ModEq
import Hmmp.Foundation.Dict
import Hmmp.Foundation.Separated
import Hmmp.Foundation.SeparatingFold
import Hmmp.Wire.Framing

/-!
# Metadata hashes

The hash of a metadata map is taken over its entries in the order of the
encoded keys, each key and each value followed by a zero byte.
-/

namespace Hmmp
namespace Wire

open Foundation

def fnvStep (hash : Nat) (byte : UInt8) : Nat :=
  ((hash ^^^ byte.toNat) * fnvPrime) &&& 0xFFFFFFFFFFFFFFFF

def fnv1a64 (data : Bytes) : Nat :=
  data.foldl fnvStep fnvOffsetBasis

namespace MetadataHash

def sortKey (key : Text) : Bytes :=
  (encodeUtf8 key).getD []

/-- The first key is sorted before the second, or has the same bytes. -/
def keyOrder (x y : Text) : Bool :=
  decide (sortKey x <= sortKey y)

/-- The keys in the order of their bytes; a key without bytes raises. -/
def sortedKeys (metadata : Dict Text Text) : Except PyError (List Text) :=
  if metadata.keys.all fun key => (encodeUtf8 key).isSome then
    pure (metadata.keys.mergeSort keyOrder)
  else throw PyError.unicodeEncodeError

def valueOf (metadata : Dict Text Text) (key : Text) : Except PyError Text :=
  match metadata.get? key with
  | some value => pure value
  | none => throw PyError.keyError

def segment (metadata : Dict Text Text) (key : Text) :
    Except PyError Bytes := do
  let keyBytes ← BinaryWriter.encodeString key
  let value ← valueOf metadata key
  let valueBytes ← BinaryWriter.encodeString value
  pure (keyBytes ++ [0] ++ valueBytes ++ [0])

def segments (metadata : Dict Text Text) : List Text -> Except PyError Bytes
  | [] => pure []
  | key :: keys => do
      let first ← segment metadata key
      let others ← segments metadata keys
      pure (first ++ others)

def hashed (metadata : Dict Text Text) : Except PyError Bytes := do
  let keys ← sortedKeys metadata
  segments metadata keys

end MetadataHash

def computeMetadataHash (metadata : Dict Text Text) : Except PyError Nat :=
  if metadata.entries.isEmpty then pure 0
  else do
    let concatenated ← MetadataHash.hashed metadata
    pure (fnv1a64 concatenated)

/-!
# Single bytes
-/

theorem xor_right_cancel {x y z : Nat} (h : x ^^^ z = y ^^^ z) : x = y := by
  calc
    x = (x ^^^ z) ^^^ z := by rw [Nat.xor_assoc, Nat.xor_self, Nat.xor_zero]
    _ = (y ^^^ z) ^^^ z := by rw [h]
    _ = y := by rw [Nat.xor_assoc, Nat.xor_self, Nat.xor_zero]

theorem fnvStep_eq (hash : Nat) (byte : UInt8) :
    fnvStep hash byte = (hash ^^^ byte.toNat) * fnvPrime % 2 ^ 64 := by
  unfold fnvStep
  exact Nat.and_two_pow_sub_one_eq_mod _ 64

/-- The multiplier is odd, so multiplication loses nothing. -/
theorem fnvPrime_cancel {x y : Nat} (hx : x < 2 ^ 64) (hy : y < 2 ^ 64)
    (h : x * fnvPrime % 2 ^ 64 = y * fnvPrime % 2 ^ 64) : x = y := by
  have hmod : x ≡ y [MOD 2 ^ 64] :=
    Nat.ModEq.cancel_right_of_coprime (c := fnvPrime) (by decide) h
  have hrest : x % 2 ^ 64 = y % 2 ^ 64 := hmod
  rw [Nat.mod_eq_of_lt hx, Nat.mod_eq_of_lt hy] at hrest
  exact hrest

theorem byte_lt (byte : UInt8) : byte.toNat < 2 ^ 64 :=
  Nat.lt_trans byte.toNat_lt (by decide)

/-- Every byte permutes the states, and different bytes take a state to
different ones. -/
theorem fnvStep_separating :
    SeparatingStep fnvStep {hash | hash < 2 ^ 64} where
  maps hash byte _ := by
    show fnvStep hash byte < 2 ^ 64
    rw [fnvStep_eq]
    exact Nat.mod_lt _ (by decide)
  state_inj byte := by
    intro hash hhash hash' hhash' h
    simp only [fnvStep_eq] at h
    have hxor := fnvPrime_cancel (Nat.xor_lt_two_pow hhash (byte_lt byte))
      (Nat.xor_lt_two_pow hhash' (byte_lt byte)) h
    exact xor_right_cancel hxor
  letter_inj hash hhash := by
    intro byte byte' h
    rw [fnvStep_eq, fnvStep_eq] at h
    have hxor := fnvPrime_cancel (Nat.xor_lt_two_pow hhash (byte_lt byte))
      (Nat.xor_lt_two_pow hhash (byte_lt byte')) h
    rw [Nat.xor_comm hash, Nat.xor_comm hash] at hxor
    exact UInt8.toNat_inj.mp (xor_right_cancel hxor)

theorem fnv1a64_ne {data data' : Bytes} (h : OneEdit data data') :
    fnv1a64 data ≠ fnv1a64 data' :=
  fnvStep_separating.foldl_ne (show fnvOffsetBasis < 2 ^ 64 by decide) h

/-!
# The order of the entries
-/

namespace MetadataHash

variable {metadata metadata' : Dict Text Text} {key : Text} {bs : Bytes}

theorem keys_perm
    (h : forall key, key ∈ metadata.keys <-> key ∈ metadata'.keys) :
    metadata.keys.Perm metadata'.keys :=
  (List.perm_ext_iff_of_nodup metadata.nodup metadata'.nodup).mpr h

theorem keyOrder_trans (x y z : Text) (hxy : keyOrder x y = true)
    (hyz : keyOrder y z = true) : keyOrder x z = true :=
  decide_eq_true
    (List.le_trans (of_decide_eq_true hxy) (of_decide_eq_true hyz))

theorem keyOrder_total (x y : Text) :
    (keyOrder x y || keyOrder y x) = true := by
  unfold keyOrder
  rcases List.le_total (sortKey x) (sortKey y) with hle | hle
  · simp [hle]
  · simp [hle]

theorem keyOrder_antisymm {x y : Text} (hx : ¬ Unencodable x)
    (hy : ¬ Unencodable y) (hxy : keyOrder x y = true)
    (hyx : keyOrder y x = true) : x = y := by
  have hsame : sortKey x = sortKey y :=
    List.le_antisymm (of_decide_eq_true hxy) (of_decide_eq_true hyx)
  rcases Option.ne_none_iff_exists'.mp hx with ⟨bs, hbs⟩
  rcases Option.ne_none_iff_exists'.mp hy with ⟨bs', hbs'⟩
  unfold sortKey at hsame
  rw [hbs, hbs', Option.getD_some, Option.getD_some] at hsame
  rw [← hsame] at hbs'
  exact Utf8.utf8.encode_inj hbs hbs'

theorem sortedKeys_cases (metadata : Dict Text Text) :
    ((forall key, key ∈ metadata.keys -> ¬ Unencodable key) ∧
      sortedKeys metadata =
        Except.ok (metadata.keys.mergeSort keyOrder)) ∨
    ((exists key, key ∈ metadata.keys ∧ Unencodable key) ∧
      sortedKeys metadata = Except.error PyError.unicodeEncodeError) := by
  unfold sortedKeys Unencodable
  cases hall : metadata.keys.all fun key => (encodeUtf8 key).isSome with
  | true =>
      left
      refine ⟨?_, rfl⟩
      intro key hkey
      exact Option.isSome_iff_ne_none.mp (List.all_eq_true.mp hall key hkey)
  | false =>
      right
      rcases List.all_eq_false.mp hall with ⟨key, hkey, hnone⟩
      exact ⟨⟨key, hkey, Option.not_isSome_iff_eq_none.mp hnone⟩, rfl⟩

theorem sortedKeys_perm {keys : List Text}
    (h : sortedKeys metadata = Except.ok keys) :
    keys.Perm metadata.keys := by
  rcases sortedKeys_cases metadata with ⟨_, hsorted⟩ | ⟨_, hraises⟩
  · rw [hsorted] at h
    injection h with h
    rw [← h]
    exact List.mergeSort_perm _ _
  · rw [hraises] at h
    cases h

theorem get?_eq_none_of_sorted {keys : List Text}
    (h : sortedKeys metadata = Except.ok keys) (hmem : key ∉ keys) :
    metadata.get? key = none := by
  cases hfound : metadata.get? key with
  | none => rfl
  | some value =>
      have hkey : key ∈ metadata.keys := Dict.mem_keys_iff.mpr ⟨value, hfound⟩
      exact absurd ((sortedKeys_perm h).mem_iff.mpr hkey) hmem

theorem sortedKeys_congr
    (h : forall key, key ∈ metadata.keys <-> key ∈ metadata'.keys) :
    sortedKeys metadata = sortedKeys metadata' := by
  rcases sortedKeys_cases metadata with ⟨hsome, hsorted⟩ | ⟨hnone, hraises⟩
  · rcases sortedKeys_cases metadata' with
      ⟨hsome', hsorted'⟩ | ⟨⟨key, hkey, hnone⟩, _⟩
    · have hsame : metadata.keys.mergeSort keyOrder =
          metadata'.keys.mergeSort keyOrder := by
        apply List.Perm.eq_of_pairwise _
          (List.pairwise_mergeSort keyOrder_trans keyOrder_total _)
          (List.pairwise_mergeSort keyOrder_trans keyOrder_total _)
        · exact (List.mergeSort_perm _ _).trans
            ((keys_perm h).trans (List.mergeSort_perm _ _).symm)
        · intro x y hx hy
          exact keyOrder_antisymm (hsome x (List.mem_mergeSort.mp hx))
            (hsome' y (List.mem_mergeSort.mp hy))
      rw [hsorted, hsorted', hsame]
    · exact absurd hnone (hsome key ((h key).mpr hkey))
  · rcases sortedKeys_cases metadata' with ⟨hsome', _⟩ | ⟨_, hraises'⟩
    · rcases hnone with ⟨key, hkey, hnone⟩
      exact absurd hnone (hsome' key ((h key).mp hkey))
    · rw [hraises, hraises']

/-!
# Segments
-/

theorem valueOf_eq_ok {value : Text} :
    valueOf metadata key = Except.ok value <->
      metadata.get? key = some value := by
  unfold valueOf
  cases metadata.get? key with
  | none =>
      constructor
      · intro h
        cases h
      · intro h
        cases h
  | some found =>
      constructor
      · intro h
        injection h with h
        rw [h]
      · intro h
        injection h with h
        rw [h]
        rfl

theorem segment_eq_ok :
    segment metadata key = Except.ok bs <->
      exists keyBytes value valueBytes,
        encodeUtf8 key = some keyBytes ∧ metadata.get? key = some value ∧
          encodeUtf8 value = some valueBytes ∧
            bs = keyBytes ++ 0 :: (valueBytes ++ [0]) := by
  constructor
  · intro h
    rcases bind_eq_ok.mp h with ⟨keyBytes, hkey, h⟩
    rcases bind_eq_ok.mp h with ⟨value, hvalue, h⟩
    rcases bind_eq_ok.mp h with ⟨valueBytes, hencoded, h⟩
    injection h with h
    refine ⟨keyBytes, value, valueBytes,
      BinaryWriter.encodeString_eq_ok.mp hkey, valueOf_eq_ok.mp hvalue,
      BinaryWriter.encodeString_eq_ok.mp hencoded, ?_⟩
    rw [← h]
    simp
  · rintro ⟨keyBytes, value, valueBytes, hkey, hvalue, hencoded, rfl⟩
    apply bind_eq_ok.mpr
    refine ⟨keyBytes, BinaryWriter.encodeString_eq_ok.mpr hkey, ?_⟩
    apply bind_eq_ok.mpr
    refine ⟨value, valueOf_eq_ok.mpr hvalue, ?_⟩
    apply bind_eq_ok.mpr
    refine ⟨valueBytes, BinaryWriter.encodeString_eq_ok.mpr hencoded, ?_⟩
    simp [pure, Except.pure]

theorem segments_cons_eq_ok {keys : List Text} :
    segments metadata (key :: keys) = Except.ok bs <->
      exists first others, segment metadata key = Except.ok first ∧
        segments metadata keys = Except.ok others ∧ bs = first ++ others := by
  constructor
  · intro h
    rcases bind_eq_ok.mp h with ⟨first, hfirst, h⟩
    rcases bind_eq_ok.mp h with ⟨others, hothers, h⟩
    injection h with h
    exact ⟨first, others, hfirst, hothers, h.symm⟩
  · rintro ⟨first, others, hfirst, hothers, rfl⟩
    exact bind_eq_ok.mpr ⟨first, hfirst,
      bind_eq_ok.mpr ⟨others, hothers, rfl⟩⟩

theorem segment_congr (h : metadata.get? key = metadata'.get? key) :
    segment metadata key = segment metadata' key := by
  unfold segment valueOf
  rw [h]

theorem segments_congr {keys : List Text}
    (h : forall key, key ∈ keys -> metadata.get? key = metadata'.get? key) :
    segments metadata keys = segments metadata' keys := by
  induction keys with
  | nil => rfl
  | cons key keys ih =>
      have hothers := ih fun other hmem => h other (List.mem_cons_of_mem _ hmem)
      unfold segments
      rw [segment_congr (h key List.mem_cons_self), hothers]

theorem mem_keys_congr
    (h : forall key, metadata.get? key = metadata'.get? key) (key : Text) :
    key ∈ metadata.keys <-> key ∈ metadata'.keys := by
  rw [Dict.mem_keys_iff, Dict.mem_keys_iff, h key]

theorem hashed_congr
    (h : forall key, metadata.get? key = metadata'.get? key) :
    hashed metadata = hashed metadata' := by
  unfold hashed
  rw [sortedKeys_congr (mem_keys_congr h)]
  have hsegments : segments metadata = segments metadata' :=
    funext fun keys => segments_congr fun key _ => h key
  rw [hsegments]

/-!
# What the hashed bytes determine
-/

/-- No key and no value contains the code point zero. -/
def ZeroFree (metadata : Dict Text Text) : Prop :=
  forall key value, metadata.get? key = some value -> 0 ∉ key ∧ 0 ∉ value

/-- Nothing but the code point zero is encoded with a zero byte. -/
theorem zero_notMem_encodeCodePoint {c : CodePoint} (hc : c ≠ 0)
    (h : Utf8.encodeCodePoint c = some bs) : 0 ∉ bs := by
  have hval : c.val ≠ 0 := fun hval => hc (Fin.ext hval)
  have hlt := c.isLt
  have hlead : forall n, 0 < n -> n < 256 -> (0 : UInt8) ≠ UInt8.ofNat n := by
    intro n hpos hn heq
    have hnat := congrArg UInt8.toNat heq
    rw [Utf8.leadByte_toNat hn, UInt8.toNat_zero] at hnat
    omega
  have htail : forall n, (0 : UInt8) ≠ Utf8.tailByte n := by
    intro n heq
    have hnat := congrArg UInt8.toNat heq
    rw [Utf8.tailByte_toNat, UInt8.toNat_zero] at hnat
    omega
  unfold Utf8.encodeCodePoint at h
  simp only at h
  split at h
  · injection h with h
    rw [← h, List.mem_singleton]
    exact hlead _ (by omega) (by omega)
  · split at h
    · injection h with h
      rw [← h]
      simp only [List.mem_cons, List.not_mem_nil, or_false, not_or]
      exact ⟨hlead _ (by omega) (by omega), htail _⟩
    · split at h
      · cases h
      · split at h
        · injection h with h
          rw [← h]
          simp only [List.mem_cons, List.not_mem_nil, or_false, not_or]
          exact ⟨hlead _ (by omega) (by omega), htail _, htail _⟩
        · injection h with h
          rw [← h]
          simp only [List.mem_cons, List.not_mem_nil, or_false, not_or]
          exact ⟨hlead _ (by omega) (by omega), htail _, htail _, htail _⟩

theorem zero_notMem_encoded {s : Text} (hzero : 0 ∉ s)
    (h : encodeUtf8 s = some bs) : 0 ∉ bs := by
  induction s generalizing bs with
  | nil =>
      injection h with h
      rw [← h]
      exact List.not_mem_nil
  | cons c s ih =>
      rcases Utf8.codePoint.encodeAll_cons_eq_some.mp h with
        ⟨front, rest, hfront, hrest, rfl⟩
      have hc : c ≠ 0 := fun heq => hzero (heq ▸ List.mem_cons_self)
      have hs : 0 ∉ s := fun hmem => hzero (List.mem_cons_of_mem c hmem)
      intro hmem
      rcases List.mem_append.mp hmem with hmem | hmem
      · exact zero_notMem_encodeCodePoint hc hfront hmem
      · exact ih hs hrest hmem

theorem segments_inj {keys keys' : List Text} (hzero : ZeroFree metadata)
    (hzero' : ZeroFree metadata')
    (h : segments metadata keys = Except.ok bs)
    (h' : segments metadata' keys' = Except.ok bs) :
    keys = keys' ∧
      forall key, key ∈ keys -> metadata.get? key = metadata'.get? key := by
  induction keys generalizing keys' bs with
  | nil =>
      injection h with h
      cases keys' with
      | nil => exact ⟨rfl, fun key hkey => (nomatch hkey)⟩
      | cons key' keys' =>
          rcases segments_cons_eq_ok.mp h' with
            ⟨first, others, hfirst, _, hbs⟩
          rcases segment_eq_ok.mp hfirst with ⟨x, _, y, _, _, _, hsegment⟩
          rw [← h, hsegment] at hbs
          simp at hbs
  | cons key keys ih =>
      rcases segments_cons_eq_ok.mp h with ⟨first, others, hfirst, hothers, rfl⟩
      rcases segment_eq_ok.mp hfirst with ⟨x, value, y, hx, hvalue, hy, rfl⟩
      cases keys' with
      | nil =>
          injection h' with h'
          simp at h'
      | cons key' keys' =>
          rcases segments_cons_eq_ok.mp h' with
            ⟨first', others', hfirst', hothers', hbs⟩
          rcases segment_eq_ok.mp hfirst' with
            ⟨x', value', y', hx', hvalue', hy', rfl⟩
          have hclear := hzero key value hvalue
          have hclear' := hzero' key' value' hvalue'
          simp only [List.append_assoc, List.cons_append, List.nil_append]
            at hbs
          -- The first zero byte ends the key, the second one the value.
          rcases separator_split (zero_notMem_encoded hclear.1 hx)
            (zero_notMem_encoded hclear'.1 hx') hbs with ⟨rfl, hafter⟩
          rcases separator_split (zero_notMem_encoded hclear.2 hy)
            (zero_notMem_encoded hclear'.2 hy') hafter with ⟨rfl, rfl⟩
          have hkey := Utf8.utf8.encode_inj hx hx'
          have hsame := Utf8.utf8.encode_inj hy hy'
          subst hkey hsame
          rcases ih hothers hothers' with ⟨hrest, hget⟩
          subst hrest
          refine ⟨rfl, ?_⟩
          intro other hother
          rcases List.mem_cons.mp hother with rfl | hother
          · rw [hvalue, hvalue']
          · exact hget other hother

/-- The hashed bytes determine a map without the code point zero. -/
theorem hashed_inj (hzero : ZeroFree metadata) (hzero' : ZeroFree metadata')
    (h : hashed metadata = Except.ok bs)
    (h' : hashed metadata' = Except.ok bs) (key : Text) :
    metadata.get? key = metadata'.get? key := by
  rcases bind_eq_ok.mp h with ⟨keys, hkeys, hsegments⟩
  rcases bind_eq_ok.mp h' with ⟨keys', hkeys', hsegments'⟩
  rcases segments_inj hzero hzero' hsegments hsegments' with ⟨rfl, hget⟩
  by_cases hmem : key ∈ keys
  · exact hget key hmem
  · rw [get?_eq_none_of_sorted hkeys hmem, get?_eq_none_of_sorted hkeys' hmem]

/-!
# Which maps have a hash
-/

def Encodable (metadata : Dict Text Text) : Prop :=
  forall key value, metadata.get? key = some value ->
    ¬ Unencodable key ∧ ¬ Unencodable value

theorem segments_total (h : Encodable metadata) {keys : List Text}
    (hkeys : forall key, key ∈ keys -> key ∈ metadata.keys) :
    exists bs, segments metadata keys = Except.ok bs := by
  induction keys with
  | nil => exact ⟨[], rfl⟩
  | cons key keys ih =>
      rcases ih fun other hmem => hkeys other (List.mem_cons_of_mem _ hmem) with
        ⟨others, hothers⟩
      rcases Dict.mem_keys_iff.mp (hkeys key List.mem_cons_self) with
        ⟨value, hvalue⟩
      rcases h key value hvalue with ⟨hkey, hencoded⟩
      rcases Option.ne_none_iff_exists'.mp hkey with ⟨x, hx⟩
      rcases Option.ne_none_iff_exists'.mp hencoded with ⟨y, hy⟩
      exact ⟨_, segments_cons_eq_ok.mpr ⟨_, others,
        segment_eq_ok.mpr ⟨x, value, y, hx, hvalue, hy, rfl⟩, hothers, rfl⟩⟩

theorem hashed_total (h : Encodable metadata) :
    exists bs, hashed metadata = Except.ok bs := by
  rcases sortedKeys_cases metadata with ⟨_, hsorted⟩ | ⟨⟨key, hkey, hnone⟩, _⟩
  · rcases segments_total h fun key hmem => List.mem_mergeSort.mp hmem with
      ⟨bs, hbs⟩
    exact ⟨bs, bind_eq_ok.mpr ⟨_, hsorted, hbs⟩⟩
  · rcases Dict.mem_keys_iff.mp hkey with ⟨value, hvalue⟩
    exact absurd hnone (h key value hvalue).1

theorem bind_eq_error {ε α β : Type} {first : Except ε α}
    {next : α -> Except ε β} {e : ε} :
    (do next (← first)) = Except.error e <->
      first = Except.error e ∨
        exists a, first = Except.ok a ∧ next a = Except.error e := by
  cases first with
  | error e' => simp [bind, Except.bind]
  | ok a => simp [bind, Except.bind]

theorem encodeString_eq_error {s : Text} {e : PyError}
    (h : BinaryWriter.encodeString s = Except.error e) :
    e = PyError.unicodeEncodeError := by
  unfold BinaryWriter.encodeString at h
  cases hencoded : encodeUtf8 s with
  | none =>
      rw [hencoded] at h
      injection h with h
      exact h.symm
  | some bs =>
      rw [hencoded] at h
      cases h

theorem segment_eq_error {e : PyError} (hkey : key ∈ metadata.keys)
    (h : segment metadata key = Except.error e) :
    e = PyError.unicodeEncodeError := by
  rcases Dict.mem_keys_iff.mp hkey with ⟨value, hvalue⟩
  rcases bind_eq_error.mp h with h | ⟨keyBytes, _, h⟩
  · exact encodeString_eq_error h
  · rw [valueOf_eq_ok.mpr hvalue] at h
    rcases bind_eq_error.mp h with h | ⟨_, hvalue', h⟩
    · cases h
    · rcases bind_eq_error.mp h with h | ⟨_, _, h⟩
      · exact encodeString_eq_error h
      · cases h

theorem segments_eq_error {keys : List Text} {e : PyError}
    (hkeys : forall key, key ∈ keys -> key ∈ metadata.keys)
    (h : segments metadata keys = Except.error e) :
    e = PyError.unicodeEncodeError := by
  induction keys with
  | nil => cases h
  | cons key keys ih =>
      rcases bind_eq_error.mp h with h | ⟨_, _, h⟩
      · exact segment_eq_error (hkeys key List.mem_cons_self) h
      · rcases bind_eq_error.mp h with h | ⟨_, _, h⟩
        · exact ih (fun other hmem => hkeys other (List.mem_cons_of_mem _ hmem)) h
        · cases h

theorem segments_eq_ok_mem {keys : List Text}
    (h : segments metadata keys = Except.ok bs) (hmem : key ∈ keys) :
    exists first, segment metadata key = Except.ok first := by
  induction keys generalizing bs with
  | nil => cases hmem
  | cons other keys ih =>
      rcases segments_cons_eq_ok.mp h with ⟨first, others, hfirst, hothers, _⟩
      rcases List.mem_cons.mp hmem with rfl | hmem
      · exact ⟨first, hfirst⟩
      · exact ih hothers hmem

theorem encodable_of_hashed (h : hashed metadata = Except.ok bs) :
    Encodable metadata := by
  intro key value hvalue
  rcases bind_eq_ok.mp h with ⟨keys, hkeys, hsegments⟩
  have hmem : key ∈ keys :=
    (sortedKeys_perm hkeys).mem_iff.mpr (Dict.mem_keys_iff.mpr ⟨value, hvalue⟩)
  rcases segments_eq_ok_mem hsegments hmem with ⟨first, hfirst⟩
  rcases segment_eq_ok.mp hfirst with ⟨x, value', y, hx, hvalue', hy, _⟩
  rw [hvalue] at hvalue'
  injection hvalue' with hsame
  subst hsame
  exact ⟨Option.ne_none_iff_exists'.mpr ⟨x, hx⟩,
    Option.ne_none_iff_exists'.mpr ⟨y, hy⟩⟩

theorem hashed_raises (h : ¬ Encodable metadata) :
    hashed metadata = Except.error PyError.unicodeEncodeError := by
  cases hhashed : hashed metadata with
  | ok bs => exact absurd (encodable_of_hashed hhashed) h
  | error e =>
      rcases bind_eq_error.mp hhashed with hkeys | ⟨keys, hkeys, hsegments⟩
      · rcases sortedKeys_cases metadata with ⟨_, hsorted⟩ | ⟨_, hraises⟩
        · rw [hsorted] at hkeys
          cases hkeys
        · rw [hraises] at hkeys
          injection hkeys with hkeys
          rw [← hkeys]
      · rw [segments_eq_error
          (fun key hmem => (sortedKeys_perm hkeys).mem_iff.mp hmem) hsegments]

/-!
# Edits of a value
-/

/-- The maps differ in one value, whose encodings differ in one byte. -/
structure ValueEdit (metadata metadata' : Dict Text Text) (key : Text) :
    Prop where
  others : forall other, other ≠ key ->
    metadata.get? other = metadata'.get? other
  edited : exists value value' bs bs', metadata.get? key = some value ∧
    metadata'.get? key = some value' ∧ encodeUtf8 value = some bs ∧
      encodeUtf8 value' = some bs' ∧ DifferInOne bs bs'

theorem ValueEdit.symm (h : ValueEdit metadata metadata' key) :
    ValueEdit metadata' metadata key where
  others other hother := (h.others other hother).symm
  edited := by
    rcases h.edited with
      ⟨value, value', bs, bs', hvalue, hvalue', hbs, hbs', hdiffer⟩
    exact ⟨value', value, bs', bs, hvalue', hvalue, hbs', hbs, hdiffer.symm⟩

theorem ValueEdit.mem_keys_iff (h : ValueEdit metadata metadata' key)
    (other : Text) : other ∈ metadata.keys <-> other ∈ metadata'.keys := by
  rcases h.edited with ⟨value, value', _, _, hvalue, hvalue', _⟩
  rw [Dict.mem_keys_iff, Dict.mem_keys_iff]
  by_cases hother : other = key
  · rw [hother]
    exact ⟨fun _ => ⟨value', hvalue'⟩, fun _ => ⟨value, hvalue⟩⟩
  · rw [h.others other hother]

theorem ValueEdit.encodable (h : ValueEdit metadata metadata' key)
    (hencodable : Encodable metadata) : Encodable metadata' := by
  rcases h.edited with ⟨value, value', _, bs', hvalue, hvalue', _, hbs', _⟩
  intro other found hfound
  by_cases hother : other = key
  · subst hother
    rw [hvalue'] at hfound
    injection hfound with hfound
    subst hfound
    exact ⟨(hencodable other value hvalue).1,
      Option.ne_none_iff_exists'.mpr ⟨bs', hbs'⟩⟩
  · rw [← h.others other hother] at hfound
    exact hencodable other found hfound

theorem ValueEdit.segment (h : ValueEdit metadata metadata' key)
    {first first' : Bytes}
    (hfirst : MetadataHash.segment metadata key = Except.ok first)
    (hfirst' : MetadataHash.segment metadata' key = Except.ok first') :
    OneEdit first first' := by
  rcases h.edited with
    ⟨value, value', y, y', hvalue, hvalue', hy, hy', hdiffer⟩
  rcases segment_eq_ok.mp hfirst with ⟨x, v, b, hx, hv, hb, rfl⟩
  rcases segment_eq_ok.mp hfirst' with ⟨x', v', b', hx', hv', hb', rfl⟩
  rw [hvalue] at hv
  rw [hvalue'] at hv'
  injection hv with hv
  injection hv' with hv'
  subst hv hv'
  rw [hy] at hb
  rw [hy'] at hb'
  rw [hx] at hx'
  injection hb with hb
  injection hb' with hb'
  injection hx' with hx'
  subst hb hb' hx'
  have hcontext := hdiffer.oneEdit.context (x ++ [0]) [0]
  simpa using hcontext

theorem ValueEdit.segments (h : ValueEdit metadata metadata' key)
    {keys : List Text} {data data' : Bytes} (hnodup : keys.Nodup)
    (hmem : key ∈ keys)
    (hdata : MetadataHash.segments metadata keys = Except.ok data)
    (hdata' : MetadataHash.segments metadata' keys = Except.ok data') :
    OneEdit data data' := by
  induction keys generalizing data data' with
  | nil => cases hmem
  | cons other keys ih =>
      rcases segments_cons_eq_ok.mp hdata with
        ⟨first, rest, hfirst, hrest, rfl⟩
      rcases segments_cons_eq_ok.mp hdata' with
        ⟨first', rest', hfirst', hrest', rfl⟩
      rcases List.nodup_cons.mp hnodup with ⟨hother, hnodup⟩
      by_cases hkey : other = key
      · subst hkey
        have hsame := segments_congr fun k (hk : k ∈ keys) =>
          h.others k fun heq => hother (heq ▸ hk)
        rw [hsame, hrest'] at hrest
        injection hrest with hrest
        subst hrest
        exact (h.segment hfirst hfirst').context [] rest'
      · rw [segment_congr (h.others other hkey), hfirst'] at hfirst
        injection hfirst with hfirst
        subst hfirst
        have htail : key ∈ keys := by
          rcases List.mem_cons.mp hmem with heq | htail
          · exact absurd heq.symm hkey
          · exact htail
        have hcontext := (ih hnodup htail hrest hrest').context first' []
        simpa using hcontext

theorem ValueEdit.hashed (h : ValueEdit metadata metadata' key)
    {data data' : Bytes} (hdata : MetadataHash.hashed metadata = Except.ok data)
    (hdata' : MetadataHash.hashed metadata' = Except.ok data') :
    OneEdit data data' := by
  rcases bind_eq_ok.mp hdata with ⟨keys, hkeys, hsegments⟩
  rcases bind_eq_ok.mp hdata' with ⟨keys', hkeys', hsegments'⟩
  rw [sortedKeys_congr h.mem_keys_iff, hkeys'] at hkeys
  injection hkeys with hkeys
  subst hkeys
  have hperm := sortedKeys_perm hkeys'
  rcases h.edited with ⟨_, value', _, _, _, hvalue', _⟩
  exact h.segments (hperm.nodup_iff.mpr metadata'.nodup)
    (hperm.mem_iff.mpr (Dict.mem_keys_iff.mpr ⟨value', hvalue'⟩))
    hsegments hsegments'

end MetadataHash

/-!
# The hash of a map
-/

section

variable {metadata metadata' : Dict Text Text}

theorem isEmpty_eq_keys (metadata : Dict Text Text) :
    metadata.entries.isEmpty = metadata.keys.isEmpty := by
  unfold Dict.keys
  rw [List.isEmpty_map]

theorem computeMetadataHash_congr
    (h : forall key, metadata.get? key = metadata'.get? key) :
    computeMetadataHash metadata = computeMetadataHash metadata' := by
  unfold computeMetadataHash
  rw [isEmpty_eq_keys, isEmpty_eq_keys, MetadataHash.hashed_congr h,
    (MetadataHash.keys_perm (MetadataHash.mem_keys_congr h)).isEmpty_eq]

theorem computeMetadataHash_of_key {key : Text}
    (h : key ∈ metadata.keys) :
    computeMetadataHash metadata =
      (MetadataHash.hashed metadata).map fnv1a64 := by
  have hsome : metadata.entries.isEmpty = false := by
    rw [isEmpty_eq_keys]
    exact List.isEmpty_eq_false_iff_exists_mem.mpr ⟨key, h⟩
  unfold computeMetadataHash
  rw [hsome]
  cases MetadataHash.hashed metadata <;> rfl

theorem computeMetadataHash_raises {key : Text} (hkey : key ∈ metadata.keys)
    (h : ¬ MetadataHash.Encodable metadata) :
    computeMetadataHash metadata =
      Except.error PyError.unicodeEncodeError := by
  rw [computeMetadataHash_of_key hkey, MetadataHash.hashed_raises h]
  rfl

/-- Equal maps have one hash, and what is hashed of maps without the code point
zero determines them. -/
theorem computeMetadataHash_canonical (metadata metadata' : Dict Text Text) :
    ((forall key, metadata.get? key = metadata'.get? key) ->
      computeMetadataHash metadata = computeMetadataHash metadata') ∧
    (MetadataHash.ZeroFree metadata -> MetadataHash.ZeroFree metadata' ->
      forall bs, MetadataHash.hashed metadata = Except.ok bs ->
        MetadataHash.hashed metadata' = Except.ok bs ->
          forall key, metadata.get? key = metadata'.get? key) :=
  ⟨computeMetadataHash_congr, fun hzero hzero' _ h h' =>
    MetadataHash.hashed_inj hzero hzero' h h'⟩

def twoEntries (key value key' value' : Text) (h : key ≠ key') :
    Dict Text Text where
  entries := [(key, value), (key', value')]
  nodup := by simpa using h

theorem mem_twoEntries {key value key' value' : Text} {h : key ≠ key'}
    {k v : Text} :
    (twoEntries key value key' value' h).get? k = some v <->
      (k = key ∧ v = value) ∨ (k = key' ∧ v = value') := by
  rw [Dict.get?_eq_some]
  simp [twoEntries]

theorem twoEntries_forall {key value key' value' : Text} (h : key ≠ key')
    {p : Text -> Text -> Prop} (hfirst : p key value)
    (hsecond : p key' value') (k v : Text)
    (hv : (twoEntries key value key' value' h).get? k = some v) : p k v := by
  rcases mem_twoEntries.mp hv with ⟨rfl, rfl⟩ | ⟨rfl, rfl⟩
  · exact hfirst
  · exact hsecond

theorem computeMetadataHash_canonical_two :
    computeMetadataHash (twoEntries [98] [50] [97] [49] (by decide)) =
        computeMetadataHash (twoEntries [97] [49] [98] [50] (by decide)) ∧
      forall key,
        (twoEntries [98] [50] [97] [49] (by decide)).get? key =
          (twoEntries [97] [49] [98] [50] (by decide)).get? key := by
  have hget : forall key,
      (twoEntries [98] [50] [97] [49] (by decide)).get? key =
        (twoEntries [97] [49] [98] [50] (by decide)).get? key := by
    intro key
    apply Option.ext
    intro value
    rw [mem_twoEntries, mem_twoEntries, or_comm]
  have hencodable : MetadataHash.Encodable
      (twoEntries [98] [50] [97] [49] (by decide)) :=
    twoEntries_forall _ (by decide) (by decide)
  have hzero : MetadataHash.ZeroFree
      (twoEntries [98] [50] [97] [49] (by decide)) :=
    twoEntries_forall _ (by decide) (by decide)
  have hzero' : MetadataHash.ZeroFree
      (twoEntries [97] [49] [98] [50] (by decide)) :=
    twoEntries_forall _ (by decide) (by decide)
  have hcanonical := computeMetadataHash_canonical
    (twoEntries [98] [50] [97] [49] (by decide))
    (twoEntries [97] [49] [98] [50] (by decide))
  rcases MetadataHash.hashed_total hencodable with ⟨bs, hbs⟩
  have hbs' := hbs
  rw [MetadataHash.hashed_congr hget] at hbs'
  exact ⟨hcanonical.1 hget, hcanonical.2 hzero hzero' bs hbs hbs'⟩

/-- A byte string in which one byte is changed has another hash, and so has a
map in which one byte of one value is changed. -/
theorem computeMetadataHash_edit :
    (forall data data' : Bytes, DifferInOne data data' ->
      fnv1a64 data ≠ fnv1a64 data') ∧
    forall (metadata metadata' : Dict Text Text) (key : Text),
      MetadataHash.ValueEdit metadata metadata' key ->
        (MetadataHash.Encodable metadata ->
          exists hash hash', computeMetadataHash metadata = Except.ok hash ∧
            computeMetadataHash metadata' = Except.ok hash' ∧ hash ≠ hash') ∧
        (¬ MetadataHash.Encodable metadata ->
          computeMetadataHash metadata =
              Except.error PyError.unicodeEncodeError ∧
            computeMetadataHash metadata' =
              Except.error PyError.unicodeEncodeError) := by
  constructor
  · intro data data' hdiffer
    exact fnv1a64_ne hdiffer.oneEdit
  · intro metadata metadata' key hedit
    rcases hedit.edited with ⟨value, value', _, _, hvalue, hvalue', _⟩
    have hkey := Dict.mem_keys_iff.mpr ⟨value, hvalue⟩
    have hkey' := Dict.mem_keys_iff.mpr ⟨value', hvalue'⟩
    constructor
    · intro hencodable
      rcases MetadataHash.hashed_total hencodable with ⟨data, hdata⟩
      rcases MetadataHash.hashed_total (hedit.encodable hencodable) with
        ⟨data', hdata'⟩
      refine ⟨fnv1a64 data, fnv1a64 data', ?_, ?_,
        fnv1a64_ne (hedit.hashed hdata hdata')⟩
      · rw [computeMetadataHash_of_key hkey, hdata]
        rfl
      · rw [computeMetadataHash_of_key hkey', hdata']
        rfl
    · intro hunencodable
      have hunencodable' : ¬ MetadataHash.Encodable metadata' :=
        fun h => hunencodable (hedit.symm.encodable h)
      exact ⟨computeMetadataHash_raises hkey hunencodable,
        computeMetadataHash_raises hkey' hunencodable'⟩

theorem computeMetadataHash_edit_two :
    fnv1a64 [1, 2] ≠ fnv1a64 [1, 3] ∧
      exists hash hash',
        computeMetadataHash (twoEntries [97] [49] [98] [50] (by decide)) =
            Except.ok hash ∧
          computeMetadataHash (twoEntries [97] [49] [98] [51] (by decide)) =
            Except.ok hash' ∧ hash ≠ hash' := by
  have hlast : forall (b b' : UInt8), b ≠ b' -> DifferInOne [b] [b'] := by
    intro b b' hne
    refine ⟨rfl, 0, by simpa using hne, ?_⟩
    intro i hi
    cases i with
    | zero => rfl
    | succ i => exact absurd rfl hi
  have hpair : DifferInOne ([1, 2] : Bytes) [1, 3] := by
    refine ⟨rfl, 1, by decide, ?_⟩
    intro i hi
    rcases i with _ | _ | i
    · exact absurd rfl hi
    · rfl
    · exact absurd rfl hi
  have hencodable : MetadataHash.Encodable
      (twoEntries [97] [49] [98] [50] (by decide)) :=
    twoEntries_forall _ (by decide) (by decide)
  have hedit : MetadataHash.ValueEdit
      (twoEntries [97] [49] [98] [50] (by decide))
      (twoEntries [97] [49] [98] [51] (by decide)) [98] := by
    refine ⟨?_, [50], [51], [50], [51], rfl, rfl, rfl, rfl,
      hlast 50 51 (by decide)⟩
    intro other hother
    apply Option.ext
    intro value
    rw [mem_twoEntries, mem_twoEntries]
    simp [hother]
  exact ⟨computeMetadataHash_edit.1 [1, 2] [1, 3] hpair,
    (computeMetadataHash_edit.2 _ _ [98] hedit).1 hencodable⟩

end

end Wire
end Hmmp
