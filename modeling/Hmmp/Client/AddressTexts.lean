import Mathlib.Data.List.TakeWhile
import Mathlib.Tactic.Ring
import Hmmp.Client.ServiceBodies
import Hmmp.Models.SnapshotReading

/-!
# Texts of addresses

The texts that the {lit}`ipaddress` module has for packed addresses: the first
of the longest runs of zero hextets becomes a gap, and from some version on a
mapped address has a dotted tail.  Every text is parsed back as the octets it
stands for, so that an instance from a snapshot is registered and deregistered
under the address the snapshot gave it.
-/

namespace Hmmp
namespace Client

open Foundation
open Models
open Wire

/-!
# The texts
-/

def hextetValues : Bytes -> List Nat
  | high :: low :: octets =>
      (high.toNat * 256 + low.toNat) :: hextetValues octets
  | _ => []

def leadingZeros (values : List Nat) : Nat :=
  (values.takeWhile (· == 0)).length

/-- The place and the length of the first of the longest runs of zeros. -/
def longestZeros (values : List Nat) : Nat × Nat :=
  (List.range values.length).foldl
    (fun best place =>
      if best.2 < leadingZeros (values.drop place) then
        (place, leadingZeros (values.drop place))
      else best)
    (0, 0)

/-- The parts on one side of a gap; without any there is an empty one. -/
def outerParts (parts : List Text) : List Text :=
  if parts.isEmpty then [[]] else parts

/-- The parts between the colons, with a gap for two zeros or more. -/
def compressHextets (values : List Nat) : List Text :=
  let (start, length) := longestZeros values
  if length > 1 then
    outerParts ((values.take start).map hexText) ++
      [] :: outerParts ((values.drop (start + length)).map hexText)
  else values.map hexText

def mappedOctets : Bytes :=
  [0, 0, 0, 0, 0, 0, 0, 0, 0, 0, 0xFF, 0xFF]

/-- The text of an address of sixteen octets; {lit}`dotted` tells whether the
version of the library writes mapped addresses with a dotted tail. -/
def ipv6Text (dotted : Bool) (octets : Bytes) : Text :=
  [codePointOf ':'].intercalate
    (if dotted && octets.take 12 == mappedOctets then
      compressHextets [0, 0, 0, 0, 0, 0, 0, 0xFFFF] ++
        [plainIpLib.ipv4Text (octets.drop 12)]
    else compressHextets (hextetValues octets))

def standardIpLib (dotted : Bool) : IpLib where
  ipv4Text := plainIpLib.ipv4Text
  ipv6Text := ipv6Text dotted

/-- The longest run of an address with two of them, the first of which is
chosen, and a mapped address in both forms. -/
example :
    (standardIpLib true).ipv6Text
        [0x20, 1, 0xD, 0xB8, 0, 0, 0, 0, 0, 1, 0, 0, 0, 0, 0, 1] =
      text "2001:db8::1:0:0:1" ∧
    (standardIpLib true).ipv6Text (mappedOctets ++ [10, 0, 0, 1]) =
      text "::ffff:10.0.0.1" ∧
    (standardIpLib false).ipv6Text (mappedOctets ++ [10, 0, 0, 1]) =
      text "::ffff:a00:1" := by
  decide +kernel

/-!
# Digits
-/

theorem digitValue_digitChar {d : Nat} (h : d < 16) :
    digitValue (codePointOf (Nat.digitChar d)) = some d := by
  have hall : forall d, d < 16 ->
      digitValue (codePointOf (Nat.digitChar d)) = some d := by decide
  exact hall d h

theorem mem_toDigits {base n : Nat} (hbase : 1 < base) (hle : base <= 16)
    {c : Char} (h : c ∈ Nat.toDigits base n) :
    exists d, d < 16 ∧ c = Nat.digitChar d := by
  induction n using Nat.strongRecOn with
  | ind n ih =>
      rw [Nat.toDigits_eq_if hbase] at h
      by_cases hn : n < base
      · rw [if_pos hn] at h
        exact ⟨n, Nat.lt_of_lt_of_le hn hle, List.mem_singleton.mp h⟩
      · rw [if_neg hn] at h
        rcases List.mem_append.mp h with h | h
        · exact ih (n / base)
            (Nat.div_lt_self (by omega) hbase) h
        · exact ⟨n % base,
            Nat.lt_of_lt_of_le (Nat.mod_lt n (by omega)) hle,
            List.mem_singleton.mp h⟩

theorem parseDigits_toDigits {base : Nat} (hbase : 1 < base)
    (hle : base <= 16) (n : Nat) :
    parseDigits base ((Nat.toDigits base n).map codePointOf) = some n := by
  unfold parseDigits
  rw [if_neg (by simp [Nat.toDigits_ne_nil])]
  induction n using Nat.strongRecOn with
  | ind n ih =>
      rw [Nat.toDigits_eq_if hbase]
      by_cases hn : n < base
      · rw [if_pos hn]
        simp [digitValue_digitChar (Nat.lt_of_lt_of_le hn hle), hn]
      · have hdigit : n % base < base := Nat.mod_lt n (by omega)
        have hvalue := digitValue_digitChar (Nat.lt_of_lt_of_le hdigit hle)
        rw [if_neg hn, List.map_append, List.foldlM_append,
          ih (n / base) (Nat.div_lt_self (by omega) hbase)]
        simp [hvalue, hdigit, Nat.div_add_mod']

theorem parseHextet_hexText {n : Nat} (h : n < 65536) :
    parseHextet (hexText n) = some n := by
  have hlength : (hexText n).length <= 4 := by
    unfold hexText
    rw [List.length_map]
    exact (Nat.length_toDigits_le_iff (by decide) (by decide)).mpr h
  unfold parseHextet
  rw [if_neg (Nat.not_lt.mpr hlength)]
  exact parseDigits_toDigits (by decide) (by decide) n

theorem parseOctet_decimal {n : Nat} (h : n < 256) :
    parseOctet (decimal n) = some n := by
  have hall : forall n, n < 256 -> parseOctet (decimal n) = some n := by
    decide +kernel
  exact hall n h

theorem hexText_ne_nil (n : Nat) : hexText n ≠ [] := by
  unfold hexText
  simp [Nat.toDigits_ne_nil]

theorem notMem_hexText {c : Char}
    (hc : forall d, d < 16 -> c ≠ Nat.digitChar d) (n : Nat) :
    codePointOf c ∉ hexText n := by
  intro hmem
  rcases List.mem_map.mp hmem with ⟨d, hd, hdc⟩
  rcases mem_toDigits (by decide) (by decide) hd with ⟨digit, hlt, rfl⟩
  exact hc digit hlt (codePointOf_injective hdc).symm

/-!
# Hextets
-/

def hextetsNumber (values : List Nat) : Nat :=
  values.foldl (fun acc n => acc * 65536 + n) 0

theorem hextetsNumber_append (front back : List Nat) :
    hextetsNumber (front ++ back) =
      hextetsNumber front * 65536 ^ back.length + hextetsNumber back := by
  have hfold : forall acc, back.foldl (fun acc n => acc * 65536 + n) acc =
      acc * 65536 ^ back.length + hextetsNumber back := by
    unfold hextetsNumber
    induction back with
    | nil => simp
    | cons n back ih =>
        intro acc
        rw [List.foldl_cons, List.foldl_cons, ih, ih (0 * 65536 + n),
          List.length_cons, Nat.pow_succ]
        ring
  unfold hextetsNumber at hfold ⊢
  rw [List.foldl_append, hfold]

theorem hextetsNumber_zeros (n : Nat) :
    hextetsNumber (List.replicate n 0) = 0 := by
  induction n with
  | zero => rfl
  | succ n ih =>
      have happend := hextetsNumber_append [0] (List.replicate n 0)
      rw [ih] at happend
      rw [List.replicate_succ]
      simpa [hextetsNumber] using happend

theorem parseHextets_hexText {values : List Nat}
    (h : forall n, n ∈ values -> n < 65536) :
    parseHextets (values.map hexText) = some (hextetsNumber values) := by
  have hvalues : (values.map hexText).mapM parseHextet = some values := by
    induction values with
    | nil => rfl
    | cons n values ih =>
        rw [List.map_cons, List.mapM_cons,
          parseHextet_hexText (h n List.mem_cons_self),
          ih fun m hm => h m (List.mem_cons_of_mem n hm)]
        rfl
  unfold parseHextets
  rw [hvalues]
  rfl

theorem hextetValues_lt (octets : Bytes) :
    forall n, n ∈ hextetValues octets -> n < 65536 := by
  induction octets using hextetValues.induct with
  | case1 high low octets ih =>
      intro n hn
      rw [hextetValues] at hn
      have hhigh := high.toNat_lt
      have hlow := low.toNat_lt
      rcases List.mem_cons.mp hn with rfl | hn
      · omega
      · exact ih n hn
  | case2 octets hshort =>
      intro n hn
      rw [hextetValues] at hn
      · cases hn
      · exact hshort

theorem hextetsNumber_values {octets : Bytes} (h : octets.length % 2 = 0) :
    hextetsNumber (hextetValues octets) = fromBigEndian octets := by
  unfold hextetsNumber fromBigEndian
  generalize 0 = acc
  induction octets using hextetValues.induct generalizing acc with
  | case1 high low octets ih =>
      have heven : octets.length % 2 = 0 := by
        rw [List.length_cons, List.length_cons] at h
        omega
      have hacc : acc * 65536 + (high.toNat * 256 + low.toNat) =
          (acc * 256 + high.toNat) * 256 + low.toNat := by ring
      rw [hextetValues, List.foldl_cons, List.foldl_cons, List.foldl_cons,
        hacc, ih heven]
  | case2 octets hshort =>
      rcases octets with _ | ⟨high, _ | ⟨low, octets⟩⟩
      · rfl
      · cases h
      · exact absurd rfl (hshort high low octets)

theorem hextetValues_length {octets : Bytes} (h : octets.length % 2 = 0) :
    2 * (hextetValues octets).length = octets.length := by
  induction octets using hextetValues.induct with
  | case1 high low octets ih =>
      rw [List.length_cons, List.length_cons] at h ⊢
      rw [hextetValues, List.length_cons]
      have := ih (by omega)
      omega
  | case2 octets hshort =>
      rcases octets with _ | ⟨high, _ | ⟨low, octets⟩⟩
      · rfl
      · cases h
      · exact absurd rfl (hshort high low octets)

/-!
# Runs of zeros
-/

theorem leadingZeros_split {values : List Nat} {n : Nat}
    (h : n <= leadingZeros values) :
    values = List.replicate n 0 ++ values.drop n := by
  have htake : values.take n = List.replicate n 0 := by
    have hzeros : values.take n = (values.takeWhile (· == 0)).take n := by
      rcases List.takeWhile_prefix (l := values) (· == 0) with ⟨rest, hrest⟩
      conv_lhs => rw [← hrest]
      exact List.take_append_of_le_length h
    rw [hzeros, List.eq_replicate_iff, List.length_take]
    refine ⟨Nat.min_eq_left h, fun m hm => ?_⟩
    have hzero := List.mem_takeWhile_imp (List.mem_of_mem_take hm)
    exact beq_iff_eq.mp hzero
  rw [← htake, List.take_append_drop]

theorem longestZeros_le (values : List Nat) :
    (longestZeros values).2 <=
      leadingZeros (values.drop (longestZeros values).1) := by
  unfold longestZeros
  generalize List.range values.length = places
  have hbest : (0, 0).2 <= leadingZeros (values.drop (0, 0).1) :=
    Nat.zero_le _
  generalize (0, 0) = best at hbest ⊢
  induction places generalizing best with
  | nil => exact hbest
  | cons place places ih =>
      rw [List.foldl_cons]
      apply ih
      split
      · exact Nat.le_refl _
      · exact hbest

/-!
# Gaps
-/

theorem outerParts_nil : outerParts [] = [[]] := rfl

theorem outerParts_of_ne_nil {parts : List Text} (h : parts ≠ []) :
    outerParts parts = parts := by
  unfold outerParts
  rw [if_neg (by simpa using h)]

theorem outerParts_length_pos (parts : List Text) :
    0 < (outerParts parts).length := by
  cases parts with
  | nil => exact Nat.one_pos
  | cons part parts =>
      rw [outerParts_of_ne_nil (List.cons_ne_nil part parts)]
      exact Nat.succ_pos _

theorem outerParts_empty {parts : List Text} (hparts : [] ∉ parts) {i : Nat}
    (h : (outerParts parts)[i]? = some []) :
    i = 0 ∧ (outerParts parts).length = 1 := by
  cases parts with
  | nil =>
      rw [outerParts_nil, List.getElem?_singleton] at h
      by_cases hi : i = 0
      · exact ⟨hi, rfl⟩
      · rw [if_neg hi] at h
        cases h
  | cons part parts =>
      rw [outerParts_of_ne_nil (List.cons_ne_nil part parts)] at h
      exact absurd (List.mem_of_getElem? h) hparts

theorem outerParts_head_iff {parts : List Text} (hparts : [] ∉ parts) :
    (outerParts parts).head? = some [] <-> parts = [] := by
  cases parts with
  | nil => exact ⟨fun _ => rfl, fun _ => rfl⟩
  | cons part parts =>
      rw [outerParts_of_ne_nil (List.cons_ne_nil part parts)]
      constructor
      · intro h
        exact absurd (List.mem_of_head? h) hparts
      · intro h
        cases h

theorem outerParts_last_iff {parts : List Text} (hparts : [] ∉ parts) :
    (outerParts parts).getLast? = some [] <-> parts = [] := by
  cases parts with
  | nil => exact ⟨fun _ => rfl, fun _ => rfl⟩
  | cons part parts =>
      rw [outerParts_of_ne_nil (List.cons_ne_nil part parts)]
      constructor
      · intro h
        exact absurd (List.mem_of_getLast? h) hparts
      · intro h
        cases h

theorem mem_outerParts {part : Text} {parts : List Text}
    (h : part ∈ outerParts parts) : part = [] ∨ part ∈ parts := by
  unfold outerParts at h
  split at h
  · exact Or.inl (List.mem_singleton.mp h)
  · exact Or.inr h

theorem filter_range_eq_singleton {n place : Nat} {p : Nat -> Bool}
    (hplace : place < n)
    (h : forall i, i < n -> (p i = true <-> i = place)) :
    (List.range n).filter p = [place] := by
  have hsame : (List.range n).filter p =
      (List.range n).filter (· == place) := by
    apply List.filter_congr
    intro i hi
    rw [Bool.eq_iff_iff, h i (List.mem_range.mp hi), beq_iff_eq]
  rw [hsame, List.filter_beq,
    List.count_eq_one_of_mem List.nodup_range (List.mem_range.mpr hplace)]
  rfl

section Gap

variable {front back : List Text}

theorem gaps_outerParts (hfront : [] ∉ front) (hback : [] ∉ back) :
    gaps (outerParts front ++ [] :: outerParts back) =
      [(outerParts front).length] := by
  have hpos := outerParts_length_pos front
  have hpos' := outerParts_length_pos back
  unfold gaps
  apply filter_range_eq_singleton
  · rw [List.length_append, List.length_cons]
    omega
  · intro i hi
    rw [decide_eq_true_iff, List.length_append, List.length_cons]
    rcases Nat.lt_trichotomy i (outerParts front).length with hlt | rfl | hgt
    · rw [List.getElem?_append_left hlt]
      constructor
      · rintro ⟨hinner, _, hempty⟩
        have := (outerParts_empty hfront hempty).1
        omega
      · intro hsame
        omega
    · rw [List.getElem?_append_right (Nat.le_refl _), Nat.sub_self]
      exact ⟨fun _ => rfl, fun _ => ⟨hpos, by omega, rfl⟩⟩
    · have hindex : i - (outerParts front).length =
          (i - (outerParts front).length - 1) + 1 := by omega
      rw [List.getElem?_append_right (Nat.le_of_lt hgt), hindex,
        List.getElem?_cons_succ]
      constructor
      · rintro ⟨_, hinner, hempty⟩
        have := outerParts_empty hback hempty
        omega
      · intro hsame
        omega

theorem splitGap_outerParts (hfront : [] ∉ front) (hback : [] ∉ back)
    (hfew : front.length + back.length <= 7) :
    splitGap (outerParts front ++ [] :: outerParts back)
      (outerParts front).length = some (front, back) := by
  have hhigh : (if (outerParts front).head? = some [] then
      (outerParts front).tail else outerParts front) = front := by
    split
    · next h => rw [(outerParts_head_iff hfront).mp h, outerParts_nil]; rfl
    · next h =>
        exact outerParts_of_ne_nil fun hnil =>
          h ((outerParts_head_iff hfront).mpr hnil)
  have hlow : (if (outerParts back).getLast? = some [] then
      (outerParts back).dropLast else outerParts back) = back := by
    split
    · next h => rw [(outerParts_last_iff hback).mp h, outerParts_nil]; rfl
    · next h =>
        exact outerParts_of_ne_nil fun hnil =>
          h ((outerParts_last_iff hback).mpr hnil)
  unfold splitGap
  have hdrop : (outerParts front ++ [] :: outerParts back).drop
      ((outerParts front).length + 1) = outerParts back := by
    rw [← List.drop_drop, List.drop_left]
    rfl
  simp only [List.take_left, hdrop]
  rw [hhigh, hlow,
    if_neg fun h => h.2 ((outerParts_head_iff hfront).mp h.1),
    if_neg fun h => h.2 ((outerParts_last_iff hback).mp h.1),
    if_neg (Nat.not_lt.mpr hfew)]

end Gap

theorem outerParts_length_le (parts : List Text) :
    (outerParts parts).length <= parts.length + 1 := by
  cases parts with
  | nil => exact Nat.le_refl _
  | cons part parts =>
      rw [outerParts_of_ne_nil (List.cons_ne_nil part parts)]
      exact Nat.le_succ _

theorem nil_notMem_hexTexts (values : List Nat) :
    [] ∉ values.map hexText := by
  intro h
  rcases List.mem_map.mp h with ⟨n, _, hn⟩
  exact hexText_ne_nil n hn

theorem parseIpv6Parts_gap {front back : List Nat}
    (hfront : forall n, n ∈ front -> n < 65536)
    (hback : forall n, n ∈ back -> n < 65536)
    (hfew : front.length + back.length <= 6) :
    parseIpv6Parts
        (outerParts (front.map hexText) ++
          [] :: outerParts (back.map hexText)) =
      some (hextetsNumber front * 65536 ^ (8 - front.length) +
        hextetsNumber back) := by
  have hlength := outerParts_length_le (front.map hexText)
  have hlength' := outerParts_length_le (back.map hexText)
  rw [List.length_map] at hlength hlength'
  have hgap := gaps_outerParts (nil_notMem_hexTexts front)
    (nil_notMem_hexTexts back)
  have hsplit := splitGap_outerParts (nil_notMem_hexTexts front)
    (nil_notMem_hexTexts back) (by simp only [List.length_map]; omega)
  have hfrontValue := parseHextets_hexText hfront
  have hbackValue := parseHextets_hexText hback
  unfold parseIpv6Parts
  rw [if_neg (by rw [List.length_append, List.length_cons]; omega), hgap]
  simp only [hsplit, hfrontValue, hbackValue, bind, Option.bind,
    List.length_map]

theorem parseIpv6Parts_full {values : List Nat}
    (hvalues : forall n, n ∈ values -> n < 65536)
    (hlength : values.length = 8) :
    parseIpv6Parts (values.map hexText) = some (hextetsNumber values) := by
  have hgaps : gaps (values.map hexText) = [] := by
    unfold gaps
    rw [List.filter_eq_nil_iff]
    intro i _ hi
    rw [decide_eq_true_iff] at hi
    exact nil_notMem_hexTexts values (List.mem_of_getElem? hi.2.2)
  unfold parseIpv6Parts
  rw [hgaps, List.length_map, hlength]
  exact parseHextets_hexText hvalues

/-- However zeros are compressed, the parts stand for the same number. -/
theorem parseIpv6Parts_compress {values : List Nat}
    (hvalues : forall n, n ∈ values -> n < 65536)
    (hlength : values.length = 8) :
    parseIpv6Parts (compressHextets values) = some (hextetsNumber values) := by
  have hrun := leadingZeros_split (longestZeros_le values)
  unfold compressHextets
  generalize longestZeros values = run at hrun ⊢
  rcases run with ⟨start, length⟩
  rw [List.drop_drop] at hrun
  by_cases hlong : length > 1
  · simp only [hlong, if_true]
    -- The value of the hextets in front, the zeros and those behind.
    have hsplit : values = values.take start ++
        (List.replicate length 0 ++ values.drop (start + length)) := by
      rw [← hrun, List.take_append_drop]
    have hlengths := congrArg List.length hsplit
    rw [List.length_append, List.length_append, List.length_replicate,
      hlength] at hlengths
    have hnumber := congrArg hextetsNumber hsplit
    rw [hextetsNumber_append, hextetsNumber_append, hextetsNumber_zeros,
      Nat.zero_mul, Nat.zero_add, List.length_append,
      List.length_replicate] at hnumber
    rw [parseIpv6Parts_gap
      (fun n hn => hvalues n (List.mem_of_mem_take hn))
      (fun n hn => hvalues n (List.mem_of_mem_drop hn)) (by omega), hnumber]
    congr 4
    omega
  · simp only [hlong, if_false]
    exact parseIpv6Parts_full hvalues hlength

/-!
# Parsing
-/

theorem splitOn_of_notMem {sep : CodePoint} {s : Text} (h : sep ∉ s) :
    s.splitOn sep = [s] := by
  have hjoin : ([sep].intercalate [s]).splitOn sep = [s] := by
    apply List.splitOn_intercalate
    · intro part hpart
      rwa [List.mem_singleton.mp hpart]
    · exact List.cons_ne_nil s []
  rwa [List.intercalate_singleton] at hjoin

theorem parseIpv4_of_notMem {s : Text} (h : codePointOf '.' ∉ s) :
    parseIpv4 s = none := by
  unfold parseIpv4
  rw [splitOn_of_notMem h]
  rfl

theorem parseIpv4_text {octets : Bytes}
    (h : octets.length = IpType.ipv4.width) :
    parseIpv4 (plainIpLib.ipv4Text octets) = some (fromBigEndian octets) := by
  have hvalues : (octets.map fun octet => decimal octet.toNat).mapM
      parseOctet = some (octets.map UInt8.toNat) := by
    clear h
    induction octets with
    | nil => rfl
    | cons octet octets ih =>
        rw [List.map_cons, List.mapM_cons, parseOctet_decimal octet.toNat_lt,
          ih]
        rfl
  unfold parseIpv4
  rw [splitOn_ipv4Text (List.ne_nil_of_length_eq_add_one h)]
  simp only [List.length_map, h, IpType.width, hvalues, bind, Option.bind,
    ne_eq, not_true_eq_false, if_false, List.foldl_map]
  rfl

/-- The parts of a text in colon notation have none of its separators. -/
def PlainParts (parts : List Text) : Prop :=
  forall part, part ∈ parts -> codePointOf ':' ∉ part ∧
    codePointOf '/' ∉ part ∧ codePointOf '%' ∉ part

theorem parseIpv6_parts {parts : List Text} (hplain : PlainParts parts)
    (hmany : 3 <= parts.length) :
    parseIpv6 ([codePointOf ':'].intercalate parts) =
      (expandIpv4 parts).bind parseIpv6Parts := by
  have hfree : forall c : CodePoint, c ≠ codePointOf ':' ->
      (forall part, part ∈ parts -> c ∉ part) ->
      c ∉ [codePointOf ':'].intercalate parts := by
    intro c hc hparts hmem
    rcases mem_intercalate hmem with hsep | ⟨part, hpart, hin⟩
    · exact hc hsep
    · exact hparts part hpart hin
  have hslash := hfree (codePointOf '/') (by decide)
    fun part hpart => (hplain part hpart).2.1
  have hscope := hfree (codePointOf '%') (by decide)
    fun part hpart => (hplain part hpart).2.2
  have hdrop : dropScopeId ([codePointOf ':'].intercalate parts) =
      some ([codePointOf ':'].intercalate parts) := by
    unfold dropScopeId
    rw [splitOn_of_notMem hscope]
  have hsplit : ([codePointOf ':'].intercalate parts).splitOn
      (codePointOf ':') = parts := by
    apply List.splitOn_intercalate
    · exact fun part hpart => (hplain part hpart).1
    · exact List.ne_nil_of_length_pos (Nat.lt_of_lt_of_le (by decide) hmany)
  unfold parseIpv6
  rw [if_neg hslash, hdrop]
  simp only [bind, Option.bind, hsplit, Nat.not_lt.mpr hmany, if_false]

theorem mem_compressHextets {values : List Nat} {part : Text}
    (h : part ∈ compressHextets values) :
    part = [] ∨ exists n, part = hexText n := by
  have hmap : forall {values : List Nat}, part ∈ values.map hexText ->
      exists n, part = hexText n := by
    intro values h
    rcases List.mem_map.mp h with ⟨n, _, hn⟩
    exact ⟨n, hn.symm⟩
  have houter : forall {values : List Nat},
      part ∈ outerParts (values.map hexText) ->
        part = [] ∨ exists n, part = hexText n :=
    fun h => (mem_outerParts h).imp_right hmap
  unfold compressHextets at h
  generalize longestZeros values = run at h
  rcases run with ⟨start, length⟩
  simp only at h
  split at h
  · rcases List.mem_append.mp h with h | h
    · exact houter h
    · rcases List.mem_cons.mp h with rfl | h
      · exact Or.inl rfl
      · exact houter h
  · exact Or.inr (hmap h)

theorem notMem_compressHextets {c : Char}
    (hc : forall d, d < 16 -> c ≠ Nat.digitChar d) {values : List Nat}
    {part : Text} (h : part ∈ compressHextets values) :
    codePointOf c ∉ part := by
  rcases mem_compressHextets h with rfl | ⟨n, rfl⟩
  · exact List.not_mem_nil
  · exact notMem_hexText hc n

theorem plainParts_compress (values : List Nat) :
    PlainParts (compressHextets values) := by
  intro part hpart
  exact ⟨notMem_compressHextets (by decide) hpart,
    notMem_compressHextets (by decide) hpart,
    notMem_compressHextets (by decide) hpart⟩

theorem three_le_compress {values : List Nat} (h : 3 <= values.length) :
    3 <= (compressHextets values).length := by
  unfold compressHextets
  generalize longestZeros values = run
  rcases run with ⟨start, length⟩
  simp only
  split
  · have hpos := outerParts_length_pos ((values.take start).map hexText)
    have hpos' :=
      outerParts_length_pos ((values.drop (start + length)).map hexText)
    rw [List.length_append, List.length_cons]
    omega
  · rwa [List.length_map]

theorem expandIpv4_of_notMem {parts : List Text}
    (h : forall part, part ∈ parts -> codePointOf '.' ∉ part) :
    expandIpv4 parts = some parts := by
  unfold expandIpv4
  cases hlast : parts.getLast? with
  | none => rfl
  | some tail => exact if_neg (h tail (List.mem_of_getLast? hlast))

theorem ipToBytes_compressed {values : List Nat}
    (hvalues : forall n, n ∈ values -> n < 65536)
    (hlength : values.length = 8) :
    ipToBytes ([codePointOf ':'].intercalate (compressHextets values)) =
      Except.ok (bigEndian 16 (hextetsNumber values), IpType.ipv6) := by
  have hdots : forall part, part ∈ compressHextets values ->
      codePointOf '.' ∉ part :=
    fun _ hpart => notMem_compressHextets (by decide) hpart
  have hdotted : codePointOf '.' ∉
      [codePointOf ':'].intercalate (compressHextets values) := by
    intro hmem
    rcases mem_intercalate hmem with hsep | ⟨part, hpart, hin⟩
    · exact absurd hsep (by decide)
    · exact hdots part hpart hin
  have hparse : parseIpv6
      ([codePointOf ':'].intercalate (compressHextets values)) =
        some (hextetsNumber values) := by
    rw [parseIpv6_parts (plainParts_compress values)
        (three_le_compress (by omega)), expandIpv4_of_notMem hdots]
    exact parseIpv6Parts_compress hvalues hlength
  unfold ipToBytes
  rw [parseIpv4_of_notMem hdotted, hparse]
  rfl

/-!
# Mapped addresses
-/

theorem parseOctet_of_colon (s : Text) :
    parseOctet (codePointOf ':' :: s) = none := by
  have hcolon : digitValue (codePointOf ':') = none := by decide
  unfold parseOctet parseDigits
  simp [hcolon]

theorem parseIpv4_of_colon (s : Text) :
    parseIpv4 (codePointOf ':' :: s) = none := by
  have hother : (codePointOf ':' == codePointOf '.') = false := by decide
  unfold parseIpv4 List.splitOn
  rw [List.splitOnP_cons_eq_if_modifyHead, hother]
  cases hparts : s.splitOnP (· == codePointOf '.') with
  | nil => exact absurd hparts (List.splitOnP_ne_nil _ s)
  | cons part parts =>
      simp [parseOctet_of_colon]

theorem dot_mem_ipv4Text {octets : Bytes}
    (h : octets.length = IpType.ipv4.width) :
    codePointOf '.' ∈ plainIpLib.ipv4Text octets := by
  by_contra hfree
  have hparts := splitOn_ipv4Text (List.ne_nil_of_length_eq_add_one h)
  rw [splitOn_of_notMem hfree] at hparts
  have hlength := congrArg List.length hparts
  rw [List.length_map, h] at hlength
  cases hlength

theorem notMem_ipv4Text {c : Char} (hdigit : c.isDigit = false)
    (hdot : c ≠ '.') (octets : Bytes) :
    codePointOf c ∉ plainIpLib.ipv4Text octets := by
  intro hmem
  rcases mem_intercalate hmem with hsep | ⟨part, hpart, hin⟩
  · exact hdot (codePointOf_injective hsep)
  · rcases List.mem_map.mp hpart with ⟨octet, _, rfl⟩
    exact notMem_decimal hdigit _ hin

theorem compressHextets_mapped :
    compressHextets [0, 0, 0, 0, 0, 0, 0, 0xFFFF] =
      [[], [], hexText 0xFFFF] := by
  decide +kernel

theorem expandIpv4_mapped {octets : Bytes}
    (h : octets.length = IpType.ipv4.width) :
    expandIpv4 (compressHextets [0, 0, 0, 0, 0, 0, 0, 0xFFFF] ++
        [plainIpLib.ipv4Text octets]) =
      some (outerParts (([] : List Nat).map hexText) ++
        [] :: outerParts ([0xFFFF, fromBigEndian octets / 65536,
          fromBigEndian octets % 65536].map hexText)) := by
  unfold expandIpv4
  rw [List.getLast?_concat]
  simp only [dot_mem_ipv4Text h, if_true, parseIpv4_text h, bind, Option.bind,
    List.dropLast_concat, compressHextets_mapped]
  rfl

theorem ipToBytes_mapped {octets : Bytes}
    (h : octets.length = IpType.ipv4.width) :
    ipToBytes ([codePointOf ':'].intercalate
        (compressHextets [0, 0, 0, 0, 0, 0, 0, 0xFFFF] ++
          [plainIpLib.ipv4Text octets])) =
      Except.ok (bigEndian 16 (fromBigEndian (mappedOctets ++ octets)),
        IpType.ipv6) := by
  have hlt : fromBigEndian octets < 65536 * 65536 := by
    have hlt := fromBigEndian_lt octets
    rwa [h] at hlt
  have hvalues : forall n, n ∈ [0xFFFF, fromBigEndian octets / 65536,
      fromBigEndian octets % 65536] -> n < 65536 := by
    intro n hn
    simp only [List.mem_cons, List.not_mem_nil, or_false] at hn
    rcases hn with rfl | rfl | rfl
    · decide
    · exact Nat.div_lt_of_lt_mul hlt
    · exact Nat.mod_lt _ (by decide)
  have hplain : PlainParts
      (compressHextets [0, 0, 0, 0, 0, 0, 0, 0xFFFF] ++
        [plainIpLib.ipv4Text octets]) := by
    intro part hpart
    rcases List.mem_append.mp hpart with hpart | hpart
    · exact plainParts_compress _ part hpart
    · rw [List.mem_singleton.mp hpart]
      exact ⟨notMem_ipv4Text (by decide) (by decide) octets,
        notMem_ipv4Text (by decide) (by decide) octets,
        notMem_ipv4Text (by decide) (by decide) octets⟩
  have hmany : 3 <= (compressHextets [0, 0, 0, 0, 0, 0, 0, 0xFFFF] ++
      [plainIpLib.ipv4Text octets]).length := by
    have hhead : 3 <=
        (compressHextets [0, 0, 0, 0, 0, 0, 0, 0xFFFF]).length :=
      three_le_compress (by decide)
    rw [List.length_append]
    omega
  have hnumber : fromBigEndian (mappedOctets ++ octets) =
      hextetsNumber [0xFFFF, fromBigEndian octets / 65536,
        fromBigEndian octets % 65536] := by
    have hmapped : fromBigEndian mappedOctets = 0xFFFF := by decide
    rw [fromBigEndian_append, hmapped, h]
    simp only [hextetsNumber, List.foldl_cons, List.foldl_nil, IpType.width]
    omega
  have hparse : parseIpv6 ([codePointOf ':'].intercalate
      (compressHextets [0, 0, 0, 0, 0, 0, 0, 0xFFFF] ++
        [plainIpLib.ipv4Text octets])) =
      some (fromBigEndian (mappedOctets ++ octets)) := by
    have hgap := parseIpv6Parts_gap (fun _ hn => absurd hn List.not_mem_nil)
      hvalues (by simp)
    rw [parseIpv6_parts hplain hmany, expandIpv4_mapped h, hnumber,
      Option.bind_some, hgap]
    simp [hextetsNumber]
  have hcolon : parseIpv4 ([codePointOf ':'].intercalate
      (compressHextets [0, 0, 0, 0, 0, 0, 0, 0xFFFF] ++
        [plainIpLib.ipv4Text octets])) = none := by
    rw [compressHextets_mapped, List.cons_append, List.cons_append,
      List.intercalate_cons_cons]
    exact parseIpv4_of_colon _
  unfold ipToBytes
  rw [hcolon, hparse]
  rfl

/-!
# Addresses
-/

theorem ipToBytes_bytesToIp (dotted : Bool) {octets : Bytes} {ipType : IpType}
    (h : octets.length = ipType.width) :
    ipToBytes (bytesToIp (standardIpLib dotted) octets ipType) =
      Except.ok (octets, ipType) := by
  have hoctets := bigEndian_fromBigEndian octets
  cases ipType with
  | ipv4 =>
      show ipToBytes (plainIpLib.ipv4Text octets) = _
      rw [h] at hoctets
      unfold ipToBytes
      rw [parseIpv4_text h]
      exact congrArg (fun bs => Except.ok (bs, IpType.ipv4)) hoctets
  | ipv6 =>
      have hsixteen : octets.length = 16 := h
      rw [hsixteen] at hoctets
      show ipToBytes (ipv6Text dotted octets) = _
      unfold ipv6Text
      split
      · next hmapped =>
          have hhead : octets.take 12 = mappedOctets := by
            simp only [Bool.and_eq_true, beq_iff_eq] at hmapped
            exact hmapped.2
          have htail : (octets.drop 12).length = IpType.ipv4.width := by
            rw [List.length_drop, hsixteen]
            rfl
          rw [ipToBytes_mapped htail, ← hhead, List.take_append_drop, hoctets]
      · have hlength : (hextetValues octets).length = 8 := by
          have heven : octets.length % 2 = 0 := by omega
          have htwice := hextetValues_length heven
          omega
        rw [ipToBytes_compressed (hextetValues_lt octets) hlength,
          hextetsNumber_values (by omega), hoctets]

theorem bytesToIp_standard_inj (dotted : Bool) {x y : Bytes}
    (ipType ipType' : IpType) (hx : x.length = ipType.width)
    (hy : y.length = ipType'.width)
    (htext : bytesToIp (standardIpLib dotted) x ipType =
      bytesToIp (standardIpLib dotted) y ipType') :
    x = y ∧ ipType = ipType' := by
  have hsame := ipToBytes_bytesToIp dotted hx
  rw [htext, ipToBytes_bytesToIp dotted hy] at hsame
  injection hsame with hsame
  injection hsame with hoctets htype
  exact ⟨hoctets.symm, htype.symm⟩

theorem standardIpLib_faithful (dotted : Bool) :
    FaithfulIpLib (standardIpLib dotted) where
  ipv4_inj x y hx hy htext :=
    (bytesToIp_standard_inj dotted .ipv4 .ipv4 hx hy htext).1
  ipv6_inj x y hx hy htext :=
    (bytesToIp_standard_inj dotted .ipv6 .ipv6 hx hy htext).1
  disjoint x y hx hy htext := by
    have htypes := (bytesToIp_standard_inj dotted .ipv4 .ipv6 hx hy htext).2
    cases htypes

theorem getvalue_of_framing {writes : Writing Unit} {encoding : Option Bytes}
    {strings : List Text} {fits : Prop}
    (h : Framing writes encoding strings fits)
    (hstrings : forall s, s ∈ strings -> ¬ Unencodable s) :
    exists body, BinaryWriter.getvalue writes = Except.ok body := by
  rcases h with ⟨out, hout, hframed⟩
  cases out with
  | none =>
      rcases hframed.raises.mp rfl with ⟨s, hs, hunencodable⟩
      exact absurd hunencodable (hstrings s hs)
  | some body => exact ⟨body, hout.getvalue_eq_ok.mpr rfl⟩

/-- What an item of a snapshot says about the instance it is about. -/
def itemName (b : SnapshotBody) (item : SnapshotItem) : InstanceName where
  serviceName := b.serviceName.text
  ipType := item.ipType
  octets := item.octets
  port := item.port.toNat

/-- The requests that register an instance and take it back name it. -/
def Named (i : ServiceInstance UInt32) (name : InstanceName) : Prop :=
  exists registration deregistration,
    i.toRegisterBytes = Except.ok registration ∧
    i.toDeregisterBytes = Except.ok deregistration ∧
      registeredName registration = some name ∧
        deregisteredName deregistration = some name

theorem named_item (dotted : Bool) (b : SnapshotBody) (item : SnapshotItem) :
    Named (item.instanceOf (standardIpLib dotted) b.serviceName.text)
      (itemName b item) := by
  let i := item.instanceOf (standardIpLib dotted) b.serviceName.text
  have hip : ipToBytes i.ip = Except.ok (item.octets, item.ipType) :=
    ipToBytes_bytesToIp dotted item.octets_length
  have hlength : utf8Length b.serviceName.text < 65536 := by
    unfold utf8Length
    rw [b.serviceName.encodes]
    exact b.serviceName.fits
  have hfits : NameFits i := ⟨hlength, item.port.toNat_lt⟩
  have hstrings : forall s, s ∈ [i.serviceName] -> ¬ Unencodable s := by
    intro s hs
    rw [List.mem_singleton.mp hs]
    show encodeUtf8 b.serviceName.text ≠ none
    rw [b.serviceName.encodes]
    exact Option.some_ne_none _
  rcases getvalue_of_framing (registerInstance_framing hip) hstrings with
    ⟨registration, hregistration⟩
  rcases getvalue_of_framing (deregisterInstance_framing hip) hstrings with
    ⟨deregistration, hderegistration⟩
  exact ⟨registration, deregistration, hregistration, hderegistration,
    registeredName_of_fits hip hfits hregistration,
    deregisteredName_of_fits hip hfits hderegistration⟩

/--
Every address is parsed back from its text, in whichever form the version of the
library writes it.  So a client reads every snapshot as one that determines its
items, and each instance can be registered and taken back: both requests name it
by the service, the octets and the port in the snapshot, although the client
keeps only the text of the address.
-/
theorem addresses_kept (dotted : Bool) :
    (forall (octets : Bytes) (ipType : IpType),
      octets.length = ipType.width ->
        ipToBytes (bytesToIp (standardIpLib dotted) octets ipType) =
          Except.ok (octets, ipType)) ∧
    forall (b : SnapshotBody) (tail : Bytes), exists snapshot,
      ServiceSnapshot.fromBytes (standardIpLib dotted) (b.layout ++ tail) =
        Except.ok snapshot ∧
      List.Forall₂ (fun item i => Named i (itemName b item))
        b.items snapshot.instances ∧
      forall b' : SnapshotBody,
        ServiceSnapshot.fromBytes (standardIpLib dotted) b'.layout =
          Except.ok snapshot -> b' = b := by
  refine ⟨fun _ _ h => ipToBytes_bytesToIp dotted h, fun b tail => ?_⟩
  have hread (b : SnapshotBody) := ServiceSnapshot.fromBytes_snapshotLayout
    (standardIpLib dotted) (standardIpLib_faithful dotted) b
  refine ⟨_, (hread b).1 tail, ?_, ?_⟩
  · unfold SnapshotBody.snapshot
    rw [List.forall₂_map_right_iff, List.forall₂_same]
    exact fun item _ => named_item dotted b item
  · intro b' h
    have hread' := (hread b').1 []
    rw [List.append_nil, h] at hread'
    injection hread' with hread'
    exact (hread b).2.1 b' hread'.symm

end Client
end Hmmp
