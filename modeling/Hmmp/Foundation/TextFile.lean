import Hmmp.Foundation.Utf8

/-!
# Text files

A text file is written as the UTF-8 encoding of its text and read back with
universal newlines: a carriage return, alone or before a line feed, becomes a
line feed.  A write that is cut short leaves a prefix of the encoding.  In the
name of a file a surrogate from U+DC80 on stands for one byte.
-/

namespace Hmmp
namespace Foundation

def carriageReturn : CodePoint := codePointOf '\r'

def lineFeed : CodePoint := codePointOf '\n'

theorem lineFeed_ne_carriageReturn : lineFeed ≠ carriageReturn := by
  decide

/-- Universal newlines; the flag tells that a carriage return was just
read. -/
def translateNewlines : Bool -> Text -> Text
  | _, [] => []
  | afterReturn, c :: rest =>
      if c = carriageReturn then
        lineFeed :: translateNewlines true rest
      else if afterReturn ∧ c = lineFeed then
        translateNewlines false rest
      else
        c :: translateNewlines false rest

def readText (bs : Bytes) : Option Text :=
  (decodeUtf8 bs).map (translateNewlines false)

def fsEncodeCodePoint (c : CodePoint) : Option Bytes :=
  if 0xDC80 <= c.val ∧ c.val <= 0xDCFF then
    some [UInt8.ofNat (c.val - 0xDC00)]
  else
    Utf8.encodeCodePoint c

/-- The bytes of a file name, surrogates escaped. -/
def fsEncode (filename : Text) : Option Bytes :=
  (filename.mapM fsEncodeCodePoint).map List.flatten

/-!
# Universal newlines
-/

theorem carriageReturn_not_mem_translate (afterReturn : Bool) (s : Text) :
    carriageReturn ∉ translateNewlines afterReturn s := by
  induction s generalizing afterReturn with
  | nil => simp [translateNewlines]
  | cons c rest ih =>
      rw [translateNewlines]
      split
      · intro hmem
        rcases List.mem_cons.mp hmem with heq | hrest
        · exact lineFeed_ne_carriageReturn heq.symm
        · exact ih true hrest
      · split
        · exact ih false
        · rename_i hreturn _
          intro hmem
          rcases List.mem_cons.mp hmem with heq | hrest
          · exact hreturn heq.symm
          · exact ih false hrest

theorem mem_of_mem_translate {afterReturn : Bool} {s : Text}
    {c : CodePoint} (h : c ∈ translateNewlines afterReturn s) :
    c ∈ s ∨ c = lineFeed := by
  induction s generalizing afterReturn with
  | nil => cases h
  | cons d rest ih =>
      rw [translateNewlines] at h
      split at h
      · rcases List.mem_cons.mp h with heq | hrest
        · exact Or.inr heq
        · exact (ih hrest).imp_left (List.mem_cons_of_mem d)
      · split at h
        · exact (ih h).imp_left (List.mem_cons_of_mem d)
        · rcases List.mem_cons.mp h with heq | hrest
          · exact Or.inl (List.mem_cons.mpr (Or.inl heq))
          · exact (ih hrest).imp_left (List.mem_cons_of_mem d)

theorem translateNewlines_of_not_mem {s : Text}
    (h : carriageReturn ∉ s) : translateNewlines false s = s := by
  induction s with
  | nil => rfl
  | cons c rest ih =>
      have hc : c ≠ carriageReturn := by
        intro heq
        exact h (List.mem_cons.mpr (Or.inl heq.symm))
      have hrest : carriageReturn ∉ rest := by
        intro hmem
        exact h (List.mem_cons.mpr (Or.inr hmem))
      simp [translateNewlines, hc, ih hrest]

theorem translateNewlines_eq_self_iff {s : Text} :
    translateNewlines false s = s <-> carriageReturn ∉ s := by
  constructor
  · intro h hmem
    rw [← h] at hmem
    exact carriageReturn_not_mem_translate false s hmem
  · exact translateNewlines_of_not_mem

theorem translateNewlines_false_eq_nil_iff {s : Text} :
    translateNewlines false s = [] <-> s = [] := by
  cases s with
  | nil => simp [translateNewlines]
  | cons c rest =>
      by_cases hc : c = carriageReturn <;> simp [translateNewlines, hc]

theorem translateNewlines_true_eq_nil_iff {s : Text} :
    translateNewlines true s = [] <-> s = [] ∨ s = [lineFeed] := by
  cases s with
  | nil => simp [translateNewlines]
  | cons c rest =>
      by_cases hc : c = carriageReturn
      · simp [translateNewlines, hc, lineFeed_ne_carriageReturn.symm]
      · by_cases hfeed : c = lineFeed
        · simp [translateNewlines, hfeed, lineFeed_ne_carriageReturn,
            translateNewlines_false_eq_nil_iff]
        · simp [translateNewlines, hc, hfeed]

/-- A text reads like its first code point only if nothing else is in it, or
if it is one carriage return and line feed. -/
theorem translateNewlines_eq_head_iff {c : CodePoint} {rest : Text} :
    translateNewlines false (c :: rest) = translateNewlines false [c] <->
      rest = [] ∨ (c = carriageReturn ∧ rest = [lineFeed]) := by
  by_cases hc : c = carriageReturn
  · subst hc
    simp [translateNewlines, translateNewlines_true_eq_nil_iff]
  · simp [translateNewlines, hc, translateNewlines_false_eq_nil_iff]

/-!
# Encodings and their prefixes
-/

theorem encodeUtf8_cons_eq_some {c : CodePoint} {rest : Text}
    {bs : Bytes} :
    encodeUtf8 (c :: rest) = some bs <->
      exists front back, Utf8.encodeCodePoint c = some front ∧
        encodeUtf8 rest = some back ∧ bs = front ++ back :=
  Utf8.codePoint.encodeAll_cons_eq_some

theorem decodeUtf8_eq_some_iff {s : Text} {bs : Bytes} :
    decodeUtf8 bs = some s <-> encodeUtf8 s = some bs :=
  Utf8.utf8.decode_iff s bs

theorem encodeUtf8_eq_nil_iff {s : Text} :
    encodeUtf8 s = some [] <-> s = [] := by
  constructor
  · intro h
    have hdecode := decodeUtf8_encodeUtf8 h
    rw [decodeUtf8_encodeUtf8 encodeUtf8_nil] at hdecode
    exact (Option.some.inj hdecode).symm
  · intro h
    subst h
    rfl

theorem readText_encodeUtf8 {s : Text} {bs : Bytes}
    (h : encodeUtf8 s = some bs) :
    readText bs = some (translateNewlines false s) := by
  rw [readText, decodeUtf8_encodeUtf8 h]
  rfl

@[simp] theorem readText_nil : readText [] = some [] := rfl

theorem encodeUtf8_isSome_iff {s : Text} :
    (encodeUtf8 s).isSome <->
      forall c, c ∈ s -> (Utf8.encodeCodePoint c).isSome := by
  induction s with
  | nil => simp
  | cons c rest ih =>
      rw [List.forall_mem_cons, ← ih, Option.isSome_iff_exists]
      constructor
      · intro h
        rcases h with ⟨bs, hbs⟩
        rcases encodeUtf8_cons_eq_some.mp hbs with
          ⟨front, back, hfront, hback, _⟩
        rw [hfront, hback]
        exact ⟨rfl, rfl⟩
      · intro h
        rcases Option.isSome_iff_exists.mp h.1 with ⟨front, hfront⟩
        rcases Option.isSome_iff_exists.mp h.2 with ⟨back, hback⟩
        exact ⟨front ++ back,
          encodeUtf8_cons_eq_some.mpr ⟨front, back, hfront, hback, rfl⟩⟩

theorem encodeUtf8_of_readText {s : Text} {bs : Bytes}
    (h : readText bs = some s) : exists bs', encodeUtf8 s = some bs' := by
  rcases Option.map_eq_some_iff.mp h with ⟨raw, hraw, rfl⟩
  apply Option.isSome_iff_exists.mp
  apply encodeUtf8_isSome_iff.mpr
  intro c hc
  rcases mem_of_mem_translate hc with hmem | hfeed
  · have hencoded : (encodeUtf8 raw).isSome := by
      rw [decodeUtf8_eq_some_iff.mp hraw]
      rfl
    exact encodeUtf8_isSome_iff.mp hencoded c hmem
  · subst hfeed
    decide

theorem encodeCodePoint_prefix {c d : CodePoint} {front back : Bytes}
    (hc : Utf8.encodeCodePoint c = some front)
    (hd : Utf8.encodeCodePoint d = some (front ++ back)) :
    d = c ∧ back = [] := by
  have hshort := Utf8.decodeCodePoint_complete hc back
  have hlong := Utf8.decodeCodePoint_complete hd []
  rw [List.append_nil, hshort] at hlong
  injection hlong with hpair
  injection hpair with heq hback
  exact ⟨heq.symm, hback⟩

theorem encodeCodePoint_ascii {c : CodePoint} (h : c.val < 0x80) :
    Utf8.encodeCodePoint c = some [UInt8.ofNat c.val] := by
  simp [Utf8.encodeCodePoint, h]

theorem encodeCodePoint_eq_single {c : CodePoint} {b : UInt8}
    (h : Utf8.encodeCodePoint c = some [b]) : c.val < 0x80 := by
  by_contra hlarge
  simp only [Utf8.encodeCodePoint, if_neg hlarge] at h
  repeat' split at h
  all_goals simp at h

theorem decodeUtf8_single {b : UInt8} {s : Text}
    (h : decodeUtf8 [b] = some s) :
    exists c, s = [c] ∧ Utf8.encodeCodePoint c = some [b] := by
  have hencode := decodeUtf8_eq_some_iff.mp h
  cases s with
  | nil => cases hencode
  | cons c rest =>
      rcases encodeUtf8_cons_eq_some.mp hencode with
        ⟨front, back, hfront, hback, hbytes⟩
      cases front with
      | nil => exact absurd hfront (Utf8.encodeCodePoint_ne_nil c)
      | cons x front =>
          simp only [List.cons_append, List.cons.injEq] at hbytes
          rcases hbytes with ⟨rfl, hnil⟩
          rcases List.append_eq_nil_iff.mp hnil.symm with ⟨hfronts, hbacks⟩
          rw [hbacks] at hback
          rw [hfronts] at hfront
          exact ⟨c, by rw [encodeUtf8_eq_nil_iff.mp hback], hfront⟩

theorem decodeUtf8_first_byte {c : CodePoint} {rest s : Text} {b : UInt8}
    {bs : Bytes} (hbytes : encodeUtf8 (c :: rest) = some (b :: bs))
    (hfirst : decodeUtf8 [b] = some s) : s = [c] ∧ c.val < 0x80 := by
  rcases decodeUtf8_single hfirst with ⟨d, hs, hd⟩
  rcases encodeUtf8_cons_eq_some.mp hbytes with
    ⟨front, back, hfront, _, happend⟩
  cases front with
  | nil => exact absurd hfront (Utf8.encodeCodePoint_ne_nil c)
  | cons x front =>
      simp only [List.cons_append, List.cons.injEq] at happend
      rcases happend with ⟨rfl, _⟩
      rcases encodeCodePoint_prefix hd hfront with ⟨heq, _⟩
      subst heq
      exact ⟨hs, encodeCodePoint_eq_single hd⟩

end Foundation
end Hmmp
