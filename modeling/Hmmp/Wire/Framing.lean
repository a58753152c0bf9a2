import Hmmp.Wire.Binary

/-!
# Framing

The writer masks lengths and counts to the width of their field.  What it
writes is therefore the encoding of a layout when everything fits its field,
and no encoding of the written values otherwise.  The rules below carry this
from the single fields to whole bodies.
-/

namespace Hmmp
namespace Wire

open Foundation

/-- The number of UTF-8 bytes of a string, if it can be encoded. -/
def utf8Length (s : Text) : Nat :=
  ((encodeUtf8 s).getD []).length

/-- The string holds a code point that UTF-8 does not encode. -/
def Unencodable (s : Text) : Prop :=
  encodeUtf8 s = none

instance (s : Text) : Decidable (Unencodable s) :=
  inferInstanceAs (Decidable (encodeUtf8 s = none))

/-- The layout of a string behind a length of {lit}`width` bytes. -/
def stringLayout (width : Nat) : Codec Text :=
  Codec.block (Codec.uint width) Utf8.utf8

/--
The output is absent when one of the strings cannot be encoded; otherwise it is
the encoding if the values fit, and there is no encoding if they do not.
-/
structure Framed (out encoding : Option Bytes) (strings : List Text)
    (fits : Prop) : Prop where
  raises : out = none <-> exists s, s ∈ strings ∧ Unencodable s
  fit : fits -> encoding = out
  unfit : ¬ fits -> encoding = none

def Framing (writes : Writing Unit) (encoding : Option Bytes)
    (strings : List Text) (fits : Prop) : Prop :=
  exists out, Emits writes out ∧ Framed out encoding strings fits

variable {α : Type} {writes writes' : Writing Unit}
  {out out' encoding encoding' : Option Bytes} {strings strings' : List Text}
  {fits fits' : Prop}

theorem Emits.unique (h : Emits writes out) (h' : Emits writes out') :
    out = out' := by
  apply Option.ext
  intro bs
  rw [← h.getvalue_eq_ok, ← h'.getvalue_eq_ok]

theorem emissions_eq_none {first second : Option Bytes} :
    emissions first second = none <-> first = none ∨ second = none := by
  cases first <;> cases second <;> simp [emissions]

theorem emissions_assoc (first second third : Option Bytes) :
    emissions (emissions first second) third =
      emissions first (emissions second third) := by
  cases first <;> cases second <;> cases third <;> simp [emissions]

theorem block_encode (len : Codec Nat) (f : Format α) (a : α) :
    (Codec.block len f).encode a =
      (f.encode a).bind fun bs => emissions (len.encode bs.length) (some bs) := by
  apply Option.ext
  intro bs
  rw [Codec.block_encode_eq_some, Option.bind_eq_some_iff]
  constructor
  · intro h
    rcases h with ⟨x, y, hy, hx, rfl⟩
    exact ⟨y, hy, emissions_eq_some.mpr ⟨x, y, hx, rfl, rfl⟩⟩
  · intro h
    rcases h with ⟨y, hy, hbs⟩
    rcases emissions_eq_some.mp hbs with ⟨x, y', hx, hy', rfl⟩
    injection hy' with hy'
    subst hy'
    exact ⟨x, y, hy, hx, rfl⟩

theorem counted_encode (len : Codec Nat) (c : Codec α) (items : List α) :
    (Codec.counted len c).encode items =
      emissions (len.encode items.length) (c.encodeAll items) := by
  apply Option.ext
  intro bs
  rw [Codec.counted_encode_eq_some, emissions_eq_some]

/-!
# Outputs
-/

namespace Framed

theorem fixed (bs : Bytes) : Framed (some bs) (some bs) [] True where
  raises := by simp
  fit _ := rfl
  unfit h := absurd trivial h

theorem count (width n : Nat) :
    Framed (some (bigEndian width n)) ((Codec.uint width).encode n) []
      (n < 256 ^ width) where
  raises := by simp
  fit hn := by rw [Codec.uint_encode, if_pos hn]
  unfit hn := by rw [Codec.uint_encode, if_neg hn]

theorem integer (width : Nat) (value : Int) :
    Framed (some (bigEndian width (value % (256 ^ width : Nat)).toNat))
      (if 0 <= value then (Codec.uint width).encode value.toNat else none) []
      (0 <= value ∧ value < (256 ^ width : Nat)) where
  raises := by simp
  fit h := by
    have hlt : value.toNat < 256 ^ width := by omega
    rw [if_pos h.1, Codec.uint_encode, if_pos hlt,
      Int.emod_eq_of_lt h.1 h.2]
  unfit hnot := by
    split
    · rename_i hnonneg
      rw [Codec.uint_encode, if_neg]
      intro hlt
      exact hnot ⟨hnonneg, by omega⟩
    · rfl

theorem bytes (data : Bytes) (n : Nat) :
    Framed (some data) ((Codec.raw n).encode data) [] (data.length = n) where
  raises := by simp
  fit hn := if_pos hn
  unfit hn := if_neg hn

theorem word (bits : UInt32) :
    Framed (some (bigEndian 4 bits.toNat)) (Codec.word.encode bits) []
      True where
  raises := by simp
  fit _ := by
    have hbits : bits.toNat < 256 ^ 4 := bits.toNat_lt
    show (Codec.uint 4).encode bits.toNat = _
    rw [Codec.uint_encode, if_pos hbits]
  unfit h := absurd trivial h

theorem append (h : Framed out encoding strings fits)
    (h' : Framed out' encoding' strings' fits') :
    Framed (emissions out out') (emissions encoding encoding')
      (strings ++ strings') (fits ∧ fits') where
  raises := by
    rw [emissions_eq_none, h.raises, h'.raises]
    constructor
    · intro hcase
      rcases hcase with ⟨s, hs, hnone⟩ | ⟨s, hs, hnone⟩
      · exact ⟨s, List.mem_append_left _ hs, hnone⟩
      · exact ⟨s, List.mem_append_right _ hs, hnone⟩
    · intro hparts
      rcases hparts with ⟨s, hs, hnone⟩
      rcases List.mem_append.mp hs with hs | hs
      · exact Or.inl ⟨s, hs, hnone⟩
      · exact Or.inr ⟨s, hs, hnone⟩
  fit hfits := by rw [h.fit hfits.1, h'.fit hfits.2]
  unfit hnot := by
    apply emissions_eq_none.mpr
    by_cases hfirst : fits
    · exact Or.inr (h'.unfit fun hsecond => hnot ⟨hfirst, hsecond⟩)
    · exact Or.inl (h.unfit hfirst)

theorem spoiled (h : Framed out encoding strings fits) (hnot : ¬ fits') :
    Framed out none strings fits' where
  raises := h.raises
  fit hfits := absurd hfits hnot
  unfit _ := rfl

theorem congr (h : Framed out encoding strings fits) (hfits : fits <-> fits') :
    Framed out encoding strings fits' where
  raises := h.raises
  fit hfits' := h.fit (hfits.mpr hfits')
  unfit hnot := h.unfit fun h' => hnot (hfits.mp h')

theorem block {f : Format α} {a : α} (width : Nat) {size : Nat}
    (h : Framed out (f.encode a) strings fits)
    (hsize : forall bs, out = some bs -> bs.length = size) :
    Framed
      (out.bind fun bs =>
        emissions (some (bigEndian width bs.length)) (some bs))
      ((Codec.block (Codec.uint width) f).encode a) strings
      (fits ∧ size < 256 ^ width) where
  raises := by
    rw [← h.raises]
    cases out with
    | none => simp
    | some bs => simp [emissions]
  fit hfits := by
    rw [block_encode, h.fit hfits.1]
    cases out with
    | none => rfl
    | some bs =>
        have hbs := hsize bs rfl
        rw [Option.bind_some, Option.bind_some, Codec.uint_encode,
          if_pos (by rw [hbs]; exact hfits.2)]
  unfit hnot := by
    rw [block_encode]
    by_cases hfits : fits
    · rw [h.fit hfits]
      cases out with
      | none => rfl
      | some bs =>
          have hbs := hsize bs rfl
          rw [Option.bind_some, Codec.uint_encode,
            if_neg (by rw [hbs]; exact fun hlt => hnot ⟨hfits, hlt⟩)]
          rfl
    · rw [h.unfit hfits]
      rfl

theorem string (width : Nat) (s : Text) :
    Framed (stringBytes width s) ((stringLayout width).encode s) [s]
      (utf8Length s < 256 ^ width) := by
  have hinner : Framed (encodeUtf8 s) (Utf8.utf8.encode s) [s] True :=
    ⟨by simp [Unencodable], fun _ => rfl, fun h => absurd trivial h⟩
  have hsize : forall bs, encodeUtf8 s = some bs ->
      bs.length = utf8Length s := by
    intro bs hbs
    rw [utf8Length, hbs]
    rfl
  have hblock := hinner.block width hsize
  rw [true_and] at hblock
  have hout : stringBytes width s =
      (encodeUtf8 s).bind fun bs =>
        emissions (some (bigEndian width bs.length)) (some bs) := by
    unfold stringBytes
    cases encodeUtf8 s <;> rfl
  rw [hout]
  exact hblock

theorem all {c : Codec α} {outOf : α -> Option Bytes}
    {stringsOf : α -> List Text} {fitsOf : α -> Prop} (items : List α)
    (h : forall a, a ∈ items ->
      Framed (outOf a) (c.encode a) (stringsOf a) (fitsOf a)) :
    Framed (items.foldr (fun a rest => emissions (outOf a) rest) (some []))
      (c.encodeAll items) (items.flatMap stringsOf)
      (forall a, a ∈ items -> fitsOf a) := by
  induction items with
  | nil =>
      exact ⟨by simp, fun _ => rfl, fun hnot => absurd (by simp) hnot⟩
  | cons a items ih =>
      have hrest := ih fun b hb => h b (List.mem_cons_of_mem a hb)
      have hboth := (h a List.mem_cons_self).append hrest
      have hencode : c.encodeAll (a :: items) =
          emissions (c.encode a) (c.encodeAll items) := rfl
      rw [hencode]
      simp only [List.foldr_cons, List.flatMap_cons, List.forall_mem_cons]
      exact hboth

theorem counted {c : Codec α} {outOf : α -> Option Bytes}
    {stringsOf : α -> List Text} {fitsOf : α -> Prop} (width : Nat)
    (items : List α)
    (h : forall a, a ∈ items ->
      Framed (outOf a) (c.encode a) (stringsOf a) (fitsOf a)) :
    Framed
      (emissions (some (bigEndian width items.length))
        (items.foldr (fun a rest => emissions (outOf a) rest) (some [])))
      ((Codec.counted (Codec.uint width) c).encode items)
      (items.flatMap stringsOf)
      (items.length < 256 ^ width ∧ forall a, a ∈ items -> fitsOf a) := by
  have hboth := (count width items.length).append (all items h)
  rw [counted_encode]
  exact hboth

end Framed

/-!
# Writers
-/

namespace Emits

theorem embed (h : Emits writes out) :
    Emits (do BinaryWriter.writeBytes (← BinaryWriter.getvalue writes))
      out := by
  apply Emits.lift
  · intro bs hbs
    rw [h.getvalue_eq_ok.mp hbs]
    exact Emits.writeBytes bs
  · intro e he
    cases out with
    | none => rfl
    | some bs =>
        have hok := h.getvalue_eq_ok.mpr rfl
        rw [he] at hok
        cases hok

theorem embedBlock (h : Emits writes out) (width : Nat) :
    Emits
      (do
        let data ← BinaryWriter.getvalue writes
        BinaryWriter.writeUnsigned width data.length
        BinaryWriter.writeBytes data)
      (out.bind fun bs =>
        emissions (some (bigEndian width bs.length)) (some bs)) := by
  apply Emits.lift
  · intro bs hbs
    rw [h.getvalue_eq_ok.mp hbs]
    exact (Emits.writeCount width bs.length).bind (Emits.writeBytes bs)
  · intro e he
    cases out with
    | none => rfl
    | some bs =>
        have hok := h.getvalue_eq_ok.mpr rfl
        rw [he] at hok
        cases hok

theorem counted {write : α -> Writing Unit} {outOf : α -> Option Bytes}
    (width : Nat) (items : List α)
    (h : forall a, a ∈ items -> Emits (write a) (outOf a)) :
    Emits
      (do
        BinaryWriter.writeUnsigned width items.length
        items.forM write)
      (emissions (some (bigEndian width items.length))
        (items.foldr (fun a rest => emissions (outOf a) rest) (some []))) :=
  (Emits.writeCount width items.length).bind (Emits.forM items h)

end Emits

/-!
# Outputs of known size
-/

/-- Framing with the number of bytes that are written. -/
def SizedFraming (writes : Writing Unit) (encoding : Option Bytes)
    (strings : List Text) (fits : Prop) (size : Nat) : Prop :=
  exists out, Emits writes out ∧ Framed out encoding strings fits ∧
    forall bs, out = some bs -> bs.length = size

namespace SizedFraming

variable {size size' : Nat}

theorem framing (h : SizedFraming writes encoding strings fits size) :
    Framing writes encoding strings fits := by
  rcases h with ⟨out, hout, hframed, _⟩
  exact ⟨out, hout, hframed⟩

theorem getvalue_length (h : SizedFraming writes encoding strings fits size)
    {bs : Bytes} (hbs : BinaryWriter.getvalue writes = Except.ok bs) :
    bs.length = size := by
  rcases h with ⟨out, hout, _, hsize⟩
  exact hsize bs (hout.getvalue_eq_ok.mp hbs)

theorem congr (h : SizedFraming writes encoding strings fits size)
    (hfits : fits <-> fits') (hsize : size = size') :
    SizedFraming writes encoding strings fits' size' := by
  subst hsize
  rcases h with ⟨out, hout, hframed, hlength⟩
  exact ⟨out, hout, hframed.congr hfits, hlength⟩

theorem spoiled (h : SizedFraming writes encoding strings fits size)
    (hnot : ¬ fits') : SizedFraming writes none strings fits' size := by
  rcases h with ⟨out, hout, hframed, hlength⟩
  exact ⟨out, hout, hframed.spoiled hnot, hlength⟩

theorem pure : SizedFraming (Pure.pure ()) (some []) [] True 0 := by
  refine ⟨some [], Emits.pure, Framed.fixed [], ?_⟩
  intro bs hbs
  injection hbs with hbs
  rw [← hbs]
  rfl

theorem bind (h : SizedFraming writes encoding strings fits size)
    (h' : SizedFraming writes' encoding' strings' fits' size') :
    SizedFraming (do writes; writes') (emissions encoding encoding')
      (strings ++ strings') (fits ∧ fits') (size + size') := by
  rcases h with ⟨out, hout, hframed, hsize⟩
  rcases h' with ⟨out', hout', hframed', hsize'⟩
  refine ⟨_, hout.bind hout', hframed.append hframed', ?_⟩
  intro bs hbs
  rcases emissions_eq_some.mp hbs with ⟨x, y, hx, hy, rfl⟩
  rw [List.length_append, hsize x hx, hsize' y hy]

theorem fixed (width : Nat) (value : Int) :
    SizedFraming (BinaryWriter.writeUnsigned width value)
      (some (bigEndian width (value % (256 ^ width : Nat)).toNat)) [] True
      width := by
  refine ⟨_, Emits.writeUnsigned width value, Framed.fixed _, ?_⟩
  intro bs hbs
  injection hbs with hbs
  rw [← hbs, bigEndian_length]

theorem count (width n : Nat) :
    SizedFraming (BinaryWriter.writeUnsigned width n)
      ((Codec.uint width).encode n) [] (n < 256 ^ width) width := by
  refine ⟨_, Emits.writeCount width n, Framed.count width n, ?_⟩
  intro bs hbs
  injection hbs with hbs
  rw [← hbs, bigEndian_length]

theorem integer (width : Nat) (value : Int) :
    SizedFraming (BinaryWriter.writeUnsigned width value)
      (if 0 <= value then (Codec.uint width).encode value.toNat else none) []
      (0 <= value ∧ value < (256 ^ width : Nat)) width := by
  refine ⟨_, Emits.writeUnsigned width value, Framed.integer width value, ?_⟩
  intro bs hbs
  injection hbs with hbs
  rw [← hbs, bigEndian_length]

theorem flag (b : Bool) :
    SizedFraming (BinaryWriter.writeUnsigned 1 (if b then 1 else 0))
      (Codec.flag.encode b) [] True 1 := by
  cases b with
  | false => exact fixed 1 0
  | true => exact fixed 1 1

theorem string (width : Nat) (s : Text) :
    SizedFraming (BinaryWriter.writeString width s)
      ((stringLayout width).encode s) [s] (utf8Length s < 256 ^ width)
      (width + utf8Length s) := by
  refine ⟨_, Emits.writeString width s, Framed.string width s, ?_⟩
  intro bs hbs
  rcases Option.map_eq_some_iff.mp hbs with ⟨encoded, hencoded, rfl⟩
  simp [utf8Length, hencoded]

theorem embed (h : SizedFraming writes encoding strings fits size) :
    SizedFraming
      (do BinaryWriter.writeBytes (← BinaryWriter.getvalue writes))
      encoding strings fits size := by
  rcases h with ⟨out, hout, hframed, hsize⟩
  exact ⟨out, hout.embed, hframed, hsize⟩

theorem embedBlock {f : Format α} {a : α} (width : Nat)
    (h : SizedFraming writes (f.encode a) strings fits size) :
    SizedFraming
      (do
        let data ← BinaryWriter.getvalue writes
        BinaryWriter.writeUnsigned width data.length
        BinaryWriter.writeBytes data)
      ((Codec.block (Codec.uint width) f).encode a) strings
      (fits ∧ size < 256 ^ width) (width + size) := by
  rcases h with ⟨out, hout, hframed, hsize⟩
  refine ⟨_, hout.embedBlock width, hframed.block width hsize, ?_⟩
  intro bs hbs
  rcases Option.bind_eq_some_iff.mp hbs with ⟨data, hdata, hblock⟩
  injection hblock with hblock
  rw [← hblock, List.length_append, bigEndian_length, hsize data hdata]

end SizedFraming

/-!
# Outputs of any size
-/

namespace Framing

theorem congr (h : Framing writes encoding strings fits)
    (hfits : fits <-> fits') : Framing writes encoding strings fits' := by
  rcases h with ⟨out, hout, hframed⟩
  exact ⟨out, hout, hframed.congr hfits⟩

theorem bind (h : Framing writes encoding strings fits)
    (h' : Framing writes' encoding' strings' fits') :
    Framing (do writes; writes') (emissions encoding encoding')
      (strings ++ strings') (fits ∧ fits') := by
  rcases h with ⟨out, hout, hframed⟩
  rcases h' with ⟨out', hout', hframed'⟩
  exact ⟨_, hout.bind hout', hframed.append hframed'⟩

theorem string (width : Nat) (s : Text) :
    Framing (BinaryWriter.writeString width s)
      ((stringLayout width).encode s) [s] (utf8Length s < 256 ^ width) :=
  (SizedFraming.string width s).framing

theorem count (width n : Nat) :
    Framing (BinaryWriter.writeUnsigned width n)
      ((Codec.uint width).encode n) [] (n < 256 ^ width) :=
  (SizedFraming.count width n).framing

theorem byte (n : Nat) (hn : n < 256) :
    Framing (BinaryWriter.writeUnsigned 1 n) (some [UInt8.ofNat n]) []
      True := by
  have h := count 1 n
  have hfits : n < 256 ^ 1 := hn
  rw [Codec.uint_encode, if_pos hfits] at h
  exact h.congr ⟨fun _ => trivial, fun _ => hn⟩

theorem bytes (data : Bytes) (n : Nat) :
    Framing (BinaryWriter.writeBytes data) ((Codec.raw n).encode data) []
      (data.length = n) :=
  ⟨_, Emits.writeBytes data, Framed.bytes data n⟩

theorem flag (b : Bool) :
    Framing (BinaryWriter.writeUnsigned 1 (if b then 1 else 0))
      (Codec.flag.encode b) [] True :=
  (SizedFraming.flag b).framing

theorem word (bits : UInt32) :
    Framing (BinaryWriter.writeF32 bits) (Codec.word.encode bits) [] True :=
  ⟨_, Emits.writeF32 bits, Framed.word bits⟩

theorem counted {c : Codec α} {write : α -> Writing Unit}
    {stringsOf : α -> List Text} {fitsOf : α -> Prop} (width : Nat)
    (items : List α)
    (h : forall a, Framing (write a) (c.encode a) (stringsOf a) (fitsOf a)) :
    Framing
      (do
        BinaryWriter.writeUnsigned width items.length
        items.forM write)
      ((Codec.counted (Codec.uint width) c).encode items)
      (items.flatMap stringsOf)
      (items.length < 256 ^ width ∧ forall a, a ∈ items -> fitsOf a) := by
  choose outOf hout hframed using h
  exact ⟨_, Emits.counted width items fun a _ => hout a,
    Framed.counted width items fun a _ => hframed a⟩

theorem embed (h : Framing writes encoding strings fits) :
    Framing (do BinaryWriter.writeBytes (← BinaryWriter.getvalue writes))
      encoding strings fits := by
  rcases h with ⟨out, hout, hframed⟩
  exact ⟨out, hout.embed, hframed⟩

end Framing

/-!
# Whole bodies
-/

/-- The call either raises, or a reader of the layout reads the whole output
back as the value.  The reader may use the number of bytes as a bound. -/
def FaithfullyFramed (result : Except PyError Bytes)
    (layout : Nat -> Codec α) (value : α) : Prop :=
  (exists e, result = Except.error e) ∨
    exists bs, result = Except.ok bs ∧
      (layout bs.length).decode bs = some (value, [])

theorem faithfullyFramed_iff {layout : Nat -> Codec α} {value : α}
    {least : Nat}
    (h : forall n, least <= n ->
      Framing writes ((layout n).encode value) strings fits)
    (hleast : forall bs, BinaryWriter.getvalue writes = Except.ok bs ->
      least <= bs.length) :
    FaithfullyFramed (BinaryWriter.getvalue writes) layout value <->
      (exists s, s ∈ strings ∧ Unencodable s) ∨ fits := by
  rcases h least (Nat.le_refl least) with ⟨out, hout, hframed⟩
  rw [← hframed.raises]
  unfold FaithfullyFramed
  cases out with
  | none =>
      have hraises : exists e,
          BinaryWriter.getvalue writes = Except.error e := by
        cases hresult : BinaryWriter.getvalue writes with
        | error e => exact ⟨e, rfl⟩
        | ok bs => cases hout.getvalue_eq_ok.mp hresult
      exact ⟨fun _ => Or.inl rfl, fun _ => Or.inl hraises⟩
  | some bs =>
      have hresult := hout.getvalue_eq_ok.mpr rfl
      rcases h bs.length (hleast bs hresult) with ⟨out', hout', hframed'⟩
      have hsame := hout.unique hout'
      subst hsame
      rw [hresult]
      constructor
      · intro hcase
        rcases hcase with ⟨e, he⟩ | ⟨bs', hbs', hdecode⟩
        · cases he
        · injection hbs' with hbs'
          subst hbs'
          right
          by_contra hnot
          have hencode := (Codec.decode_nil_iff _ _ _).mp hdecode
          rw [hframed'.unfit hnot] at hencode
          cases hencode
      · intro hcase
        rcases hcase with hnone | hfits
        · cases hnone
        · right
          exact ⟨bs, rfl, (Codec.decode_nil_iff _ _ _).mpr
            (hframed'.fit hfits)⟩

end Wire
end Hmmp
