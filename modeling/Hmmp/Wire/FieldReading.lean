import Hmmp.Foundation.Dict
import Hmmp.Wire.Binary

/-!
# Readings of laid out fields

A reading of some bytes returns their value and stops behind them, whatever
follows, and raises at every place where they are cut.
-/

namespace Hmmp
namespace Wire

open Foundation

/-- The reading takes the bytes for the value, and for nothing if they are
cut. -/
structure Reads {α : Type} (reading : Reading α) (front : Bytes) (a : α) :
    Prop where
  complete : forall (tail : Bytes) (position : Nat),
    reading.run { rest := front ++ tail, position := position } =
      Except.ok (a, { rest := tail, position := position + front.length })
  cut : forall n position, n < front.length -> exists message,
    reading.run { rest := front.take n, position := position } =
      Except.error (PyError.eofError message)

namespace Reads

variable {α β : Type}

/-!
# Readings in a row
-/

theorem nothing (a : α) : Reads (pure a) [] a where
  complete _ _ := rfl
  cut n _ hn := absurd hn (Nat.not_lt_zero n)

theorem bind {reading : Reading α} {next : α -> Reading β}
    {front front' : Bytes} {a : α} {b : β} (h : Reads reading front a)
    (h' : Reads (next a) front' b) :
    Reads (do next (← reading)) (front ++ front') b where
  complete tail position := by
    rw [List.append_assoc, run_bind_of_ok (h.complete (front' ++ tail) position),
      h'.complete tail (position + front.length), List.length_append,
      Nat.add_assoc]
  cut n position hn := by
    rw [List.length_append] at hn
    rw [List.take_append]
    by_cases hfirst : n < front.length
    · -- The cut leaves nothing of the second part.
      rcases h.cut n position hfirst with ⟨message, hraises⟩
      refine ⟨message, ?_⟩
      rw [Nat.sub_eq_zero_of_le (Nat.le_of_lt hfirst), List.take_zero,
        List.append_nil, run_bind_of_error hraises]
    · have hlong : front.length <= n := Nat.le_of_not_lt hfirst
      rcases h'.cut (n - front.length) (position + front.length) (by omega) with
        ⟨message, hraises⟩
      refine ⟨message, ?_⟩
      rw [List.take_of_length_le hlong, run_bind_of_ok (h.complete _ position)]
      exact hraises

theorem map {reading : Reading α} {front : Bytes} {a : α}
    (h : Reads reading front a) (f : α -> β) :
    Reads (do pure (f (← reading))) front (f a) := by
  have hboth : Reads (reading >>= fun a => pure (f a)) (front ++ []) (f a) :=
    h.bind (nothing (f a))
  rw [List.append_nil] at hboth
  exact hboth

theorem lift {value : Except PyError α} {a : α} (h : value = Except.ok a) :
    Reads (liftM value) [] a := by
  rw [h]
  exact nothing a

theorem check {reading : Reading α} {front : Bytes} {a : α}
    (h : Reads reading front a) {value : α -> Except PyError β} {b : β}
    (hvalue : value a = Except.ok b) :
    Reads (do value (← reading)) front b := by
  have hboth : Reads (reading >>= fun a => liftM (value a)) (front ++ []) b :=
    h.bind (lift hvalue)
  rw [List.append_nil] at hboth
  exact hboth

theorem many {item : Reading β} {layout : α -> Bytes} {value : α -> β}
    (items : List α)
    (h : forall a, a ∈ items -> Reads item (layout a) (value a)) :
    Reads (BinaryReader.readMany item items.length) (items.flatMap layout)
      (items.map value) := by
  induction items with
  | nil => exact nothing []
  | cons a items ih =>
      have hothers := ih fun b hb => h b (List.mem_cons_of_mem a hb)
      rw [List.flatMap_cons]
      exact (h a List.mem_cons_self).bind (hothers.map (value a :: ·))

/-!
# Single fields
-/

theorem takeBytes (front : Bytes) (message : Nat -> String) :
    Reads (BinaryReader.takeBytes front.length message) front front where
  complete tail position :=
    BinaryReader.takeBytes_append front tail position message
  cut n position hn := by
    refine ⟨message (front.take n).length, ?_⟩
    have hshort : (front.take n).length < front.length := by
      rw [List.length_take]
      omega
    exact BinaryReader.takeBytes_short hshort message

theorem bytes (data : Bytes) :
    Reads (BinaryReader.readBytes data.length) data data :=
  takeBytes data _

theorem unsigned {width n : Nat} (hn : n < 256 ^ width) (name : String) :
    Reads (BinaryReader.readUnsigned width name) (bigEndian width n) n := by
  have htake := (takeBytes (bigEndian width n) fun _ =>
    "Unexpected end of data reading " ++ name).map fromBigEndian
  rw [bigEndian_length, fromBigEndian_bigEndian, Nat.mod_eq_of_lt hn] at htake
  exact htake

theorem f32 (bits : UInt32) :
    Reads BinaryReader.readF32 (bigEndian 4 bits.toNat) bits := by
  have hlt : bits.toNat < 256 ^ 4 := bits.toNat_lt
  have hbits := (unsigned hlt "f32").map UInt32.ofNat
  rw [UInt32.ofNat_toNat] at hbits
  exact hbits

end Reads

/-!
# What has been read

A reading that returned took its value from the front of its input.
-/

theorem run_bind_eq_ok {σ ε α β : Type} {first : StateT σ (Except ε) α}
    {next : α -> StateT σ (Except ε) β} {s s' : σ} {b : β}
    (h : (first >>= next).run s = Except.ok (b, s')) :
    exists a mid, first.run s = Except.ok (a, mid) ∧
      (next a).run mid = Except.ok (b, s') := by
  rw [StateT.run_bind] at h
  rcases bind_eq_ok.mp h with ⟨⟨a, mid⟩, hfirst, hnext⟩
  exact ⟨a, mid, hfirst, hnext⟩

theorem run_lift_eq_ok {α : Type} {value : Except PyError α}
    {r r' : BinaryReader} {a : α}
    (h : (liftM value : Reading α).run r = Except.ok (a, r')) :
    value = Except.ok a ∧ r' = r := by
  cases value with
  | error e => cases h
  | ok found =>
      injection h with h
      injection h with ha hr
      exact ⟨by rw [← ha], hr.symm⟩

theorem takeBytes_eq_ok {n : Nat} {message : Nat -> String}
    {r r' : BinaryReader} {data : Bytes}
    (h : (BinaryReader.takeBytes n message).run r = Except.ok (data, r')) :
    data.length = n ∧ r.rest = data ++ r'.rest := by
  by_cases hshort : r.rest.length < n
  · rw [BinaryReader.takeBytes_short hshort] at h
    cases h
  · have hlong : n <= r.rest.length := Nat.le_of_not_lt hshort
    rw [BinaryReader.takeBytes_long hlong] at h
    injection h with h
    injection h with hdata hr
    rw [← hdata, ← hr]
    exact ⟨List.length_take_of_le hlong, (List.take_append_drop n _).symm⟩

theorem readUnsigned_eq_ok {width n : Nat} {name : String}
    {r r' : BinaryReader}
    (h : (BinaryReader.readUnsigned width name).run r = Except.ok (n, r')) :
    n < 256 ^ width ∧ r.rest = bigEndian width n ++ r'.rest := by
  rcases run_bind_eq_ok h with ⟨data, mid, htake, hpure⟩
  injection hpure with hpure
  injection hpure with hn hmid
  rcases takeBytes_eq_ok htake with ⟨hlength, hrest⟩
  subst hn hmid hlength
  exact ⟨fromBigEndian_lt data, by rw [bigEndian_fromBigEndian, hrest]⟩

theorem readF32_eq_ok {r r' : BinaryReader} {bits : UInt32}
    (h : BinaryReader.readF32.run r = Except.ok (bits, r')) :
    r.rest = bigEndian 4 bits.toNat ++ r'.rest := by
  rcases run_bind_eq_ok h with ⟨n, mid, hn, hpure⟩
  injection hpure with hpure
  injection hpure with hbits hmid
  rcases readUnsigned_eq_ok hn with ⟨hlt, hrest⟩
  rw [← hbits, ← hmid, UInt32.toNat_ofNat_of_lt' hlt, hrest]

/-!
# Strings behind their lengths
-/

/-- A text whose encoding has a length that fits {lit}`width` bytes. -/
structure SizedText (width : Nat) where
  text : Text
  encoded : Bytes
  encodes : encodeUtf8 text = some encoded
  fits : encoded.length < 256 ^ width

namespace SizedText

variable {width : Nat}

def layout (s : SizedText width) : Bytes :=
  bigEndian width s.encoded.length ++ s.encoded

theorem ext {s t : SizedText width} (h : s.text = t.text) : s = t := by
  rcases s with ⟨text, encoded, encodes, fits⟩
  rcases t with ⟨text', encoded', encodes', fits'⟩
  have htext : text = text' := h
  subst htext
  rw [encodes] at encodes'
  injection encodes' with hencoded
  subst hencoded
  rfl

theorem decodes (s : SizedText width) :
    BinaryReader.decodeString s.encoded = Except.ok s.text := by
  unfold BinaryReader.decodeString
  rw [decodeUtf8_encodeUtf8 s.encodes]
  rfl

def letter (width : Nat) : SizedText (width + 1) where
  text := Foundation.text "a"
  encoded := [97]
  encodes := rfl
  fits := Nat.one_lt_pow (Nat.succ_ne_zero width) (by decide)

end SizedText

namespace Reads

theorem stringU8 (s : SizedText 1) :
    Reads BinaryReader.readStringU8 s.layout s.text :=
  (unsigned s.fits "u8").bind ((bytes s.encoded).check s.decodes)

theorem stringU16 (s : SizedText 2) :
    Reads BinaryReader.readStringU16 s.layout s.text :=
  (unsigned s.fits "u16").bind ((bytes s.encoded).check s.decodes)

end Reads

/-!
# Entries in a row
-/

/-- Entries of different keys, as many as a count of {lit}`count` bytes can
tell; the values have lengths of {lit}`width` bytes. -/
structure SizedEntries (width count : Nat) where
  entries : List (SizedText 1 × SizedText width)
  distinct : (entries.map fun entry => entry.1.text).Nodup
  few : entries.length < 256 ^ count

namespace SizedEntries

variable {width count : Nat}

def layoutEntry (entry : SizedText 1 × SizedText width) : Bytes :=
  entry.1.layout ++ entry.2.layout

/-- The number of the entries, and each key and value in a row. -/
def layout (e : SizedEntries width count) : Bytes :=
  bigEndian count e.entries.length ++ e.entries.flatMap layoutEntry

def dict (e : SizedEntries width count) : Dict Text Text where
  entries := e.entries.map fun entry => (entry.1.text, entry.2.text)
  nodup := by
    rw [List.map_map]
    exact e.distinct

end SizedEntries

theorem foldl_set_entries {width : Nat} {d : Dict Text Text}
    {entries : List (SizedText 1 × SizedText width)}
    (h : (d.keys ++ entries.map fun entry => entry.1.text).Nodup) :
    (entries.foldl (fun d entry => d.set entry.1.text entry.2.text)
      d).entries =
        d.entries ++ entries.map fun entry =>
          (entry.1.text, entry.2.text) := by
  induction entries generalizing d with
  | nil => simp
  | cons entry entries ih =>
      have hnew : entry.1.text ∉ d.entries.map Prod.fst := by
        intro hmem
        exact (List.nodup_append.mp h).2.2 _ hmem _ List.mem_cons_self rfl
      have hset : (d.set entry.1.text entry.2.text).entries =
          d.entries ++ [(entry.1.text, entry.2.text)] :=
        Dict.setIn_of_notMem entry.2.text hnew
      have hkeys : (d.set entry.1.text entry.2.text).keys =
          d.keys ++ [entry.1.text] := by
        unfold Dict.keys
        rw [hset, List.map_append]
        rfl
      rw [List.foldl_cons, ih (by rw [hkeys]; simpa using h), hset]
      simp

theorem foldl_set_empty {width count : Nat} (e : SizedEntries width count) :
    e.entries.foldl (fun d entry => d.set entry.1.text entry.2.text)
      Dict.empty = e.dict := by
  apply Dict.eq_of_entries
  exact foldl_set_entries e.distinct

theorem Reads.entries {width : Nat} {readValue : Reading Text}
    {loop : Nat -> Dict Text Text -> Reading (Dict Text Text)}
    (hvalue : forall s : SizedText width, Reads readValue s.layout s.text)
    (hzero : forall d, loop 0 d = pure d)
    (hsucc : forall n d, loop (n + 1) d = do
      let key ← BinaryReader.readStringU8
      let value ← readValue
      loop n (d.set key value))
    (entries : List (SizedText 1 × SizedText width)) (d : Dict Text Text) :
    Reads (loop entries.length d) (entries.flatMap SizedEntries.layoutEntry)
      (entries.foldl (fun d entry => d.set entry.1.text entry.2.text) d) := by
  induction entries generalizing d with
  | nil =>
      rw [List.length_nil, hzero]
      exact nothing d
  | cons entry entries ih =>
      rw [List.length_cons, hsucc, List.flatMap_cons]
      unfold SizedEntries.layoutEntry
      rw [List.append_assoc]
      exact (stringU8 entry.1).bind ((hvalue entry.2).bind (ih _))

end Wire
end Hmmp
