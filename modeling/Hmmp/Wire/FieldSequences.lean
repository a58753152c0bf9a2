import Hmmp.Wire.FieldReading
import Hmmp.Wire.Framing

/-!
# Fields in a row

The fields that a writer is given one after another are read back in the same
order.  Where the bytes are cut, every field in front of the cut is read, and
the first one that is not complete raises.
-/

namespace Hmmp
namespace Wire

open Foundation

/-!
# Readings in a row
-/

/-- What readings in a row returned, and the reader behind them or what the
first of them raised that did not return. -/
structure ReadRun (α : Type) where
  returned : List α
  result : Except PyError BinaryReader

def readEach {α : Type} : List (Reading α) -> BinaryReader -> ReadRun α
  | [], r => { returned := [], result := Except.ok r }
  | reading :: readings, r =>
      match reading.run r with
      | Except.ok (a, r') =>
          let others := readEach readings r'
          { others with returned := a :: others.returned }
      | Except.error e => { returned := [], result := Except.error e }

section

variable {α β : Type} {reading : α -> Reading β} {layout : α -> Bytes}
  {value : α -> β} {items : List α}

theorem readEach_cons_of_ok {first : Reading β} {readings : List (Reading β)}
    {r r' : BinaryReader} {b : β} (h : first.run r = Except.ok (b, r')) :
    readEach (first :: readings) r =
      { readEach readings r' with
        returned := b :: (readEach readings r').returned } := by
  simp only [readEach, h]

theorem readEach_cons_of_error {first : Reading β}
    {readings : List (Reading β)} {r : BinaryReader} {e : PyError}
    (h : first.run r = Except.error e) :
    readEach (first :: readings) r =
      { returned := [], result := Except.error e } := by
  simp only [readEach, h]

theorem readEach_complete
    (h : forall a, a ∈ items -> Reads (reading a) (layout a) (value a))
    (tail : Bytes) (position : Nat) :
    readEach (items.map reading)
        { rest := items.flatMap layout ++ tail, position := position } =
      { returned := items.map value
        result := Except.ok
          { rest := tail
            position := position + (items.flatMap layout).length } } := by
  induction items generalizing position with
  | nil => rfl
  | cons a items ih =>
      have hfirst := (h a List.mem_cons_self).complete
        (items.flatMap layout ++ tail) position
      have hothers := ih (fun b hb => h b (List.mem_cons_of_mem a hb))
        (position + (layout a).length)
      rw [List.map_cons, List.flatMap_cons, List.append_assoc,
        readEach_cons_of_ok hfirst, hothers, List.length_append,
        Nat.add_assoc]
      rfl

theorem readEach_cut
    (h : forall a, a ∈ items -> Reads (reading a) (layout a) (value a))
    {n : Nat} (hn : n < (items.flatMap layout).length) (position : Nat) :
    exists before a after message, items = before ++ a :: after ∧
      (before.flatMap layout).length <= n ∧
      n < ((before ++ [a]).flatMap layout).length ∧
      readEach (items.map reading)
          { rest := (items.flatMap layout).take n, position := position } =
        { returned := before.map value
          result := Except.error (PyError.eofError message) } := by
  induction items generalizing n position with
  | nil => exact absurd hn (Nat.not_lt_zero n)
  | cons a items ih =>
      have hfirst := h a List.mem_cons_self
      rw [List.flatMap_cons, List.length_append] at hn
      rw [List.map_cons, List.flatMap_cons, List.take_append]
      by_cases hshort : n < (layout a).length
      · -- The first item is cut.
        rcases hfirst.cut n position hshort with ⟨message, hraises⟩
        refine ⟨[], a, items, message, rfl, Nat.zero_le n, ?_, ?_⟩
        · simpa using hshort
        · rw [Nat.sub_eq_zero_of_le (Nat.le_of_lt hshort), List.take_zero,
            List.append_nil, readEach_cons_of_error hraises]
          rfl
      · have hlong : (layout a).length <= n := Nat.le_of_not_lt hshort
        rcases ih (fun b hb => h b (List.mem_cons_of_mem a hb))
          (show n - (layout a).length < (items.flatMap layout).length by omega)
          (position + (layout a).length) with
          ⟨before, b, after, message, hitems, hbefore, hcut, hraises⟩
        refine ⟨a :: before, b, after, message, ?_, ?_, ?_, ?_⟩
        · rw [hitems]
          rfl
        · rw [List.flatMap_cons, List.length_append]
          omega
        · rw [List.cons_append, List.flatMap_cons, List.length_append]
          omega
        · rw [List.take_of_length_le hlong,
            readEach_cons_of_ok (hfirst.complete _ position), hraises]
          rfl

end

/-!
# Typed fields
-/

/-- A call that writes a field. -/
inductive FieldWrite where
  | u8 (value : Int)
  | u16 (value : Int)
  | u32 (value : Int)
  | u64 (value : Int)
  | bytes (data : Bytes)
  | stringU8 (value : Text)
  | stringU16 (value : Text)
  | ip (ipBytes : Bytes) (ipType : IpType)

/-- A call that reads a field. -/
inductive FieldRead where
  | u8
  | u16
  | u32
  | u64
  | bytes (length : Nat)
  | stringU8
  | stringU16
  | ip (ipType : IpType)

/-- What is written to a field and read from it. -/
inductive FieldValue where
  | integer (value : Int)
  | bytes (data : Bytes)
  | text (value : Text)
  deriving DecidableEq

namespace FieldRead

def readInteger (reading : Reading Nat) : Reading FieldValue := do
  pure (FieldValue.integer (← reading))

def readData (reading : Reading Bytes) : Reading FieldValue := do
  pure (FieldValue.bytes (← reading))

def readText (reading : Reading Text) : Reading FieldValue := do
  pure (FieldValue.text (← reading))

def reading : FieldRead -> Reading FieldValue
  | u8 => readInteger BinaryReader.readU8
  | u16 => readInteger BinaryReader.readU16
  | u32 => readInteger BinaryReader.readU32
  | u64 => readInteger BinaryReader.readU64
  | bytes length => readData (BinaryReader.readBytes length)
  | stringU8 => readText BinaryReader.readStringU8
  | stringU16 => readText BinaryReader.readStringU16
  | ip ipType => readData (BinaryReader.readIp ipType)

end FieldRead

namespace FieldWrite

def write : FieldWrite -> Writing Unit
  | u8 value => BinaryWriter.writeU8 value
  | u16 value => BinaryWriter.writeU16 value
  | u32 value => BinaryWriter.writeU32 value
  | u64 value => BinaryWriter.writeU64 value
  | bytes data => BinaryWriter.writeBytes data
  | stringU8 value => BinaryWriter.writeStringU8 value
  | stringU16 value => BinaryWriter.writeStringU16 value
  | ip ipBytes ipType => BinaryWriter.writeIp ipBytes ipType

def read : FieldWrite -> FieldRead
  | u8 _ => FieldRead.u8
  | u16 _ => FieldRead.u16
  | u32 _ => FieldRead.u32
  | u64 _ => FieldRead.u64
  | bytes data => FieldRead.bytes data.length
  | stringU8 _ => FieldRead.stringU8
  | stringU16 _ => FieldRead.stringU16
  | ip _ ipType => FieldRead.ip ipType

def value : FieldWrite -> FieldValue
  | u8 value => FieldValue.integer value
  | u16 value => FieldValue.integer value
  | u32 value => FieldValue.integer value
  | u64 value => FieldValue.integer value
  | bytes data => FieldValue.bytes data
  | stringU8 value => FieldValue.text value
  | stringU16 value => FieldValue.text value
  | ip ipBytes _ => FieldValue.bytes ipBytes

/-- An integer in the range of a field of {lit}`width` bytes. -/
def IntegerFits (width : Nat) (value : Int) : Prop :=
  0 <= value ∧ value < (256 ^ width : Nat)

/-- A string whose encoding has a length in the range of its prefix. -/
def StringFits (width : Nat) (value : Text) : Prop :=
  ¬ Unencodable value ∧ utf8Length value < 256 ^ width

def Fits : FieldWrite -> Prop
  | u8 value => IntegerFits 1 value
  | u16 value => IntegerFits 2 value
  | u32 value => IntegerFits 4 value
  | u64 value => IntegerFits 8 value
  | bytes _ => True
  | stringU8 value => StringFits 1 value
  | stringU16 value => StringFits 2 value
  | ip ipBytes ipType => ipBytes.length = ipType.width

def layout : FieldWrite -> Bytes
  | u8 value => bigEndian 1 value.toNat
  | u16 value => bigEndian 2 value.toNat
  | u32 value => bigEndian 4 value.toNat
  | u64 value => bigEndian 8 value.toNat
  | bytes data => data
  | stringU8 value => (stringBytes 1 value).getD []
  | stringU16 value => (stringBytes 2 value).getD []
  | ip ipBytes _ => ipBytes

/-!
# Single fields
-/

theorem emits_integer {width : Nat} {value : Int}
    (h : IntegerFits width value) :
    Emits (BinaryWriter.writeUnsigned width value)
      (some (bigEndian width value.toNat)) := by
  have hemits := Emits.writeUnsigned width value
  rw [Int.emod_eq_of_lt h.1 h.2] at hemits
  exact hemits

theorem reads_integer {width : Nat} {value : Int}
    (h : IntegerFits width value) (name : String) :
    Reads (FieldRead.readInteger (BinaryReader.readUnsigned width name))
      (bigEndian width value.toNat) (FieldValue.integer value) := by
  have hlt : value.toNat < 256 ^ width := (Int.toNat_lt h.1).mpr h.2
  have hreads := (Reads.unsigned hlt name).map fun n : Nat =>
    FieldValue.integer n
  rw [Int.toNat_of_nonneg h.1] at hreads
  exact hreads

theorem exists_sized {width : Nat} {value : Text}
    (h : StringFits width value) :
    exists s : SizedText width, s.text = value ∧
      stringBytes width value = some s.layout := by
  rcases Option.ne_none_iff_exists'.mp h.1 with ⟨encoded, hencoded⟩
  have hfits := h.2
  unfold utf8Length at hfits
  rw [hencoded] at hfits
  refine ⟨{ text := value, encoded := encoded, encodes := hencoded,
            fits := hfits }, rfl, ?_⟩
  unfold stringBytes
  rw [hencoded]
  rfl

theorem emits_string {width : Nat} {value : Text}
    (h : StringFits width value) :
    Emits (BinaryWriter.writeString width value)
      (some ((stringBytes width value).getD [])) := by
  rcases exists_sized h with ⟨s, _, hbytes⟩
  have hemits := Emits.writeString width value
  rw [hbytes] at hemits ⊢
  exact hemits

theorem emits_write {field : FieldWrite} (h : field.Fits) :
    Emits field.write (some field.layout) := by
  cases field with
  | u8 value => exact emits_integer h
  | u16 value => exact emits_integer h
  | u32 value => exact emits_integer h
  | u64 value => exact emits_integer h
  | bytes data => exact Emits.writeBytes data
  | stringU8 value => exact emits_string h
  | stringU16 value => exact emits_string h
  | ip ipBytes ipType => exact Emits.writeIp h

theorem reads_layout {field : FieldWrite} (h : field.Fits) :
    Reads field.read.reading field.layout field.value := by
  cases field with
  | u8 value => exact reads_integer h "u8"
  | u16 value => exact reads_integer h "u16"
  | u32 value => exact reads_integer h "u32"
  | u64 value => exact reads_integer h "u64"
  | bytes data => exact (Reads.bytes data).map FieldValue.bytes
  | stringU8 value =>
      rcases exists_sized h with ⟨s, rfl, hbytes⟩
      show Reads _ ((stringBytes 1 s.text).getD []) _
      rw [hbytes]
      exact (Reads.stringU8 s).map FieldValue.text
  | stringU16 value =>
      rcases exists_sized h with ⟨s, rfl, hbytes⟩
      show Reads _ ((stringBytes 2 s.text).getD []) _
      rw [hbytes]
      exact (Reads.stringU16 s).map FieldValue.text
  | ip ipBytes ipType =>
      have hlength : ipBytes.length = ipType.width := h
      show Reads (FieldRead.readData (BinaryReader.readIp ipType)) ipBytes _
      unfold BinaryReader.readIp
      rw [← hlength]
      exact (Reads.bytes ipBytes).map FieldValue.bytes

end FieldWrite

/-!
# Sequences
-/

def writeFields (fields : List FieldWrite) : Writing Unit :=
  fields.forM FieldWrite.write

def readFields (fields : List FieldRead) : BinaryReader -> ReadRun FieldValue :=
  readEach (fields.map FieldRead.reading)

theorem run_writeFields {fields : List FieldWrite}
    (h : forall field, field ∈ fields -> field.Fits) :
    (writeFields fields).run BinaryWriter.new =
      Except.ok ((), { buffer := fields.flatMap FieldWrite.layout }) := by
  have hemits : Emits (writeFields fields)
      (some (fields.flatMap FieldWrite.layout)) := by
    induction fields with
    | nil => exact Emits.pure
    | cons field fields ih =>
        have hfirst := FieldWrite.emits_write (h field List.mem_cons_self)
        have hothers := ih fun other hmem =>
          h other (List.mem_cons_of_mem field hmem)
        exact hfirst.bind hothers
  exact hemits BinaryWriter.new

/-- Of the first {lit}`n` bytes that are written, the fields in front of this
one have all of theirs, and this one has not. -/
structure FirstIncomplete (fields : List FieldWrite) (n : Nat)
    (before : List FieldWrite) (field : FieldWrite) : Prop where
  split : exists after, fields = before ++ field :: after
  complete : exists writer,
    (writeFields before).run BinaryWriter.new = Except.ok ((), writer) ∧
      writer.length <= n
  incomplete : exists writer,
    (writeFields (before ++ [field])).run BinaryWriter.new =
        Except.ok ((), writer) ∧
      n < writer.length

/-- Fields that fit are read back from what is written of them, whatever
follows, by the reads of their kinds; the reader ends where the writer does.
Where the bytes are cut, the fields in front of the first incomplete one are
read, and that one raises. -/
theorem readFields_writeFields (fields : List FieldWrite)
    (hfits : forall field, field ∈ fields -> field.Fits) :
    exists writer,
      (writeFields fields).run BinaryWriter.new = Except.ok ((), writer) ∧
      (forall tail,
        readFields (fields.map FieldWrite.read)
            (BinaryReader.new (writer.buffer ++ tail)) =
          { returned := fields.map FieldWrite.value
            result := Except.ok
              { rest := tail, position := writer.length } }) ∧
      forall n, n < writer.length -> exists before field message,
        FirstIncomplete fields n before field ∧
          readFields (fields.map FieldWrite.read)
              (BinaryReader.new (writer.buffer.take n)) =
            { returned := before.map FieldWrite.value
              result := Except.error (PyError.eofError message) } := by
  have hreads : forall field, field ∈ fields ->
      Reads field.read.reading field.layout field.value :=
    fun field hmem => FieldWrite.reads_layout (hfits field hmem)
  refine ⟨_, run_writeFields hfits, ?_, ?_⟩
  · intro tail
    have hcomplete := readEach_complete hreads tail 0
    rw [Nat.zero_add] at hcomplete
    unfold readFields
    rw [List.map_map]
    exact hcomplete
  · intro n hn
    rcases readEach_cut hreads hn 0 with
      ⟨before, field, after, message, hsplit, hbefore, hcut, hraises⟩
    have hfront : forall other, other ∈ before ++ [field] -> other.Fits := by
      intro other hmem
      apply hfits
      rw [hsplit, List.append_cons]
      exact List.mem_append_left after hmem
    refine ⟨before, field, message, ⟨⟨after, hsplit⟩, ?_, ?_⟩, ?_⟩
    · have hrun := run_writeFields fun other hmem =>
        hfront other (List.mem_append_left [field] hmem)
      exact ⟨_, hrun, hbefore⟩
    · exact ⟨_, run_writeFields hfront, hcut⟩
    · unfold readFields
      rw [List.map_map]
      exact hraises

def sampleFields : List FieldWrite :=
  [FieldWrite.u16 8080, FieldWrite.stringU8 (text "a"),
    FieldWrite.ip [10, 0, 0, 1] IpType.ipv4]

/-- All three are read from the eight bytes that are written, and only the first
ones from five of them. -/
theorem readFields_writeFields_sample :
    readFields [FieldRead.u16, FieldRead.stringU8, FieldRead.ip IpType.ipv4]
        (BinaryReader.new [31, 144, 1, 97, 10, 0, 0, 1, 5]) =
      { returned :=
          [FieldValue.integer 8080, FieldValue.text (text "a"),
            FieldValue.bytes [10, 0, 0, 1]]
        result := Except.ok { rest := [5], position := 8 } } ∧
    exists before field message,
      FirstIncomplete sampleFields 5 before field ∧
        readFields [FieldRead.u16, FieldRead.stringU8, FieldRead.ip IpType.ipv4]
            (BinaryReader.new [31, 144, 1, 97, 10]) =
          { returned := before.map FieldWrite.value
            result := Except.error (PyError.eofError message) } := by
  have hfits : forall field, field ∈ sampleFields -> field.Fits := by
    intro field hmem
    simp only [sampleFields, List.mem_cons, List.not_mem_nil, or_false] at hmem
    rcases hmem with rfl | rfl | rfl
    · exact ⟨by decide, by decide⟩
    · exact ⟨by decide, by decide⟩
    · rfl
  rcases readFields_writeFields sampleFields hfits with
    ⟨writer, hrun, hcomplete, hcut⟩
  have hwriter : writer = { buffer := [31, 144, 1, 97, 10, 0, 0, 1] } := by
    have hbuffer : (writeFields sampleFields).run BinaryWriter.new =
        Except.ok ((), { buffer := [31, 144, 1, 97, 10, 0, 0, 1] }) := rfl
    rw [hbuffer] at hrun
    injection hrun with hrun
    injection hrun with _ hwriter
    exact hwriter.symm
  subst hwriter
  exact ⟨hcomplete [5], hcut 5 (by decide)⟩

end Wire
end Hmmp
