import Hmmp.Foundation.Unsigned
import Hmmp.Foundation.Utf8
import Hmmp.Wire.Constants
import Hmmp.Wire.Errors

/-!
# Binary writer and reader

Big-endian field writers and readers over a byte buffer.  The integer writers
mask their argument to the width of the field, so a length that does not fit
its field is written modulo the field.
-/

namespace Hmmp
namespace Wire

open Foundation

/-!
# Packed integers

Packing raises on a value outside the field; masking happens before packing and
only in the writer.
-/

/-- Pack an unsigned integer of {lit}`width` bytes. -/
def packUnsigned (width n : Nat) : Except PyError Bytes :=
  if n < 256 ^ width then pure (bigEndian width n) else throw PyError.structError

theorem packUnsigned_of_lt {width n : Nat} (h : n < 256 ^ width) :
    packUnsigned width n = Except.ok (bigEndian width n) := by
  unfold packUnsigned
  rw [if_pos h]
  rfl

theorem packUnsigned_eq_ok {width n : Nat} {bs : Bytes} :
    packUnsigned width n = Except.ok bs <->
      n < 256 ^ width ∧ bs = bigEndian width n := by
  by_cases hn : n < 256 ^ width
  · rw [packUnsigned_of_lt hn]
    simp [hn, eq_comm]
  · simp [packUnsigned, hn, throw, throwThe, MonadExceptOf.throw]

def slice (bs : Bytes) (start stop : Nat) : Bytes :=
  (bs.drop start).take (stop - start)

theorem slice_mid (front mid back : Bytes) {start stop : Nat}
    (hstart : front.length = start) (hstop : start + mid.length = stop) :
    slice (front ++ mid ++ back) start stop = mid := by
  subst hstart
  subst hstop
  simp [slice]

/-!
Slices in a row.
-/

theorem slice_zero (bs : Bytes) (n : Nat) : slice bs 0 n = bs.take n := by
  simp [slice]

theorem slice_length {bs : Bytes} {start stop : Nat}
    (h : stop <= bs.length) : (slice bs start stop).length = stop - start := by
  rw [slice, List.length_take, List.length_drop]
  omega

theorem slice_append_slice (bs : Bytes) {start mid stop : Nat}
    (hstart : start <= mid) (hstop : mid <= stop) :
    slice bs start mid ++ slice bs mid stop = slice bs start stop := by
  have hmid : bs.drop mid = (bs.drop start).drop (mid - start) := by
    rw [List.drop_drop, Nat.add_sub_cancel' hstart]
  have hsize : stop - start = (mid - start) + (stop - mid) := by omega
  rw [slice, slice, slice, hmid, hsize, List.take_add]

theorem slice_append_drop (bs : Bytes) {start stop : Nat}
    (h : start <= stop) : slice bs start stop ++ bs.drop stop =
      bs.drop start := by
  have hstop : bs.drop stop = (bs.drop start).drop (stop - start) := by
    rw [List.drop_drop, Nat.add_sub_cancel' h]
  rw [slice, hstop, List.take_append_drop]

theorem slice_drop (bs : Bytes) (n start stop : Nat) :
    slice (bs.drop n) start stop = slice bs (n + start) (n + stop) := by
  rw [slice, slice, List.drop_drop, Nat.add_sub_add_left]

theorem bigEndian_slice (width : Nat) {bs : Bytes} {start stop : Nat}
    (h : stop <= bs.length) (hwidth : stop - start = width) :
    bigEndian width (fromBigEndian (slice bs start stop)) =
      slice bs start stop := by
  have hback := bigEndian_fromBigEndian (slice bs start stop)
  rw [slice_length h, hwidth] at hback
  exact hback

theorem fromBigEndian_slice_lt {bs : Bytes} {start stop width : Nat}
    (hwidth : stop - start = width) :
    fromBigEndian (slice bs start stop) < 256 ^ width := by
  have hlt := fromBigEndian_lt (slice bs start stop)
  have hlen : (slice bs start stop).length <= width := by
    rw [slice, List.length_take]
    omega
  exact Nat.lt_of_lt_of_le hlt (Nat.pow_le_pow_right (by decide) hlen)

theorem bind_eq_ok {ε α β : Type} {first : Except ε α}
    {next : α -> Except ε β} {b : β} :
    (do next (← first)) = Except.ok b <->
      exists a, first = Except.ok a ∧ next a = Except.ok b := by
  cases first with
  | error e => simp [bind, Except.bind]
  | ok a => simp [bind, Except.bind]

theorem run_bind_of_ok {σ ε α β : Type} {first : StateT σ (Except ε) α}
    {next : α -> StateT σ (Except ε) β} {s s' : σ} {a : α}
    (h : first.run s = Except.ok (a, s')) :
    (first >>= next).run s = (next a).run s' := by
  rw [StateT.run_bind, h]
  rfl

theorem run_bind_of_error {σ ε α β : Type} {first : StateT σ (Except ε) α}
    {next : α -> StateT σ (Except ε) β} {s : σ} {e : ε}
    (h : first.run s = Except.error e) :
    (first >>= next).run s = Except.error e := by
  rw [StateT.run_bind, h]
  rfl

/-!
# Writer
-/

structure BinaryWriter where
  buffer : Bytes
  deriving DecidableEq

abbrev Writing := StateT BinaryWriter (Except PyError)

namespace BinaryWriter

def writeBytes (data : Bytes) : Writing Unit :=
  modify fun w => { buffer := w.buffer ++ data }

/-- Write an integer masked to {lit}`width` bytes. -/
def writeUnsigned (width : Nat) (value : Int) : Writing Unit :=
  writeBytes (bigEndian width (value % (256 ^ width : Nat)).toNat)

def writeU8 (value : Int) : Writing Unit :=
  writeUnsigned 1 value

def writeU16 (value : Int) : Writing Unit :=
  writeUnsigned 2 value

def writeU32 (value : Int) : Writing Unit :=
  writeUnsigned 4 value

def writeU64 (value : Int) : Writing Unit :=
  writeUnsigned 8 value

/-- Write the bit pattern of a 32-bit float. -/
def writeF32 (bits : UInt32) : Writing Unit :=
  writeBytes (bigEndian 4 bits.toNat)

/-- Encode a string, raising on a code point UTF-8 does not encode. -/
def encodeString (value : Text) : Except PyError Bytes :=
  match encodeUtf8 value with
  | some encoded => pure encoded
  | none => throw PyError.unicodeEncodeError

theorem encodeString_eq_ok {value : Text} {bs : Bytes} :
    encodeString value = Except.ok bs <-> encodeUtf8 value = some bs := by
  unfold encodeString
  cases encodeUtf8 value <;> simp [throw, throwThe, MonadExceptOf.throw, pure,
    Except.pure]

/-- Write a string behind a masked length of {lit}`width` bytes. -/
def writeString (width : Nat) (value : Text) : Writing Unit := do
  let encoded ← encodeString value
  writeUnsigned width encoded.length
  writeBytes encoded

def writeStringU8 (value : Text) : Writing Unit :=
  writeString 1 value

def writeStringU16 (value : Text) : Writing Unit :=
  writeString 2 value

/-- Write the bytes of an address, raising on a wrong number of them. -/
def writeIp (ipBytes : Bytes) (ipType : IpType) : Writing Unit := do
  if ipBytes.length ≠ ipType.width then
    throw (PyError.valueError
      ("Expected " ++ toString ipType.width ++ " bytes for " ++ ipType.name))
  writeBytes ipBytes

/-- Write a label: its key and its value as short strings. -/
def writeLabel (label : Text × Text) : Writing Unit := do
  writeStringU8 label.1
  writeStringU8 label.2

def new : BinaryWriter :=
  { buffer := [] }

/-- The position of a writer, which is behind its last byte. -/
def length (w : BinaryWriter) : Nat :=
  w.buffer.length

/-- The bytes a fresh writer holds after the writes. -/
def getvalue (writes : Writing Unit) : Except PyError Bytes := do
  let (_, w) ← writes.run { buffer := [] }
  pure w.buffer

end BinaryWriter

/-!
# What a sequence of writes emits

A sequence of writes either raises or appends the same bytes to every buffer.
-/

def emissions (first second : Option Bytes) : Option Bytes :=
  match first, second with
  | some x, some y => some (x ++ y)
  | _, _ => none

theorem emissions_eq_some {first second : Option Bytes} {bs : Bytes} :
    emissions first second = some bs <->
      exists x y, first = some x ∧ second = some y ∧ bs = x ++ y := by
  cases first with
  | none => simp [emissions]
  | some x =>
      cases second with
      | none => simp [emissions]
      | some y => simp [emissions, eq_comm]

/-- The writes append {lit}`out` to every buffer, or raise if it is absent. -/
def Emits (writes : Writing Unit) (out : Option Bytes) : Prop :=
  forall w : BinaryWriter,
    match out with
    | some bs => writes.run w = Except.ok ((), { buffer := w.buffer ++ bs })
    | none => exists e, writes.run w = Except.error e

namespace Emits

theorem bind {writes writes' : Writing Unit} {out out' : Option Bytes}
    (h : Emits writes out) (h' : Emits writes' out') :
    Emits (do writes; writes') (emissions out out') := by
  intro w
  cases out with
  | none =>
      rcases h w with ⟨e, he⟩
      refine ⟨e, ?_⟩
      rw [StateT.run_bind, he]
      rfl
  | some x =>
      have hx : writes.run w = Except.ok ((), { buffer := w.buffer ++ x }) :=
        h w
      cases out' with
      | none =>
          rcases h' { buffer := w.buffer ++ x } with ⟨e, he⟩
          refine ⟨e, ?_⟩
          rw [StateT.run_bind, hx]
          exact he
      | some y =>
          have hy : writes'.run { buffer := w.buffer ++ x } =
              Except.ok ((), { buffer := w.buffer ++ x ++ y }) :=
            h' { buffer := w.buffer ++ x }
          show (do writes; writes').run w = _
          rw [StateT.run_bind, hx, ← List.append_assoc]
          exact hy

theorem pure : Emits (Pure.pure ()) (some []) := by
  intro w
  show (Except.ok ((), w) : Except PyError _) = _
  rw [List.append_nil]

theorem writeBytes (data : Bytes) :
    Emits (BinaryWriter.writeBytes data) (some data) := by
  intro w
  rfl

theorem writeUnsigned (width : Nat) (value : Int) :
    Emits (BinaryWriter.writeUnsigned width value)
      (some (bigEndian width (value % (256 ^ width : Nat)).toNat)) :=
  writeBytes _

theorem writeCount (width n : Nat) :
    Emits (BinaryWriter.writeUnsigned width n) (some (bigEndian width n)) := by
  have h := writeUnsigned width n
  rw [← Int.natCast_emod, Int.toNat_natCast, bigEndian_mod] at h
  exact h

theorem writeF32 (bits : UInt32) :
    Emits (BinaryWriter.writeF32 bits) (some (bigEndian 4 bits.toNat)) :=
  writeBytes _

theorem writeIp {ipBytes : Bytes} {ipType : IpType}
    (h : ipBytes.length = ipType.width) :
    Emits (BinaryWriter.writeIp ipBytes ipType) (some ipBytes) := by
  intro w
  unfold BinaryWriter.writeIp
  rw [if_neg (not_not.mpr h)]
  rfl

theorem lift {α : Type} {value : Except PyError α}
    {writes : α -> Writing Unit} {out : Option Bytes}
    (hok : forall a, value = Except.ok a -> Emits (writes a) out)
    (herror : forall e, value = Except.error e -> out = none) :
    Emits (do writes (← value)) out := by
  intro w
  cases hvalue : value with
  | ok a => exact hok a hvalue w
  | error e =>
      rw [herror e hvalue]
      exact ⟨e, rfl⟩

theorem forM {α : Type} {write : α -> Writing Unit}
    {out : α -> Option Bytes} (items : List α)
    (h : forall a, a ∈ items -> Emits (write a) (out a)) :
    Emits (items.forM write)
      (items.foldr (fun a rest => emissions (out a) rest) (some [])) := by
  induction items with
  | nil => exact pure
  | cons a items ih =>
      have hrest := ih fun b hb => h b (List.mem_cons_of_mem a hb)
      exact (h a List.mem_cons_self).bind hrest

theorem getvalue_eq_ok {writes : Writing Unit} {out : Option Bytes}
    (h : Emits writes out) {bs : Bytes} :
    BinaryWriter.getvalue writes = Except.ok bs <-> out = some bs := by
  unfold BinaryWriter.getvalue
  cases out with
  | none =>
      rcases h { buffer := [] } with ⟨e, he⟩
      rw [he]
      constructor
      · intro hok
        cases hok
      · intro hsome
        cases hsome
  | some x =>
      have hx : writes.run { buffer := [] } =
          Except.ok ((), { buffer := x }) := h { buffer := [] }
      rw [hx]
      constructor
      · intro hok
        injection hok with hok
        exact congrArg some hok
      · intro hsome
        injection hsome with hsome
        rw [hsome]
        rfl

end Emits

def stringBytes (width : Nat) (value : Text) : Option Bytes :=
  (encodeUtf8 value).map fun encoded =>
    bigEndian width encoded.length ++ encoded

theorem Emits.writeString (width : Nat) (value : Text) :
    Emits (BinaryWriter.writeString width value) (stringBytes width value) := by
  unfold BinaryWriter.writeString BinaryWriter.encodeString stringBytes
  cases hencoded : encodeUtf8 value with
  | none =>
      intro w
      exact ⟨PyError.unicodeEncodeError, rfl⟩
  | some encoded =>
      intro w
      exact (Emits.writeCount width encoded.length).bind
        (Emits.writeBytes encoded) w

/-!
# Reader
-/

/-- The unread bytes of a reader and the number of bytes it has read. -/
structure BinaryReader where
  rest : Bytes
  position : Nat
  deriving DecidableEq

abbrev Reading := StateT BinaryReader (Except PyError)

namespace BinaryReader

def new (data : Bytes) : BinaryReader :=
  { rest := data, position := 0 }

/-- Take {lit}`n` bytes, raising with the given message if there are fewer. -/
def takeBytes (n : Nat) (message : Nat -> String) : Reading Bytes := do
  let r ← get
  if r.rest.length < n then
    throw (PyError.eofError (message r.rest.length))
  else
    set ({ rest := r.rest.drop n, position := r.position + n } : BinaryReader)
    pure (r.rest.take n)

def readUnsigned (width : Nat) (name : String) : Reading Nat := do
  let data ← takeBytes width fun _ => "Unexpected end of data reading " ++ name
  pure (fromBigEndian data)

def readU8 : Reading Nat :=
  readUnsigned 1 "u8"

def readU16 : Reading Nat :=
  readUnsigned 2 "u16"

def readU32 : Reading Nat :=
  readUnsigned 4 "u32"

def readU64 : Reading Nat :=
  readUnsigned 8 "u64"

def readBytes (length : Nat) : Reading Bytes :=
  takeBytes length fun got =>
    "Unexpected end of data: expected " ++ toString length ++ ", got " ++
      toString got

def readF32 : Reading UInt32 := do
  pure (UInt32.ofNat (← readUnsigned 4 "f32"))

def readIp (ipType : IpType) : Reading Bytes :=
  readBytes ipType.width

def readMany {α : Type} (item : Reading α) : Nat -> Reading (List α)
  | 0 => pure []
  | count + 1 => do
      let first ← item
      let others ← readMany item count
      pure (first :: others)

theorem takeBytes_append (front tail : Bytes) (position : Nat)
    (message : Nat -> String) :
    (takeBytes front.length message).run
        { rest := front ++ tail, position := position } =
      Except.ok
        (front, { rest := tail, position := position + front.length }) := by
  have hlong : ¬ front.length + tail.length < front.length := by
    omega
  simp [takeBytes, hlong]
  rfl

theorem readUnsigned_append {width n : Nat} (hn : n < 256 ^ width)
    (name : String) (tail : Bytes) (position : Nat) :
    (readUnsigned width name).run
        { rest := bigEndian width n ++ tail, position := position } =
      Except.ok (n, { rest := tail, position := position + width }) := by
  have htake := takeBytes_append (bigEndian width n) tail position
    fun _ => "Unexpected end of data reading " ++ name
  rw [bigEndian_length] at htake
  unfold readUnsigned
  rw [run_bind_of_ok htake]
  show Except.ok (fromBigEndian (bigEndian width n), _) = _
  rw [fromBigEndian_bigEndian, Nat.mod_eq_of_lt hn]

theorem takeBytes_short {n : Nat} {reader : BinaryReader}
    (h : reader.rest.length < n) (message : Nat -> String) :
    (takeBytes n message).run reader =
      Except.error (PyError.eofError (message reader.rest.length)) := by
  simp [takeBytes, h]
  rfl

theorem takeBytes_long {n : Nat} {reader : BinaryReader}
    (h : n <= reader.rest.length) (message : Nat -> String) :
    (takeBytes n message).run reader =
      Except.ok (reader.rest.take n,
        { rest := reader.rest.drop n, position := reader.position + n }) := by
  have hlong : ¬ reader.rest.length < n := by omega
  simp [takeBytes, hlong]
  rfl

theorem readUnsigned_short {width : Nat} {reader : BinaryReader}
    (h : reader.rest.length < width) (name : String) :
    (readUnsigned width name).run reader =
      Except.error
        (PyError.eofError ("Unexpected end of data reading " ++ name)) := by
  unfold readUnsigned
  rw [StateT.run_bind, takeBytes_short h]
  rfl

theorem readUnsigned_long {width : Nat} {reader : BinaryReader}
    (h : width <= reader.rest.length) (name : String) :
    (readUnsigned width name).run reader =
      Except.ok (fromBigEndian (reader.rest.take width),
        { rest := reader.rest.drop width
          position := reader.position + width }) := by
  unfold readUnsigned
  rw [run_bind_of_ok (takeBytes_long h _)]
  rfl

/-- Decode the bytes of a string, raising on malformed UTF-8. -/
def decodeString (data : Bytes) : Except PyError Text :=
  match decodeUtf8 data with
  | some value => pure value
  | none => throw PyError.unicodeDecodeError

def readStringU8 : Reading Text := do
  let length ← readU8
  let data ← readBytes length
  decodeString data

def readStringU16 : Reading Text := do
  let length ← readU16
  let data ← readBytes length
  decodeString data

def remaining : Reading Nat := do
  return (← get).rest.length

def hasRemaining : Reading Bool := do
  return (← remaining) > 0

end BinaryReader

end Wire
end Hmmp
