import Hmmp.Wire.FieldReading
import Hmmp.Wire.IpAddress

/-!
# Bodies

A body is read from its start, and what stands behind the fields that are read
is ignored.  A parser of bodies reads layouts back if it returns the value of
every layout and raises wherever a layout is cut.
-/

namespace Hmmp
namespace Wire

open Foundation

variable {α β γ : Type}

def parseBody (reading : Reading α) (data : Bytes) : Except PyError α := do
  let (a, _) ← reading.run (BinaryReader.new data)
  pure a

theorem parseBody_of_ok {reading : Reading α} {data : Bytes} {a : α}
    {r : BinaryReader}
    (h : reading.run (BinaryReader.new data) = Except.ok (a, r)) :
    parseBody reading data = Except.ok a := by
  unfold parseBody
  rw [h]
  rfl

theorem parseBody_of_error {reading : Reading α} {data : Bytes} {e : PyError}
    (h : reading.run (BinaryReader.new data) = Except.error e) :
    parseBody reading data = Except.error e := by
  unfold parseBody
  rw [h]
  rfl

def EndsEarly (parser : Bytes -> Except PyError β) (data : Bytes) : Prop :=
  exists message, parser data = Except.error (PyError.eofError message)

/-- A parser returns the value of every layout, whatever follows it, and raises
where it is cut. -/
structure ReadsBack (parser : Bytes -> Except PyError β) (layout : α -> Bytes)
    (value : α -> β) : Prop where
  complete : forall a tail,
    parser (layout a ++ tail) = Except.ok (value a)
  cut : forall a n, n < (layout a).length ->
    EndsEarly parser ((layout a).take n)

namespace ReadsBack

theorem of_reads {reading : Reading β} {layout : α -> Bytes} {value : α -> β}
    (h : forall a, Reads reading (layout a) (value a)) :
    ReadsBack (parseBody reading) layout value where
  complete a tail := parseBody_of_ok ((h a).complete tail 0)
  cut a n hn := by
    rcases (h a).cut n 0 hn with ⟨message, hraises⟩
    exact ⟨message, parseBody_of_error hraises⟩

theorem exact {parser : Bytes -> Except PyError β} {layout : α -> Bytes}
    {value : α -> β} (h : ReadsBack parser layout value) (a : α) :
    parser (layout a) = Except.ok (value a) := by
  have hall := h.complete a []
  rw [List.append_nil] at hall
  exact hall

end ReadsBack

/-!
# Fields of a fixed width
-/

/-- A flag counts as set only if it is one. -/
def readFlag : Reading Bool := do
  pure ((← BinaryReader.readU8) == 1)

namespace Reads

theorem u8 (n : UInt8) :
    Reads BinaryReader.readU8 (bigEndian 1 n.toNat) n.toNat :=
  unsigned n.toNat_lt "u8"

theorem u16 (n : UInt16) :
    Reads BinaryReader.readU16 (bigEndian 2 n.toNat) n.toNat :=
  unsigned n.toNat_lt "u16"

theorem u32 (n : UInt32) :
    Reads BinaryReader.readU32 (bigEndian 4 n.toNat) n.toNat :=
  unsigned n.toNat_lt "u32"

theorem u64 (n : UInt64) :
    Reads BinaryReader.readU64 (bigEndian 8 n.toNat) n.toNat :=
  unsigned n.toNat_lt "u64"

theorem flag (n : UInt8) :
    Reads readFlag (bigEndian 1 n.toNat) (decide (n = 1)) := by
  have hflag : (n.toNat == 1) = decide (n = 1) := by
    rw [Bool.eq_iff_iff, beq_iff_eq, decide_eq_true_iff, ← UInt8.toNat_inj]
    rfl
  rw [← hflag]
  exact (u8 n).map (· == 1)

theorem ipType {next : IpType -> Reading β} {front : Bytes} {b : β}
    (t : IpType) (h : Reads (next t) front b) :
    Reads (do next (← IpType.ofCode (← BinaryReader.readU8)))
      (bigEndian 1 t.code ++ front) b :=
  (unsigned (by cases t <;> decide) "u8").bind
    ((lift (by cases t <;> rfl)).bind h)

end Reads

def readCounted (item : Reading α) : Reading (List α) := do
  BinaryReader.readMany item (← BinaryReader.readU16)

/-- As many items as a count of two bytes can tell. -/
structure Counted (α : Type) where
  items : List α
  few : items.length < 256 ^ 2

namespace Counted

def layout (item : α -> Bytes) (c : Counted α) : Bytes :=
  bigEndian 2 c.items.length ++ c.items.flatMap item

def values (value : α -> β) (c : Counted α) : List β :=
  c.items.map value

theorem reads {item : Reading β} {layout : α -> Bytes} {value : α -> β}
    (h : forall a, Reads item (layout a) (value a)) (c : Counted α) :
    Reads (readCounted item) (c.layout layout) (c.values value) :=
  (Reads.unsigned c.few "u16").bind (Reads.many c.items fun a _ => h a)

end Counted

/-!
# Optional fields
-/

def ifRemaining (done : α) (more : Reading α) : Reading α := do
  if ← BinaryReader.hasRemaining then more else pure done

theorem ifRemaining_nil (done : α) (more : Reading α) (position : Nat) :
    (ifRemaining done more).run { rest := [], position := position } =
      Except.ok (done, { rest := [], position := position }) :=
  rfl

theorem ifRemaining_of_ne_nil (done : α) (more : Reading α) {bs : Bytes}
    (h : bs ≠ []) (position : Nat) :
    (ifRemaining done more).run { rest := bs, position := position } =
      more.run { rest := bs, position := position } := by
  cases bs with
  | nil => exact absurd rfl h
  | cons b bs => rfl


/-- Read a head, and further fields if bytes remain. -/
def withOptional (head : Reading α) (more : α -> Reading α) : Reading α := do
  let a ← head
  ifRemaining a (more a)

section Optional

variable {head : Reading α} {more : α -> Reading α}
variable {front block : Bytes} {a b : α}

theorem withOptional_head (hhead : Reads head front a) :
    parseBody (withOptional head more) front = Except.ok a := by
  have hfront := hhead.complete [] 0
  rw [List.append_nil] at hfront
  apply parseBody_of_ok
  unfold withOptional
  rw [BinaryReader.new, run_bind_of_ok hfront]
  exact ifRemaining_nil a (more a) _

theorem withOptional_block (hhead : Reads head front a)
    (hblock : Reads (more a) block b) (hne : block ≠ []) (tail : Bytes) :
    parseBody (withOptional head more) (front ++ block ++ tail) =
      Except.ok b := by
  have hall : block ++ tail ≠ [] := by
    intro hnil
    exact hne (List.append_eq_nil_iff.mp hnil).1
  apply parseBody_of_ok
  unfold withOptional
  rw [BinaryReader.new, List.append_assoc,
    run_bind_of_ok (hhead.complete (block ++ tail) 0),
    ifRemaining_of_ne_nil _ _ hall]
  exact hblock.complete tail _

/-- Cut behind its head a layout is read without the optional fields, and cut
anywhere else it is not read. -/
theorem withOptional_cut (hhead : Reads head front a)
    (hblock : block = [] ∨ Reads (more a) block b) {n : Nat}
    (hn : n < (front ++ block).length) (hne : n ≠ front.length) :
    EndsEarly (parseBody (withOptional head more))
      ((front ++ block).take n) := by
  unfold EndsEarly withOptional
  rw [List.take_append]
  rw [List.length_append] at hn
  by_cases hshort : n < front.length
  · rcases hhead.cut n 0 hshort with ⟨message, hraises⟩
    refine ⟨message, parseBody_of_error ?_⟩
    rw [Nat.sub_eq_zero_of_le (Nat.le_of_lt hshort), List.take_zero,
      List.append_nil, BinaryReader.new, run_bind_of_error hraises]
  · rcases hblock with hnil | hblock
    · rw [hnil, List.length_nil] at hn
      omega
    · have hsome : block.take (n - front.length) ≠ [] := by
        intro hnil
        have hlength := congrArg List.length hnil
        rw [List.length_take, List.length_nil] at hlength
        omega
      rcases hblock.cut (n - front.length) (0 + front.length) (by omega) with
        ⟨message, hraises⟩
      refine ⟨message, parseBody_of_error ?_⟩
      rw [List.take_of_length_le (Nat.le_of_not_lt hshort), BinaryReader.new,
        run_bind_of_ok (hhead.complete _ 0), ifRemaining_of_ne_nil _ _ hsome]
      exact hraises

end Optional

end Wire
end Hmmp
