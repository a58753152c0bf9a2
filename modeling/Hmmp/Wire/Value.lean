import Hmmp.Foundation.Dict
import Hmmp.Foundation.Unsigned
import Hmmp.Foundation.Utf8
import Hmmp.Wire.Errors

/-!
# MessagePack values

The Python values a MessagePack document denotes, and the packing library as a
pair of functions between values and bytes.
-/

namespace Hmmp
namespace Wire

open Foundation

/-- A Python value that MessagePack can carry.  Floats are kept as their 64-bit
patterns. -/
inductive Value where
  | nil
  | bool (b : Bool)
  | int (i : Int)
  | float (bits : UInt64)
  | str (s : Text)
  | bin (data : Bytes)
  | array (items : List Value)
  | map (entries : List (Value × Value))
  | ext (code : Int) (data : Bytes)

abbrev Metadata := Dict Text Value

namespace Value

def ofDict (d : Metadata) : Value :=
  map (d.entries.map fun entry => (str entry.1, entry.2))

/-- Sign, exponent and fraction of a float that is an integer. -/
def floatInt? (bits : UInt64) : Option Int :=
  let exponent := bits.toNat / 2 ^ 52 % 2 ^ 11
  let fraction := bits.toNat % 2 ^ 52
  let magnitude? : Option Nat :=
    if exponent = 2047 then none
    else if exponent = 0 then (if fraction = 0 then some 0 else none)
    else
      let significand := 2 ^ 52 + fraction
      if 1075 <= exponent then some (significand * 2 ^ (exponent - 1075))
      else if significand % 2 ^ (1075 - exponent) = 0 then
        some (significand / 2 ^ (1075 - exponent))
      else none
  magnitude?.map fun magnitude =>
    if bits.toNat / 2 ^ 63 = 0 then (magnitude : Int) else -magnitude

def truthy : Value -> Bool
  | nil => false
  | bool b => b
  | int i => i != 0
  | float bits => bits.toNat % 2 ^ 63 != 0
  | str s => !s.isEmpty
  | bin data => !data.isEmpty
  | array items => !items.isEmpty
  | map entries => !entries.isEmpty
  | ext _ _ => true

/-- The integer a value is equal to as a dictionary key; lists and dictionaries
cannot be keys. -/
def intKey : Value -> Except PyError (Option Int)
  | bool b => pure (some (if b then 1 else 0))
  | int i => pure (some i)
  | float bits => pure (floatInt? bits)
  | array _ => throw PyError.typeError
  | map _ => throw PyError.typeError
  | nil => pure none
  | str _ => pure none
  | bin _ => pure none
  | ext _ _ => pure none

/-- The entry of a dictionary under a string key. -/
def lookup (key : Text) : List (Value × Value) -> Option Value
  | [] => none
  | (str k, v) :: rest => if k = key then some v else lookup key rest
  | _ :: rest => lookup key rest

theorem lookup_ofDict (d : Metadata) (key : Text) :
    lookup key (d.entries.map fun entry => (str entry.1, entry.2)) =
      d.get? key := by
  unfold Dict.get?
  generalize d.entries = entries
  induction entries with
  | nil => rfl
  | cons entry rest ih =>
      rw [List.map_cons, lookup, Dict.lookupIn, ih]

/-- {lit}`value.get(key)`: only a dictionary has the method. -/
def get (key : Text) : Value -> Except PyError (Option Value)
  | map entries => pure (lookup key entries)
  | _ => throw PyError.attributeError

end Value

/-- The packing library: {lit}`packb` with {lit}`use_bin_type=True` and
{lit}`unpackb` with {lit}`raw=False`, which raise on a value that cannot be
packed and on bytes that are no document. -/
structure Msgpack where
  packb : Value -> Except PyError Bytes
  unpackb : Bytes -> Except String Value

/-!
# Flat documents

The part of the format that small flat maps use: a library that packs and
unpacks them as MessagePack does and rejects everything else.
-/

namespace Msgpack

/-- Small non-negative integers and short strings. -/
def packScalar : Value -> Option Bytes
  | Value.int i =>
      if 0 <= i ∧ i < 128 then some [UInt8.ofNat i.toNat]
      else if 256 <= i ∧ i < 65536 then some (0xCD :: bigEndian 2 i.toNat)
      else none
  | Value.str s => do
      let encoded ← encodeUtf8 s
      if encoded.length < 32 then
        some (UInt8.ofNat (0xA0 + encoded.length) :: encoded)
      else none
  | _ => none

def packEntries : List (Value × Value) -> Option Bytes
  | [] => some []
  | (k, v) :: rest => do
      let key ← packScalar k
      let value ← packScalar v
      let tail ← packEntries rest
      some (key ++ value ++ tail)

def unpackScalar : Bytes -> Option (Value × Bytes)
  | [] => none
  | b :: rest =>
      if b.toNat < 0x80 then some (Value.int b.toNat, rest)
      else if b = 0xCD ∧ 2 <= rest.length then
        some (Value.int (fromBigEndian (rest.take 2)), rest.drop 2)
      else if 0xA0 <= b.toNat ∧ b.toNat < 0xC0 ∧
          b.toNat - 0xA0 <= rest.length then
        (decodeUtf8 (rest.take (b.toNat - 0xA0))).map fun s =>
          (Value.str s, rest.drop (b.toNat - 0xA0))
      else none

def unpackEntries : Nat -> Bytes -> Option (List (Value × Value) × Bytes)
  | 0, bs => some ([], bs)
  | n + 1, bs => do
      let (k, bs) ← unpackScalar bs
      let (v, bs) ← unpackScalar bs
      let (entries, bs) ← unpackEntries n bs
      some ((k, v) :: entries, bs)

def flat : Msgpack where
  packb
    | Value.map entries =>
        match packEntries entries with
        | some bs =>
            if entries.length < 16 then
              pure (UInt8.ofNat (0x80 + entries.length) :: bs)
            else throw PyError.packError
        | none => throw PyError.packError
    | _ => throw PyError.packError
  unpackb
    | [] => throw "Unpack failed: incomplete input"
    | b :: rest =>
        if 0x80 <= b.toNat ∧ b.toNat < 0x90 then
          match unpackEntries (b.toNat - 0x80) rest with
          | some (entries, []) => pure (Value.map entries)
          | _ => throw "Unpack failed: not a flat map"
        else throw "Unpack failed: not a flat map"

end Msgpack

end Wire
end Hmmp
