import Mathlib.Tactic.Common
import Hmmp.Foundation.Unsigned
import Hmmp.Foundation.Utf8
import Hmmp.Wire.Constants
import Hmmp.Wire.Errors

/-!
# IP addresses

The octets of an address in text form, as the {lit}`ipaddress` module of the
standard library parses it: dotted decimal without leading zeros, and the
colon notation with at most one gap, a dotted tail and a scope id.
-/

namespace Hmmp
namespace Wire

open Foundation

def digitValue (c : CodePoint) : Option Nat :=
  if 48 <= c.val ∧ c.val <= 57 then some (c.val - 48)
  else if 65 <= c.val ∧ c.val <= 70 then some (c.val - 55)
  else if 97 <= c.val ∧ c.val <= 102 then some (c.val - 87)
  else none

def parseDigits (base : Nat) (s : Text) : Option Nat :=
  if s.isEmpty then none
  else
    s.foldlM
      (fun acc c =>
        match digitValue c with
        | some d => if d < base then some (acc * base + d) else none
        | none => none)
      0

/-!
# Dotted decimal
-/

def parseOctet (s : Text) : Option Nat := do
  let n ← parseDigits 10 s
  if s.length > 3 then none
  else if s ≠ text "0" ∧ s.head? = (text "0").head? then none
  else if n > 255 then none
  else some n

def parseIpv4 (s : Text) : Option Nat := do
  let octets := s.splitOn (codePointOf '.')
  if octets.length ≠ 4 then none
  else
    let values ← octets.mapM parseOctet
    some (values.foldl (fun acc n => acc * 256 + n) 0)

/-!
# Colon notation
-/

def parseHextet (s : Text) : Option Nat :=
  if s.length > 4 then none else parseDigits 16 s

def parseHextets (parts : List Text) : Option Nat := do
  let values ← parts.mapM parseHextet
  some (values.foldl (fun acc n => acc * 65536 + n) 0)

def hexText (n : Nat) : Text :=
  (Nat.toDigits 16 n).map codePointOf

/-- Replace a dotted tail by two hextets. -/
def expandIpv4 (parts : List Text) : Option (List Text) :=
  match parts.getLast? with
  | none => some parts
  | some tail =>
      if codePointOf '.' ∈ tail then do
        let n ← parseIpv4 tail
        some (parts.dropLast ++ [hexText (n / 65536), hexText (n % 65536)])
      else some parts

/-- The places of empty parts between the first and the last one. -/
def gaps (parts : List Text) : List Nat :=
  (List.range parts.length).filter fun i =>
    decide (0 < i ∧ i + 1 < parts.length ∧ parts[i]? = some [])

/-- The parts before and after a gap; an empty first or last part belongs to
the gap. -/
def splitGap (parts : List Text) (gap : Nat) :
    Option (List Text × List Text) :=
  let high := parts.take gap
  let low := parts.drop (gap + 1)
  let high' := if high.head? = some [] then high.tail else high
  let low' := if low.getLast? = some [] then low.dropLast else low
  if high.head? = some [] ∧ high' ≠ [] then none
  else if low.getLast? = some [] ∧ low' ≠ [] then none
  else if high'.length + low'.length > 7 then none
  else some (high', low')

def parseIpv6Parts (parts : List Text) : Option Nat :=
  if parts.length > 9 then none
  else
    match gaps parts with
    | [] => if parts.length ≠ 8 then none else parseHextets parts
    | [gap] => do
        let (high, low) ← splitGap parts gap
        let highValue ← parseHextets high
        let lowValue ← parseHextets low
        some (highValue * 65536 ^ (8 - high.length) + lowValue)
    | _ => none

/-- The address in front of a scope id, which must not be empty. -/
def dropScopeId (s : Text) : Option Text :=
  match s.splitOn (codePointOf '%') with
  | [address] => some address
  | [address, scopeId] => if scopeId.isEmpty then none else some address
  | _ => none

def parseIpv6 (s : Text) : Option Nat := do
  if codePointOf '/' ∈ s then none
  else
    let address ← dropScopeId s
    let parts := address.splitOn (codePointOf ':')
    if parts.length < 3 then none
    else
      let parts ← expandIpv4 parts
      parseIpv6Parts parts

/-- A text in a message, with surrogates replaced. -/
def showText (s : Text) : String :=
  String.ofList (s.map fun c => Char.ofNat c.val)

def ipToBytes (ip : Text) : Except PyError (Bytes × IpType) :=
  match parseIpv4 ip with
  | some n => pure (bigEndian 4 n, IpType.ipv4)
  | none =>
      match parseIpv6 ip with
      | some n => pure (bigEndian 16 n, IpType.ipv6)
      | none =>
          throw (PyError.valueError ("Invalid IP address: " ++ showText ip))

def IpType.ofCode (code : Nat) : Except PyError IpType :=
  if code = ipv4.code then pure ipv4
  else if code = ipv6.code then pure ipv6
  else
    throw (PyError.valueError (toString code ++ " is not a valid IpType"))

/-- The texts that the address library has for octets. -/
structure IpLib where
  ipv4Text : Bytes -> Text
  ipv6Text : Bytes -> Text

def bytesToIp (lib : IpLib) (data : Bytes) : IpType -> Text
  | IpType.ipv4 => lib.ipv4Text data
  | IpType.ipv6 => lib.ipv6Text data

theorem ipToBytes_length {ip : Text} {octets : Bytes} {ipType : IpType}
    (h : ipToBytes ip = Except.ok (octets, ipType)) :
    octets.length = ipType.width := by
  unfold ipToBytes at h
  split at h
  · rcases Prod.mk.inj (Except.ok.inj h) with ⟨hoctets, htype⟩
    rw [← hoctets, ← htype, bigEndian_length]
    rfl
  · split at h
    · rcases Prod.mk.inj (Except.ok.inj h) with ⟨hoctets, htype⟩
      rw [← hoctets, ← htype, bigEndian_length]
      rfl
    · cases h

end Wire
end Hmmp
