import Hmmp.Wire.Binary
import Hmmp.Wire.Constants
import Hmmp.Foundation.Dict

/-!
# Governance extension block

The TLV entries a frame may carry between its header and its payload: a type
byte, a two-byte length and the value.
-/

namespace Hmmp
namespace Wire

open Foundation

/-- The first {lit}`n` bytes, filled with zeros up to {lit}`n`. -/
def fixedBytes (n : Nat) (bs : Bytes) : Bytes :=
  bs.take n ++ List.replicate (n - (bs.take n).length) 0

@[simp] theorem fixedBytes_length (n : Nat) (bs : Bytes) :
    (fixedBytes n bs).length = n := by
  rw [fixedBytes, List.length_append, List.length_replicate, List.length_take]
  omega

/-- Distributed trace context, 24 bytes. -/
structure TraceContext where
  traceId : Bytes
  spanId : Bytes
  deriving DecidableEq

namespace TraceContext

def fromBytes (data : Bytes) : Except PyError TraceContext :=
  if data.length < 24 then
    throw (PyError.valueError
      ("TraceContext requires 24 bytes, got " ++ toString data.length))
  else
    pure { traceId := slice data 0 16, spanId := slice data 16 24 }

def toBytes (t : TraceContext) : Bytes :=
  fixedBytes 16 t.traceId ++ fixedBytes 8 t.spanId

end TraceContext

/-- Traffic coloring tag, at most 255 bytes. -/
structure TrafficColoring where
  tag : Text
  deriving DecidableEq

namespace TrafficColoring

def fromBytes (data : Bytes) : Except PyError TrafficColoring := do
  let tag ← BinaryReader.decodeString data
  pure { tag := tag }

def toBytes (c : TrafficColoring) : Except PyError Bytes := do
  let encoded ← BinaryWriter.encodeString c.tag
  pure (encoded.take 255)

end TrafficColoring

/-- Method metrics, 8 bytes. -/
structure MethodMetrics where
  queueDurationUs : Nat
  executionDurationMs : Nat
  deriving DecidableEq

namespace MethodMetrics

def fromBytes (data : Bytes) : Except PyError MethodMetrics :=
  if data.length < 8 then
    throw (PyError.valueError
      ("MethodMetrics requires 8 bytes, got " ++ toString data.length))
  else
    pure
      { queueDurationUs := fromBigEndian (slice data 0 4)
        executionDurationMs := fromBigEndian (slice data 4 8) }

def toBytes (m : MethodMetrics) : Except PyError Bytes := do
  let queueUs ← packUnsigned 4 m.queueDurationUs
  let execMs ← packUnsigned 4 m.executionDurationMs
  pure (queueUs ++ execMs)

end MethodMetrics

/-- Tenant quota token, 16 bytes. -/
structure TenantQuotaToken where
  token : Bytes
  deriving DecidableEq

namespace TenantQuotaToken

def fromBytes (data : Bytes) : Except PyError TenantQuotaToken :=
  if data.length < 16 then
    throw (PyError.valueError
      ("TenantQuotaToken requires 16 bytes, got " ++ toString data.length))
  else
    pure { token := slice data 0 16 }

def toBytes (q : TenantQuotaToken) : Bytes :=
  fixedBytes 16 q.token

end TenantQuotaToken

structure GovernanceBlock where
  traceContext : Option TraceContext := none
  trafficColoring : Option TrafficColoring := none
  methodMetrics : Option MethodMetrics := none
  tenantQuotaToken : Option TenantQuotaToken := none
  unknownTags : Dict Nat Bytes := Dict.empty
  deriving DecidableEq

namespace GovernanceBlock

/-!
# Parsing
-/

def assign (block : GovernanceBlock) (tag : Nat) (value : Bytes) :
    Except PyError GovernanceBlock :=
  if tag = GovernanceTag.traceContext.code then do
    let context ← TraceContext.fromBytes value
    pure { block with traceContext := some context }
  else if tag = GovernanceTag.trafficColoring.code then do
    let coloring ← TrafficColoring.fromBytes value
    pure { block with trafficColoring := some coloring }
  else if tag = GovernanceTag.methodMetrics.code then do
    let metrics ← MethodMetrics.fromBytes value
    pure { block with methodMetrics := some metrics }
  else if tag = GovernanceTag.tenantQuotaToken.code then do
    let token ← TenantQuotaToken.fromBytes value
    pure { block with tenantQuotaToken := some token }
  else
    pure { block with unknownTags := block.unknownTags.set tag value }

def readEntry : Reading (Nat × Bytes) := do
  let tagType ← BinaryReader.readU8
  let tagLength ← BinaryReader.readU16
  let tagValue ← BinaryReader.readBytes tagLength
  pure (tagType, tagValue)

/-- The parsing loop.  Every entry takes at least three bytes, so the number of
bytes bounds the number of rounds; an incomplete entry ends the loop. -/
def parseEntries : Nat -> BinaryReader -> GovernanceBlock ->
    Except PyError GovernanceBlock
  | 0, _, block => pure block
  | rounds + 1, reader, block =>
      if reader.rest.isEmpty then
        pure block
      else
        match readEntry.run reader with
        | Except.error (PyError.eofError _) => pure block
        | Except.error e => throw e
        | Except.ok ((tag, value), reader') => do
            let block' ← block.assign tag value
            parseEntries rounds reader' block'

def fromBytes (data : Bytes) : Except PyError GovernanceBlock :=
  parseEntries data.length (BinaryReader.new data) {}

/-!
# Serialisation
-/

def writeEntry (tag : Nat) (value : Bytes) : Writing Unit := do
  BinaryWriter.writeU8 tag
  BinaryWriter.writeU16 value.length
  BinaryWriter.writeBytes value

def writeField {α : Type} (tag : GovernanceTag)
    (toBytes : α -> Except PyError Bytes) : Option α -> Writing Unit
  | some a => do
      let value ← toBytes a
      writeEntry tag.code value
  | none => pure ()

def writeBlock (block : GovernanceBlock) : Writing Unit := do
  writeField GovernanceTag.traceContext (fun t => pure t.toBytes)
    block.traceContext
  writeField GovernanceTag.trafficColoring TrafficColoring.toBytes
    block.trafficColoring
  writeField GovernanceTag.methodMetrics MethodMetrics.toBytes
    block.methodMetrics
  writeField GovernanceTag.tenantQuotaToken (fun q => pure q.toBytes)
    block.tenantQuotaToken
  block.unknownTags.entries.forM fun entry => writeEntry entry.1 entry.2

def toBytes (block : GovernanceBlock) : Except PyError Bytes :=
  BinaryWriter.getvalue block.writeBlock

/-- The block behind its four-byte length. -/
def toFrameBytes (block : GovernanceBlock) : Except PyError Bytes := do
  let content ← block.toBytes
  let length ← packUnsigned 4 content.length
  pure (length ++ content)

def isEmpty (block : GovernanceBlock) : Bool :=
  block.traceContext.isNone && block.trafficColoring.isNone &&
    block.methodMetrics.isNone && block.tenantQuotaToken.isNone &&
      block.unknownTags.entries.isEmpty

end GovernanceBlock

def parseGovernanceBlock (data : Bytes) : Except PyError GovernanceBlock :=
  GovernanceBlock.fromBytes data

/-- Two arguments that are used together or not at all. -/
def bothPresent {α β : Type} (a : Option α) (b : Option β) : Option (α × β) :=
  match a, b with
  | some x, some y => some (x, y)
  | _, _ => none

/-- An argument that counts as absent when it is empty. -/
def nonEmpty {α : Type} (a : Option (List α)) : Option (List α) :=
  a.filter fun items => !items.isEmpty

theorem nonEmpty_some {α : Type} {items : List α} (h : items ≠ []) :
    nonEmpty (some items) = some items := by
  simp [nonEmpty, Option.filter, h]

def buildGovernanceBlock (traceId spanId : Option Bytes)
    (trafficTag : Option Text)
    (queueDurationUs executionDurationMs : Option Nat)
    (quotaToken : Option Bytes) : Except PyError (Option Bytes) := do
  let block : GovernanceBlock :=
    { traceContext := (bothPresent (nonEmpty traceId) (nonEmpty spanId)).map
        fun ids => { traceId := ids.1, spanId := ids.2 }
      trafficColoring := (nonEmpty trafficTag).map fun tag => { tag := tag }
      methodMetrics := (bothPresent queueDurationUs executionDurationMs).map
        fun durations =>
          { queueDurationUs := durations.1
            executionDurationMs := durations.2 }
      tenantQuotaToken := (nonEmpty quotaToken).map
        fun token => { token := token } }
  if block.isEmpty then
    pure none
  else do
    let bytes ← block.toFrameBytes
    pure (some bytes)

end Wire
end Hmmp
