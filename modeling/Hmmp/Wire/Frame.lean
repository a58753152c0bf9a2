import Hmmp.Wire.Binary
import Hmmp.Wire.Constants
import Hmmp.Wire.Value

/-!
# Frames

The fixed header, the frame encoder and the frame decoder.  A frame is the
header, an optional governance block behind a four-byte length, the metadata
behind a two-byte length, and the body.
-/

namespace Hmmp
namespace Wire

open Foundation

/-- The fixed sixteen-byte header. -/
structure FrameHeader where
  magic : Nat := magicNumber
  version : Nat := protocolVersion
  flags : Nat := 0
  streamId : Nat := 0
  payloadLength : Nat := 0
  padding : Nat := 0
  deriving Repr, DecidableEq

namespace FrameHeader

def toBytes (h : FrameHeader) : Except PyError Bytes := do
  let magic ← packUnsigned 2 h.magic
  let version ← packUnsigned 1 h.version
  let flags ← packUnsigned 1 h.flags
  let streamId ← packUnsigned 4 h.streamId
  let payloadLength ← packUnsigned 4 h.payloadLength
  let padding ← packUnsigned 4 h.padding
  pure (magic ++ version ++ flags ++ streamId ++ payloadLength ++ padding)

def fromBytes (data : Bytes) : Except PyError FrameHeader := do
  if data.length < headerSize then
    throw (PyError.protocolError
      ("Header too short: " ++ toString data.length ++ " < " ++
        toString headerSize))
  let magic := fromBigEndian (slice data 0 2)
  if magic ≠ magicNumber then
    throw (PyError.protocolError
      ("Invalid magic number: 0x" ++ upperHex 4 magic))
  pure
    { magic := magic
      version := fromBigEndian (slice data 2 3)
      flags := fromBigEndian (slice data 3 4)
      streamId := fromBigEndian (slice data 4 8)
      payloadLength := fromBigEndian (slice data 8 12)
      padding := fromBigEndian (slice data 12 16) }

def isEncrypted (h : FrameHeader) : Bool :=
  Flag.isSet h.flags Flag.encrypted

def hasGovernance (h : FrameHeader) : Bool :=
  Flag.isSet h.flags Flag.governance

end FrameHeader

/-- A complete frame.  Its metadata is whatever value its document denotes. -/
structure Frame where
  header : FrameHeader
  metadata : Value
  body : Bytes
  governanceBlock : Option Bytes

namespace Frame

def streamId (f : Frame) : Nat :=
  f.header.streamId

/-- The operation code in the metadata; absent reads as {lit}`None`. -/
def bodyType (f : Frame) : Except PyError Value := do
  pure ((← f.metadata.get (text "body_type")).getD Value.nil)

/-- The operation code in the metadata, if it is the number of one. -/
def opcode (f : Frame) : Except PyError (Option OpCode) := do
  match (← f.bodyType).intKey with
  | Except.ok (some n) =>
      pure (if 0 <= n then OpCode.ofCode n.toNat else none)
  | _ => pure none

end Frame

/-- What a caller passes to the frame encoder. -/
structure FrameRequest where
  opcode : OpCode
  body : Bytes := []
  streamId : Nat := 0
  isRequest : Bool := true
  metadata : Metadata := Dict.empty
  flags : Nat := 0
  governanceBlock : Option Bytes := none

namespace FrameRequest

/-- A governance block that is sent: an empty one counts as none. -/
def sentGovernance (r : FrameRequest) : Option Bytes :=
  match r.governanceBlock with
  | some [] => none
  | other => other

/-- The caller's flags and those the other arguments imply. -/
def frameFlags (r : FrameRequest) : Nat :=
  let flags := if r.isRequest then r.flags ||| Flag.request.mask else r.flags
  if r.sentGovernance.isSome then flags ||| Flag.governance.mask else flags

end FrameRequest

structure FrameEncoder where
  clientVersion : Text := text "hmmp-python/0.7.0"

namespace FrameEncoder

/-- The default metadata, overridden by the caller's. -/
def frameMetadata (encoder : FrameEncoder) (r : FrameRequest) : Metadata :=
  ((Dict.empty.set (text "body_type") (Value.int r.opcode.code)).set
    (text "client_version") (Value.str encoder.clientVersion)).update
      r.metadata

def encode (encoder : FrameEncoder) (msgpack : Msgpack)
    (r : FrameRequest) : Except PyError Bytes := do
  let metaBytes ← msgpack.packb (Value.ofDict (encoder.frameMetadata r))
  let metaLength ← packUnsigned 2 metaBytes.length
  let payload := metaLength ++ metaBytes ++ r.body
  let governanceSize :=
    match r.sentGovernance with
    | some block => block.length + 4
    | none => 0
  let header ← FrameHeader.toBytes
    { flags := r.frameFlags
      streamId := r.streamId
      payloadLength := payload.length + governanceSize }
  match r.sentGovernance with
  | some block =>
      let blockLength ← packUnsigned 4 block.length
      pure (header ++ blockLength ++ block ++ payload)
  | none => pure (header ++ payload)

end FrameEncoder

namespace FrameDecoder

/-- The governance block after the header, and where the payload starts. -/
def decodeGovernance (header : FrameHeader) (data : Bytes) :
    Except PyError (Option Bytes × Nat) := do
  let offset := headerSize
  if header.hasGovernance then
    if data.length < offset + 4 then
      throw (PyError.protocolError "Data too short for governance length")
    let govLen := fromBigEndian (slice data offset (offset + 4))
    let offset := offset + 4
    if data.length < offset + govLen then
      throw (PyError.protocolError "Data too short for governance block")
    pure (some (slice data offset (offset + govLen)), offset + govLen)
  else
    pure (none, offset)

def decode (msgpack : Msgpack) (data : Bytes) : Except PyError Frame := do
  if data.length < headerSize then
    throw (PyError.protocolError
      ("Data too short for header: " ++ toString data.length))
  let header ← FrameHeader.fromBytes data
  let (governanceBlock, payloadStart) ← decodeGovernance header data
  if data.length < payloadStart + 2 then
    throw (PyError.protocolError "Data too short for metadata length")
  let metaLen := fromBigEndian (slice data payloadStart (payloadStart + 2))
  let payloadStart := payloadStart + 2
  if data.length < payloadStart + metaLen then
    throw (PyError.protocolError "Data too short for metadata")
  let metaBytes := slice data payloadStart (payloadStart + metaLen)
  let payloadStart := payloadStart + metaLen
  match msgpack.unpackb metaBytes with
  | Except.error e =>
      throw (PyError.protocolError ("Failed to decode metadata: " ++ e))
  | Except.ok metadata =>
      pure
        { header := header
          metadata := metadata
          body := data.drop payloadStart
          governanceBlock := governanceBlock }

def decodePayload (msgpack : Msgpack) (payload : Bytes) :
    Except PyError (Value × Bytes) := do
  if payload.length < 2 then
    throw (PyError.protocolError "Payload too short")
  let metaLen := fromBigEndian (slice payload 0 2)
  if payload.length < 2 + metaLen then
    throw (PyError.protocolError "Payload too short for metadata")
  let metaBytes := slice payload 2 (2 + metaLen)
  let body := payload.drop (2 + metaLen)
  match msgpack.unpackb metaBytes with
  | Except.error e =>
      throw (PyError.protocolError ("Failed to decode metadata: " ++ e))
  | Except.ok metadata => pure (metadata, body)

end FrameDecoder

end Wire
end Hmmp
