import Hmmp.Wire.Frame

/-!
# Frame round trip

The bytes of an encoded frame, part by part, and the proof that the decoder
returns the parts.
-/

namespace Hmmp
namespace Wire

open Foundation

/-!
# Header
-/

namespace FrameHeader

/-- Every field of the header fits its width. -/
structure Fits (h : FrameHeader) : Prop where
  magic : h.magic = magicNumber
  version : h.version < 256
  flags : h.flags < 256
  streamId : h.streamId < 2 ^ 32
  payloadLength : h.payloadLength < 2 ^ 32
  padding : h.padding < 2 ^ 32

def layout (h : FrameHeader) : Bytes :=
  bigEndian 2 h.magic ++ bigEndian 1 h.version ++ bigEndian 1 h.flags ++
    bigEndian 4 h.streamId ++ bigEndian 4 h.payloadLength ++
      bigEndian 4 h.padding

@[simp] theorem layout_length (h : FrameHeader) :
    h.layout.length = headerSize := by
  simp [layout, headerSize]

theorem toBytes_eq {h : FrameHeader} (hfits : h.Fits) :
    h.toBytes = Except.ok h.layout := by
  have hmagic : h.magic < 256 ^ 2 := by
    rw [hfits.magic]
    decide
  unfold toBytes
  rw [packUnsigned_of_lt hmagic, packUnsigned_of_lt hfits.version,
    packUnsigned_of_lt hfits.flags, packUnsigned_of_lt hfits.streamId,
    packUnsigned_of_lt hfits.payloadLength, packUnsigned_of_lt hfits.padding]
  rfl

theorem field_slice (front back : Bytes) (width start : Nat) {n : Nat}
    (hstart : front.length = start) (hn : n < 256 ^ width) :
    fromBigEndian
      (slice (front ++ bigEndian width n ++ back) start (start + width)) =
        n := by
  rw [slice_mid front _ back hstart (by rw [bigEndian_length]),
    fromBigEndian_bigEndian, Nat.mod_eq_of_lt hn]

theorem fromBytes_layout_append {h : FrameHeader} (hfits : h.Fits)
    (rest : Bytes) : fromBytes (h.layout ++ rest) = Except.ok h := by
  have hmagicLt : h.magic < 256 ^ 2 := by
    rw [hfits.magic]
    decide
  have hmagic : fromBigEndian (slice (h.layout ++ rest) 0 2) = h.magic := by
    have hfield := field_slice [] (bigEndian 1 h.version ++
      bigEndian 1 h.flags ++ bigEndian 4 h.streamId ++
        bigEndian 4 h.payloadLength ++ bigEndian 4 h.padding ++ rest) 2 0
      rfl hmagicLt
    simpa [layout, List.append_assoc] using hfield
  have hversion : fromBigEndian (slice (h.layout ++ rest) 2 3) =
      h.version := by
    have hfield := field_slice (bigEndian 2 h.magic)
      (bigEndian 1 h.flags ++ bigEndian 4 h.streamId ++
        bigEndian 4 h.payloadLength ++ bigEndian 4 h.padding ++ rest) 1 2
      (by simp) hfits.version
    simpa [layout, List.append_assoc] using hfield
  have hflags : fromBigEndian (slice (h.layout ++ rest) 3 4) = h.flags := by
    have hfield := field_slice (bigEndian 2 h.magic ++ bigEndian 1 h.version)
      (bigEndian 4 h.streamId ++ bigEndian 4 h.payloadLength ++
        bigEndian 4 h.padding ++ rest) 1 3
      (by simp) hfits.flags
    simpa [layout, List.append_assoc] using hfield
  have hstream : fromBigEndian (slice (h.layout ++ rest) 4 8) =
      h.streamId := by
    have hfield := field_slice
      (bigEndian 2 h.magic ++ bigEndian 1 h.version ++ bigEndian 1 h.flags)
      (bigEndian 4 h.payloadLength ++ bigEndian 4 h.padding ++ rest) 4 4
      (by simp) hfits.streamId
    simpa [layout, List.append_assoc] using hfield
  have hpayload : fromBigEndian (slice (h.layout ++ rest) 8 12) =
      h.payloadLength := by
    have hfield := field_slice
      (bigEndian 2 h.magic ++ bigEndian 1 h.version ++
        bigEndian 1 h.flags ++ bigEndian 4 h.streamId)
      (bigEndian 4 h.padding ++ rest) 4 8
      (by simp) hfits.payloadLength
    simpa [layout, List.append_assoc] using hfield
  have hpadding : fromBigEndian (slice (h.layout ++ rest) 12 16) =
      h.padding := by
    have hfield := field_slice
      (bigEndian 2 h.magic ++ bigEndian 1 h.version ++
        bigEndian 1 h.flags ++ bigEndian 4 h.streamId ++
          bigEndian 4 h.payloadLength) rest 4 12
      (by simp) hfits.padding
    simpa [layout, List.append_assoc] using hfield
  have hlong : ¬ (h.layout ++ rest).length < headerSize := by
    rw [List.length_append, layout_length]
    omega
  unfold fromBytes
  rw [if_neg hlong, hmagic, hversion, hflags, hstream, hpayload, hpadding]
  simp only [hfits.magic, ne_eq, not_true_eq_false, if_false]
  rw [← hfits.magic]
  rfl

end FrameHeader

/-!
# Whole frames
-/

def governanceBytes : Option Bytes -> Bytes
  | none => []
  | some block => bigEndian 4 block.length ++ block

namespace FrameEncoder

/-- What the decoder is to return for an encoded frame whose payload and
governance area have the given size. -/
def sentFrame (encoder : FrameEncoder) (r : FrameRequest)
    (payloadLength : Nat) : Frame where
  header :=
    { flags := r.frameFlags
      streamId := r.streamId
      payloadLength := payloadLength }
  metadata := Value.ofDict (encoder.frameMetadata r)
  body := r.body
  governanceBlock := r.sentGovernance

/--
A request the frame encoder can send: its stream id is a 32-bit number, its
flags fit a byte and leave the governance bit to the encoder, its governance
block is absent or not empty, its metadata packs into at most 65535 bytes that
unpack to it, and all that follows the header is shorter than four gigabytes.
-/
structure Encodable (encoder : FrameEncoder) (msgpack : Msgpack)
    (r : FrameRequest) (metaBytes : Bytes) : Prop where
  streamId : r.streamId < 2 ^ 32
  flags : r.flags < 256
  governanceBit : Flag.isSet r.flags Flag.governance = false
  governance : r.governanceBlock ≠ some []
  packs : msgpack.packb (Value.ofDict (encoder.frameMetadata r)) =
    Except.ok metaBytes
  unpacks : msgpack.unpackb metaBytes =
    Except.ok (Value.ofDict (encoder.frameMetadata r))
  metadata : metaBytes.length <= 65535
  payload : (governanceBytes r.sentGovernance).length +
    (2 + metaBytes.length + r.body.length) < 2 ^ 32

end FrameEncoder

namespace FrameRequest

theorem sentGovernance_eq {r : FrameRequest}
    (h : r.governanceBlock ≠ some []) :
    r.sentGovernance = r.governanceBlock := by
  unfold sentGovernance
  cases hblock : r.governanceBlock with
  | none => rfl
  | some block =>
      cases block with
      | nil => exact absurd hblock h
      | cons b block => rfl

theorem or_lt_byte {a b : Nat} (ha : a < 256) (hb : b < 256) :
    a ||| b < 256 :=
  Nat.or_lt_two_pow (n := 8) ha hb

theorem frameFlags_lt {r : FrameRequest} (h : r.flags < 256) :
    r.frameFlags < 256 := by
  unfold frameFlags
  split <;> split
  · exact or_lt_byte (or_lt_byte h (by decide)) (by decide)
  · exact or_lt_byte h (by decide)
  · exact or_lt_byte h (by decide)
  · exact h

theorem hasGovernance_frameFlags {r : FrameRequest} {h : FrameHeader}
    (hflags : h.flags = r.frameFlags)
    (hbit : Flag.isSet r.flags Flag.governance = false) :
    h.hasGovernance = r.sentGovernance.isSome := by
  have hclear : r.flags &&& 0x80 = 0 := by
    simpa [Flag.isSet, Flag.mask] using hbit
  have hrequest : (r.flags ||| 0x01) &&& 0x80 = 0 := by
    rw [Nat.and_or_distrib_right, hclear]
    rfl
  have hset : forall flags, (flags ||| 0x80) &&& 0x80 ≠ 0 := by
    intro flags
    rw [Nat.and_or_distrib_right]
    intro hzero
    have hright := Nat.right_le_or (n := flags &&& 0x80) (m := 0x80 &&& 0x80)
    rw [hzero] at hright
    exact absurd hright (by decide)
  unfold FrameHeader.hasGovernance Flag.isSet
  rw [hflags]
  cases hsent : r.sentGovernance with
  | none =>
      cases hkind : r.isRequest <;>
        simp [frameFlags, hsent, hkind, Flag.mask, hclear, hrequest]
  | some block => simp [frameFlags, hsent, Flag.mask, hset]

end FrameRequest

namespace FrameEncoder

variable {encoder : FrameEncoder} {msgpack : Msgpack} {r : FrameRequest}
variable {metaBytes : Bytes}

/-- The length the header of a sent frame announces. -/
def payloadSize (r : FrameRequest) (metaBytes : Bytes) : Nat :=
  (governanceBytes r.sentGovernance).length +
    (2 + metaBytes.length + r.body.length)

def afterHeader (r : FrameRequest) (metaBytes : Bytes) : Bytes :=
  governanceBytes r.sentGovernance ++
    (bigEndian 2 metaBytes.length ++ metaBytes ++ r.body)

theorem afterHeader_length (r : FrameRequest) (metaBytes : Bytes) :
    (afterHeader r metaBytes).length = payloadSize r metaBytes := by
  simp [afterHeader, payloadSize, Nat.add_assoc]

theorem sentFrame_fits (h : Encodable encoder msgpack r metaBytes) :
    (encoder.sentFrame r (payloadSize r metaBytes)).header.Fits where
  magic := rfl
  version := (by decide : protocolVersion < 256)
  flags := FrameRequest.frameFlags_lt h.flags
  streamId := h.streamId
  payloadLength := h.payload
  padding := (by decide : 0 < 2 ^ 32)

theorem encode_eq (h : Encodable encoder msgpack r metaBytes) :
    encoder.encode msgpack r =
      Except.ok
        ((encoder.sentFrame r (payloadSize r metaBytes)).header.layout ++
          afterHeader r metaBytes) := by
  have hmeta : metaBytes.length < 256 ^ 2 := by
    have hle := h.metadata
    omega
  have hheader := FrameHeader.toBytes_eq (sentFrame_fits h)
  have hpayload := h.payload
  unfold encode
  rw [h.packs]
  simp only [Except.bind, bind, packUnsigned_of_lt hmeta]
  cases hsent : r.sentGovernance with
  | none =>
      have hsize : payloadSize r metaBytes =
          (bigEndian 2 metaBytes.length ++ metaBytes ++ r.body).length := by
        simp [payloadSize, hsent, governanceBytes, Nat.add_assoc]
      simp only [sentFrame, hsize] at hheader
      simp only [Nat.add_zero, hheader, afterHeader, hsent, governanceBytes,
        sentFrame, hsize]
      rfl
  | some block =>
      have hblock : block.length < 256 ^ 4 := by
        simp only [hsent, governanceBytes, List.length_append,
          bigEndian_length] at hpayload
        omega
      have hsize : payloadSize r metaBytes =
          (bigEndian 2 metaBytes.length ++ metaBytes ++ r.body).length +
            (block.length + 4) := by
        simp only [payloadSize, hsent, governanceBytes, List.length_append,
          bigEndian_length]
        omega
      simp only [sentFrame, hsize, List.append_assoc] at hheader
      simp only [hheader, packUnsigned_of_lt hblock, afterHeader, hsent,
        governanceBytes, sentFrame, hsize, List.append_assoc]
      rfl

end FrameEncoder

namespace FrameDecoder

variable {encoder : FrameEncoder} {msgpack : Msgpack} {r : FrameRequest}
variable {metaBytes : Bytes}

theorem decodeGovernance_eq {header : FrameHeader} {block? : Option Bytes}
    (front payload : Bytes)
    (hbit : header.hasGovernance = block?.isSome)
    (hfront : front.length = headerSize)
    (hlt : (governanceBytes block?).length < 2 ^ 32) :
    decodeGovernance header (front ++ governanceBytes block? ++ payload) =
      Except.ok (block?, headerSize + (governanceBytes block?).length) := by
  unfold decodeGovernance
  rw [hbit]
  cases block? with
  | none => rfl
  | some block =>
      have hblock : block.length < 256 ^ 4 := by
        simp only [governanceBytes, List.length_append,
          bigEndian_length] at hlt
        omega
      have hlen : fromBigEndian
          (slice (front ++ governanceBytes (some block) ++ payload)
            headerSize (headerSize + 4)) = block.length := by
        have hfield := FrameHeader.field_slice front (block ++ payload) 4
          headerSize hfront hblock
        simpa [governanceBytes, List.append_assoc] using hfield
      have hbody :
          slice (front ++ governanceBytes (some block) ++ payload)
            (headerSize + 4) (headerSize + 4 + block.length) = block := by
        have hstart : (front ++ bigEndian 4 block.length).length =
            headerSize + 4 := by
          simp [hfront]
        have hmid := slice_mid (front ++ bigEndian 4 block.length) block
          payload hstart rfl
        simpa [governanceBytes, List.append_assoc] using hmid
      have htotal : (front ++ governanceBytes (some block) ++ payload).length =
          headerSize + 4 + block.length + payload.length := by
        simp [governanceBytes, hfront]
        omega
      simp only [Option.isSome_some, if_true, hlen, hbody, htotal]
      rw [if_neg (by omega), if_neg (by omega)]
      simp only [governanceBytes, List.length_append, bigEndian_length]
      rw [Nat.add_assoc headerSize 4]
      rfl

section

variable {header : Bytes} (gov packed body : Bytes)
variable (hheader : header.length = headerSize)
include hheader

theorem slice_metadataLength (hmeta : packed.length < 256 ^ 2) :
    fromBigEndian
        (slice (header ++
            (gov ++ (bigEndian 2 packed.length ++ packed ++ body)))
          (headerSize + gov.length) (headerSize + gov.length + 2)) =
      packed.length := by
  have hstart : (header ++ gov).length = headerSize + gov.length := by
    rw [List.length_append, hheader]
  have hfield := FrameHeader.field_slice (header ++ gov)
    (packed ++ body) 2 (headerSize + gov.length) hstart hmeta
  simpa [List.append_assoc] using hfield

theorem slice_metadata :
    slice (header ++
        (gov ++ (bigEndian 2 packed.length ++ packed ++ body)))
        (headerSize + gov.length + 2)
        (headerSize + gov.length + 2 + packed.length) = packed := by
  have hstart : (header ++ gov ++ bigEndian 2 packed.length).length =
      headerSize + gov.length + 2 := by
    rw [List.length_append, List.length_append, hheader, bigEndian_length]
  have hslice := slice_mid (header ++ gov ++ bigEndian 2 packed.length)
    packed body hstart rfl
  simpa [List.append_assoc] using hslice

theorem drop_metadata :
    (header ++
        (gov ++ (bigEndian 2 packed.length ++ packed ++ body))).drop
      (headerSize + gov.length + 2 + packed.length) = body := by
  have hfront : (header ++ gov ++ bigEndian 2 packed.length ++
      packed).length = headerSize + gov.length + 2 + packed.length := by
    rw [List.length_append, List.length_append, List.length_append, hheader,
      bigEndian_length]
  rw [← hfront]
  simp only [← List.append_assoc]
  exact List.drop_left

end

/-- The decoder returns the parts of an encoded frame. -/
theorem decode_encode
    (h : FrameEncoder.Encodable encoder msgpack r metaBytes) :
    decode msgpack
        ((encoder.sentFrame r
            (FrameEncoder.payloadSize r metaBytes)).header.layout ++
          FrameEncoder.afterHeader r metaBytes) =
      Except.ok
        (encoder.sentFrame r (FrameEncoder.payloadSize r metaBytes)) := by
  generalize hframe :
    encoder.sentFrame r (FrameEncoder.payloadSize r metaBytes) = frame
  have hfits : frame.header.Fits := hframe ▸ FrameEncoder.sentFrame_fits h
  have hgovernance : frame.governanceBlock = r.sentGovernance := by
    rw [← hframe]
    rfl
  have hbit : frame.header.hasGovernance = r.sentGovernance.isSome := by
    refine FrameRequest.hasGovernance_frameFlags ?_ h.governanceBit
    rw [← hframe]
    rfl
  have hpayload := h.payload
  have hmeta : metaBytes.length < 256 ^ 2 := by
    have hle := h.metadata
    omega
  generalize hgov : governanceBytes r.sentGovernance = gov at hpayload
  have hafter : FrameEncoder.afterHeader r metaBytes =
      gov ++ (bigEndian 2 metaBytes.length ++ metaBytes ++ r.body) := by
    rw [← hgov]
    rfl
  have hblock := decodeGovernance_eq frame.header.layout
    (bigEndian 2 metaBytes.length ++ metaBytes ++ r.body)
    hbit frame.header.layout_length (by rw [hgov]; omega)
  rw [hgov] at hblock
  have hheader := frame.header.layout_length
  have hlen := slice_metadataLength gov metaBytes r.body hheader hmeta
  have hmid := slice_metadata gov metaBytes r.body hheader
  have hbody := drop_metadata gov metaBytes r.body hheader
  have htotal :
      (frame.header.layout ++
          (gov ++ (bigEndian 2 metaBytes.length ++ metaBytes ++
            r.body))).length =
        headerSize + gov.length + 2 + metaBytes.length + r.body.length := by
    simp
    omega
  rw [List.append_assoc] at hblock
  rw [hafter]
  unfold decode
  rw [FrameHeader.fromBytes_layout_append hfits, htotal]
  simp only [hblock, hlen, hmid, hbody, h.unpacks, bind, Except.bind]
  rw [if_neg (by omega), if_neg (by omega), if_neg (by omega)]
  rw [← hgovernance]
  subst hframe
  rfl

end FrameDecoder

/-!
# The heartbeat frame
-/

/-- The metadata of a heartbeat of the default client version. -/
def heartbeatMetadata : Bytes :=
  [0x82, 0xA9, 98, 111, 100, 121, 95, 116, 121, 112, 101, 0x03, 0xAE, 99, 108,
    105, 101, 110, 116, 95, 118, 101, 114, 115, 105, 111, 110, 0xB1, 104, 109,
    109, 112, 45, 112, 121, 116, 104, 111, 110, 47, 48, 46, 55, 46, 48]

/-- A heartbeat on some stream, with an optional governance block. -/
def heartbeat (streamId : Nat) (governanceBlock : Option Bytes) :
    FrameRequest :=
  { opcode := OpCode.heartbeatPing
    streamId := streamId
    governanceBlock := governanceBlock }

def heartbeatDocument : Value :=
  Value.map
    [(Value.str (text "body_type"), Value.int 3),
      (Value.str (text "client_version"), Value.str (text "hmmp-python/0.7.0"))]

theorem heartbeat_document (streamId : Nat) (governanceBlock : Option Bytes) :
    Value.ofDict (FrameEncoder.frameMetadata {}
      (heartbeat streamId governanceBlock)) = heartbeatDocument := by
  rfl

theorem heartbeat_packs :
    Msgpack.flat.packb heartbeatDocument = Except.ok heartbeatMetadata := by
  rfl

theorem heartbeat_unpacks :
    Msgpack.flat.unpackb heartbeatMetadata = Except.ok heartbeatDocument := by
  rfl

theorem heartbeat_encodable (streamId : Nat) (governanceBlock : Option Bytes)
    (hstream : streamId < 2 ^ 32) (hne : governanceBlock ≠ some [])
    (hlen : (governanceBytes governanceBlock).length < 2 ^ 16) :
    FrameEncoder.Encodable {} Msgpack.flat
      (heartbeat streamId governanceBlock) heartbeatMetadata where
  streamId := hstream
  flags := (by decide : 0 < 256)
  governanceBit := (by decide : Flag.isSet 0 Flag.governance = false)
  governance := hne
  packs := by
    rw [heartbeat_document]
    exact heartbeat_packs
  unpacks := by
    rw [heartbeat_document]
    exact heartbeat_unpacks
  metadata := by decide
  payload := by
    rw [FrameRequest.sentGovernance_eq hne]
    show (governanceBytes governanceBlock).length + (2 + 45 + 0) < 2 ^ 32
    omega

end Wire
end Hmmp
