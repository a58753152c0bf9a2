import Hmmp.Connection.Connection
import Hmmp.Wire.FrameRoundTrip

/-!
# Delivery of a stream of frames

The read loop on a stream of encoded frames that is cut off inside a further
frame: every complete frame is handed to the handler, in order and as it was
encoded, and the connection is closed at the cut.
-/

namespace Hmmp
namespace Connection

open Foundation
open Wire

/-!
# Encoded frames
-/

/-- A request that its encoder can send, with the metadata it packs. -/
structure EncodedFrame (msgpack : Msgpack) where
  encoder : FrameEncoder
  request : FrameRequest
  metaBytes : Bytes
  encodable : encoder.Encodable msgpack request metaBytes

namespace EncodedFrame

variable {msgpack : Msgpack}

def sent (f : EncodedFrame msgpack) : Frame :=
  f.encoder.sentFrame f.request
    (FrameEncoder.payloadSize f.request f.metaBytes)

def afterHeader (f : EncodedFrame msgpack) : Bytes :=
  FrameEncoder.afterHeader f.request f.metaBytes

def wire (f : EncodedFrame msgpack) : Bytes :=
  f.sent.header.layout ++ f.afterHeader

theorem encode_eq (f : EncodedFrame msgpack) :
    f.encoder.encode msgpack f.request = Except.ok f.wire :=
  FrameEncoder.encode_eq f.encodable

theorem decode_wire (f : EncodedFrame msgpack) :
    FrameDecoder.decode msgpack f.wire = Except.ok f.sent :=
  FrameDecoder.decode_encode f.encodable

theorem bodyType_sent (f : EncodedFrame msgpack)
    (hnamed : f.request.metadata.get? (text "body_type") = none) :
    f.sent.bodyType = Except.ok (Value.int f.request.opcode.code) := by
  have hname : text "client_version" ≠ text "body_type" := by decide
  have hlookup : (f.encoder.frameMetadata f.request).get?
      (text "body_type") = some (Value.int f.request.opcode.code) := by
    unfold FrameEncoder.frameMetadata
    rw [Dict.get?_update_of_none _ hnamed, Dict.get?_set_of_ne _ _ hname.symm,
      Dict.get?_set_self]
  have hget : f.sent.metadata.get (text "body_type") =
      Except.ok (some (Value.int f.request.opcode.code)) := by
    rw [← hlookup]
    exact congrArg Except.ok (Value.lookup_ofDict _ _)
  unfold Frame.bodyType
  rw [hget]
  rfl

theorem afterHeader_length (f : EncodedFrame msgpack) :
    f.afterHeader.length = f.sent.header.payloadLength :=
  FrameEncoder.afterHeader_length f.request f.metaBytes

theorem fromBytes_layout (f : EncodedFrame msgpack) :
    FrameHeader.fromBytes f.sent.header.layout = Except.ok f.sent.header := by
  have h := FrameHeader.fromBytes_layout_append
    (FrameEncoder.sentFrame_fits f.encodable) []
  rw [List.append_nil] at h
  exact h

theorem payloadLength_pos (f : EncodedFrame msgpack) :
    0 < f.sent.header.payloadLength := by
  show 0 < FrameEncoder.payloadSize f.request f.metaBytes
  unfold FrameEncoder.payloadSize
  omega

end EncodedFrame

/-- The delivered frame has the stream id, the flags with those the call
implies, the metadata, the body and the governance block of the request. -/
structure DeliveredAs {msgpack : Msgpack} (f : EncodedFrame msgpack)
    (frame : Frame) : Prop where
  streamId : frame.streamId = f.request.streamId
  flags : frame.header.flags = f.request.frameFlags
  metadata : frame.metadata =
    Value.ofDict (f.encoder.frameMetadata f.request)
  body : frame.body = f.request.body
  governance : frame.governanceBlock = f.request.governanceBlock

theorem EncodedFrame.deliveredAs_sent {msgpack : Msgpack}
    (f : EncodedFrame msgpack) : DeliveredAs f f.sent where
  streamId := rfl
  flags := rfl
  metadata := rfl
  body := rfl
  governance := FrameRequest.sentGovernance_eq f.encodable.governance

namespace HMMPConnection

variable {msgpack : Msgpack}

/-!
# One round of the loop
-/

theorem readFrame_wire {c : HMMPConnection} {reader : StreamReader}
    (f : EncodedFrame msgpack) {rest : Bytes}
    (hreader : c.reader = some reader)
    (hcarries : reader.Carries (f.wire ++ rest)) :
    exists reader', reader'.Carries rest ∧
      c.readFrame msgpack =
        (Except.ok f.sent, { c with reader := some reader' }) := by
  have hheader : reader.Carries
      (f.sent.header.layout ++ (f.afterHeader ++ rest)) := by
    simpa [EncodedFrame.wire, List.append_assoc] using hcarries
  rcases StreamReader.readexactly_append hheader with ⟨mid, hread, hmid⟩
  rcases StreamReader.readexactly_append hmid with ⟨reader', hread', hrest⟩
  rw [FrameHeader.layout_length] at hread
  rw [f.afterHeader_length] at hread'
  refine ⟨reader', hrest, ?_⟩
  unfold readFrame
  simp only [hreader, hread, f.fromBytes_layout, hread',
    f.payloadLength_pos, if_true, decodeRead]
  rw [show f.sent.header.layout ++ f.afterHeader = f.wire from rfl,
    f.decode_wire]
  rfl

theorem readFrame_cut {c : HMMPConnection} {reader : StreamReader}
    (f : EncodedFrame msgpack) {cut missing : Bytes}
    (hcut : f.wire = cut ++ missing) (hmissing : missing ≠ [])
    (hreader : c.reader = some reader) (hcarries : reader.Carries cut) :
    exists reader', c.readFrame msgpack =
      endOfStream { c with reader := some reader' } := by
  have hlen : cut.length < headerSize + f.sent.header.payloadLength := by
    have htotal := congrArg List.length hcut
    have hpos := List.length_pos_iff.mpr hmissing
    rw [EncodedFrame.wire, List.length_append, List.length_append,
      FrameHeader.layout_length, f.afterHeader_length] at htotal
    omega
  unfold readFrame
  rw [hreader]
  by_cases hshort : cut.length < headerSize
  · refine ⟨reader, ?_⟩
    simp only [StreamReader.readexactly_short hcarries hshort]
    rw [← hreader]
  · have hfront : cut =
        f.sent.header.layout ++ cut.drop headerSize := by
      have htake := congrArg (List.take headerSize) hcut
      rw [EncodedFrame.wire, ← f.sent.header.layout_length, List.take_left,
        FrameHeader.layout_length,
        List.take_append_of_le_length (by omega)] at htake
      rw [htake, List.take_append_drop]
    rw [hfront] at hcarries
    rcases StreamReader.readexactly_append hcarries with ⟨mid, hread, hmid⟩
    rw [FrameHeader.layout_length] at hread
    have hrest : (cut.drop headerSize).length <
        f.sent.header.payloadLength := by
      rw [List.length_drop]
      omega
    refine ⟨mid, ?_⟩
    simp only [hread, f.fromBytes_layout, f.payloadLength_pos, if_true,
      StreamReader.readexactly_short hmid hrest]

/-!
# The whole loop
-/

def closing (c : HMMPConnection) : List Callback :=
  if c.onClose then [Callback.close] else []

/-- The connection after the loop has delivered some frames and closed it. -/
def afterDelivery (c : HMMPConnection) (delivered : List Frame) :
    HMMPConnection :=
  { c with
    state := ConnectionState.disconnected
    reader := none
    hasWriter := false
    closedEvent := true
    callbacks := c.callbacks ++ delivered.map Callback.frame ++ c.closing }

theorem close_of_connected {c : HMMPConnection} (h : c.isConnected = true) :
    c.close = c.afterDelivery [] := by
  have hstate : c.state ≠ ConnectionState.disconnected := by
    intro hstate
    rw [isConnected, hstate] at h
    cases h
  unfold close afterDelivery closing
  rw [if_neg hstate]
  cases c.onClose <;> simp

theorem readFrameLoop_eq {c : HMMPConnection} {reader : StreamReader}
    {handler : FrameHandler} (frames : List (EncodedFrame msgpack))
    (last : EncodedFrame msgpack) {cut missing : Bytes}
    (hcut : last.wire = cut ++ missing) (hmissing : missing ≠ [])
    (hconnected : c.isConnected = true)
    (hhandler : c.onFrame = some handler)
    (hreturns : forall frame, handler frame = Except.ok ())
    (hreader : c.reader = some reader)
    (hcarries : reader.Carries ((frames.map EncodedFrame.wire).flatten ++ cut))
    {rounds : Nat} (hrounds : frames.length < rounds) :
    readFrameLoop msgpack rounds c =
      some (c.afterDelivery (frames.map EncodedFrame.sent)) := by
  induction frames generalizing c reader rounds with
  | nil =>
      cases rounds with
      | zero => cases hrounds
      | succ rounds =>
          rcases readFrame_cut last hcut hmissing hreader hcarries with
            ⟨reader', hread⟩
          have hclose := close_of_connected
            (c := { c with reader := some reader' }) hconnected
          unfold readFrameLoop
          simp only [hconnected, if_true, hread, endOfStream]
          show some (close { c with reader := some reader' }) = _
          rw [hclose]
          rfl
  | cons f frames ih =>
      cases rounds with
      | zero => cases hrounds
      | succ rounds =>
          rw [List.map_cons, List.flatten_cons, List.append_assoc] at hcarries
          rcases readFrame_wire f hreader hcarries with ⟨reader', hrest, hread⟩
          have hloop := ih (c := { c with
              reader := some reader'
              callbacks := c.callbacks ++ [Callback.frame f.sent] })
            hconnected hhandler rfl hrest
            (Nat.lt_of_succ_lt_succ hrounds)
          unfold readFrameLoop
          simp only [hconnected, if_true, hread, handleFrame, hhandler,
            hreturns]
          rw [hhandler] at hloop
          rw [hloop]
          simp [afterDelivery, closing, hhandler]

end HMMPConnection

theorem wires_eq {msgpack : Msgpack} {frames : List (EncodedFrame msgpack)}
    {wires : List Bytes}
    (h : List.Forall₂
      (fun f wire => f.encoder.encode msgpack f.request = Except.ok wire)
      frames wires) :
    wires = frames.map EncodedFrame.wire := by
  induction h with
  | nil => rfl
  | @cons f wire frames wires hwire _ ih =>
      rw [f.encode_eq] at hwire
      injection hwire with hwire
      rw [List.map_cons, ← hwire, ih]

/--
A connected connection whose handler returns and whose stream carries the
encodings of some frames and a strict initial part of one more, in whatever
chunks: the read loop hands the handler exactly those frames, in order, with
what each of them encoded, and then closes the connection.
-/
theorem readFrameLoop_delivers (msgpack : Msgpack)
    (frames : List (EncodedFrame msgpack)) (last : EncodedFrame msgpack)
    (wires : List Bytes) (cut missing : Bytes)
    (hwires : List.Forall₂
      (fun f wire => f.encoder.encode msgpack f.request = Except.ok wire)
      frames wires)
    (hlast : last.encoder.encode msgpack last.request =
      Except.ok (cut ++ missing))
    (hmissing : missing ≠ []) (c : HMMPConnection) (reader : StreamReader)
    (handler : FrameHandler) (hconnected : c.isConnected = true)
    (hhandler : c.onFrame = some handler)
    (hreturns : forall frame, handler frame = Except.ok ())
    (hreader : c.reader = some reader)
    (hcarries : reader.Carries (wires.flatten ++ cut)) :
    exists delivered : List Frame,
      List.Forall₂ DeliveredAs frames delivered ∧
        forall rounds, frames.length < rounds ->
          exists c', HMMPConnection.readFrameLoop msgpack rounds c = some c' ∧
            c'.callbacks = c.callbacks ++ delivered.map Callback.frame ++
              c.closing ∧
            c'.state = ConnectionState.disconnected ∧ c'.reader = none ∧
            c'.closedEvent = true := by
  have hmap := wires_eq hwires
  have hcut : last.wire = cut ++ missing := by
    rw [last.encode_eq] at hlast
    injection hlast
  rw [hmap] at hcarries
  refine ⟨frames.map EncodedFrame.sent, ?_, fun rounds hrounds => ?_⟩
  · rw [List.forall₂_map_right_iff]
    exact List.forall₂_same.mpr fun f _ => f.deliveredAs_sent
  · exact ⟨_, HMMPConnection.readFrameLoop_eq frames last hcut hmissing
      hconnected hhandler hreturns hreader hcarries hrounds,
      rfl, rfl, rfl, rfl⟩

def heartbeatFrame (streamId : Nat) (h : streamId < 2 ^ 32) :
    EncodedFrame Msgpack.flat where
  encoder := {}
  request := heartbeat streamId none
  metaBytes := heartbeatMetadata
  encodable := heartbeat_encodable streamId none h (by decide) (by decide)

/-- Two heartbeats and the first twenty bytes of a third, in two chunks. -/
def heartbeatStream : StreamReader where
  buffer := []
  arriving :=
    [Arrival.data ((heartbeatFrame 1 (by decide)).wire.take 7),
      Arrival.data ((heartbeatFrame 1 (by decide)).wire.drop 7 ++
        (heartbeatFrame 2 (by decide)).wire ++
          (heartbeatFrame 3 (by decide)).wire.take 20)]

/-- An authenticated connection on the heartbeat stream. -/
def heartbeatConnection : HMMPConnection where
  state := ConnectionState.authenticated
  reader := some heartbeatStream
  hasWriter := true
  onFrame := some fun _ => Except.ok ()
  onClose := true

theorem readFrameLoop_delivers_heartbeats :
    exists delivered : List Frame,
      List.Forall₂ DeliveredAs
          [heartbeatFrame 1 (by decide), heartbeatFrame 2 (by decide)]
          delivered ∧
        forall rounds, 2 < rounds ->
          exists c', HMMPConnection.readFrameLoop Msgpack.flat rounds
              heartbeatConnection = some c' ∧
            c'.callbacks = [] ++ delivered.map Callback.frame ++
              heartbeatConnection.closing ∧
            c'.state = ConnectionState.disconnected ∧ c'.reader = none ∧
            c'.closedEvent = true := by
  refine readFrameLoop_delivers Msgpack.flat
    [heartbeatFrame 1 (by decide), heartbeatFrame 2 (by decide)]
    (heartbeatFrame 3 (by decide))
    [(heartbeatFrame 1 (by decide)).wire, (heartbeatFrame 2 (by decide)).wire]
    ((heartbeatFrame 3 (by decide)).wire.take 20)
    ((heartbeatFrame 3 (by decide)).wire.drop 20)
    ?_ ?_ ?_ heartbeatConnection heartbeatStream (fun _ => Except.ok ())
    rfl rfl (fun _ => rfl) rfl ⟨?_, ?_⟩
  · exact List.Forall₂.cons (EncodedFrame.encode_eq _)
      (List.Forall₂.cons (EncodedFrame.encode_eq _) List.Forall₂.nil)
  · rw [List.take_append_drop]
    exact EncodedFrame.encode_eq _
  · intro hnil
    have hlen := congrArg List.length hnil
    rw [List.length_drop, EncodedFrame.wire, List.length_append,
      FrameHeader.layout_length, EncodedFrame.afterHeader_length] at hlen
    exact absurd hlen (by decide)
  · simp only [StreamReader.pending, StreamReader.dataOf, heartbeatStream,
      List.nil_append, List.append_nil, List.flatten_cons, List.flatten_nil]
    rw [← List.append_assoc, ← List.append_assoc, List.take_append_drop]
  · simp [heartbeatStream]

end Connection
end Hmmp
