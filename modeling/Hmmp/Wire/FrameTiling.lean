import Hmmp.Wire.FrameRoundTrip

/-!
# What the frame decoder makes of arbitrary bytes

The decoder raises a protocol error, or its frame accounts for every byte once:
the header, the governance block behind its length, the metadata behind its
length, and the body.
-/

namespace Hmmp
namespace Wire

open Foundation

/-!
# The stages of the decoder
-/

/-- A computation that raises nothing but protocol errors. -/
def RaisesProtocolOnly {α : Type} (result : Except PyError α) : Prop :=
  forall e, result = Except.error e ->
    exists message, e = PyError.protocolError message

namespace FrameHeader

theorem fromBytes_of_short {data : Bytes} (h : data.length < headerSize) :
    fromBytes data = Except.error (PyError.protocolError
      ("Header too short: " ++ toString data.length ++ " < " ++
        toString headerSize)) := by
  simp [fromBytes, h]
  rfl

theorem fromBytes_eq_ok {data : Bytes} {header : FrameHeader}
    (h : fromBytes data = Except.ok header) :
    headerSize <= data.length ∧ header.Fits ∧
      header.layout = data.take headerSize := by
  by_cases hshort : data.length < headerSize
  · rw [fromBytes_of_short hshort] at h
    cases h
  · have hlong : 16 <= data.length := Nat.le_of_not_lt hshort
    unfold fromBytes at h
    rw [if_neg hshort] at h
    by_cases hmagic : fromBigEndian (slice data 0 2) = magicNumber
    · simp only [hmagic, ne_eq, not_true_eq_false, if_false] at h
      injection h with h
      subst h
      refine ⟨hlong, ?_, ?_⟩
      · exact
          { magic := rfl
            version := fromBigEndian_slice_lt rfl
            flags := fromBigEndian_slice_lt rfl
            streamId := fromBigEndian_slice_lt rfl
            payloadLength := fromBigEndian_slice_lt rfl
            padding := fromBigEndian_slice_lt rfl }
      · simp only [layout]
        rw [← hmagic, bigEndian_slice 2 (by omega) rfl,
          bigEndian_slice 1 (by omega) rfl, bigEndian_slice 1 (by omega) rfl,
          bigEndian_slice 4 (by omega) rfl, bigEndian_slice 4 (by omega) rfl,
          bigEndian_slice 4 (by omega) rfl,
          slice_append_slice data (by decide) (by decide),
          slice_append_slice data (by decide) (by decide),
          slice_append_slice data (by decide) (by decide),
          slice_append_slice data (by decide) (by decide),
          slice_append_slice data (by decide) (by decide), slice_zero]
        rfl
    · simp only [hmagic, ne_eq, not_false_eq_true, if_true] at h
      cases h

theorem fromBytes_raises (data : Bytes) :
    RaisesProtocolOnly (fromBytes data) := by
  intro e h
  by_cases hshort : data.length < headerSize
  · rw [fromBytes_of_short hshort] at h
    injection h with h
    exact ⟨_, h.symm⟩
  · unfold fromBytes at h
    rw [if_neg hshort] at h
    by_cases hmagic : fromBigEndian (slice data 0 2) = magicNumber
    · simp only [hmagic, ne_eq, not_true_eq_false, if_false] at h
      cases h
    · simp only [hmagic, ne_eq, not_false_eq_true, if_true] at h
      injection h with h
      exact ⟨_, h.symm⟩

end FrameHeader

namespace FrameDecoder

variable {msgpack : Msgpack}

theorem decodeGovernance_eq_ok {header : FrameHeader} {data : Bytes}
    {block? : Option Bytes} {start : Nat}
    (h : decodeGovernance header data = Except.ok (block?, start)) :
    header.hasGovernance = block?.isSome ∧
      (forall block, block? = some block -> block.length < 256 ^ 4) ∧
        data.drop headerSize = governanceBytes block? ++ data.drop start := by
  unfold decodeGovernance at h
  cases hbit : header.hasGovernance with
  | false =>
      simp only [hbit] at h
      injection h with h
      injection h with hblock hstart
      subst hblock
      subst hstart
      refine ⟨rfl, ?_, rfl⟩
      intro block hblock
      cases hblock
  | true =>
      simp only [hbit, if_true] at h
      by_cases hlen : data.length < headerSize + 4
      · simp only [hlen, if_true] at h
        cases h
      · simp only [hlen, if_false] at h
        generalize hgov : fromBigEndian
          (slice data headerSize (headerSize + 4)) = govLen at h
        by_cases hblock : data.length < headerSize + 4 + govLen
        · simp only [hblock, if_true] at h
          cases h
        · simp only [hblock, if_false] at h
          injection h with h
          injection h with hsome hstart
          subst hsome
          subst hstart
          have hsize : (slice data (headerSize + 4)
              (headerSize + 4 + govLen)).length = govLen := by
            rw [slice_length (by omega), Nat.add_sub_cancel_left]
          refine ⟨rfl, ?_, ?_⟩
          · intro block hblock
            injection hblock with hblock
            rw [← hblock, hsize, ← hgov]
            exact fromBigEndian_slice_lt rfl
          · rw [governanceBytes, hsize, ← hgov,
              bigEndian_slice 4 (by omega) rfl, hgov, List.append_assoc,
              slice_append_drop data (by omega),
              slice_append_drop data (by omega)]

theorem decodeGovernance_raises (header : FrameHeader) (data : Bytes) :
    RaisesProtocolOnly (decodeGovernance header data) := by
  intro e h
  unfold decodeGovernance at h
  cases hbit : header.hasGovernance with
  | false =>
      simp only [hbit] at h
      cases h
  | true =>
      simp only [hbit, if_true] at h
      split at h
      · injection h with h
        exact ⟨_, h.symm⟩
      · split at h
        · injection h with h
          exact ⟨_, h.symm⟩
        · cases h

theorem decodeGovernance_of_plain {header : FrameHeader} (data : Bytes)
    (h : header.hasGovernance = false) :
    decodeGovernance header data = Except.ok (none, headerSize) := by
  unfold decodeGovernance
  rw [h]
  rfl

theorem decodePayload_eq_ok {payload body : Bytes} {metadata : Value}
    (h : decodePayload msgpack payload = Except.ok (metadata, body)) :
    exists metaBytes, metaBytes.length < 256 ^ 2 ∧
      payload = bigEndian 2 metaBytes.length ++ metaBytes ++ body ∧
        msgpack.unpackb metaBytes = Except.ok metadata := by
  unfold decodePayload at h
  by_cases hlen : payload.length < 2
  · simp only [hlen, if_true] at h
    cases h
  · simp only [hlen, if_false] at h
    generalize hmeta : fromBigEndian (slice payload 0 2) = metaLen at h
    by_cases hshort : payload.length < 2 + metaLen
    · simp only [hshort, if_true] at h
      cases h
    · simp only [hshort, if_false] at h
      have hsize : (slice payload 2 (2 + metaLen)).length = metaLen := by
        rw [slice_length (by omega), Nat.add_sub_cancel_left]
      cases hunpack : msgpack.unpackb (slice payload 2 (2 + metaLen)) with
      | error e =>
          simp only [hunpack] at h
          cases h
      | ok value =>
          simp only [hunpack] at h
          injection h with h
          injection h with hvalue hbody
          subst hvalue
          subst hbody
          refine ⟨slice payload 2 (2 + metaLen), ?_, ?_, hunpack⟩
          · rw [hsize, ← hmeta]
            exact fromBigEndian_slice_lt rfl
          · rw [hsize, ← hmeta, bigEndian_slice 2 (by omega) rfl, hmeta,
              List.append_assoc, slice_append_drop payload (by omega),
              slice_append_drop payload (by omega), List.drop_zero]

/-- Behind the header and the governance block the decoder does what the
payload decoder does, up to the texts of its errors. -/
theorem decode_of_stages {data : Bytes} {header : FrameHeader}
    {block? : Option Bytes} {start : Nat}
    (hheader : FrameHeader.fromBytes data = Except.ok header)
    (hgov : decodeGovernance header data = Except.ok (block?, start)) :
    match decodePayload msgpack (data.drop start) with
    | Except.ok (metadata, body) =>
        decode msgpack data = Except.ok
          { header := header
            metadata := metadata
            body := body
            governanceBlock := block? }
    | Except.error _ => exists message,
        decode msgpack data = Except.error (PyError.protocolError message) := by
  have hlong := (FrameHeader.fromBytes_eq_ok hheader).1
  unfold decode decodePayload
  rw [if_neg (Nat.not_lt.mpr hlong)]
  simp only [hheader, hgov, bind, Except.bind, List.length_drop, slice_drop,
    Nat.add_zero, List.drop_drop]
  by_cases hlen : data.length < start + 2
  · have hlen' : data.length - start < 2 := by omega
    simp only [hlen, hlen', if_true]
    exact ⟨_, rfl⟩
  · have hlen' : ¬ data.length - start < 2 := by omega
    simp only [hlen, hlen', if_false]
    generalize fromBigEndian (slice data start (start + 2)) = metaLen
    by_cases hmeta : data.length < start + 2 + metaLen
    · have hmeta' : data.length - start < 2 + metaLen := by omega
      simp only [hmeta, hmeta', if_true]
      exact ⟨_, rfl⟩
    · have hmeta' : ¬ data.length - start < 2 + metaLen := by omega
      simp only [hmeta, hmeta', if_false, ← Nat.add_assoc]
      cases msgpack.unpackb (slice data (start + 2)
          (start + 2 + metaLen)) with
      | error e => exact ⟨_, rfl⟩
      | ok metadata => rfl

theorem decode_of_payload {data : Bytes} {header : FrameHeader}
    {block? : Option Bytes} {start : Nat} {metadata : Value} {body : Bytes}
    (hheader : FrameHeader.fromBytes data = Except.ok header)
    (hgov : decodeGovernance header data = Except.ok (block?, start))
    (hpayload : decodePayload msgpack (data.drop start) =
      Except.ok (metadata, body)) :
    decode msgpack data = Except.ok
      { header := header
        metadata := metadata
        body := body
        governanceBlock := block? } := by
  have hstages := @decode_of_stages msgpack _ _ _ _ hheader hgov
  rw [hpayload] at hstages
  exact hstages

theorem decode_eq_ok {data : Bytes} {frame : Frame}
    (h : decode msgpack data = Except.ok frame) :
    exists start, FrameHeader.fromBytes data = Except.ok frame.header ∧
      decodeGovernance frame.header data =
          Except.ok (frame.governanceBlock, start) ∧
        decodePayload msgpack (data.drop start) =
          Except.ok (frame.metadata, frame.body) := by
  cases hheader : FrameHeader.fromBytes data with
  | error e =>
      unfold decode at h
      simp only [hheader, bind, Except.bind] at h
      split at h <;> cases h
  | ok header =>
      cases hgov : decodeGovernance header data with
      | error e =>
          unfold decode at h
          simp only [hheader, hgov, bind, Except.bind] at h
          split at h <;> cases h
      | ok area =>
          rcases area with ⟨block?, start⟩
          have hstages := @decode_of_stages msgpack _ _ _ _ hheader hgov
          cases hpayload : decodePayload msgpack (data.drop start) with
          | error e =>
              rw [hpayload] at hstages
              rcases hstages with ⟨message, hmessage⟩
              rw [h] at hmessage
              cases hmessage
          | ok result =>
              rcases result with ⟨metadata, body⟩
              simp only [hpayload] at hstages
              rw [h] at hstages
              injection hstages with hframe
              subst hframe
              exact ⟨start, rfl, hgov, hpayload⟩

theorem decode_raises (data : Bytes) :
    RaisesProtocolOnly (decode msgpack data) := by
  intro e h
  by_cases hshort : data.length < headerSize
  · unfold decode at h
    rw [if_pos hshort] at h
    injection h with h
    exact ⟨_, h.symm⟩
  · cases hheader : FrameHeader.fromBytes data with
    | error e' =>
        unfold decode at h
        simp only [hshort, if_false, hheader, bind, Except.bind] at h
        injection h with h
        rw [← h]
        exact FrameHeader.fromBytes_raises data e' hheader
    | ok header =>
        cases hgov : decodeGovernance header data with
        | error e' =>
            unfold decode at h
            simp only [hshort, if_false, hheader, hgov, bind,
              Except.bind] at h
            injection h with h
            rw [← h]
            exact decodeGovernance_raises header data e' hgov
        | ok area =>
            rcases area with ⟨block?, start⟩
            have hstages := @decode_of_stages msgpack _ _ _ _ hheader hgov
            rw [h] at hstages
            split at hstages
            · cases hstages
            · rcases hstages with ⟨message, hmessage⟩
              injection hmessage with hmessage
              exact ⟨message, hmessage⟩

/-- The parts of the frame, one behind the other, are the data. -/
structure Tiles (msgpack : Msgpack) (data : Bytes) (frame : Frame)
    (headerBytes metaBytes : Bytes) : Prop where
  header_length : headerBytes.length = headerSize
  header : frame.header.toBytes = Except.ok headerBytes
  governance : frame.header.hasGovernance = frame.governanceBlock.isSome
  governance_length : forall block, frame.governanceBlock = some block ->
    block.length < 256 ^ 4
  metadata_length : metaBytes.length < 256 ^ 2
  metadata : msgpack.unpackb metaBytes = Except.ok frame.metadata
  parts : data = headerBytes ++ (governanceBytes frame.governanceBlock ++
    (bigEndian 2 metaBytes.length ++ metaBytes ++ frame.body))

theorem tiles_of_decode {data : Bytes} {frame : Frame}
    (h : decode msgpack data = Except.ok frame) :
    exists metaBytes,
      Tiles msgpack data frame (data.take headerSize) metaBytes := by
  rcases decode_eq_ok h with ⟨start, hheader, hgov, hpayload⟩
  rcases FrameHeader.fromBytes_eq_ok hheader with ⟨hlong, hfits, hlayout⟩
  rcases decodeGovernance_eq_ok hgov with ⟨hbit, hblock, harea⟩
  rcases decodePayload_eq_ok hpayload with
    ⟨metaBytes, hmeta, hparts, hunpack⟩
  refine ⟨metaBytes, ?_⟩
  exact
    { header_length := by rw [List.length_take, Nat.min_eq_left hlong]
      header := by rw [FrameHeader.toBytes_eq hfits, hlayout]
      governance := hbit
      governance_length := hblock
      metadata_length := hmeta
      metadata := hunpack
      parts := by
        rw [← hparts, ← harea]
        exact (List.take_append_drop headerSize data).symm }

/--
For every byte string the decoder raises a protocol error or returns a frame
whose parts tile the bytes.  For a frame without the governance bit the payload
decoder, on the bytes behind the header, returns the same metadata and body, or
raises when the decoder does.
-/
theorem decode_tiles (msgpack : Msgpack) (data : Bytes) :
    (match decode msgpack data with
      | Except.error e => exists message, e = PyError.protocolError message
      | Except.ok frame => exists headerBytes metaBytes,
          Tiles msgpack data frame headerBytes metaBytes) ∧
    forall header, FrameHeader.fromBytes data = Except.ok header ->
      header.hasGovernance = false ->
        match decodePayload msgpack (data.drop headerSize) with
        | Except.ok (metadata, body) =>
            decode msgpack data = Except.ok
              { header := header
                metadata := metadata
                body := body
                governanceBlock := none }
        | Except.error _ => exists message,
            decode msgpack data =
              Except.error (PyError.protocolError message) := by
  constructor
  · cases hdecode : decode msgpack data with
    | error e => exact decode_raises data e hdecode
    | ok frame =>
        rcases tiles_of_decode hdecode with ⟨metaBytes, htiles⟩
        exact ⟨_, metaBytes, htiles⟩
  · intro header hheader hplain
    exact decode_of_stages hheader (decodeGovernance_of_plain data hplain)

end FrameDecoder

end Wire
end Hmmp
