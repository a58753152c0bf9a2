import Hmmp.Connection.ReadLoop
import Hmmp.Wire.FrameTiling

/-!
# The read loop on arbitrary bytes

What the read loop makes of a stream depends on its bytes alone: they are a row
of frames and a rest that does not begin with one.  The loop hands over these
frames, however the bytes are cut into chunks, until the handler raises or a
read runs out of time.
-/

namespace Hmmp
namespace Connection

open Foundation
open Wire

variable {msgpack : Msgpack}

/-!
# Rows of frames
-/

/-- The bytes of one frame, as many as its header says. -/
structure FramePiece (msgpack : Msgpack) (piece : Bytes) (frame : Frame) :
    Prop where
  decodes : FrameDecoder.decode msgpack piece = Except.ok frame
  size : piece.length = headerSize + frame.header.payloadLength

def BeginsFrame (msgpack : Msgpack) (bs : Bytes) : Prop :=
  exists piece frame rest,
    FramePiece msgpack piece frame ∧ bs = piece ++ rest

/-- The bytes of some frames, one behind the other, and a rest. -/
inductive FrameRow (msgpack : Msgpack) : Bytes -> List Frame -> Bytes -> Prop
    where
  | rest (bs : Bytes) : FrameRow msgpack bs [] bs
  | frame {piece bs rest : Bytes} {frame : Frame} {frames : List Frame}
      (first : FramePiece msgpack piece frame)
      (others : FrameRow msgpack bs frames rest) :
      FrameRow msgpack (piece ++ bs) (frame :: frames) rest

theorem fromBytes_append {data : Bytes} {header : FrameHeader}
    (h : FrameHeader.fromBytes data = Except.ok header) (rest : Bytes) :
    FrameHeader.fromBytes (data ++ rest) = Except.ok header := by
  rcases FrameHeader.fromBytes_eq_ok h with ⟨_, hfits, hlayout⟩
  have hdata : data ++ rest =
      header.layout ++ (data.drop headerSize ++ rest) := by
    rw [hlayout, ← List.append_assoc, List.take_append_drop]
  rw [hdata]
  exact FrameHeader.fromBytes_layout_append hfits _

theorem fromBytes_take {data : Bytes} {header : FrameHeader}
    (h : FrameHeader.fromBytes data = Except.ok header) :
    FrameHeader.fromBytes (data.take headerSize) = Except.ok header := by
  rcases FrameHeader.fromBytes_eq_ok h with ⟨_, hfits, hlayout⟩
  have htake := FrameHeader.fromBytes_layout_append hfits []
  rw [List.append_nil, hlayout] at htake
  exact htake

namespace FramePiece

variable {piece piece' rest rest' : Bytes} {frame frame' : Frame}

theorem header (h : FramePiece msgpack piece frame) :
    FrameHeader.fromBytes piece = Except.ok frame.header := by
  rcases FrameDecoder.decode_eq_ok h.decodes with ⟨_, hheader, _⟩
  exact hheader

theorem headerSize_le (h : FramePiece msgpack piece frame) :
    headerSize <= piece.length := by
  rw [h.size]
  exact Nat.le_add_right _ _

theorem unique (h : FramePiece msgpack piece frame)
    (h' : FramePiece msgpack piece' frame')
    (hsame : piece ++ rest = piece' ++ rest') :
    frame = frame' ∧ rest = rest' := by
  have hheader := fromBytes_append h.header rest
  rw [hsame, fromBytes_append h'.header rest'] at hheader
  injection hheader with hheader
  have hsize : piece.length = piece'.length := by
    rw [h.size, h'.size, hheader]
  rcases List.append_inj hsame hsize with ⟨rfl, hrest⟩
  have hframe := h.decodes.symm.trans h'.decodes
  injection hframe with hframe
  exact ⟨hframe, hrest⟩

end FramePiece

namespace BeginsFrame

variable {front rest : Bytes}

theorem header (h : BeginsFrame msgpack (front ++ rest))
    (hsize : front.length = headerSize) :
    exists header, FrameHeader.fromBytes front = Except.ok header := by
  rcases h with ⟨piece, frame, rest', hpiece, hsame⟩
  have hfront : front = piece.take headerSize := by
    have htake := congrArg (List.take headerSize) hsame
    rw [← hsize, List.take_left, hsize,
      List.take_append_of_le_length hpiece.headerSize_le] at htake
    exact htake
  rw [hfront]
  exact ⟨frame.header, fromBytes_take hpiece.header⟩

theorem piece {header : FrameHeader}
    (h : BeginsFrame msgpack (front ++ rest))
    (hheader : FrameHeader.fromBytes front = Except.ok header) :
    exists piece frame rest', FramePiece msgpack piece frame ∧
      front ++ rest = piece ++ rest' ∧
        piece.length = headerSize + header.payloadLength := by
  rcases h with ⟨piece, frame, rest', hpiece, hsame⟩
  have hfront := fromBytes_append hheader rest
  rw [hsame, fromBytes_append hpiece.header rest'] at hfront
  injection hfront with hfront
  exact ⟨piece, frame, rest', hpiece, hsame, hfront ▸ hpiece.size⟩

end BeginsFrame

namespace FrameRow

variable {bs rest rest' : Bytes} {frames frames' : List Frame}

/-- Of two rows at the front of the same bytes, the one behind which no frame
begins has the frames of the other. -/
theorem isPrefix (h : FrameRow msgpack bs frames rest)
    (hlast : ¬ BeginsFrame msgpack rest)
    (h' : FrameRow msgpack bs frames' rest') : frames' <+: frames := by
  induction h generalizing frames' rest' with
  | rest bs =>
      cases h' with
      | rest => exact List.prefix_refl []
      | frame first others =>
          exact absurd ⟨_, _, _, first, rfl⟩ hlast
  | @frame piece bs rest frame frames first others ih =>
      generalize hbytes : piece ++ bs = bytes at h'
      cases h' with
      | rest => exact List.nil_prefix
      | frame first' others' =>
          rcases first.unique first' hbytes with ⟨rfl, rfl⟩
          exact (List.prefix_cons_inj _).mpr (ih hlast others')

/-- Every byte string is a row of frames and a rest that begins with none. -/
theorem exists_row (msgpack : Msgpack) (bs : Bytes) :
    exists frames rest, FrameRow msgpack bs frames rest ∧
      ¬ BeginsFrame msgpack rest := by
  induction hlength : bs.length using Nat.strongRecOn
    generalizing bs with
  | ind n ih =>
      by_cases hbegins : BeginsFrame msgpack bs
      · rcases hbegins with ⟨piece, frame, tail, hpiece, rfl⟩
        have hshorter : tail.length < n := by
          have hsize := hpiece.headerSize_le
          rw [List.length_append] at hlength
          unfold headerSize at hsize
          omega
        rcases ih tail.length hshorter tail rfl with
          ⟨frames, rest, hrow, hlast⟩
        exact ⟨frame :: frames, rest, .frame hpiece hrow, hlast⟩
      · exact ⟨[], bs, .rest bs, hbegins⟩

end FrameRow

/-!
# One read
-/

namespace StreamReader

/-- A read returns the front of the stream, or it fails, which without a
timeout it does only when there are too few bytes. -/
theorem readexactly_cases (r : StreamReader) (n : Nat) :
    (exists front r', r.readexactly n = ReadResult.bytes front r' ∧
      front.length = n ∧ r.pending = front ++ r'.pending ∧
        forall a, a ∈ r'.arriving -> a ∈ r.arriving) ∨
    ((r.readexactly n = ReadResult.incomplete ∨
        exists r', r.readexactly n = ReadResult.timedOut r') ∧
      (Arrival.timeout ∉ r.arriving -> r.pending.length < n)) := by
  have henough : Arrival.timeout ∉ r.arriving -> n <= r.pending.length ->
      exists r', r.readexactly n = ReadResult.bytes (r.pending.take n) r' :=
    fun hdata hlen => readFrom_enough hdata hlen
  cases hread : r.readexactly n with
  | bytes front r' =>
      rcases readFrom_bytes hread with ⟨hlen, hpending, hmem⟩
      exact Or.inl ⟨front, r', rfl, hlen, hpending, hmem⟩
  | incomplete =>
      refine Or.inr ⟨Or.inl rfl, fun hdata => ?_⟩
      by_contra hlen
      rcases henough hdata (Nat.le_of_not_lt hlen) with ⟨r', hbytes⟩
      rw [hbytes] at hread
      cases hread
  | timedOut r' =>
      refine Or.inr ⟨Or.inr ⟨r', rfl⟩, fun hdata => ?_⟩
      by_contra hlen
      rcases henough hdata (Nat.le_of_not_lt hlen) with ⟨r'', hbytes⟩
      rw [hbytes] at hread
      cases hread

end StreamReader

namespace HMMPConnection

/-- The connection after the loop has ended with an exception. -/
def endLoop (c : HMMPConnection) : PyError -> HMMPConnection
  | PyError.connectionClosedError _ => c
  | _ => c.close

/-- The loop has ended with a failed read: the connection is closed. -/
def FailsRead (c : HMMPConnection)
    (read : Except PyError Frame × HMMPConnection) : Prop :=
  exists e, read.1 = Except.error e ∧ read.2.endLoop e = c.afterDelivery []

theorem close_reader {c : HMMPConnection} (h : c.isConnected = true)
    (reader : Option StreamReader) :
    { c with reader := reader }.close = c.afterDelivery [] := by
  rw [close_of_connected (c := { c with reader := reader }) h]
  rfl

theorem close_close (c : HMMPConnection) : c.close.close = c.close := by
  unfold close
  by_cases h : c.state = ConnectionState.disconnected
  · simp [h]
  · simp [h]

theorem failsRead_protocol {c : HMMPConnection} (h : c.isConnected = true)
    (reader : Option StreamReader) (message : String) :
    c.FailsRead (failRead { c with reader := reader }
      (PyError.protocolError message)) := by
  refine ⟨_, rfl, ?_⟩
  show { c with reader := reader }.close.close = _
  rw [close_close, close_reader h]

theorem failsRead_end {c : HMMPConnection} (h : c.isConnected = true)
    (reader : Option StreamReader) :
    c.FailsRead (endOfStream { c with reader := reader }) :=
  ⟨_, rfl, close_reader h reader⟩

theorem failsRead_timeout {c : HMMPConnection} (h : c.isConnected = true)
    (reader : Option StreamReader) (reader' : StreamReader) :
    c.FailsRead (readTimeout { c with reader := reader } reader') :=
  ⟨_, rfl, close_reader h (some reader')⟩

theorem failsRead_short {c : HMMPConnection} (h : c.isConnected = true)
    {reader : StreamReader} {n : Nat} (before : Option StreamReader)
    (hread : reader.readexactly n = ReadResult.incomplete ∨
      exists reader', reader.readexactly n = ReadResult.timedOut reader')
    (go : Bytes -> StreamReader -> Except PyError Frame × HMMPConnection) :
    c.FailsRead
      (match reader.readexactly n with
      | ReadResult.incomplete => endOfStream { c with reader := before }
      | ReadResult.timedOut reader' =>
          readTimeout { c with reader := before } reader'
      | ReadResult.bytes data reader' => go data reader') := by
  rcases hread with hread | ⟨reader', hread⟩
  · rw [hread]
    exact failsRead_end h before
  · rw [hread]
    exact failsRead_timeout h before reader'

variable {c : HMMPConnection} {reader : StreamReader}

theorem decodeRead_cases (hconnected : c.isConnected = true) {data : Bytes}
    {header : FrameHeader}
    (hheader : FrameHeader.fromBytes data = Except.ok header)
    (hsize : data.length = headerSize + header.payloadLength)
    (reader : Option StreamReader) (rest : Bytes) :
    (exists frame, FramePiece msgpack data frame ∧
      decodeRead msgpack { c with reader := reader } data =
        (Except.ok frame, { c with reader := reader })) ∨
    (c.FailsRead (decodeRead msgpack { c with reader := reader } data) ∧
      ¬ BeginsFrame msgpack (data ++ rest)) := by
  unfold decodeRead
  cases hdecode : FrameDecoder.decode msgpack data with
  | ok frame =>
      rcases FrameDecoder.decode_eq_ok hdecode with ⟨_, hsame, _⟩
      rw [hheader] at hsame
      injection hsame with hsame
      exact Or.inl ⟨frame, ⟨hdecode, hsame ▸ hsize⟩, rfl⟩
  | error e =>
      rcases FrameDecoder.decode_raises data e hdecode with ⟨message, rfl⟩
      refine Or.inr ⟨failsRead_protocol hconnected reader message, ?_⟩
      intro hbegins
      rcases hbegins.piece hheader with
        ⟨piece, frame, rest', hpiece, hsame, hpieceSize⟩
      have hdata := List.append_inj_left hsame (hsize.trans hpieceSize.symm)
      rw [hdata, hpiece.decodes] at hdecode
      cases hdecode

theorem readFrame_cases (msgpack : Msgpack)
    (hconnected : c.isConnected = true) (hreader : c.reader = some reader) :
    (exists piece frame reader', FramePiece msgpack piece frame ∧
      reader.pending = piece ++ reader'.pending ∧
      (forall a, a ∈ reader'.arriving -> a ∈ reader.arriving) ∧
      c.readFrame msgpack =
        (Except.ok frame, { c with reader := some reader' })) ∨
    (c.FailsRead (c.readFrame msgpack) ∧
      (Arrival.timeout ∉ reader.arriving ->
        ¬ BeginsFrame msgpack reader.pending)) := by
  have hself : c = { c with reader := some reader } := by rw [← hreader]
  unfold readFrame
  simp only [hreader]
  rcases reader.readexactly_cases headerSize with
    ⟨headerData, mid, hread, hlength, hpending, hmem⟩ | ⟨hread, hshort⟩
  · simp only [hread]
    rw [hpending]
    cases hheader : FrameHeader.fromBytes headerData with
    | error e =>
        rcases FrameHeader.fromBytes_raises headerData e hheader with
          ⟨message, rfl⟩
        refine Or.inr ⟨failsRead_protocol hconnected _ message, ?_⟩
        intro _ hbegins
        rcases hbegins.header hlength with ⟨header, hok⟩
        rw [hok] at hheader
        cases hheader
    | ok header =>
        by_cases hpayload : header.payloadLength > 0
        · simp only [hpayload, if_true]
          rcases mid.readexactly_cases header.payloadLength with
            ⟨payloadData, reader', hread', hlength', hpending', hmem'⟩ |
              ⟨hread', hshort'⟩
          · simp only [hread']
            rw [hpending', ← List.append_assoc]
            have hsize : (headerData ++ payloadData).length =
                headerSize + header.payloadLength := by
              rw [List.length_append, hlength, hlength']
            rcases decodeRead_cases hconnected
                (fromBytes_append hheader payloadData) hsize (some reader')
                reader'.pending with ⟨frame, hpiece, hdecode⟩ | ⟨hfails, hno⟩
            · exact Or.inl ⟨_, frame, reader', hpiece, rfl,
                fun a ha => hmem a (hmem' a ha), hdecode⟩
            · exact Or.inr ⟨hfails, fun _ => hno⟩
          · refine Or.inr ⟨?_, ?_⟩
            · exact failsRead_short hconnected (some mid) hread' _
            · intro hdata hbegins
              have hshort' := hshort' fun ha => hdata (hmem _ ha)
              rcases hbegins.piece hheader with
                ⟨piece, frame, rest', _, hsame, hpieceSize⟩
              have hlengths := congrArg List.length hsame
              rw [List.length_append, List.length_append] at hlengths
              omega
        · simp only [hpayload, if_false]
          have hsize : headerData.length =
              headerSize + header.payloadLength := by omega
          rcases decodeRead_cases hconnected hheader hsize (some mid)
              mid.pending with ⟨frame, hpiece, hdecode⟩ | ⟨hfails, hno⟩
          · exact Or.inl ⟨_, frame, mid, hpiece, rfl, hmem, hdecode⟩
          · exact Or.inr ⟨hfails, fun _ => hno⟩
  · refine Or.inr ⟨?_, ?_⟩
    · rw [hself]
      exact failsRead_short hconnected (some reader) hread _
    · intro hdata hbegins
      rcases hbegins with ⟨piece, frame, rest, hpiece, hsame⟩
      have hlengths := congrArg List.length hsame
      rw [List.length_append] at hlengths
      have hsize := hpiece.headerSize_le
      have := hshort hdata
      omega

/-!
# The whole loop
-/

/-- The frames a handler is handed: those up to the first on which it raises. -/
def handedTo (handle : FrameHandler) : List Frame -> List Frame
  | [] => []
  | frame :: frames =>
      match handle frame with
      | Except.ok () => frame :: handedTo handle frames
      | Except.error _ => [frame]

/-- The loop closes the connection, unless the handler raises the exception of
a closed one. -/
def closesAfter (handle : FrameHandler) : List Frame -> Bool
  | [] => true
  | frame :: frames =>
      match handle frame with
      | Except.ok () => closesAfter handle frames
      | Except.error (PyError.connectionClosedError _) => false
      | Except.error _ => true

/-- How the loop leaves a connection behind that had some frames to read. -/
structure LoopEnds (c : HMMPConnection) (handle : FrameHandler)
    (frames : List Frame) (c' : HMMPConnection) : Prop where
  callbacks : c'.callbacks = c.callbacks ++
    (handedTo handle frames).map Callback.frame ++
      if closesAfter handle frames then c.closing else []
  connected : c'.isConnected = !closesAfter handle frames

theorem readFrameLoop_frame {c : HMMPConnection} {handle : FrameHandler}
    {frame : Frame} {reader : StreamReader} (rounds : Nat)
    (hconnected : c.isConnected = true) (hhandle : c.onFrame = some handle)
    (hread : c.readFrame msgpack =
      (Except.ok frame, { c with reader := some reader })) :
    readFrameLoop msgpack (rounds + 1) c =
      let next : HMMPConnection :=
        { c with
          reader := some reader
          callbacks := c.callbacks ++ [Callback.frame frame] }
      match handle frame with
      | Except.ok () => readFrameLoop msgpack rounds next
      | Except.error e => some (next.endLoop e) := by
  conv_lhs => unfold readFrameLoop
  simp only [hconnected, if_true, hread, handleFrame, hhandle]
  cases handle frame with
  | ok => rfl
  | error e => cases e <;> rfl

theorem readFrameLoop_fails {c : HMMPConnection} (rounds : Nat)
    (hconnected : c.isConnected = true)
    (hfails : c.FailsRead (c.readFrame msgpack)) :
    readFrameLoop msgpack (rounds + 1) c = some (c.afterDelivery []) := by
  rcases hfails with ⟨e, herror, hend⟩
  unfold readFrameLoop
  simp only [hconnected, if_true]
  rw [← hend]
  generalize c.readFrame msgpack = read at herror ⊢
  rcases read with ⟨result, c'⟩
  subst herror
  cases e <;> rfl

theorem loopEnds_failed {c : HMMPConnection} (handle : FrameHandler)
    (hconnected : c.isConnected = true)
    (hfails : c.FailsRead (c.readFrame msgpack)) {rounds : Nat}
    (hrounds : 0 < rounds) :
    exists c', readFrameLoop msgpack rounds c = some c' ∧
      LoopEnds c handle [] c' := by
  cases rounds with
  | zero => cases hrounds
  | succ rounds =>
      exact ⟨_, readFrameLoop_fails rounds hconnected hfails,
        { callbacks := rfl, connected := rfl }⟩

theorem loopEnds_raised {c next : HMMPConnection} {handle : FrameHandler}
    {frame : Frame} {e : PyError} (frames : List Frame)
    (hnext : next.callbacks = c.callbacks ++ [Callback.frame frame])
    (hclosing : next.closing = c.closing) (hconnected : next.isConnected = true)
    (hraises : handle frame = Except.error e) :
    LoopEnds c handle (frame :: frames) (next.endLoop e) := by
  have hhanded : handedTo handle (frame :: frames) = [frame] := by
    unfold handedTo
    rw [hraises]
  have hcloses : closesAfter handle (frame :: frames) = true ->
      LoopEnds c handle (frame :: frames) next.close := by
    intro hcloses
    rw [close_of_connected hconnected]
    constructor
    · rw [hhanded, hcloses, ← hclosing]
      show next.callbacks ++ [] ++ next.closing = _
      rw [List.append_nil, hnext]
      rfl
    · rw [hcloses]
      rfl
  cases e
  case connectionClosedError message =>
    have hopen : closesAfter handle (frame :: frames) = false := by
      unfold closesAfter
      rw [hraises]
    constructor
    · rw [hhanded, hopen]
      show next.callbacks = c.callbacks ++ [Callback.frame frame] ++ []
      rw [List.append_nil, hnext]
    · rw [hopen]
      exact hconnected
  all_goals
    apply hcloses
    unfold closesAfter
    rw [hraises]

theorem loopEnds_cons {c next c' : HMMPConnection} {handle : FrameHandler}
    {frame : Frame} {frames : List Frame} (h : LoopEnds next handle frames c')
    (hnext : next.callbacks = c.callbacks ++ [Callback.frame frame])
    (hclosing : next.closing = c.closing)
    (hreturns : handle frame = Except.ok ()) :
    LoopEnds c handle (frame :: frames) c' := by
  have hhanded : handedTo handle (frame :: frames) =
      frame :: handedTo handle frames := by
    conv_lhs => unfold handedTo
    rw [hreturns]
  have hcloses : closesAfter handle (frame :: frames) =
      closesAfter handle frames := by
    conv_lhs => unfold closesAfter
    rw [hreturns]
  constructor
  · rw [h.callbacks, hhanded, hcloses, hnext, hclosing]
    simp
  · rw [h.connected, hcloses]

theorem readFrameLoop_row {c : HMMPConnection} {handle : FrameHandler}
    {reader : StreamReader} {frames : List Frame} {rest : Bytes}
    (hconnected : c.isConnected = true) (hhandle : c.onFrame = some handle)
    (hreader : c.reader = some reader)
    (hrow : FrameRow msgpack reader.pending frames rest)
    (hlast : ¬ BeginsFrame msgpack rest) :
    exists read, read <+: frames ∧
      (Arrival.timeout ∉ reader.arriving -> read = frames) ∧
      forall rounds, read.length < rounds -> exists c',
        readFrameLoop msgpack rounds c = some c' ∧
          LoopEnds c handle read c' := by
  generalize hbytes : reader.pending = bytes at hrow
  induction hrow generalizing c reader with
  | rest bs =>
      rcases readFrame_cases msgpack hconnected hreader with
        ⟨piece, frame, reader', hpiece, hpending, _, _⟩ | ⟨hfails, _⟩
      · rw [← hbytes] at hlast
        exact absurd ⟨piece, frame, _, hpiece, hpending⟩ hlast
      · exact ⟨[], List.prefix_refl [], fun _ => rfl,
          fun _ => loopEnds_failed handle hconnected hfails⟩
  | @frame piece bs rest frame frames first others ih =>
      rcases readFrame_cases msgpack hconnected hreader with
        ⟨piece', frame', reader', hpiece, hpending, hmem, hread⟩ |
          ⟨hfails, hno⟩
      · rw [hbytes] at hpending
        rcases first.unique hpiece hpending with ⟨rfl, hrest⟩
        cases hhandled : handle frame with
        | ok =>
            have hnext := ih (c := { c with
                reader := some reader'
                callbacks := c.callbacks ++ [Callback.frame frame] })
              hconnected hhandle rfl hlast hrest.symm
            rcases hnext with ⟨read, hprefix, hdata, hloop⟩
            refine ⟨frame :: read, (List.prefix_cons_inj _).mpr hprefix,
              fun ha => ?_, ?_⟩
            · rw [hdata fun hmid => ha (hmem _ hmid)]
            · intro rounds hrounds
              cases rounds with
              | zero => cases hrounds
              | succ rounds =>
                  rcases hloop rounds (Nat.lt_of_succ_lt_succ hrounds) with
                    ⟨c', hrest, hends⟩
                  have hround := readFrameLoop_frame rounds hconnected
                    hhandle hread
                  rw [hhandled] at hround
                  exact ⟨c', hround.trans hrest,
                    loopEnds_cons hends rfl rfl hhandled⟩
        | error e =>
            refine ⟨frame :: frames, List.prefix_refl _, fun _ => rfl, ?_⟩
            intro rounds hrounds
            cases rounds with
            | zero => cases hrounds
            | succ rounds =>
                have hround := readFrameLoop_frame rounds hconnected hhandle
                  hread
                rw [hhandled] at hround
                exact ⟨_, hround,
                  loopEnds_raised frames rfl rfl hconnected hhandled⟩
      · refine ⟨[], List.nil_prefix, fun hdata => ?_,
          fun _ => loopEnds_failed handle hconnected hfails⟩
        rw [hbytes] at hno
        exact absurd ⟨piece, frame, bs, first, rfl⟩ (hno hdata)

end HMMPConnection

/--
Any bytes are a row of frames and a rest that does not begin with one, and no
row at their front has other frames.  In whatever chunks they arrive, the read
loop hands its handler these frames, in order and up to the first on which it
raises, and then closes the connection, unless the handler has raised the
exception of a closed one.  A read that runs out of time only ends it earlier.
-/
theorem readFrameLoop_any (msgpack : Msgpack) (bytes : Bytes) :
    exists frames rest, FrameRow msgpack bytes frames rest ∧
      ¬ BeginsFrame msgpack rest ∧
      (forall frames' rest', FrameRow msgpack bytes frames' rest' ->
        frames' <+: frames) ∧
      forall (c : HMMPConnection) (handle : FrameHandler)
        (reader : StreamReader), c.isConnected = true ->
        c.onFrame = some handle -> c.reader = some reader ->
        reader.pending = bytes ->
        exists read, read <+: frames ∧
          (Arrival.timeout ∉ reader.arriving -> read = frames) ∧
          forall rounds, read.length < rounds -> exists c',
            HMMPConnection.readFrameLoop msgpack rounds c = some c' ∧
              HMMPConnection.LoopEnds c handle read c' := by
  rcases FrameRow.exists_row msgpack bytes with ⟨frames, rest, hrow, hlast⟩
  refine ⟨frames, rest, hrow, hlast, ?_, ?_⟩
  · intro frames' rest' hrow'
    exact hrow.isPrefix hlast hrow'
  · intro c handle reader hconnected hhandle hreader hpending
    rw [← hpending] at hrow
    exact HMMPConnection.readFrameLoop_row hconnected hhandle hreader hrow
      hlast

theorem streamId_fits : 1 < 2 ^ 32 := by decide

def strayHeartbeat : EncodedFrame Msgpack.flat :=
  heartbeatFrame 1 streamId_fits

/-- A heartbeat and sixteen bytes that are no header. -/
def strayBytes : StreamReader where
  buffer := []
  arriving :=
    [Arrival.data (strayHeartbeat.wire.take 30),
      Arrival.data (strayHeartbeat.wire.drop 30 ++
        List.replicate 16 0)]

theorem readFrameLoop_any_stray :
    exists c', HMMPConnection.readFrameLoop Msgpack.flat 2
        { heartbeatConnection with reader := some strayBytes } = some c' ∧
      c'.callbacks = [Callback.frame strayHeartbeat.sent,
        Callback.close] := by
  rcases readFrameLoop_any Msgpack.flat strayBytes.pending with
    ⟨frames, rest, hrow, _, hmost, hloop⟩
  have hpiece : FramePiece Msgpack.flat strayHeartbeat.wire
      strayHeartbeat.sent :=
    ⟨strayHeartbeat.decode_wire, by decide⟩
  have hstray : ¬ BeginsFrame Msgpack.flat (List.replicate 16 0) := by
    intro hbegins
    rw [← List.append_nil (List.replicate 16 0)] at hbegins
    rcases hbegins.header rfl with ⟨header, hheader⟩
    have hmagic : fromBigEndian (slice (List.replicate 16 0) 0 2) ≠
        magicNumber := by decide
    unfold FrameHeader.fromBytes at hheader
    simp only [List.length_replicate, headerSize, Nat.lt_irrefl, hmagic,
      ne_eq, not_false_eq_true, if_true, if_false] at hheader
    cases hheader
  have hpending : strayBytes.pending =
      strayHeartbeat.wire ++ List.replicate 16 0 := by
    simp only [StreamReader.pending, StreamReader.dataOf, strayBytes,
      List.nil_append, List.append_nil]
    rw [← List.append_assoc, List.take_append_drop]
  have hheartbeat : FrameRow Msgpack.flat strayBytes.pending
      [strayHeartbeat.sent] (List.replicate 16 0) := by
    rw [hpending]
    exact .frame hpiece (.rest _)
  have hframes : frames = [strayHeartbeat.sent] :=
    (hheartbeat.isPrefix hstray hrow).eq_of_length_le
      (hmost _ _ hheartbeat).length_le
  subst hframes
  rcases hloop { heartbeatConnection with reader := some strayBytes }
    (fun _ => Except.ok ()) strayBytes rfl rfl rfl rfl with
    ⟨read, _, hread, hends⟩
  rw [hread (by decide)] at hends
  rcases hends 2 (by decide) with ⟨c', hc', hend⟩
  exact ⟨c', hc', hend.callbacks⟩

end Connection
end Hmmp
