import Hmmp.Connection.Connection
import Hmmp.Connection.Router
import Hmmp.Wire.FrameTiling

/-!
# Frames that end the read loop

A frame is routed from inside the read loop, which closes the connection when
routing raises.  Exceptions of the handlers are caught; the look at the
operation code of a notification is not guarded.
-/

namespace Hmmp
namespace Wire

open Foundation

namespace Value

/-- Everything but lists and dictionaries can be a dictionary key. -/
def Hashable : Value -> Prop
  | array _ => False
  | map _ => False
  | _ => True

/-- The value is a dictionary whose operation code, if it is true, can be a
dictionary key. -/
def CarriesOpcode : Value -> Prop
  | map entries =>
      let opcode := (lookup (text "body_type") entries).getD nil
      opcode.truthy = true -> opcode.Hashable
  | _ => False

theorem intKey_ok_iff (v : Value) :
    (exists key, v.intKey = Except.ok key) <-> v.Hashable := by
  cases v with
  | array items =>
      constructor
      · rintro ⟨key, hkey⟩
        cases hkey
      · intro h
        cases h
  | map entries =>
      constructor
      · rintro ⟨key, hkey⟩
        cases hkey
      · intro h
        cases h
  | nil => exact ⟨fun _ => trivial, fun _ => ⟨_, rfl⟩⟩
  | bool b => exact ⟨fun _ => trivial, fun _ => ⟨_, rfl⟩⟩
  | int i => exact ⟨fun _ => trivial, fun _ => ⟨_, rfl⟩⟩
  | float bits => exact ⟨fun _ => trivial, fun _ => ⟨_, rfl⟩⟩
  | str s => exact ⟨fun _ => trivial, fun _ => ⟨_, rfl⟩⟩
  | bin data => exact ⟨fun _ => trivial, fun _ => ⟨_, rfl⟩⟩
  | ext code data => exact ⟨fun _ => trivial, fun _ => ⟨_, rfl⟩⟩

theorem intKey_raises {v : Value} {e : PyError}
    (h : v.intKey = Except.error e) : e = PyError.typeError := by
  cases v <;> cases h <;> rfl

end Value

end Wire

namespace Connection

open Foundation
open Wire

namespace FrameRouter

/-- Await a handler; an exception of it is logged. -/
def awaitHandler (outcome : HandlerCall -> Except PyError Unit)
    (call : HandlerCall) : Except PyError Unit :=
  match outcome call with
  | Except.ok () => pure ()
  | Except.error _ => pure ()

/-- Route a frame to handlers that return or raise. -/
def routeToHandlers (outcome : HandlerCall -> Except PyError Unit)
    (r : FrameRouter) (frame : Frame) : Except PyError FrameRouter := do
  (r.globalHandlers.map HandlerCall.globalHandler).forM (awaitHandler outcome)
  if frame.streamId = 0 then
    let notified ← r.notifyHandlerOf frame
    notified.forM (awaitHandler outcome)
    pure r
  else
    pure (r.routeResponse frame)

/-- The frame handler that a router is for its connection. -/
def frameHandler (outcome : HandlerCall -> Except PyError Unit)
    (r : FrameRouter) : FrameHandler :=
  fun frame => (r.routeToHandlers outcome frame).map fun _ => ()

/-!
# What handlers and operation codes do
-/

variable {outcome : HandlerCall -> Except PyError Unit}

theorem awaitHandler_returns (outcome : HandlerCall -> Except PyError Unit)
    (call : HandlerCall) : awaitHandler outcome call = Except.ok () := by
  unfold awaitHandler
  cases outcome call <;> rfl

theorem awaitHandlers_return (outcome : HandlerCall -> Except PyError Unit)
    (calls : List HandlerCall) :
    calls.forM (awaitHandler outcome) = Except.ok () := by
  induction calls with
  | nil => rfl
  | cons call calls ih =>
      show (do
        awaitHandler outcome call
        calls.forM (awaitHandler outcome)) = Except.ok ()
      rw [awaitHandler_returns]
      exact ih

theorem routeToHandlers_eq (outcome : HandlerCall -> Except PyError Unit)
    (r : FrameRouter) (frame : Frame) :
    r.routeToHandlers outcome frame =
      (r.routeFrame frame).map Prod.snd := by
  unfold routeToHandlers routeFrame
  rw [awaitHandlers_return]
  by_cases hzero : frame.streamId = 0
  · rw [if_pos hzero, if_pos hzero]
    cases hnotified : r.notifyHandlerOf frame with
    | error e => rfl
    | ok notified =>
        show (do
          notified.forM (awaitHandler outcome)
          pure r) = Except.ok r
        rw [awaitHandlers_return]
        rfl
  · rw [if_neg hzero, if_neg hzero]
    rfl

def handlerCalls (r : FrameRouter) (key : Option Int) : List HandlerCall :=
  match key.bind r.notifyHandlers.get? with
  | some handler => [HandlerCall.notifyHandler handler]
  | none => []

theorem notifyHandlerOf_eq (r : FrameRouter) {frame : Frame} {opcode : Value}
    (h : frame.bodyType = Except.ok opcode) :
    r.notifyHandlerOf frame =
      if opcode.truthy then opcode.intKey.map r.handlerCalls
      else Except.ok [] := by
  unfold notifyHandlerOf
  rw [h]
  show (if opcode.truthy then _ else _) = _
  congr 1
  cases opcode.intKey with
  | error e => rfl
  | ok key =>
      show (match key.bind r.notifyHandlers.get? with
        | some handler => pure [HandlerCall.notifyHandler handler]
        | none => pure [] : Except PyError (List HandlerCall)) =
          Except.ok (r.handlerCalls key)
      unfold handlerCalls
      cases key.bind r.notifyHandlers.get? <;> rfl

theorem notifyHandlerOf_ok_iff (r : FrameRouter) {frame : Frame}
    {opcode : Value} (h : frame.bodyType = Except.ok opcode) :
    (exists calls, r.notifyHandlerOf frame = Except.ok calls) <->
      (opcode.truthy = true -> opcode.Hashable) := by
  rw [r.notifyHandlerOf_eq h, ← Value.intKey_ok_iff]
  cases opcode.truthy with
  | false => simp
  | true =>
      cases opcode.intKey with
      | error e => simp [Except.map]
      | ok key => simp [Except.map]

theorem notifyHandlerOf_raises {r : FrameRouter} {frame : Frame}
    {opcode : Value} {e : PyError} (h : frame.bodyType = Except.ok opcode)
    (hraises : r.notifyHandlerOf frame = Except.error e) :
    e = PyError.typeError := by
  rw [r.notifyHandlerOf_eq h] at hraises
  split at hraises
  · cases hkey : opcode.intKey with
    | ok key =>
        rw [hkey] at hraises
        cases hraises
    | error e' =>
        rw [hkey] at hraises
        injection hraises with hsame
        rw [← hsame]
        exact Value.intKey_raises hkey
  · cases hraises

theorem bodyType_cases (frame : Frame) :
    (exists opcode, frame.bodyType = Except.ok opcode ∧
      (frame.metadata.CarriesOpcode <->
        (opcode.truthy = true -> opcode.Hashable))) ∨
    (frame.bodyType = Except.error PyError.attributeError ∧
      ¬ frame.metadata.CarriesOpcode) := by
  unfold Frame.bodyType
  cases frame.metadata with
  | map entries => exact Or.inl ⟨_, rfl, Iff.rfl⟩
  | nil | bool _ | int _ | float _ | str _ | bin _ | array _ | ext _ _ =>
      exact Or.inr ⟨rfl, fun h => h⟩

/-!
# Routing
-/

/-- A notification whose metadata carries no operation code that can be looked
up. -/
def Unroutable (frame : Frame) : Prop :=
  frame.streamId = 0 ∧ ¬ frame.metadata.CarriesOpcode

/-- Routing returns, or it raises one of two exceptions, and it raises exactly
on a notification without an operation code that can be looked up. -/
theorem routeToHandlers_cases (outcome : HandlerCall -> Except PyError Unit)
    (r : FrameRouter) (frame : Frame) :
    (¬ Unroutable frame ∧
      exists r', r.routeToHandlers outcome frame = Except.ok r') ∨
    (Unroutable frame ∧
      (r.routeToHandlers outcome frame = Except.error PyError.attributeError ∨
        r.routeToHandlers outcome frame = Except.error PyError.typeError)) := by
  rw [routeToHandlers_eq]
  by_cases hzero : frame.streamId = 0
  · unfold routeFrame
    rw [if_pos hzero]
    rcases bodyType_cases frame with ⟨opcode, hbody, hcarries⟩ | ⟨hbody, hnot⟩
    · have hok := r.notifyHandlerOf_ok_iff hbody
      rw [← hcarries] at hok
      cases hnotified : r.notifyHandlerOf frame with
      | ok calls =>
          have hyes := hok.mp ⟨calls, hnotified⟩
          exact Or.inl ⟨fun h => h.2 hyes, _, rfl⟩
      | error e =>
          have hno : ¬ frame.metadata.CarriesOpcode := by
            intro hyes
            rcases hok.mpr hyes with ⟨calls, hcalls⟩
            rw [hnotified] at hcalls
            cases hcalls
          have he := notifyHandlerOf_raises hbody hnotified
          subst he
          exact Or.inr ⟨⟨hzero, hno⟩, Or.inr rfl⟩
    · have hnotified : r.notifyHandlerOf frame =
          Except.error PyError.attributeError := by
        unfold notifyHandlerOf
        rw [hbody]
        rfl
      rw [hnotified]
      exact Or.inr ⟨⟨hzero, hnot⟩, Or.inl rfl⟩
  · rw [r.routeFrame_of_stream hzero]
    exact Or.inl ⟨fun h => hzero h.1, _, rfl⟩

theorem routeToHandlers_ok_iff (outcome : HandlerCall -> Except PyError Unit)
    (r : FrameRouter) (frame : Frame) :
    (exists r', r.routeToHandlers outcome frame = Except.ok r') <->
      ¬ Unroutable frame := by
  rcases r.routeToHandlers_cases outcome frame with
    ⟨hroutable, hok⟩ | ⟨hunroutable, hraises⟩
  · exact ⟨fun _ => hroutable, fun _ => hok⟩
  · constructor
    · rintro ⟨r', hok⟩
      rcases hraises with hraises | hraises
      · rw [hraises] at hok
        cases hok
      · rw [hraises] at hok
        cases hok
    · intro hroutable
      exact absurd hunroutable hroutable

end FrameRouter

/-!
# The read loop
-/

namespace HMMPConnection

/-- The connection after it has handed a frame to its handler. -/
def handed (c : HMMPConnection) (frame : Frame) : HMMPConnection :=
  { c with callbacks := c.callbacks ++ [Callback.frame frame] }

/-- One round of the loop that reads a frame and hands it to a router. -/
structure Round (msgpack : Msgpack) (frame : Frame) where
  connection : HMMPConnection
  connected : connection.isConnected = true
  /-- The connection when the frame is read. -/
  received : HMMPConnection
  read : connection.readFrame msgpack = (Except.ok frame, received)
  outcome : HandlerCall -> Except PyError Unit
  router : FrameRouter
  handler : received.onFrame = some (router.frameHandler outcome)

namespace Round

variable {msgpack : Msgpack} {frame : Frame}

theorem handleFrame_eq (d : Round msgpack frame) :
    d.received.handleFrame frame =
      ((d.router.routeToHandlers d.outcome frame).map fun _ => (),
        d.received.handed frame) := by
  unfold handleFrame
  split
  · rename_i hnone
    rw [d.handler] at hnone
    cases hnone
  · rename_i handler hsome
    rw [d.handler] at hsome
    injection hsome with hsome
    subst hsome
    rfl

theorem goes_on (d : Round msgpack frame)
    (h : ¬ FrameRouter.Unroutable frame) (rounds : Nat) :
    readFrameLoop msgpack (rounds + 1) d.connection =
      readFrameLoop msgpack rounds (d.received.handed frame) := by
  rcases (d.router.routeToHandlers_ok_iff d.outcome frame).mpr h with
    ⟨router, hrouted⟩
  conv_lhs => unfold readFrameLoop
  simp only [d.connected, if_true, d.read, d.handleFrame_eq, hrouted,
    Except.map]

theorem closes (d : Round msgpack frame)
    (h : FrameRouter.Unroutable frame) (rounds : Nat) :
    readFrameLoop msgpack (rounds + 1) d.connection =
      some (d.received.handed frame).close := by
  have hraises : d.router.routeToHandlers d.outcome frame =
        Except.error PyError.attributeError ∨
      d.router.routeToHandlers d.outcome frame =
        Except.error PyError.typeError := by
    rcases d.router.routeToHandlers_cases d.outcome frame with
      ⟨hroutable, _⟩ | ⟨_, hraises⟩
    · exact absurd h hroutable
    · exact hraises
  unfold readFrameLoop
  simp only [d.connected, if_true, d.read, d.handleFrame_eq]
  rcases hraises with hraises | hraises
  · rw [hraises]
    rfl
  · rw [hraises]
    rfl

end Round

end HMMPConnection

/--
Routing a frame returns exactly if it is not a notification without an
operation code that can be looked up, and exactly then the read loop goes on to
the next frame.
-/
theorem routing_returns_iff (msgpack : Msgpack) :
    (forall (outcome : HandlerCall -> Except PyError Unit) (r : FrameRouter)
      (frame : Frame),
      (exists r', r.routeToHandlers outcome frame = Except.ok r') <->
        ¬ FrameRouter.Unroutable frame) ∧
    forall (frame : Frame) (d : HMMPConnection.Round msgpack frame),
      (forall rounds,
        HMMPConnection.readFrameLoop msgpack (rounds + 1) d.connection =
          HMMPConnection.readFrameLoop msgpack rounds
            (d.received.handed frame)) <->
        ¬ FrameRouter.Unroutable frame := by
  refine ⟨fun outcome r frame => r.routeToHandlers_ok_iff outcome frame, ?_⟩
  intro frame d
  constructor
  · intro hnext hunroutable
    have hround := hnext 0
    rw [d.closes hunroutable 0] at hround
    cases hround
  · intro hroutable rounds
    exact d.goes_on hroutable rounds

/-!
A notification whose metadata is a list.
-/

/-- MessagePack with the document of the empty list. -/
def listMsgpack : Msgpack where
  packb := Msgpack.flat.packb
  unpackb bs := if bs = [0x90] then pure (Value.array [])
    else Msgpack.flat.unpackb bs

/-- A notification without a body whose metadata is a document of one byte. -/
def pushOf (document : UInt8) : Bytes :=
  FrameHeader.layout { payloadLength := 3 } ++ [0, 1, document]

def pushFrameOf (metadata : Value) : Frame where
  header := { payloadLength := 3 }
  metadata := metadata
  body := []
  governanceBlock := none

theorem pushOf_header (rest : Bytes) :
    FrameHeader.fromBytes (FrameHeader.layout { payloadLength := 3 } ++ rest) =
      Except.ok { payloadLength := 3 } := by
  apply FrameHeader.fromBytes_layout_append
  exact
    { magic := rfl
      version := by decide
      flags := by decide
      streamId := by decide
      payloadLength := by decide
      padding := by decide }

theorem pushOf_decodes {document : UInt8} {metadata : Value}
    (h : listMsgpack.unpackb [document] = Except.ok metadata) :
    FrameDecoder.decode listMsgpack (pushOf document) =
      Except.ok (pushFrameOf metadata) := by
  have hplain : FrameHeader.hasGovernance { payloadLength := 3 } = false := by
    decide
  have hgov := FrameDecoder.decodeGovernance_of_plain (pushOf document) hplain
  have hbehind : (pushOf document).drop headerSize = [0, 1, document] := by
    unfold pushOf
    rw [← FrameHeader.layout_length { payloadLength := 3 }, List.drop_left]
  have hpayload : FrameDecoder.decodePayload listMsgpack
      ((pushOf document).drop headerSize) = Except.ok (metadata, []) := by
    have hlength : fromBigEndian (slice [0, 1, document] 0 2) = 1 := rfl
    have hdocument : slice [0, 1, document] 2 (2 + 1) = [document] := rfl
    rw [hbehind]
    unfold FrameDecoder.decodePayload
    simp only [hlength, hdocument, h]
    rfl
  exact FrameDecoder.decode_of_payload (pushOf_header _) hgov hpayload

/-- A notification whose metadata is the empty list. -/
def badPush : Bytes :=
  FrameHeader.layout { payloadLength := 3 } ++ [0, 1, 0x90]

def badPushFrame : Frame where
  header := { payloadLength := 3 }
  metadata := Value.array []
  body := []
  governanceBlock := none

theorem badPush_decodes :
    FrameDecoder.decode listMsgpack badPush = Except.ok badPushFrame :=
  pushOf_decodes (show listMsgpack.unpackb [0x90] = _ from rfl)

/-- The decoder accepts a frame that the router cannot route. -/
theorem accepted_push_raises :
    ¬ (forall (msgpack : Msgpack) (data : Bytes) (frame : Frame)
        (outcome : HandlerCall -> Except PyError Unit) (r : FrameRouter),
        FrameDecoder.decode msgpack data = Except.ok frame ->
          exists r', r.routeToHandlers outcome frame = Except.ok r') := by
  intro hall
  have hreturns := hall listMsgpack badPush badPushFrame
    (fun _ => Except.ok ()) {} badPush_decodes
  rw [FrameRouter.routeToHandlers_ok_iff] at hreturns
  exact hreturns ⟨rfl, fun h => h⟩

/-- A connection that has received a notification and nothing else. -/
def pushedConnection (document : UInt8) : HMMPConnection where
  state := ConnectionState.authenticated
  reader := some { buffer := pushOf document, arriving := [] }
  onFrame := some (({} : FrameRouter).frameHandler fun _ => Except.ok ())

theorem readFrame_pushOf {document : UInt8} {metadata : Value}
    (h : listMsgpack.unpackb [document] = Except.ok metadata) :
    (pushedConnection document).readFrame listMsgpack =
      (Except.ok (pushFrameOf metadata),
        { pushedConnection document with
          reader := some { buffer := [], arriving := [] } }) := by
  have hheader : StreamReader.readexactly
      { buffer := pushOf document, arriving := [] } headerSize =
        ReadResult.bytes (FrameHeader.layout { payloadLength := 3 })
          { buffer := [0, 1, document], arriving := [] } := rfl
  have hpayload : StreamReader.readexactly
      { buffer := [0, 1, document], arriving := [] } 3 =
        ReadResult.bytes [0, 1, document] { buffer := [], arriving := [] } :=
    rfl
  have hlayout := pushOf_header []
  rw [List.append_nil] at hlayout
  unfold HMMPConnection.readFrame
  simp only [pushedConnection, hheader, hlayout]
  rw [if_pos (by decide)]
  simp only [hpayload]
  unfold HMMPConnection.decodeRead
  rw [show FrameHeader.layout { payloadLength := 3 } ++ [0, 1, document] =
    pushOf document from rfl, pushOf_decodes h]
  rfl

def pushRound (document : UInt8) (metadata : Value)
    (h : listMsgpack.unpackb [document] = Except.ok metadata) :
    HMMPConnection.Round listMsgpack (pushFrameOf metadata) where
  connection := pushedConnection document
  connected := rfl
  received :=
    { pushedConnection document with
      reader := some { buffer := [], arriving := [] } }
  read := readFrame_pushOf h
  outcome _ := Except.ok ()
  router := {}
  handler := rfl

/-- The loop goes on after a notification whose metadata is a dictionary, and
not after one whose metadata is a list. -/
theorem routing_returns_iff_pushes :
    (forall rounds,
      HMMPConnection.readFrameLoop listMsgpack (rounds + 1)
          (pushRound 0x80 (Value.map []) rfl).connection =
        HMMPConnection.readFrameLoop listMsgpack rounds
          ((pushRound 0x80 (Value.map []) rfl).received.handed
            (pushFrameOf (Value.map [])))) ∧
      ¬ forall rounds,
        HMMPConnection.readFrameLoop listMsgpack (rounds + 1)
            (pushRound 0x90 (Value.array []) rfl).connection =
          HMMPConnection.readFrameLoop listMsgpack rounds
            ((pushRound 0x90 (Value.array []) rfl).received.handed
              (pushFrameOf (Value.array []))) := by
  constructor
  · apply ((routing_returns_iff listMsgpack).2 _ _).mpr
    intro hunroutable
    apply hunroutable.2
    intro htruthy
    cases htruthy
  · intro hgoes
    exact ((routing_returns_iff listMsgpack).2 _ _).mp hgoes ⟨rfl, id⟩

end Connection
end Hmmp
