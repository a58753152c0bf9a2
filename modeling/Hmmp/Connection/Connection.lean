import Hmmp.Connection.StreamReader
import Hmmp.Wire.Frame

/-!
# Connections

The state machine of a connection, its stream ids, and the reading side: one
frame, and the loop that hands frames to the handler until the connection ends.
-/

namespace Hmmp
namespace Connection

open Foundation
open Wire

inductive ConnectionState where
  | disconnected
  | pending
  | authenticating
  | authenticated
  | closing
  deriving Repr, DecidableEq

namespace ConnectionState

def isConnected : ConnectionState -> Bool
  | pending => true
  | authenticating => true
  | authenticated => true
  | disconnected => false
  | closing => false

end ConnectionState

/-- The largest stream id; 0 is reserved for server pushes. -/
def maxStreamId : Nat := 0x7FFFFFFF

/-- The counter after the next stream id has been drawn, which is that id. -/
def nextStreamId (counter : Nat) : Nat :=
  if counter + 1 > maxStreamId then 1 else counter + 1

theorem nextStreamId_ne_zero (counter : Nat) : nextStreamId counter ≠ 0 := by
  unfold nextStreamId
  split <;> omega

/-- A callback the connection has invoked. -/
inductive Callback where
  | frame (f : Frame)
  | close

abbrev FrameHandler := Frame -> Except PyError Unit

/-- A connection with the callbacks it has invoked so far. -/
structure HMMPConnection where
  state : ConnectionState := ConnectionState.disconnected
  reader : Option StreamReader := none
  hasWriter : Bool := false
  closedEvent : Bool := false
  onFrame : Option FrameHandler := none
  onClose : Bool := false
  callbacks : List Callback := []

namespace HMMPConnection

def isConnected (c : HMMPConnection) : Bool :=
  c.state.isConnected

/-- Close the stream, forget it, and invoke the close callback. -/
def close (c : HMMPConnection) : HMMPConnection :=
  if c.state = ConnectionState.disconnected then c
  else
    { c with
      state := ConnectionState.disconnected
      reader := none
      hasWriter := false
      closedEvent := true
      callbacks :=
        if c.onClose then c.callbacks ++ [Callback.close] else c.callbacks }

/-- Re-raise an exception of the read, closing the connection first if the
frame was malformed. -/
def failRead (c : HMMPConnection) :
    PyError -> Except PyError Frame × HMMPConnection
  | PyError.protocolError message =>
      (throw (PyError.protocolError message), c.close)
  | e => (throw e, c)

def endOfStream (c : HMMPConnection) :
    Except PyError Frame × HMMPConnection :=
  (throw (PyError.connectionClosedError "Connection closed during read"),
    c.close)

def readTimeout (c : HMMPConnection) (reader : StreamReader) :
    Except PyError Frame × HMMPConnection :=
  (throw (PyError.connectionError "Read timeout"),
    { c with reader := some reader })

/-- Decode the bytes of a frame that has been read. -/
def decodeRead (msgpack : Msgpack) (c : HMMPConnection) (data : Bytes) :
    Except PyError Frame × HMMPConnection :=
  match FrameDecoder.decode msgpack data with
  | Except.ok frame => (pure frame, c)
  | Except.error e => c.failRead e

def readFrame (msgpack : Msgpack) (c : HMMPConnection) :
    Except PyError Frame × HMMPConnection :=
  match c.reader with
  | none => (throw (PyError.connectionClosedError "Not connected"), c)
  | some reader =>
      match reader.readexactly headerSize with
      | ReadResult.incomplete => c.endOfStream
      | ReadResult.timedOut reader => c.readTimeout reader
      | ReadResult.bytes headerData reader =>
          let c := { c with reader := some reader }
          match FrameHeader.fromBytes headerData with
          | Except.error e => c.failRead e
          | Except.ok header =>
              if header.payloadLength > 0 then
                match reader.readexactly header.payloadLength with
                | ReadResult.incomplete => c.endOfStream
                | ReadResult.timedOut reader => c.readTimeout reader
                | ReadResult.bytes payloadData reader =>
                    decodeRead msgpack { c with reader := some reader }
                      (headerData ++ payloadData)
              else decodeRead msgpack c headerData

def handleFrame (c : HMMPConnection) (frame : Frame) :
    Except PyError Unit × HMMPConnection :=
  match c.onFrame with
  | none => (pure (), c)
  | some handler =>
      (handler frame,
        { c with callbacks := c.callbacks ++ [Callback.frame frame] })

/-- The read loop, for at most the given number of rounds. -/
def readFrameLoop (msgpack : Msgpack) :
    Nat -> HMMPConnection -> Option HMMPConnection
  | 0, _ => none
  | rounds + 1, c =>
      if c.isConnected then
        let (read, c) := c.readFrame msgpack
        let (handled, c) :=
          match read with
          | Except.ok frame => c.handleFrame frame
          | Except.error e => (throw e, c)
        match handled with
        | Except.ok () => readFrameLoop msgpack rounds c
        | Except.error (PyError.connectionClosedError _) => some c
        | Except.error _ => some c.close
      else some c

end HMMPConnection

end Connection
end Hmmp
