import Hmmp.Client.Config
import Hmmp.Foundation.Transition

/-!
# Requests over the connections of a client

A client that sends requests and heartbeats over one connection after another.
Every connection counts its own stream ids from the start, while the router and
its table of pending requests live as long as the client.  A timer cancels the
future of a request, and the caller cancels the request when it resumes; other
tasks run in between.  A handshake is one step, which may fail.
-/

namespace Hmmp
namespace Client

open Foundation
open Wire
open Connection

/-- A request or heartbeat: its caller waits until it has resumed, and has
expired once its timer has run out. -/
structure Request where
  streamId : Nat
  future : FutureId
  connection : Nat
  waiting : Bool := true
  expired : Bool := false
  answered : Bool := false

/-- The state of a client between two steps of its tasks. -/
structure Multiplexer where
  router : FrameRouter := {}
  streamIdCounter : Nat := 0
  connState : ConnectionState := ConnectionState.disconnected
  connection : Nat := 0
  requests : List Request := []

/-- One request of a handshake: it is answered, it times out, or the handshake
is given up before either. -/
inductive Exchange where
  | answered (frame : Frame)
  | timedOut
  | abandoned

/-- A step of one task of the client. -/
inductive Event where
  | request
  | heartbeat
  | response (i : Nat) (frame : Frame)
  | timeout (i : Nat)
  | giveUp (i : Nat)
  | resume (i : Nat)
  | abandon (i : Nat) (cancelled : Bool)
  | lose
  | handshake (exchanges : List Exchange)

namespace Multiplexer

/-!
# Steps
-/

/-- Draw a stream id and register a request under it. -/
def send (s : Multiplexer) : Multiplexer :=
  let streamId := nextStreamId s.streamIdCounter
  let (future, router) := s.router.registerRequest streamId
  { s with
    router := router
    streamIdCounter := streamId
    requests := s.requests ++
      [{ streamId := streamId
         future := future
         connection := s.connection }] }

/-- The read loop of the connection may still deliver a response to the
request. -/
def inFlight (s : Multiplexer) (r : Request) : Bool :=
  s.connState == ConnectionState.authenticated &&
    r.connection == s.connection && !r.answered

/-- The caller of the request waits on a future that is not done. -/
def Awaited (s : Multiplexer) (r : Request) : Prop :=
  r.waiting = true ∧ s.router.future r.future = some FutureState.pending

def done (s : Multiplexer) (r : Request) : Bool :=
  match s.router.future r.future with
  | some FutureState.pending => false
  | _ => true

def update (s : Multiplexer) (i : Nat) (r : Request) (router : FrameRouter) :
    Multiplexer :=
  { s with router := router, requests := s.requests.set i r }

/-- One request of a handshake under the next stream id. -/
def exchange (router : FrameRouter) (streamId : Nat) :
    Exchange -> Option FrameRouter
  | Exchange.answered frame =>
      if frame.streamId = streamId then
        match (router.registerRequest streamId).2.routeFrame frame with
        | Except.ok (_, router') => some router'
        | Except.error _ => none
      else none
  | Exchange.timedOut =>
      let (future, router) := router.registerRequest streamId
      some ((router.settle future FutureState.cancelled).cancelRequest
        streamId)
  | Exchange.abandoned => some (router.registerRequest streamId).2

/-- The requests of a handshake, up to the first that is not answered: the
router and the counter after them, and whether all were answered. -/
def exchanges (router : FrameRouter) (counter : Nat) :
    List Exchange -> Option (FrameRouter × Nat × Bool)
  | [] => some (router, counter, true)
  | e :: rest => do
      let streamId := nextStreamId counter
      let router' ← exchange router streamId e
      match e with
      | Exchange.answered _ => exchanges router' streamId rest
      | _ => if rest.isEmpty then some (router', streamId, false) else none

/-- The number of requests of a complete handshake. -/
def handshakeRequests (config : ClientConfig) : Nat :=
  if config.useNonceChallenge then 2 else 1

def step (config : ClientConfig) (s : Multiplexer) :
    Event -> Option Multiplexer
  | Event.request =>
      if s.connState = ConnectionState.authenticated then some s.send
      else none
  | Event.heartbeat =>
      if s.connState.isConnected then some s.send else none
  | Event.response i frame => do
      let r ← s.requests[i]?
      if s.inFlight r ∧ frame.streamId = r.streamId then
        match s.router.routeFrame frame with
        | Except.ok (_, router) =>
            some (s.update i { r with answered := true } router)
        | Except.error _ => none
      else none
  -- the timer may also run out between an answer and the caller's resumption
  | Event.timeout i => do
      let r ← s.requests[i]?
      if r.waiting ∧ r.expired = false then
        some (s.update i { r with expired := true }
          (s.router.settle r.future FutureState.cancelled))
      else none
  | Event.giveUp i => do
      let r ← s.requests[i]?
      if r.waiting ∧ r.expired then
        some (s.update i { r with waiting := false }
          (s.router.cancelRequest r.streamId))
      else none
  | Event.resume i => do
      let r ← s.requests[i]?
      if r.waiting ∧ r.expired = false ∧ s.done r then
        some (s.update i { r with waiting := false } s.router)
      else none
  | Event.abandon i cancelled => do
      let r ← s.requests[i]?
      if r.waiting then
        some (s.update i { r with waiting := false }
          (if cancelled then s.router.settle r.future FutureState.cancelled
            else s.router))
      else none
  | Event.lose =>
      if s.connState.isConnected then
        some { s with connState := ConnectionState.disconnected }
      else none
  | Event.handshake attempt =>
      if s.connState = ConnectionState.authenticated ∨
          attempt.length > handshakeRequests config then none
      else do
        let (router, counter, answered) ←
          exchanges (registerNotifyHandlers s.router) 0 attempt
        if answered ∧ attempt.length ≠ handshakeRequests config then none
        else
          some
            { s with
              router := router
              streamIdCounter := counter
              connState :=
                if answered then ConnectionState.authenticated
                else ConnectionState.authenticating
              connection := s.connection + 1 }

def Step (config : ClientConfig) : Multiplexer -> Event -> Multiplexer -> Prop :=
  StepOf (step config)

/-!
# What a step may not do to other requests
-/

/-- The request a step belongs to. -/
def subject : Event -> Option Nat
  | Event.response i _ => some i
  | Event.timeout i => some i
  | Event.giveUp i => some i
  | Event.resume i => some i
  | Event.abandon i _ => some i
  | Event.request => none
  | Event.heartbeat => none
  | Event.lose => none
  | Event.handshake _ => none

/-- The caller of the request has not resumed, or the open connection may still
answer it. -/
def Unfinished (s : Multiplexer) (r : Request) : Prop :=
  r.waiting = true ∨ s.inFlight r = true

instance (s : Multiplexer) (r : Request) : Decidable (s.Unfinished r) :=
  inferInstanceAs (Decidable (_ ∨ _))

end Multiplexer

end Client
end Hmmp
