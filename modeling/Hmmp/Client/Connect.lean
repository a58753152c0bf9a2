import Hmmp.Client.Handshake
import Hmmp.Foundation.Transition

/-!
# Connecting

The coroutine {lit}`connect`, with the handshake and the reconnection inside
it, next to a server that answers and to the read loop of the connection.  The
read loop is a task of its own, and the coroutine starts it after the
handshake.
-/

namespace Hmmp
namespace Client

open Foundation
open Wire
open Connection
open Security

/-!
# The server
-/

/-- The response of a nonce challenge that has succeeded. -/
def NonceGranted (response : Frame) : Prop :=
  exists result,
    NonceChallengeResult.fromBytes response.body = Except.ok result ∧
      result.status = 0

/-- The response of a handshake that has succeeded. -/
def HandshakeGranted (response : Frame) : Prop :=
  exists result, parseHandshakeResponse response = Except.ok result ∧
    result.status = statusOk

/-- A server that answers every request of a handshake with one success
response on the stream of the request. -/
structure Server where
  respond : FrameRequest -> Frame
  stream : forall request, (respond request).streamId = request.streamId
  nonce : forall request, request.opcode = OpCode.nonceChallengeRequest ->
    NonceGranted (respond request)
  handshake : forall request, request.opcode = OpCode.handshakeRequest ->
    HandshakeGranted (respond request)

/-- What a run of {lit}`connect` depends on. -/
structure Environment where
  crypto : CryptoLib
  msgpack : Msgpack
  config : ClientConfig
  server : Server

/-!
# The coroutine
-/

/-- The requests of a handshake. -/
inductive Stage where
  | nonce
  | handshake
  deriving Repr, DecidableEq

/-- Where the coroutine is. -/
inductive ConnectPc where
  | idle
  /-- The connection is being opened. -/
  | opening
  /-- The request of a stage is being sent. -/
  | sending (stage : Stage) (streamId : Nat) (future : FutureId)
  /-- The response of a stage is awaited. -/
  | waiting (stage : Stage) (streamId : Nat) (future : FutureId)
  /-- The timer has cancelled the future, and the coroutine has not gone on. -/
  | expired (stage : Stage) (streamId : Nat)
  /-- The coroutine sleeps before it reconnects. -/
  | sleeping
  | returned
  | raised (e : PyError)
  | cancelled

/--
The client while it connects.  A send that fails closes the connection, and
closing reconnects before the failure is raised: {lit}`reconnecting` holds the
reasons of these failures, innermost first.
-/
structure Connecting where
  router : FrameRouter := {}
  session : Session := {}
  running : Bool := false
  connState : ConnectionState := ConnectionState.disconnected
  streamIdCounter : Nat := 0
  /-- The read loop of the connection runs. -/
  readTask : Bool := false
  /-- Requests the server has not answered yet. -/
  unanswered : List FrameRequest := []
  /-- Frames the server has sent that the client has not read. -/
  inbox : List Frame := []
  reconnecting : List String := []
  pc : ConnectPc := ConnectPc.idle

inductive ConnectEvent where
  /-- The coroutine starts. -/
  | call
  /-- The connection is open. -/
  | opened (now : Nat)
  | openFailed (reason : String)
  /-- The request has been written. -/
  | sent
  | sendFailed (reason : String)
  /-- The server answers one of the requests. -/
  | serve (k : Nat)
  /-- The read loop reads a frame and routes it. -/
  | read
  /-- The coroutine goes on with the outcome of its future. -/
  | resume (now : Nat)
  /-- The timer of the awaited response runs out. -/
  | timeout
  /-- The coroutine goes on after its timer has run out. -/
  | giveUp
  /-- The coroutine wakes up to reconnect. -/
  | wake

namespace Connecting

/-- A new connection, on which nothing has been sent or read. -/
def establish (s : Connecting) : Connecting :=
  { s with
    connState := ConnectionState.disconnected
    streamIdCounter := 0
    readTask := false
    unanswered := []
    inbox := []
    pc := ConnectPc.opening }

/-- An attempt to connect fails: the exception is raised, or logged by the
reconnection around the attempt, which sleeps and tries again. -/
def fail (s : Connecting) (e : PyError) : Connecting :=
  match s.reconnecting with
  | [] => { s with pc := ConnectPc.raised e }
  | _ :: _ => { s with pc := ConnectPc.sleeping }

def sendError (reason : String) : PyError :=
  PyError.connectionClosedError ("Send failed: " ++ reason)

/-- The handshake has succeeded: the read loop starts.  The coroutine returns,
or ends the reconnection it is in, after which the failed send is raised. -/
def succeed (s : Connecting) : Connecting :=
  let s :=
    { s with
      connState := ConnectionState.authenticated
      readTask := true }
  match s.reconnecting with
  | [] => { s with pc := ConnectPc.returned }
  | reason :: rest =>
      { s with reconnecting := rest }.fail (sendError reason)

def stageRequest (env : Environment) (session : Session) (now streamId : Nat) :
    Stage -> Except PyError FrameRequest
  | Stage.nonce => nonceChallengeRequest env.config now streamId
  | Stage.handshake =>
      handshakeRequest env.crypto env.config session now streamId

/-- Register the request of a stage and start to send it. -/
def sendStage (env : Environment) (stage : Stage) (now : Nat)
    (s : Connecting) : Connecting :=
  let streamId := nextStreamId s.streamIdCounter
  match stageRequest env s.session now streamId stage with
  | Except.error e => s.fail e
  | Except.ok request =>
      match FrameEncoder.encode {} env.msgpack request with
      | Except.error e => { s with streamIdCounter := streamId }.fail e
      | Except.ok _ =>
          let (future, router) := s.router.registerRequest streamId
          { s with
            router := router
            streamIdCounter := streamId
            unanswered := s.unanswered ++ [request]
            pc := ConnectPc.sending stage streamId future }

/-- The connection is open: register the handlers and start the handshake. -/
def startHandshake (env : Environment) (now : Nat) (s : Connecting) :
    Connecting :=
  let stage :=
    if env.config.useNonceChallenge then Stage.nonce else Stage.handshake
  { s with
    router := registerNotifyHandlers s.router
    connState := ConnectionState.authenticating }.sendStage env stage now

/-- Close the connection after a failed send, and reconnect if the client is
set to. -/
def closeAfterSend (env : Environment) (reason : String) (s : Connecting) :
    Connecting :=
  let s := { s with connState := ConnectionState.disconnected }
  if s.running && env.config.autoReconnect then
    { s with
      reconnecting := reason :: s.reconnecting
      pc := ConnectPc.sleeping }
  else s.fail (sendError reason)

def receive (env : Environment) (now : Nat) (response : Frame)
    (s : Connecting) : Stage -> Connecting
  | Stage.nonce =>
      match handleNonceResponse s.session response with
      | Except.error e => s.fail e
      | Except.ok session =>
          { s with session := session }.sendStage env Stage.handshake now
  | Stage.handshake =>
      match handleHandshakeResponse env.crypto env.config s.session response
          now with
      | Except.error e => s.fail e
      | Except.ok session => { s with session := session }.succeed

def stageTimeout : Stage -> PyError
  | Stage.nonce => PyError.nonceError "Nonce challenge timeout" none
  | Stage.handshake => PyError.handshakeTimeoutError "Handshake timeout"

def readNext (s : Connecting) : Option Connecting :=
  match s.inbox with
  | [] => none
  | frame :: rest =>
      match s.router.routeFrame frame with
      | Except.ok (_, router) =>
          some { s with router := router, inbox := rest }
      | Except.error _ => none

def step (env : Environment) (s : Connecting) :
    ConnectEvent -> Option Connecting
  | ConnectEvent.call =>
      match s.pc with
      | ConnectPc.idle =>
          if s.running then some { s with pc := ConnectPc.returned }
          else some { s with running := true }.establish
      | _ => none
  | ConnectEvent.opened now =>
      match s.pc with
      | ConnectPc.opening => some (s.startHandshake env now)
      | _ => none
  | ConnectEvent.openFailed reason =>
      match s.pc with
      | ConnectPc.opening => some (s.fail (PyError.connectionError reason))
      | _ => none
  | ConnectEvent.sent =>
      match s.pc with
      | ConnectPc.sending stage streamId future =>
          some { s with pc := ConnectPc.waiting stage streamId future }
      | _ => none
  | ConnectEvent.sendFailed reason =>
      match s.pc with
      | ConnectPc.sending _ _ _ => some (s.closeAfterSend env reason)
      | _ => none
  | ConnectEvent.serve k => do
      let request ← s.unanswered[k]?
      some
        { s with
          unanswered := s.unanswered.eraseIdx k
          inbox := s.inbox ++ [env.server.respond request] }
  | ConnectEvent.read =>
      if s.readTask && s.connState.isConnected then s.readNext else none
  | ConnectEvent.resume now =>
      match s.pc with
      | ConnectPc.waiting stage _ future =>
          match s.router.future future with
          | some (FutureState.result response) =>
              some (s.receive env now response stage)
          | some (FutureState.exception e) => some (s.fail e)
          | some FutureState.cancelled =>
              some { s with pc := ConnectPc.cancelled }
          | _ => none
      | _ => none
  | ConnectEvent.timeout =>
      match s.pc with
      | ConnectPc.waiting stage streamId future =>
          some
            { s with
              router := s.router.settle future FutureState.cancelled
              pc := ConnectPc.expired stage streamId }
      | _ => none
  | ConnectEvent.giveUp =>
      match s.pc with
      | ConnectPc.expired stage streamId =>
          some
            ({ s with router := s.router.cancelRequest streamId }.fail
              (stageTimeout stage))
      | _ => none
  | ConnectEvent.wake =>
      match s.pc with
      | ConnectPc.sleeping => some s.establish
      | _ => none

def Step (env : Environment) :
    Connecting -> ConnectEvent -> Connecting -> Prop :=
  StepOf (step env)

/-- Some order of the steps brings the connection to AUTHENTICATED. -/
def Connects (env : Environment) : Prop :=
  exists s, Reachable (Step env) {} s ∧
    s.connState = ConnectionState.authenticated

end Connecting

end Client
end Hmmp
