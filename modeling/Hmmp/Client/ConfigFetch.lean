import Hmmp.Client.Config
import Hmmp.Foundation.Transition
import Hmmp.Models.Config
import Hmmp.Security.Crypto

/-!
# Fetching a configuration

One call of {lit}`get_config` next to the read loop that routes frames and to
other calls that send requests and assemble chunks of their own.  The call
waits on the future of its stream, and, when the response is the first of
several chunks, polls the chunk table until it holds them all.
-/

namespace Hmmp
namespace Client

open Foundation
open Wire
open Connection
open Models
open Security

/-- The body of a config response, decrypted if it is flagged as encrypted and
the client holds a key. -/
def configBody (crypto : CryptoLib) (cek : Bytes) (response : Frame) :
    Except PyError Bytes :=
  if response.header.isEncrypted && !cek.isEmpty then
    decryptConfigBody crypto response.body cek response.streamId
      OpCode.configResponse.code
  else pure response.body

def configEntry (crypto : CryptoLib) (cek : Bytes) (response : Frame) :
    Except PyError ConfigEntry := do
  let body ← configBody crypto cek response
  ConfigEntry.fromResponseBytes body

def chunkKey (e : ConfigEntry) : Text :=
  e.tenant ++ text "/" ++ e.group ++ text "/" ++ e.dataId

abbrev Chunks := Dict Nat Bytes

/-- The contents of chunks {lit}`0` to {lit}`count - 1`, one after another. -/
def joinChunks (chunks : Chunks) (count : Nat) : Except PyError Bytes := do
  let parts ← (List.range count).mapM fun i =>
    match chunks.get? i with
    | some content => pure content
    | none => throw PyError.keyError
  pure parts.flatten

/-- Where the call is.  It has expired once its timer has cancelled the future,
until it goes on and cancels the request. -/
inductive FetchPc where
  | idle
  | waiting (streamId : Nat) (future : FutureId)
  | expired (streamId : Nat)
  | assembling (first : ConfigEntry)
  | returned (entry : ConfigEntry)
  | raised (e : PyError)
  | cancelled

/-- The call is bound to end with an exception. -/
def FetchPc.Failed : FetchPc -> Prop
  | FetchPc.expired _ => True
  | FetchPc.raised _ => True
  | FetchPc.cancelled => True
  | _ => False

structure ConfigFetch where
  router : FrameRouter
  streamIdCounter : Nat
  configChunks : Dict Text Chunks := Dict.empty
  pc : FetchPc := FetchPc.idle
  /-- Response frames of the call's stream that have not arrived yet. -/
  unsent : List Frame

inductive FetchEvent where
  /-- The call sends its request. -/
  | call
  /-- The read loop routes one of the response frames. -/
  | arrive (k : Nat)
  /-- The read loop routes a frame of another stream. -/
  | other (frame : Frame)
  /-- The call goes on with the outcome of its future. -/
  | resume
  /-- The timer of the request runs out. -/
  | timeout
  /-- The call goes on after its timer has run out. -/
  | giveUp
  /-- The call checks the chunk table once. -/
  | poll
  /-- Another call starts to assemble chunks. -/
  | otherChunk (first : ConfigEntry)
  /-- Another call sends a request. -/
  | otherRequest
  /-- The timer of another call runs out. -/
  | otherTimeout (future : FutureId)
  /-- Another call goes on after its timer has run out. -/
  | otherGiveUp (streamId : Nat)

namespace ConfigFetch

/-- Start to assemble: the table holds the first chunk only. -/
def startAssembly (chunks : Dict Text Chunks) (first : ConfigEntry) :
    Dict Text Chunks :=
  chunks.set (chunkKey first) (Dict.empty.set first.chunkIndex first.content)

def receive (crypto : CryptoLib) (cek : Bytes) (s : ConfigFetch)
    (response : Frame) : ConfigFetch :=
  match configEntry crypto cek response with
  | Except.error e => { s with pc := FetchPc.raised e }
  | Except.ok entry =>
      if entry.totalChunks > 1 then
        { s with
          configChunks := startAssembly s.configChunks entry
          pc := FetchPc.assembling entry }
      else { s with pc := FetchPc.returned entry }

/-- One round of the waiting loop, and the assembly when the loop ends. -/
def pollChunks (s : ConfigFetch) (first : ConfigEntry) : ConfigFetch :=
  match s.configChunks.get? (chunkKey first) with
  | none => { s with pc := FetchPc.raised PyError.keyError }
  | some chunks =>
      if chunks.entries.length < first.totalChunks then s
      else
        let popped :=
          { s with configChunks := s.configChunks.pop (chunkKey first) }
        match joinChunks chunks first.totalChunks with
        | Except.error e => { popped with pc := FetchPc.raised e }
        | Except.ok content =>
            { popped with
              pc := FetchPc.returned
                { first with
                  content := content
                  totalChunks := 1
                  chunkIndex := 0 } }

/-- The labels a client sends with a request, if it has any. -/
def sentLabels (config : ClientConfig) : Option (Dict Text Text) :=
  if config.canaryLabels.entries.isEmpty then none
  else some config.canaryLabels

def sendRequest (config : ClientConfig) (entry : ConfigEntry)
    (s : ConfigFetch) : ConfigFetch :=
  match entry.toGetRequestBytes (sentLabels config) with
  | Except.error e => { s with pc := FetchPc.raised e }
  | Except.ok _ =>
      let streamId := nextStreamId s.streamIdCounter
      let (future, router) := s.router.registerRequest streamId
      { s with
        router := router
        streamIdCounter := streamId
        pc := FetchPc.waiting streamId future }

def routed (s : ConfigFetch) (frame : Frame) : Option ConfigFetch :=
  match s.router.routeFrame frame with
  | Except.ok (_, router) => some { s with router := router }
  | Except.error _ => none

def step (crypto : CryptoLib) (cek : Bytes) (config : ClientConfig)
    (entry : ConfigEntry) (s : ConfigFetch) : FetchEvent -> Option ConfigFetch
  | FetchEvent.call =>
      match s.pc with
      | FetchPc.idle => some (s.sendRequest config entry)
      | _ => none
  | FetchEvent.arrive k => do
      let frame ← s.unsent[k]?
      match s.pc with
      | FetchPc.idle => none
      | _ => routed { s with unsent := s.unsent.eraseIdx k } frame
  | FetchEvent.other frame =>
      match s.pc with
      | FetchPc.waiting streamId _ =>
          if frame.streamId = streamId then none else s.routed frame
      | _ => s.routed frame
  | FetchEvent.resume =>
      match s.pc with
      | FetchPc.waiting _ future =>
          match s.router.future future with
          | some (FutureState.result response) =>
              some (s.receive crypto cek response)
          | some (FutureState.exception e) =>
              some { s with pc := FetchPc.raised e }
          | some FutureState.cancelled =>
              some { s with pc := FetchPc.cancelled }
          | _ => none
      | _ => none
  | FetchEvent.timeout =>
      match s.pc with
      | FetchPc.waiting streamId future =>
          some
            { s with
              router := s.router.settle future FutureState.cancelled
              pc := FetchPc.expired streamId }
      | _ => none
  | FetchEvent.giveUp =>
      match s.pc with
      | FetchPc.expired streamId =>
          some
            { s with
              router := s.router.cancelRequest streamId
              pc := FetchPc.raised (PyError.timeoutError
                ("Request timeout for opcode " ++
                  toString OpCode.getConfigRequest.code)) }
      | _ => none
  | FetchEvent.poll =>
      match s.pc with
      | FetchPc.assembling first => some (s.pollChunks first)
      | _ => none
  | FetchEvent.otherChunk first =>
      some { s with configChunks := startAssembly s.configChunks first }
  | FetchEvent.otherRequest =>
      match s.pc with
      | FetchPc.idle => none
      | _ =>
          let streamId := nextStreamId s.streamIdCounter
          some
            { s with
              router := (s.router.registerRequest streamId).2
              streamIdCounter := streamId }
  | FetchEvent.otherTimeout future =>
      match s.pc with
      | FetchPc.waiting _ own =>
          if future = own then none
          else
            some { s with
              router := s.router.settle future FutureState.cancelled }
      | _ =>
          some { s with
            router := s.router.settle future FutureState.cancelled }
  | FetchEvent.otherGiveUp streamId =>
      some { s with router := s.router.cancelRequest streamId }

def Step (crypto : CryptoLib) (cek : Bytes) (config : ClientConfig)
    (entry : ConfigEntry) : ConfigFetch -> FetchEvent -> ConfigFetch -> Prop :=
  StepOf (step crypto cek config entry)

end ConfigFetch

/-!
# Responses in several chunks
-/

/--
A client about to fetch an entry whose content the server sends in two or more
chunks: the {lit}`i`-th frame is on the stream of the request and carries chunk
{lit}`i` of all of them.
-/
structure ChunkedFetch (crypto : CryptoLib) (cek : Bytes) where
  config : ClientConfig
  request : ConfigEntry
  router : FrameRouter
  streamIdCounter : Nat
  frames : List Frame
  contents : List Bytes
  created : router.TableCreated
  encodable : exists bytes,
    request.toGetRequestBytes (ConfigFetch.sentLabels config) =
      Except.ok bytes
  several : 2 <= frames.length
  stream : forall frame, frame ∈ frames ->
    frame.streamId = nextStreamId streamIdCounter
  chunk : forall (i : Nat) (frame : Frame), frames[i]? = some frame ->
    exists entry, configEntry crypto cek frame = Except.ok entry ∧
      entry.totalChunks = frames.length ∧ entry.chunkIndex = i ∧
        contents[i]? = some entry.content

namespace ChunkedFetch

variable {crypto : CryptoLib} {cek : Bytes}

def start (f : ChunkedFetch crypto cek) : ConfigFetch where
  router := f.router
  streamIdCounter := f.streamIdCounter
  unsent := f.frames

def Step (f : ChunkedFetch crypto cek) :
    ConfigFetch -> FetchEvent -> ConfigFetch -> Prop :=
  ConfigFetch.Step crypto cek f.config f.request

/-- The whole content is returned, in some continuation, whenever all chunks
have been routed and the call has not failed. -/
def Assembles (f : ChunkedFetch crypto cek) : Prop :=
  forall s, Reachable f.Step f.start s -> s.unsent = [] -> ¬ s.pc.Failed ->
    exists s' entry, Reachable f.Step s s' ∧
      s'.pc = FetchPc.returned entry ∧ entry.content = f.contents.flatten

end ChunkedFetch

end Client
end Hmmp
