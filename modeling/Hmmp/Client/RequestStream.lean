import Hmmp.Client.AdminFraming
import Hmmp.Client.ConfigFetch
import Hmmp.Client.ServiceBodies
import Hmmp.Connection.ReadLoop
import Hmmp.Connection.RequestTable

/-!
# Requests as they are received

A client makes call after call on one connection, and some of them raise before
they send anything.  The other end reads the frames off the stream and reads
each request back as a call.
-/

namespace Hmmp
namespace Client

open Foundation
open Wire
open Connection
open Models

/-- A call of the client or of its administration that sends a request. -/
inductive ClientCall where
  | registerInstance (i : ServiceInstance UInt32)
  | registerInstanceWithMetadata (i : ServiceInstance UInt32)
  | deregisterInstance (i : ServiceInstance UInt32)
  | discoverService (serviceName : Text)
  | discoverServiceByFilter (serviceName : Text)
      (filterExpr : Option FilterExpression) (includeMetadata : Bool)
      (tenant : Option Text)
  | getConfig (dataId group : Text) (tenant : Option Text)
  | listenConfig (configs : List ListenConfigEntry)
  | admin (call : AdminCall)

/-- What a request says to its receiver. -/
inductive ReceivedRequest where
  | registerInstance (name : InstanceName) (ephemeral : Bool) (weight : UInt32)
  | registerInstanceWithMetadata (name : InstanceName) (ephemeral : Bool)
      (weight : UInt32) (metadata : List (Text × Text))
  | deregisterInstance (name : InstanceName)
  | discoverService (serviceName : Text)
  | discoverServiceByFilter (tenant serviceName : Text)
      (filterExpr : Option FilterExpression) (includeMetadata : Bool)
  | getConfig (tenant group dataId : Text)
      (labels : Option (List (Text × Text)))
  | listenConfig (configs : List ListenConfigEntry)
  | admin (call : AdminCall)

namespace ClientCall

def requestedEntry (config : ClientConfig) (dataId group : Text)
    (tenant : Option Text) : ConfigEntry where
  tenant := callTenant config tenant
  group := group
  dataId := dataId

def request (config : ClientConfig) :
    ClientCall -> Except PyError (OpCode × Bytes)
  | registerInstance i => do
      pure (OpCode.registerInstanceRequest, ← i.toRegisterBytes)
  | registerInstanceWithMetadata i => do
      pure (OpCode.registerInstanceWithMetaRequest,
        ← i.toRegisterWithMetaBytes)
  | deregisterInstance i => do
      pure (OpCode.deregisterInstanceRequest, ← i.toDeregisterBytes)
  | discoverService serviceName => do
      pure (OpCode.discoverServiceRequest, ← discoverServiceBody serviceName)
  | discoverServiceByFilter serviceName filterExpr includeMetadata tenant => do
      pure (OpCode.discoverServiceByFilterRequest,
        ← discoverByFilterBody config serviceName filterExpr includeMetadata
          tenant)
  | getConfig dataId group tenant => do
      let entry := requestedEntry config dataId group tenant
      pure (OpCode.getConfigRequest,
        ← entry.toGetRequestBytes (ConfigFetch.sentLabels config))
  | listenConfig configs => do
      pure (OpCode.listenConfigRequest, ← listenConfigBody configs)
  | admin call => call.request

/-- The client after the call has sent its request. -/
def perform (config : ClientConfig) (call : ClientCall) (c : AdminClient) :
    Except PyError AdminClient := do
  let (opcode, body) ← call.request config
  c.sendRequest opcode body

/-- The client after the call, which may have raised. -/
def attempt (config : ClientConfig) (c : AdminClient) (call : ClientCall) :
    AdminClient :=
  match call.perform config c with
  | Except.ok c' => c'
  | Except.error _ => c

/-- The instance in a call, if its address parses. -/
def nameOf (i : ServiceInstance UInt32) : Option InstanceName :=
  match ipToBytes i.ip with
  | Except.ok (octets, ipType) => some ⟨i.serviceName, ipType, octets, i.port⟩
  | Except.error _ => none

/-- What the call is to say to its receiver. -/
def meaning (config : ClientConfig) : ClientCall -> Option ReceivedRequest
  | registerInstance i =>
      (nameOf i).map fun name => .registerInstance name i.ephemeral i.weight
  | registerInstanceWithMetadata i =>
      (nameOf i).map fun name =>
        .registerInstanceWithMetadata name i.ephemeral i.weight
          i.metadata.entries
  | deregisterInstance i => (nameOf i).map .deregisterInstance
  | discoverService serviceName => some (.discoverService serviceName)
  | discoverServiceByFilter serviceName filterExpr includeMetadata tenant =>
      some (.discoverServiceByFilter (callTenant config tenant) serviceName
        filterExpr includeMetadata)
  | getConfig dataId group tenant =>
      some (.getConfig (callTenant config tenant) group dataId
        (givenLabels (ConfigFetch.sentLabels config)))
  | listenConfig configs => some (.listenConfig configs)
  | admin call => some (.admin call)

def Fits (config : ClientConfig) : ClientCall -> Prop
  | registerInstance i => NameFits i
  | registerInstanceWithMetadata i => RegisterFits i ∧ i.port < 65536
  | deregisterInstance i => NameFits i
  | discoverService serviceName => utf8Length serviceName < 65536
  | discoverServiceByFilter serviceName filterExpr _ tenant =>
      DiscoverFits (callTenant config tenant) serviceName filterExpr
  | getConfig dataId group tenant =>
      GetConfigFits (requestedEntry config dataId group tenant)
        (ConfigFetch.sentLabels config)
  | listenConfig configs => ListenFits configs
  | admin call => call.Fits

end ClientCall

/-- Read a request back by the layout of its operation code. -/
def readRequest (opcode : OpCode) (body : Bytes) : Option ReceivedRequest :=
  match opcode with
  | OpCode.registerInstanceRequest => do
      let (serviceName, ((ipType, port, ephemeral), octets), weight) ←
        registerInstanceLayout.whole.decode body
      some (.registerInstance ⟨serviceName, ipType, octets, port⟩ ephemeral
        weight)
  | OpCode.registerInstanceWithMetaRequest => do
      let (serviceName, ((ipType, port, ephemeral), octets), weight,
        metadata) ← registerLayout.whole.decode body
      some (.registerInstanceWithMetadata ⟨serviceName, ipType, octets, port⟩
        ephemeral weight metadata)
  | OpCode.deregisterInstanceRequest =>
      (deregisteredName body).map .deregisterInstance
  | OpCode.discoverServiceRequest =>
      ((stringLayout 2).whole.decode body).map .discoverService
  | OpCode.discoverServiceByFilterRequest => do
      let (tenant, serviceName, filterExpr, includeMetadata) ←
        (discoverLayout body.length).whole.decode body
      some (.discoverServiceByFilter tenant serviceName filterExpr
        includeMetadata)
  | OpCode.getConfigRequest => do
      let (tenant, group, dataId, labels) ← getConfigLayout.whole.decode body
      some (.getConfig tenant group dataId labels)
  | OpCode.listenConfigRequest =>
      (listenLayout.whole.decode body).map .listenConfig
  | other => (readCall other body).map .admin

/-- The request in a frame that has been received. -/
def receivedRequest (frame : Frame) : Option ReceivedRequest :=
  match frame.opcode with
  | Except.ok (some opcode) => readRequest opcode frame.body
  | _ => none

/-!
# One request
-/

theorem nameOf_eq {i : ServiceInstance UInt32} {octets : Bytes}
    {ipType : IpType} (hip : ipToBytes i.ip = Except.ok (octets, ipType)) :
    ClientCall.nameOf i = some ⟨i.serviceName, ipType, octets, i.port⟩ := by
  unfold ClientCall.nameOf
  rw [hip]

theorem request_eq_ok {result : Except PyError Bytes} {opcode opcode' : OpCode}
    {body : Bytes}
    (h : (do pure (opcode', ← result)) = Except.ok (opcode, body)) :
    opcode = opcode' ∧ result = Except.ok body := by
  rcases bind_eq_ok.mp h with ⟨bs, hresult, h⟩
  injection h with h
  injection h with hopcode hbody
  exact ⟨hopcode.symm, hbody ▸ hresult⟩

theorem readRequest_of_readCall {opcode : OpCode} {body : Bytes}
    {call : AdminCall} (h : readCall opcode body = some call) :
    readRequest opcode body = some (.admin call) := by
  unfold readRequest
  split
  case h_8 => rw [h]; rfl
  all_goals cases h

theorem readRequest_request {config : ClientConfig} {call : ClientCall}
    {opcode : OpCode} {body : Bytes} (hfits : call.Fits config)
    (h : call.request config = Except.ok (opcode, body)) :
    exists received, call.meaning config = some received ∧
      readRequest opcode body = some received := by
  cases call with
  | registerInstance i =>
      rcases request_eq_ok h with ⟨rfl, hbody⟩
      rcases address_of_bytes (Or.inl hbody) with ⟨octets, ipType, hip⟩
      have hdecode := decode_of_framed
        ((registerInstance_framed_iff hip).mpr (Or.inr hfits)) hbody
      refine ⟨_, Option.map_eq_some_iff.mpr ⟨_, nameOf_eq hip, rfl⟩, ?_⟩
      simp only [readRequest, hdecode]
      rfl
  | registerInstanceWithMetadata i =>
      rcases request_eq_ok h with ⟨rfl, hbody⟩
      rcases address_of_bytes (Or.inr (Or.inl hbody)) with
        ⟨octets, ipType, hip⟩
      have hdecode := decode_of_framed
        ((register_framed_iff hip hfits.2).mpr (Or.inr hfits.1)) hbody
      refine ⟨_, Option.map_eq_some_iff.mpr ⟨_, nameOf_eq hip, rfl⟩, ?_⟩
      simp only [readRequest, hdecode]
      rfl
  | deregisterInstance i =>
      rcases request_eq_ok h with ⟨rfl, hbody⟩
      rcases address_of_bytes (Or.inr (Or.inr hbody)) with
        ⟨octets, ipType, hip⟩
      refine ⟨_, Option.map_eq_some_iff.mpr ⟨_, nameOf_eq hip, rfl⟩, ?_⟩
      simp only [readRequest, deregisteredName_of_fits hip hfits hbody]
      rfl
  | discoverService serviceName =>
      rcases request_eq_ok h with ⟨rfl, hbody⟩
      have hdecode := decode_of_framed
        ((discoverService_framed_iff serviceName).mpr (Or.inr hfits)) hbody
      refine ⟨_, rfl, ?_⟩
      simp only [readRequest, hdecode]
      rfl
  | discoverServiceByFilter serviceName filterExpr includeMetadata tenant =>
      rcases request_eq_ok h with ⟨rfl, hbody⟩
      have hdecode := decode_of_framed
        ((discover_framed_iff config serviceName filterExpr includeMetadata
          tenant).mpr (Or.inr hfits)) hbody
      refine ⟨_, rfl, ?_⟩
      simp only [readRequest, hdecode]
      rfl
  | getConfig dataId group tenant =>
      rcases request_eq_ok h with ⟨rfl, hbody⟩
      have hdecode := decode_of_framed
        ((getConfig_framed_iff _ _).mpr (Or.inr hfits)) hbody
      refine ⟨_, rfl, ?_⟩
      simp only [readRequest, hdecode]
      rfl
  | listenConfig configs =>
      rcases request_eq_ok h with ⟨rfl, hbody⟩
      have hdecode := decode_of_framed
        ((listen_framed_iff configs).mpr (Or.inr hfits)) hbody
      refine ⟨_, rfl, ?_⟩
      simp only [readRequest, hdecode]
      rfl
  | admin call =>
      have hcall := AdminCall.isLifecycle_of_request h
      rcases AdminCall.readCall_request hcall hfits with
        ⟨opcode', body', hrequest, hread⟩
      have hsame : call.request = Except.ok (opcode, body) := h
      rw [hsame] at hrequest
      injection hrequest with hrequest
      injection hrequest with hopcode hbody
      subst hopcode hbody
      exact ⟨_, rfl, readRequest_of_readCall hread⟩

theorem ofCode_code (opcode : OpCode) :
    OpCode.ofCode opcode.code = some opcode := by
  cases opcode <;> rfl

theorem receivedRequest_sent {msgpack : Msgpack} (f : EncodedFrame msgpack)
    (hmetadata : f.request.metadata = Dict.empty) :
    receivedRequest f.sent = readRequest f.request.opcode f.request.body := by
  have htype := f.bodyType_sent (by rw [hmetadata]; rfl)
  have hopcode : f.sent.opcode = Except.ok (some f.request.opcode) := by
    unfold Frame.opcode
    rw [htype]
    show Except.ok (if (0 : Int) <= f.request.opcode.code then
      OpCode.ofCode (f.request.opcode.code : Int).toNat else none) = _
    rw [if_pos (Int.natCast_nonneg _), Int.toNat_natCast, ofCode_code]
  unfold receivedRequest
  rw [hopcode]
  rfl

/-!
# Calls in a row
-/

/-- The requests of the calls that do not raise, from a stream id on. -/
def sentRequests (config : ClientConfig) :
    Nat -> List ClientCall -> List FrameRequest
  | _, [] => []
  | counter, call :: calls =>
      match call.request config with
      | Except.ok (opcode, body) =>
          { opcode := opcode, body := body,
            streamId := nextStreamId counter } ::
              sentRequests config (nextStreamId counter) calls
      | Except.error _ => sentRequests config counter calls

def spoken (config : ClientConfig) (calls : List ClientCall) :
    List ReceivedRequest :=
  calls.filterMap fun call =>
    match call.request config with
    | Except.ok _ => call.meaning config
    | Except.error _ => none

theorem attempt_of_error {config : ClientConfig} {call : ClientCall}
    {e : PyError} (h : call.request config = Except.error e)
    (c : AdminClient) : ClientCall.attempt config c call = c := by
  unfold ClientCall.attempt ClientCall.perform
  rw [h]
  rfl

theorem attempt_of_ok {config : ClientConfig} {call : ClientCall}
    {opcode : OpCode} {body : Bytes}
    (h : call.request config = Except.ok (opcode, body)) {c : AdminClient}
    (hauth : c.authenticated = true) :
    ClientCall.attempt config c call =
      { c with
        streamIdCounter := nextStreamId c.streamIdCounter
        router :=
          (c.router.registerRequest (nextStreamId c.streamIdCounter)).2
        sent := c.sent ++
          [{ opcode := opcode, body := body,
             streamId := nextStreamId c.streamIdCounter }] } := by
  unfold ClientCall.attempt ClientCall.perform
  rw [h]
  show (match c.sendRequest opcode body with
    | Except.ok c' => c'
    | Except.error _ => c) = _
  unfold AdminClient.sendRequest
  rw [if_pos hauth]
  rfl

theorem attempts_sent {config : ClientConfig} (calls : List ClientCall)
    {c : AdminClient} (hauth : c.authenticated = true) :
    (calls.foldl (ClientCall.attempt config) c).sent =
      c.sent ++ sentRequests config c.streamIdCounter calls := by
  induction calls generalizing c with
  | nil => exact (List.append_nil c.sent).symm
  | cons call calls ih =>
      rw [List.foldl_cons]
      unfold sentRequests
      cases hrequest : call.request config with
      | error e =>
          rw [attempt_of_error hrequest]
          exact ih hauth
      | ok request =>
          rw [attempt_of_ok hrequest hauth, ih]
          · rw [List.append_assoc]
            rfl
          · exact hauth

theorem sentRequests_metadata {config : ClientConfig} {counter : Nat}
    {calls : List ClientCall} {r : FrameRequest}
    (h : r ∈ sentRequests config counter calls) :
    r.metadata = Dict.empty := by
  induction calls generalizing counter with
  | nil => cases h
  | cons call calls ih =>
      unfold sentRequests at h
      split at h
      · rcases List.mem_cons.mp h with rfl | hrest
        · rfl
        · exact ih hrest
      · exact ih h

theorem read_sentRequests {config : ClientConfig} {calls : List ClientCall}
    (hfits : forall call, call ∈ calls ->
      (exists e, call.request config = Except.error e) ∨ call.Fits config)
    (counter : Nat) :
    (sentRequests config counter calls).map
        (fun r => readRequest r.opcode r.body) =
      (spoken config calls).map some := by
  induction calls generalizing counter with
  | nil => rfl
  | cons call calls ih =>
      have hrest := ih fun other hother =>
        hfits other (List.mem_cons_of_mem _ hother)
      unfold sentRequests spoken
      rw [List.filterMap_cons]
      cases hrequest : call.request config with
      | error e => exact hrest counter
      | ok request =>
          have hcall : call.Fits config := by
            rcases hfits call List.mem_cons_self with ⟨e, herror⟩ | hcall
            · rw [hrequest] at herror
              cases herror
            · exact hcall
          rcases readRequest_request hcall hrequest with
            ⟨received, hmeaning, hread⟩
          simp only [hmeaning, List.map_cons, hread]
          exact congrArg _ (hrest _)

theorem sentRequests_streamIds {config : ClientConfig}
    (calls : List ClientCall) {counter start : Nat}
    (hcounter : nextStreamId counter = start % maxStreamId + 1) :
    (sentRequests config counter calls).map (fun r => r.streamId) =
      (List.range (sentRequests config counter calls).length).map
        fun k => (start + k) % maxStreamId + 1 := by
  induction calls generalizing counter start with
  | nil => rfl
  | cons call calls ih =>
      unfold sentRequests
      split
      · have hnext : nextStreamId (nextStreamId counter) =
            (start + 1) % maxStreamId + 1 := by
          rw [hcounter, RequestTable.nextStreamId_mod]
        rw [List.map_cons, ih hnext, List.length_cons,
          List.range_succ_eq_map, List.map_cons, List.map_map, hcounter]
        congr 1
        apply List.map_congr_left
        intro k _
        show (start + 1 + k) % maxStreamId + 1 = (start + (k + 1)) % _ + 1
        rw [Nat.add_assoc, Nat.add_comm 1 k]
      · exact ih hcounter

theorem streamIds_nodup (start : Nat) {n : Nat} (hn : n <= maxStreamId) :
    ((List.range n).map fun k =>
      (start + k) % maxStreamId + 1).Nodup := by
  apply List.Nodup.map_on _ List.nodup_range
  intro i hi j hj hsame
  rw [List.mem_range] at hi hj
  have hmod : (start + i) % maxStreamId = (start + j) % maxStreamId :=
    Nat.succ.inj hsame
  have hindex := RequestTable.index_eq_of_streamId
    (i := start + i) (j := start + j) (n := start + n) (by omega) (by omega)
    (by omega) (by omega) hmod
  exact Nat.add_left_cancel hindex

/-- The calls of a client on one connection, each of which raises or fits its
fields, and the bytes of their frames in whatever chunks and cut off anywhere:
the other end is handed the frames, each of them is read back as the next call
that did not raise, and the stream ids of a connection are distinct until they
are used up. -/
theorem requests_received (msgpack : Msgpack) (config : ClientConfig)
    (calls : List ClientCall) (c : AdminClient)
    (hauth : c.authenticated = true) (hfresh : c.sent = [])
    (hcounter : c.streamIdCounter <= maxStreamId)
    (hfits : forall call, call ∈ calls ->
      (exists e, call.request config = Except.error e) ∨ call.Fits config)
    (frames : List (EncodedFrame msgpack))
    (hframes : frames.map EncodedFrame.request <+:
      (calls.foldl (ClientCall.attempt config) c).sent)
    (last : EncodedFrame msgpack) (cut missing : Bytes)
    (hcut : last.wire = cut ++ missing) (hmissing : missing ≠ [])
    (receiver : HMMPConnection) (reader : StreamReader)
    (handle : FrameHandler) (hconnected : receiver.isConnected = true)
    (hhandle : receiver.onFrame = some handle)
    (hreturns : forall frame, handle frame = Except.ok ())
    (hreader : receiver.reader = some reader)
    (hcarries : reader.Carries
      ((frames.map EncodedFrame.wire).flatten ++ cut)) :
    (forall rounds, frames.length < rounds -> exists receiver',
      HMMPConnection.readFrameLoop msgpack rounds receiver = some receiver' ∧
        receiver'.callbacks = receiver.callbacks ++
          (frames.map fun f => Callback.frame f.sent) ++ receiver.closing) ∧
    (frames.map fun f => receivedRequest f.sent) =
      ((spoken config calls).take frames.length).map some ∧
    (frames.length <= maxStreamId ->
      (frames.map fun f => f.sent.streamId).Nodup) := by
  rw [attempts_sent calls hauth, hfresh, List.nil_append,
    List.prefix_iff_eq_take, List.length_map] at hframes
  refine ⟨?_, ?_, ?_⟩
  · intro rounds hrounds
    have hloop := HMMPConnection.readFrameLoop_eq frames last hcut hmissing
      hconnected hhandle hreturns hreader hcarries hrounds
    refine ⟨_, hloop, ?_⟩
    simp [HMMPConnection.afterDelivery, Function.comp_def]
  · have hread : frames.map (fun f => receivedRequest f.sent) =
        (frames.map EncodedFrame.request).map
          fun r => readRequest r.opcode r.body := by
      rw [List.map_map]
      apply List.map_congr_left
      intro f hf
      apply receivedRequest_sent f
      have hrequest := List.mem_map_of_mem (f := EncodedFrame.request) hf
      rw [hframes] at hrequest
      exact sentRequests_metadata (List.mem_of_mem_take hrequest)
    rw [hread, hframes, List.map_take, read_sentRequests hfits, List.map_take]
  · intro hfew
    have hids : frames.map (fun f => f.sent.streamId) =
        (frames.map EncodedFrame.request).map fun r => r.streamId := by
      rw [List.map_map]
      rfl
    have hstart : nextStreamId c.streamIdCounter =
        c.streamIdCounter % maxStreamId + 1 := by
      unfold nextStreamId maxStreamId at *
      split <;> omega
    rw [hids, hframes, List.map_take, sentRequests_streamIds calls hstart,
      ← List.map_take, List.take_range]
    exact streamIds_nodup _ (Nat.le_trans (Nat.min_le_left _ _) hfew)

/-- The request that looks up one service, with its metadata. -/
def discoverRequest : FrameRequest where
  opcode := OpCode.discoverServiceRequest
  body := [0, 1, 97]
  streamId := 2

def discoverMetadata : Bytes :=
  [0x82, 0xA9, 98, 111, 100, 121, 95, 116, 121, 112, 101, 0xCD, 0x01, 0x05,
    0xAE, 99, 108, 105, 101, 110, 116, 95, 118, 101, 114, 115, 105, 111, 110,
    0xB1, 104, 109, 109, 112, 45, 112, 121, 116, 104, 111, 110, 47, 48, 46, 55,
    46, 48]

def discoverFrame : EncodedFrame Msgpack.flat where
  encoder := {}
  request := discoverRequest
  metaBytes := discoverMetadata
  encodable :=
    { streamId := by decide
      flags := by decide
      governanceBit := by decide
      governance := by decide
      packs := by rfl
      unpacks := by rfl
      metadata := by decide
      payload := by decide }

/-- A registration without an address, which raises, and a lookup. -/
def twoCalls : List ClientCall :=
  [.registerInstance { sampleInstance with ip := text "orders" },
    .discoverService (text "a")]

def discoverStream : StreamReader where
  buffer := []
  arriving := [Arrival.data discoverFrame.wire]

theorem requests_received_twoCalls :
    [receivedRequest discoverFrame.sent] =
      [some (.discoverService (text "a"))] := by
  have hraises : exists e, (ClientCall.registerInstance
      { sampleInstance with ip := text "orders" }).request
        { clientId := [] } = Except.error e := by
    exact ⟨_, rfl⟩
  have hfits : forall call, call ∈ twoCalls ->
      (exists e, call.request { clientId := [] } = Except.error e) ∨
        call.Fits { clientId := [] } := by
    intro call hcall
    rcases List.mem_pair.mp hcall with rfl | rfl
    · exact Or.inl hraises
    · right
      show utf8Length (text "a") < 65536
      decide +kernel
  exact (requests_received Msgpack.flat { clientId := [] } twoCalls
    { authenticated := true, streamIdCounter := 1 } rfl rfl (by decide) hfits
    [discoverFrame] ⟨[], rfl⟩ discoverFrame [] discoverFrame.wire rfl
    (by decide) { heartbeatConnection with reader := some discoverStream }
    discoverStream (fun _ => Except.ok ()) rfl rfl (fun _ => rfl) rfl
    ⟨by decide, by decide⟩).2.1

end Client
end Hmmp
