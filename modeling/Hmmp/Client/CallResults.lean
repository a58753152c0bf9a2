import Hmmp.Client.AdminResponses
import Hmmp.Client.RequestStream
import Hmmp.Models.ConfigReading
import Hmmp.Models.FilteredReading

/-!
# Results of calls

What every call makes of the frame that answers its request, and the bodies by
which a server answers one.
-/

namespace Hmmp
namespace Client

open Foundation
open Wire
open Models
open Security

/-- What a call returns.  A configuration of several chunks is still to be
assembled. -/
inductive ClientAnswer where
  | done
  | registered (topologyVersion metadataHash : Nat)
  | snapshot (s : ServiceSnapshot UInt32)
  | filtered (s : FilteredServiceSnapshot UInt32)
  | config (entry : ConfigEntry)
  | assembling (first : ConfigEntry)
  | admin (answer : AdminAnswer)

/-- The libraries of a client and the key it has agreed on, if any. -/
structure ResultSetting where
  lib : IpLib
  crypto : CryptoLib
  cek : Bytes := []

def readRegistered : Reading ClientAnswer := do
  let topologyVersion ← BinaryReader.readU64
  let metadataHash ← BinaryReader.readU64
  pure (.registered topologyVersion metadataHash)

/-- An entry of more than one chunk goes on to the assembly. -/
def configResult (entry : ConfigEntry) : ClientAnswer :=
  if entry.totalChunks > 1 then .assembling entry else .config entry

namespace ClientCall

def handleResponse (env : ResultSetting) :
    ClientCall -> Frame -> Except PyError ClientAnswer
  | registerInstance _, _ => pure .done
  | registerInstanceWithMetadata _, response =>
      parseBody readRegistered response.body
  | deregisterInstance _, _ => pure .done
  | discoverService _, response => do
      pure (.snapshot (← ServiceSnapshot.fromBytes env.lib response.body))
  | discoverServiceByFilter _ _ includeMetadata _, response => do
      pure (.filtered (← FilteredServiceSnapshot.fromBytes env.lib
        response.body includeMetadata))
  | getConfig _ _ _, response => do
      pure (configResult (← configEntry env.crypto env.cek response))
  | listenConfig _, _ => pure .done
  | admin call, response => do
      pure (.admin (← call.handleResponse response.body))

end ClientCall

/-!
# Bodies of responses
-/

/-- The body of a response.  Some calls await their response and do not look at
its body. -/
inductive ResponseBody where
  | unread (body : Bytes)
  | registered (topologyVersion metadataHash : UInt64)
  | snapshot (b : SnapshotBody)
  | filtered (includeMetadata : Bool) (b : FilteredBody)
  | config (chunk : ConfigChunk) (block : CanaryBlock)
  | admin (b : AdminBody)

def ResponseBody.layout : ResponseBody -> Bytes
  | unread body => body
  | registered topologyVersion metadataHash =>
      bigEndian 8 topologyVersion.toNat ++ bigEndian 8 metadataHash.toNat
  | snapshot b => b.layout
  | filtered includeMetadata b => b.layout includeMetadata
  | config chunk block => chunk.layout ++ block.layout
  | admin b => b.layout

namespace ClientCall

/-- What a call returns for a body, if the body is one of a response to it.  A
filtered snapshot without metadata is one only of a single item, as the numbers
of the entries would be taken for the next. -/
def answerTo (lib : IpLib) : ClientCall -> ResponseBody -> Option ClientAnswer
  | registerInstance _, _ => some .done
  | registerInstanceWithMetadata _, .registered topologyVersion metadataHash =>
      some (.registered topologyVersion.toNat metadataHash.toNat)
  | deregisterInstance _, _ => some .done
  | discoverService _, .snapshot b => some (.snapshot (b.snapshot lib))
  | discoverServiceByFilter _ _ includeMetadata _, .filtered included b =>
      if included = includeMetadata ∧
          (includeMetadata = true ∨ b.items.length <= 1) then
        some (.filtered (b.snapshot lib includeMetadata))
      else none
  | getConfig _ _ _, .config chunk block =>
      some (configResult (block.assign chunk.entry))
  | listenConfig _, _ => some .done
  | admin call, .admin b => (call.answerTo b).map .admin
  | _, _ => none

variable {env : ResultSetting} {response : Frame}

theorem configEntry_plain {crypto : CryptoLib} {cek : Bytes}
    (hplain : response.header.isEncrypted = false) :
    configEntry crypto cek response =
      ConfigEntry.fromResponseBytes response.body := by
  unfold configEntry configBody
  rw [hplain]
  rfl

theorem handleResponse_layout (hlib : FaithfulIpLib env.lib)
    {config : ClientConfig} {call : ClientCall} {body : ResponseBody} {result : ClientAnswer}
    (hplain : response.header.isEncrypted = false)
    (hrequest : exists request, call.request config = Except.ok request)
    (hbody : response.body = body.layout)
    (h : call.answerTo env.lib body = some result) :
    call.handleResponse env response = Except.ok result := by
  cases call with
  | registerInstance i =>
      injection h with h
      subst h
      rfl
  | deregisterInstance i =>
      injection h with h
      subst h
      rfl
  | listenConfig configs =>
      injection h with h
      subst h
      rfl
  | registerInstanceWithMetadata i =>
      cases body with
      | registered topologyVersion metadataHash =>
          have hreads : Reads readRegistered
              (bigEndian 8 topologyVersion.toNat ++
                bigEndian 8 metadataHash.toNat)
              (.registered topologyVersion.toNat metadataHash.toNat) :=
            (Reads.u64 topologyVersion).bind
              ((Reads.u64 metadataHash).map fun hash =>
                ClientAnswer.registered topologyVersion.toNat hash)
          have hcomplete := hreads.complete [] 0
          rw [List.append_nil] at hcomplete
          injection h with h
          subst h
          show parseBody readRegistered response.body = _
          rw [hbody]
          exact parseBody_of_ok hcomplete
      | _ => cases h
  | discoverService serviceName =>
      cases body with
      | snapshot b =>
          have hread :=
            (ServiceSnapshot.fromBytes_snapshotLayout env.lib hlib b).1 []
          rw [List.append_nil] at hread
          injection h with h
          subst h
          show (ServiceSnapshot.fromBytes env.lib response.body >>= _) = _
          rw [hbody]
          exact congrArg
            (fun r => r >>= fun s => pure (ClientAnswer.snapshot s)) hread
      | _ => cases h
  | discoverServiceByFilter serviceName filterExpr includeMetadata tenant =>
      cases body with
      | filtered included b =>
          have h : (if included = includeMetadata ∧
              (includeMetadata = true ∨ b.items.length <= 1) then
            some (ClientAnswer.filtered (b.snapshot env.lib includeMetadata))
              else none) = some result := h
          rw [Option.ite_none_right_eq_some] at h
          rcases h with ⟨⟨rfl, hone⟩, h⟩
          have hread :=
            ((FilteredServiceSnapshot.fromBytes_filtered_iff env.lib hlib
              included b).1).mpr (hone.imp_right Or.inl)
          injection h with h
          subst h
          show (FilteredServiceSnapshot.fromBytes env.lib response.body
            included >>= _) = _
          rw [hbody]
          exact congrArg
            (fun r => r >>= fun s => pure (ClientAnswer.filtered s)) hread
      | _ => cases h
  | getConfig dataId group tenant =>
      cases body with
      | config chunk block =>
          have hread := (ConfigEntry.fromResponseBytes_layout chunk block).1
          injection h with h
          subst h
          show (configEntry env.crypto env.cek response >>= _) = _
          rw [configEntry_plain hplain, hbody]
          exact congrArg (fun r => r >>= fun entry => pure (configResult entry))
            hread
      | _ => cases h
  | admin call =>
      cases body with
      | admin b =>
          rcases Option.map_eq_some_iff.mp h with ⟨answer, hanswer, rfl⟩
          rcases hrequest with ⟨request, hrequest⟩
          have hread : call.handleResponse b.layout = Except.ok answer := by
            rw [AdminCall.handleResponse_of_request hrequest,
              ← List.append_nil b.layout]
            exact AdminCall.parseBody_layout hanswer []
          show (call.handleResponse response.body >>= _) = _
          rw [hbody]
          exact congrArg (fun r => r >>= fun a => pure (ClientAnswer.admin a))
            hread
      | _ => cases h

end ClientCall

end Client
end Hmmp
