import Hmmp.Foundation.Dict
import Hmmp.Wire.Binary
import Hmmp.Wire.IpAddress

/-!
# Service models

Service instances and snapshots.  Weights are bit patterns on the wire and
exact numbers in the load balancer, so their type is a parameter.
-/

namespace Hmmp
namespace Models

open Foundation
open Wire

structure ServiceInstance (ω : Type) where
  serviceName : Text
  ip : Text
  port : Nat
  weight : ω
  ephemeral : Bool := true
  healthy : Bool := true
  metadata : Dict Text Text := Dict.empty
  metadataHash : Nat := 0
  metricsPack : Nat := 0
  deriving DecidableEq

structure ServiceSnapshot (ω : Type) where
  serviceName : Text
  topologyVersion : Nat
  instances : List (ServiceInstance ω) := []

structure FilteredServiceSnapshot (ω : Type) where
  serviceName : Text
  topologyVersion : Nat
  totalCount : Nat
  instances : List (ServiceInstance ω) := []

namespace ServiceInstance

def writeMetadataEntry (entry : Text × Text) : Writing Unit := do
  BinaryWriter.writeStringU8 entry.1
  BinaryWriter.writeStringU16 entry.2

def writeRegister (i : ServiceInstance UInt32) : Writing Unit := do
  BinaryWriter.writeStringU16 i.serviceName
  let (ipBytes, ipType) ← ipToBytes i.ip
  BinaryWriter.writeU8 ipType.code
  BinaryWriter.writeU16 i.port
  BinaryWriter.writeU8 (if i.ephemeral then 1 else 0)
  BinaryWriter.writeBytes ipBytes
  BinaryWriter.writeF32 i.weight

def toRegisterBytes (i : ServiceInstance UInt32) : Except PyError Bytes :=
  BinaryWriter.getvalue i.writeRegister

def writeRegisterWithMeta (i : ServiceInstance UInt32) : Writing Unit := do
  BinaryWriter.writeStringU16 i.serviceName
  let (ipBytes, ipType) ← ipToBytes i.ip
  BinaryWriter.writeU8 ipType.code
  BinaryWriter.writeU16 i.port
  BinaryWriter.writeU8 (if i.ephemeral then 1 else 0)
  BinaryWriter.writeBytes ipBytes
  BinaryWriter.writeF32 i.weight
  BinaryWriter.writeU16 i.metadata.entries.length
  i.metadata.entries.forM writeMetadataEntry

def toRegisterWithMetaBytes (i : ServiceInstance UInt32) :
    Except PyError Bytes :=
  BinaryWriter.getvalue i.writeRegisterWithMeta

def writeDeregister (i : ServiceInstance UInt32) : Writing Unit := do
  BinaryWriter.writeStringU16 i.serviceName
  let (ipBytes, ipType) ← ipToBytes i.ip
  let addrFamily :=
    if ipType = IpType.ipv4 then AddressFamily.ipv4 else AddressFamily.ipv6
  BinaryWriter.writeU16 addrFamily.code
  BinaryWriter.writeBytes ipBytes
  BinaryWriter.writeU16 i.port

def toDeregisterBytes (i : ServiceInstance UInt32) : Except PyError Bytes :=
  BinaryWriter.getvalue i.writeDeregister

def fromSnapshotBytes (lib : IpLib) (serviceName : Text) :
    Reading (ServiceInstance UInt32) := do
  let ipType ← IpType.ofCode (← BinaryReader.readU8)
  let port ← BinaryReader.readU16
  let isHealthy ← BinaryReader.readU8
  let ipBytes ← BinaryReader.readIp ipType
  let weight ← BinaryReader.readF32
  let metricsPack ← BinaryReader.readU32
  let metadataHash ← BinaryReader.readU64
  pure
    { serviceName := serviceName
      ip := bytesToIp lib ipBytes ipType
      port := port
      weight := weight
      healthy := isHealthy == 1
      metricsPack := metricsPack
      metadataHash := metadataHash }

end ServiceInstance

namespace ServiceSnapshot

def read (lib : IpLib) : Reading (ServiceSnapshot UInt32) := do
  let serviceName ← BinaryReader.readStringU16
  let topologyVersion ← BinaryReader.readU64
  let instanceCount ← BinaryReader.readU16
  let instances ← BinaryReader.readMany
    (ServiceInstance.fromSnapshotBytes lib serviceName) instanceCount
  pure
    { serviceName := serviceName
      topologyVersion := topologyVersion
      instances := instances }

def fromBytes (lib : IpLib) (data : Bytes) :
    Except PyError (ServiceSnapshot UInt32) := do
  let (snapshot, _) ← (read lib).run (BinaryReader.new data)
  pure snapshot

end ServiceSnapshot

namespace FilteredServiceSnapshot

/-- Read pairs of a short and a long string into a dictionary. -/
def readMetadata : Nat -> Dict Text Text -> Reading (Dict Text Text)
  | 0, metadata => pure metadata
  | count + 1, metadata => do
      let key ← BinaryReader.readStringU8
      let value ← BinaryReader.readStringU16
      readMetadata count (metadata.set key value)

/-- Read an item, and the metadata behind it if it was asked for. -/
def readItem (lib : IpLib) (includeMetadata : Bool) (serviceName : Text) :
    Reading (ServiceInstance UInt32) := do
  let item ← ServiceInstance.fromSnapshotBytes lib serviceName
  if includeMetadata then do
    let metaCount ← BinaryReader.readU16
    let metadata ← readMetadata metaCount item.metadata
    pure { item with metadata := metadata }
  else pure item

def read (lib : IpLib) (includeMetadata : Bool) :
    Reading (FilteredServiceSnapshot UInt32) := do
  let serviceName ← BinaryReader.readStringU16
  let topologyVersion ← BinaryReader.readU64
  let totalCount ← BinaryReader.readU16
  let instanceCount ← BinaryReader.readU16
  let instances ← BinaryReader.readMany
    (readItem lib includeMetadata serviceName) instanceCount
  pure
    { serviceName := serviceName
      topologyVersion := topologyVersion
      totalCount := totalCount
      instances := instances }

def fromBytes (lib : IpLib) (data : Bytes) (includeMetadata : Bool) :
    Except PyError (FilteredServiceSnapshot UInt32) := do
  let (snapshot, _) ← (read lib includeMetadata).run (BinaryReader.new data)
  pure snapshot

end FilteredServiceSnapshot

end Models
end Hmmp
