import Hmmp.Client.Config
import Hmmp.Models.Config
import Hmmp.Models.Filter

/-!
# Request bodies

The bodies the client assembles itself: a subscription to configurations and a
filtered discovery of services.
-/

namespace Hmmp
namespace Client

open Foundation
open Wire
open Models

def writeListenConfig (configs : List ListenConfigEntry) : Writing Unit := do
  BinaryWriter.writeU16 configs.length
  configs.forM fun config => do
    BinaryWriter.writeBytes (← config.toBytes)

def listenConfigBody (configs : List ListenConfigEntry) :
    Except PyError Bytes :=
  BinaryWriter.getvalue (writeListenConfig configs)

/-- The tenant of a call: the one given, unless it is absent or empty. -/
def callTenant (config : ClientConfig) (tenant : Option Text) : Text :=
  match tenant with
  | some (c :: rest) => c :: rest
  | _ => config.tenant

def writeFilter : Option FilterExpression -> Writing Unit
  | some filterExpr => do
      let filterBytes ← filterExpr.toBytes
      BinaryWriter.writeU16 filterBytes.length
      BinaryWriter.writeBytes filterBytes
  | none => BinaryWriter.writeU16 0

def writeDiscoverByFilter (tenant serviceName : Text)
    (filterExpr : Option FilterExpression) (includeMetadata : Bool) :
    Writing Unit := do
  BinaryWriter.writeStringU16 tenant
  BinaryWriter.writeStringU16 serviceName
  writeFilter filterExpr
  BinaryWriter.writeU8 (if includeMetadata then 1 else 0)

def discoverByFilterBody (config : ClientConfig) (serviceName : Text)
    (filterExpr : Option FilterExpression) (includeMetadata : Bool)
    (tenant : Option Text) : Except PyError Bytes :=
  BinaryWriter.getvalue
    (writeDiscoverByFilter (callTenant config tenant) serviceName filterExpr
      includeMetadata)

end Client
end Hmmp
