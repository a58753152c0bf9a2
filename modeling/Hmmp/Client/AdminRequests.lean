import Hmmp.Client.Config
import Hmmp.Wire.Frame

/-!
# Requests of the admin service

Every operation of the management plane writes a body and sends it under an
operation code.  Some name a member of the enumeration of the codes, the others
look a number up in it.
-/

namespace Hmmp
namespace Client

open Foundation
open Wire
open Connection

def opCodeOf (n : Nat) : Except PyError OpCode :=
  match OpCode.ofCode n with
  | some opcode => pure opcode
  | none =>
      throw (PyError.valueError (toString n ++ " is not a valid OpCode"))

/-- Write a field behind a byte that tells whether it is there. -/
def writeOptional {α : Type} (write : α -> Writing Unit) :
    Option α -> Writing Unit
  | some a => do
      BinaryWriter.writeU8 1
      write a
  | none => BinaryWriter.writeU8 0

def writeFlag (flag : Bool) : Writing Unit :=
  BinaryWriter.writeU8 (if flag then 1 else 0)

namespace AdminService

/-- What an operation passes to {lit}`_send_request`. -/
abbrev Request := Except PyError (OpCode × Bytes)

/-- A body that is sent under a member of the enumeration. -/
def sendMember (opcode : OpCode) (writes : Writing Unit) : Request := do
  let body ← BinaryWriter.getvalue writes
  pure (opcode, body)

/-- A body that is sent under a code that is looked up. -/
def sendNumber (n : Nat) (writes : Writing Unit) : Request := do
  let body ← BinaryWriter.getvalue writes
  let opcode ← opCodeOf n
  pure (opcode, body)

/-!
# Tenant lifecycle
-/

def writeTenantPolicy (tenant : Text)
    (policyFlags maxConnections rateLimitOps leaseDurationMs : Int) :
    Writing Unit := do
  BinaryWriter.writeStringU16 tenant
  BinaryWriter.writeU16 policyFlags
  BinaryWriter.writeU32 maxConnections
  BinaryWriter.writeU32 rateLimitOps
  BinaryWriter.writeU64 leaseDurationMs

def createTenant (tenant : Text)
    (policyFlags maxConnections rateLimitOps leaseDurationMs : Int) : Request :=
  sendMember OpCode.adminCreateTenantReq
    (writeTenantPolicy tenant policyFlags maxConnections rateLimitOps
      leaseDurationMs)

def updateTenantPolicy (tenant : Text)
    (policyFlags maxConnections rateLimitOps leaseDurationMs : Int) : Request :=
  sendMember OpCode.adminUpdateTenantPolicyReq
    (writeTenantPolicy tenant policyFlags maxConnections rateLimitOps
      leaseDurationMs)

def deleteTenant (tenant : Text) (force : Bool) : Request :=
  sendMember OpCode.adminDeleteTenantReq do
    BinaryWriter.writeStringU16 tenant
    writeFlag force

def getTenantStats (tenant : Text) : Request :=
  sendMember OpCode.adminGetTenantStatsReq (BinaryWriter.writeStringU16 tenant)

/-!
# Credential lifecycle
-/

def createCredential (clientId secret tenant nodeType : Text) : Request :=
  sendMember OpCode.adminCreateCredentialReq do
    BinaryWriter.writeStringU16 clientId
    BinaryWriter.writeStringU16 secret
    BinaryWriter.writeStringU16 tenant
    BinaryWriter.writeStringU16 nodeType

def updateCredential (clientId : Text) (secret tenant nodeType : Option Text)
    (enabled : Option Bool) : Request :=
  sendMember OpCode.adminUpdateCredentialReq do
    BinaryWriter.writeStringU16 clientId
    writeOptional BinaryWriter.writeStringU16 secret
    writeOptional BinaryWriter.writeStringU16 tenant
    writeOptional BinaryWriter.writeStringU16 nodeType
    writeOptional writeFlag enabled

def deleteCredential (clientId : Text) : Request :=
  sendMember OpCode.adminDeleteCredentialReq
    (BinaryWriter.writeStringU16 clientId)

def listCredentials (tenantFilter : Text) : Request :=
  sendMember OpCode.adminListCredentialsReq
    (BinaryWriter.writeStringU16 tenantFilter)

/-!
# Services, configurations, policies and connections
-/

def listServices (tenant : Text) : Request :=
  sendNumber 0x0401 (BinaryWriter.writeStringU16 tenant)

def listConfigs (tenant group : Text) : Request :=
  sendNumber 0x0409 do
    BinaryWriter.writeStringU16 tenant
    BinaryWriter.writeStringU16 group

def publishConfig (tenant group dataId content : Text) : Request :=
  sendNumber 0x040B do
    BinaryWriter.writeStringU16 tenant
    BinaryWriter.writeStringU16 group
    BinaryWriter.writeStringU16 dataId
    BinaryWriter.writeString 4 content

def deleteConfig (tenant group dataId : Text) : Request :=
  sendNumber 0x040D do
    BinaryWriter.writeStringU16 tenant
    BinaryWriter.writeStringU16 group
    BinaryWriter.writeStringU16 dataId

def listTenants : Request :=
  sendNumber 0x0407 (pure ())

def getTenantPolicy (tenant : Text) : Request :=
  sendNumber 0x040D (BinaryWriter.writeStringU16 tenant)

def getGovernanceState : Request :=
  sendNumber 0x040F (pure ())

def migrateConnection (sourceNodeId targetNodeId streamId
    gracefulWaitMs : Int) : Request :=
  sendNumber 0x0405 do
    BinaryWriter.writeU64 sourceNodeId
    BinaryWriter.writeU64 targetNodeId
    BinaryWriter.writeU32 streamId
    BinaryWriter.writeU32 gracefulWaitMs

end AdminService

/-!
# Calls
-/

/-- A call of an operation with its arguments. -/
inductive AdminCall where
  | createTenant (tenant : Text)
      (policyFlags maxConnections rateLimitOps leaseDurationMs : Int)
  | updateTenantPolicy (tenant : Text)
      (policyFlags maxConnections rateLimitOps leaseDurationMs : Int)
  | deleteTenant (tenant : Text) (force : Bool)
  | getTenantStats (tenant : Text)
  | createCredential (clientId secret tenant nodeType : Text)
  | updateCredential (clientId : Text) (secret tenant nodeType : Option Text)
      (enabled : Option Bool)
  | deleteCredential (clientId : Text)
  | listCredentials (tenantFilter : Text)
  | listServices (tenant : Text)
  | listConfigs (tenant group : Text)
  | publishConfig (tenant group dataId content : Text)
  | deleteConfig (tenant group dataId : Text)
  | listTenants
  | getTenantPolicy (tenant : Text)
  | getGovernanceState
  | migrateConnection (sourceNodeId targetNodeId streamId gracefulWaitMs : Int)
  deriving DecidableEq

/-- What a client has for a call: its connection's state and stream ids, its
router, and the requests that were sent. -/
structure AdminClient where
  authenticated : Bool
  streamIdCounter : Nat := 0
  router : FrameRouter := {}
  sent : List FrameRequest := []

/-- Send a request up to the await of its response. -/
def AdminClient.sendRequest (c : AdminClient) (opcode : OpCode)
    (body : Bytes) : Except PyError AdminClient :=
  if c.authenticated then
    let streamId := nextStreamId c.streamIdCounter
    pure
      { c with
        streamIdCounter := streamId
        router := (c.router.registerRequest streamId).2
        sent := c.sent ++
          [{ opcode := opcode, body := body, streamId := streamId }] }
  else throw (PyError.connectionClosedError "Not connected")

namespace AdminCall

def request : AdminCall -> AdminService.Request
  | createTenant tenant policyFlags maxConnections rateLimitOps
      leaseDurationMs =>
      AdminService.createTenant tenant policyFlags maxConnections rateLimitOps
        leaseDurationMs
  | updateTenantPolicy tenant policyFlags maxConnections rateLimitOps
      leaseDurationMs =>
      AdminService.updateTenantPolicy tenant policyFlags maxConnections
        rateLimitOps leaseDurationMs
  | deleteTenant tenant force => AdminService.deleteTenant tenant force
  | getTenantStats tenant => AdminService.getTenantStats tenant
  | createCredential clientId secret tenant nodeType =>
      AdminService.createCredential clientId secret tenant nodeType
  | updateCredential clientId secret tenant nodeType enabled =>
      AdminService.updateCredential clientId secret tenant nodeType enabled
  | deleteCredential clientId => AdminService.deleteCredential clientId
  | listCredentials tenantFilter => AdminService.listCredentials tenantFilter
  | listServices tenant => AdminService.listServices tenant
  | listConfigs tenant group => AdminService.listConfigs tenant group
  | publishConfig tenant group dataId content =>
      AdminService.publishConfig tenant group dataId content
  | deleteConfig tenant group dataId =>
      AdminService.deleteConfig tenant group dataId
  | listTenants => AdminService.listTenants
  | getTenantPolicy tenant => AdminService.getTenantPolicy tenant
  | getGovernanceState => AdminService.getGovernanceState
  | migrateConnection sourceNodeId targetNodeId streamId gracefulWaitMs =>
      AdminService.migrateConnection sourceNodeId targetNodeId streamId
        gracefulWaitMs

/-- The client after the call has sent its request. -/
def perform (call : AdminCall) (c : AdminClient) :
    Except PyError AdminClient := do
  let (opcode, body) ← call.request
  c.sendRequest opcode body

/-- The call is one of the tenant or the credential lifecycle. -/
def isLifecycle : AdminCall -> Bool
  | createTenant .. => true
  | updateTenantPolicy .. => true
  | deleteTenant .. => true
  | getTenantStats .. => true
  | createCredential .. => true
  | updateCredential .. => true
  | deleteCredential .. => true
  | listCredentials .. => true
  | _ => false

/-- The strings a call writes, each with the width of its length. -/
def strings : AdminCall -> List (Nat × Text)
  | createTenant tenant .. => [(2, tenant)]
  | updateTenantPolicy tenant .. => [(2, tenant)]
  | deleteTenant tenant _ => [(2, tenant)]
  | getTenantStats tenant => [(2, tenant)]
  | createCredential clientId secret tenant nodeType =>
      [(2, clientId), (2, secret), (2, tenant), (2, nodeType)]
  | updateCredential clientId secret tenant nodeType _ =>
      (2, clientId) ::
        (secret.toList ++ tenant.toList ++ nodeType.toList).map fun s => (2, s)
  | deleteCredential clientId => [(2, clientId)]
  | listCredentials tenantFilter => [(2, tenantFilter)]
  | listServices tenant => [(2, tenant)]
  | listConfigs tenant group => [(2, tenant), (2, group)]
  | publishConfig tenant group dataId content =>
      [(2, tenant), (2, group), (2, dataId), (4, content)]
  | deleteConfig tenant group dataId => [(2, tenant), (2, group), (2, dataId)]
  | getTenantPolicy tenant => [(2, tenant)]
  | _ => []

/-- The integers a call writes, each with the width of its field. -/
def integers : AdminCall -> List (Nat × Int)
  | createTenant _ policyFlags maxConnections rateLimitOps leaseDurationMs =>
      [(2, policyFlags), (4, maxConnections), (4, rateLimitOps),
        (8, leaseDurationMs)]
  | updateTenantPolicy _ policyFlags maxConnections rateLimitOps
      leaseDurationMs =>
      [(2, policyFlags), (4, maxConnections), (4, rateLimitOps),
        (8, leaseDurationMs)]
  | migrateConnection sourceNodeId targetNodeId streamId gracefulWaitMs =>
      [(8, sourceNodeId), (8, targetNodeId), (4, streamId),
        (4, gracefulWaitMs)]
  | _ => []

end AdminCall

end Client
end Hmmp
