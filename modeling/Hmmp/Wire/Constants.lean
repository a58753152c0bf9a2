import Mathlib.Tactic.Common

/-!
# Protocol constants

Operation codes, header flags, status codes and the tags of the binary layouts,
with the numbers they have on the wire.
-/

namespace Hmmp
namespace Wire

def magicNumber : Nat := 0x5153

def protocolVersion : Nat := 0x07

def headerSize : Nat := 16

/-- Header flags, one bit each. -/
inductive Flag where
  | request
  | compression
  | backpressure
  | redirect
  | encrypted
  | probing
  | governance
  deriving Repr, DecidableEq

namespace Flag

def mask : Flag -> Nat
  | request => 0x01
  | compression => 0x02
  | backpressure => 0x04
  | redirect => 0x08
  | encrypted => 0x10
  | probing => 0x40
  | governance => 0x80

def isSet (flags : Nat) (flag : Flag) : Bool :=
  flags &&& flag.mask != 0

end Flag

/-- Operation codes. -/
inductive OpCode where
  | handshakeRequest
  | handshakeResponse
  | heartbeatPing
  | heartbeatPong
  | clusterNodeRedirectNotify
  | instanceShutdownPrepareNotice
  | nonceChallengeRequest
  | nonceChallengeResponse
  | registerInstanceRequest
  | deregisterInstanceRequest
  | discoverServiceRequest
  | discoverServiceResponse
  | serviceChangedNotify
  | registerInstanceWithMetaRequest
  | registerInstanceWithMetaResponse
  | discoverServiceByFilterRequest
  | discoverServiceByFilterResponse
  | getConfigRequest
  | configResponse
  | listenConfigRequest
  | configChangedNotify
  | raftAppendEntriesReq
  | raftAppendEntriesRes
  | raftRequestVoteReq
  | raftRequestVoteRes
  | distroSyncDataReq
  | clusterNodeLoadReport
  | clusterLeaderRedirectCommand
  | adminCreateTenantReq
  | adminCreateTenantRes
  | adminUpdateTenantPolicyReq
  | adminUpdateTenantPolicyRes
  | adminDeleteTenantReq
  | adminDeleteTenantRes
  | adminGetTenantStatsReq
  | adminGetTenantStatsRes
  | adminCreateCredentialReq
  | adminCreateCredentialRes
  | adminUpdateCredentialReq
  | adminUpdateCredentialRes
  | adminDeleteCredentialReq
  | adminDeleteCredentialRes
  | adminListCredentialsReq
  | adminListCredentialsRes
  deriving Repr, DecidableEq

def OpCode.code : OpCode -> Nat
  | handshakeRequest => 0x0001
  | handshakeResponse => 0x0002
  | heartbeatPing => 0x0003
  | heartbeatPong => 0x0004
  | clusterNodeRedirectNotify => 0x0005
  | instanceShutdownPrepareNotice => 0x0006
  | nonceChallengeRequest => 0x0007
  | nonceChallengeResponse => 0x0008
  | registerInstanceRequest => 0x0101
  | deregisterInstanceRequest => 0x0103
  | discoverServiceRequest => 0x0105
  | discoverServiceResponse => 0x0106
  | serviceChangedNotify => 0x0108
  | registerInstanceWithMetaRequest => 0x0109
  | registerInstanceWithMetaResponse => 0x010A
  | discoverServiceByFilterRequest => 0x010B
  | discoverServiceByFilterResponse => 0x010C
  | getConfigRequest => 0x0201
  | configResponse => 0x0202
  | listenConfigRequest => 0x0203
  | configChangedNotify => 0x0204
  | raftAppendEntriesReq => 0x0301
  | raftAppendEntriesRes => 0x0302
  | raftRequestVoteReq => 0x0303
  | raftRequestVoteRes => 0x0304
  | distroSyncDataReq => 0x0311
  | clusterNodeLoadReport => 0x0312
  | clusterLeaderRedirectCommand => 0x0313
  | adminCreateTenantReq => 0x0411
  | adminCreateTenantRes => 0x0412
  | adminUpdateTenantPolicyReq => 0x0413
  | adminUpdateTenantPolicyRes => 0x0414
  | adminDeleteTenantReq => 0x0415
  | adminDeleteTenantRes => 0x0416
  | adminGetTenantStatsReq => 0x0417
  | adminGetTenantStatsRes => 0x0418
  | adminCreateCredentialReq => 0x0419
  | adminCreateCredentialRes => 0x041A
  | adminUpdateCredentialReq => 0x041B
  | adminUpdateCredentialRes => 0x041C
  | adminDeleteCredentialReq => 0x041D
  | adminDeleteCredentialRes => 0x041E
  | adminListCredentialsReq => 0x041F
  | adminListCredentialsRes => 0x0420

def OpCode.members : List OpCode :=
  [handshakeRequest, handshakeResponse, heartbeatPing, heartbeatPong,
    clusterNodeRedirectNotify, instanceShutdownPrepareNotice,
    nonceChallengeRequest, nonceChallengeResponse,
    registerInstanceRequest, deregisterInstanceRequest,
    discoverServiceRequest, discoverServiceResponse, serviceChangedNotify,
    registerInstanceWithMetaRequest, registerInstanceWithMetaResponse,
    discoverServiceByFilterRequest, discoverServiceByFilterResponse,
    getConfigRequest, configResponse, listenConfigRequest,
    configChangedNotify, raftAppendEntriesReq, raftAppendEntriesRes,
    raftRequestVoteReq, raftRequestVoteRes, distroSyncDataReq,
    clusterNodeLoadReport, clusterLeaderRedirectCommand,
    adminCreateTenantReq, adminCreateTenantRes,
    adminUpdateTenantPolicyReq, adminUpdateTenantPolicyRes,
    adminDeleteTenantReq, adminDeleteTenantRes, adminGetTenantStatsReq,
    adminGetTenantStatsRes, adminCreateCredentialReq,
    adminCreateCredentialRes, adminUpdateCredentialReq,
    adminUpdateCredentialRes, adminDeleteCredentialReq,
    adminDeleteCredentialRes, adminListCredentialsReq,
    adminListCredentialsRes]

def OpCode.ofCode (n : Nat) : Option OpCode :=
  members.find? fun opcode => opcode.code == n

/-- Types of the TLV entries of a governance block. -/
inductive GovernanceTag where
  | traceContext
  | trafficColoring
  | methodMetrics
  | tenantQuotaToken
  deriving Repr, DecidableEq

def GovernanceTag.code : GovernanceTag -> Nat
  | traceContext => 0x01
  | trafficColoring => 0x02
  | methodMetrics => 0x03
  | tenantQuotaToken => 0x04

/-- IP address types. -/
inductive IpType where
  | ipv4
  | ipv6
  deriving Repr, DecidableEq

namespace IpType

def code : IpType -> Nat
  | ipv4 => 0x04
  | ipv6 => 0x06

def width : IpType -> Nat
  | ipv4 => 4
  | ipv6 => 16

def name : IpType -> String
  | ipv4 => "IPV4"
  | ipv6 => "IPV6"

end IpType

/-- The address families of a deregistration. -/
inductive AddressFamily where
  | ipv4
  | ipv6
  deriving Repr, DecidableEq

def AddressFamily.code : AddressFamily -> Nat
  | ipv4 => 0x0001
  | ipv6 => 0x0002

/-- Node types of a filter expression. -/
inductive FilterNodeType where
  | leaf
  | and_
  | or_
  | not_
  deriving Repr, DecidableEq

def FilterNodeType.code : FilterNodeType -> Nat
  | leaf => 0x01
  | and_ => 0x02
  | or_ => 0x03
  | not_ => 0x04

def fnvOffsetBasis : Nat := 0xCBF29CE484222325

def fnvPrime : Nat := 0x100000001B3

/-- The status of a successful handshake. -/
def statusOk : Nat := 0x0000

end Wire
end Hmmp
