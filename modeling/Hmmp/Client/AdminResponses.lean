import Hmmp.Client.AdminFraming
import Hmmp.Client.Handshake
import Hmmp.Wire.BodyReading

/-!
# Responses to the admin service

What an operation of the management plane makes of the body of its response:
a status, the statistics of a tenant, its policy, the state of the governance
plane, or a list.
-/

namespace Hmmp

namespace Models

open Foundation
open Wire

structure TenantStats where
  found : Bool
  activeConnections : Nat
  registeredServices : Nat
  registeredInstances : Nat
  credentialCount : Nat
  configCount : Nat

structure CredentialInfo where
  clientId : Text
  tenant : Text
  nodeType : Text
  enabled : Bool
  createdAt : Nat

structure AdminConfigItem where
  tenant : Text
  group : Text
  dataId : Text
  md5 : Bytes
  length : Nat
  deleted : Bool

structure AdminTenantItem where
  tenant : Text
  maxConnections : Nat
  rateLimitOps : Nat
  policyFlags : Nat

structure TenantPolicy where
  tenant : Text
  policyFlags : Nat
  maxConnections : Nat
  rateLimitOps : Nat
  leaseDurationMs : Nat

structure CircuitBreakerEntry where
  serviceKey : Text
  state : Nat
  failureCount : Nat

structure ColoringRule where
  key : Text
  value : Text

structure OutlierVote where
  suspectServerId : Nat
  voteCount : Nat

structure GovernanceState where
  circuitBreakers : List CircuitBreakerEntry
  coloringRules : List ColoringRule
  outlierVotes : List OutlierVote

def TenantStats.read : Reading TenantStats := do
  let found ← readFlag
  let activeConnections ← BinaryReader.readU32
  let registeredServices ← BinaryReader.readU16
  let registeredInstances ← BinaryReader.readU32
  let credentialCount ← BinaryReader.readU16
  let configCount ← BinaryReader.readU32
  pure
    { found := found
      activeConnections := activeConnections
      registeredServices := registeredServices
      registeredInstances := registeredInstances
      credentialCount := credentialCount
      configCount := configCount }

def TenantStats.fromBytes (data : Bytes) : Except PyError TenantStats := do
  let (stats, _) ← read.run (BinaryReader.new data)
  pure stats

end Models

namespace Client

open Foundation
open Wire
open Connection
open Models

/-- What an operation of the management plane returns. -/
inductive AdminAnswer where
  | status (status : Nat)
  | accepted (accepted : Bool)
  | stats (stats : TenantStats)
  | credentials (credentials : List CredentialInfo)
  | services (services : List Text)
  | configs (configs : List AdminConfigItem)
  | tenants (tenants : List AdminTenantItem)
  | policy (policy : Option TenantPolicy)
  | governance (state : GovernanceState)

namespace AdminService

def readStatus : Reading AdminAnswer := do
  pure (.status (← BinaryReader.readU16))

/-- The status is only compared with the one of success. -/
def readAccepted : Reading AdminAnswer := do
  pure (.accepted ((← BinaryReader.readU16) == statusOk))

def readStats : Reading AdminAnswer := do
  pure (.stats (← TenantStats.read))

def readCredential : Reading CredentialInfo := do
  let clientId ← BinaryReader.readStringU16
  let tenant ← BinaryReader.readStringU16
  let nodeType ← BinaryReader.readStringU16
  let enabled ← readFlag
  let createdAt ← BinaryReader.readU64
  pure
    { clientId := clientId
      tenant := tenant
      nodeType := nodeType
      enabled := enabled
      createdAt := createdAt }

def readCredentials : Reading AdminAnswer := do
  pure (.credentials (← readCounted readCredential))

def readServices : Reading AdminAnswer := do
  pure (.services (← readCounted BinaryReader.readStringU16))

def readConfigItem : Reading AdminConfigItem := do
  let tenant ← BinaryReader.readStringU16
  let group ← BinaryReader.readStringU16
  let dataId ← BinaryReader.readStringU16
  let md5 ← BinaryReader.readBytes 16
  let length ← BinaryReader.readU32
  let deleted ← readFlag
  pure
    { tenant := tenant
      group := group
      dataId := dataId
      md5 := md5
      length := length
      deleted := deleted }

def readConfigs : Reading AdminAnswer := do
  pure (.configs (← readCounted readConfigItem))

def readTenantItem : Reading AdminTenantItem := do
  let tenant ← BinaryReader.readStringU16
  let maxConnections ← BinaryReader.readU32
  let rateLimitOps ← BinaryReader.readU32
  let policyFlags ← BinaryReader.readU16
  pure
    { tenant := tenant
      maxConnections := maxConnections
      rateLimitOps := rateLimitOps
      policyFlags := policyFlags }

def readTenants : Reading AdminAnswer := do
  pure (.tenants (← readCounted readTenantItem))

/-- The fields of a policy that has been found; its tenant is the one asked
for. -/
def readPolicyFields (tenant : Text) : Reading TenantPolicy := do
  let policyFlags ← BinaryReader.readU16
  let maxConnections ← BinaryReader.readU32
  let rateLimitOps ← BinaryReader.readU32
  let leaseDurationMs ← BinaryReader.readU64
  pure
    { tenant := tenant
      policyFlags := policyFlags
      maxConnections := maxConnections
      rateLimitOps := rateLimitOps
      leaseDurationMs := leaseDurationMs }

def readPolicyBehind (tenant : Text) (found : Nat) : Reading AdminAnswer :=
  if found = 0 then pure (.policy none)
  else do pure (.policy (some (← readPolicyFields tenant)))

def readPolicy (tenant : Text) : Reading AdminAnswer := do
  readPolicyBehind tenant (← BinaryReader.readU8)

def readCircuitBreaker : Reading CircuitBreakerEntry := do
  let serviceKey ← BinaryReader.readStringU16
  let state ← BinaryReader.readU8
  let failureCount ← BinaryReader.readU32
  pure
    { serviceKey := serviceKey, state := state, failureCount := failureCount }

def readColoringRule : Reading ColoringRule := do
  let key ← BinaryReader.readStringU16
  let value ← BinaryReader.readStringU16
  pure { key := key, value := value }

def readOutlierVote : Reading OutlierVote := do
  let suspectServerId ← BinaryReader.readU64
  let voteCount ← BinaryReader.readU32
  pure { suspectServerId := suspectServerId, voteCount := voteCount }

def readGovernance : Reading AdminAnswer := do
  let circuitBreakers ← readCounted readCircuitBreaker
  let coloringRules ← readCounted readColoringRule
  let outlierVotes ← readCounted readOutlierVote
  pure (.governance
    { circuitBreakers := circuitBreakers
      coloringRules := coloringRules
      outlierVotes := outlierVotes })

end AdminService

/-- What a call reads from the body of its response. -/
def AdminCall.readResponse : AdminCall -> Reading AdminAnswer
  | createTenant .. => AdminService.readStatus
  | updateTenantPolicy .. => AdminService.readStatus
  | deleteTenant .. => AdminService.readStatus
  | getTenantStats .. => AdminService.readStats
  | createCredential .. => AdminService.readStatus
  | updateCredential .. => AdminService.readStatus
  | deleteCredential .. => AdminService.readStatus
  | listCredentials .. => AdminService.readCredentials
  | listServices .. => AdminService.readServices
  | listConfigs .. => AdminService.readConfigs
  | publishConfig .. => AdminService.readAccepted
  | deleteConfig .. => AdminService.readAccepted
  | listTenants => AdminService.readTenants
  | getTenantPolicy tenant => AdminService.readPolicy tenant
  | getGovernanceState => AdminService.readGovernance
  | migrateConnection .. => AdminService.readAccepted

/-- The result of a call with a given response, which it awaits once it has
made its request. -/
def AdminCall.handleResponse (call : AdminCall) (response : Bytes) :
    Except PyError AdminAnswer := do
  let _ ← call.request
  parseBody call.readResponse response

/-!
# Layouts
-/

structure StatsBody where
  found : UInt8
  activeConnections : UInt32
  registeredServices : UInt16
  registeredInstances : UInt32
  credentialCount : UInt16
  configCount : UInt32

structure CredentialItem where
  clientId : SizedText 2
  tenant : SizedText 2
  nodeType : SizedText 2
  enabled : UInt8
  createdAt : UInt64

structure ConfigItem where
  tenant : SizedText 2
  group : SizedText 2
  dataId : SizedText 2
  md5 : Bytes
  md5_length : md5.length = 16
  length : UInt32
  deleted : UInt8

structure TenantItem where
  tenant : SizedText 2
  maxConnections : UInt32
  rateLimitOps : UInt32
  policyFlags : UInt16

structure PolicyFields where
  policyFlags : UInt16
  maxConnections : UInt32
  rateLimitOps : UInt32
  leaseDurationMs : UInt64

structure BreakerItem where
  serviceKey : SizedText 2
  state : UInt8
  failureCount : UInt32

namespace StatsBody

def layout (b : StatsBody) : Bytes :=
  bigEndian 1 b.found.toNat ++ (bigEndian 4 b.activeConnections.toNat ++
    (bigEndian 2 b.registeredServices.toNat ++
      (bigEndian 4 b.registeredInstances.toNat ++
        (bigEndian 2 b.credentialCount.toNat ++
          bigEndian 4 b.configCount.toNat))))

def stats (b : StatsBody) : TenantStats where
  found := decide (b.found = 1)
  activeConnections := b.activeConnections.toNat
  registeredServices := b.registeredServices.toNat
  registeredInstances := b.registeredInstances.toNat
  credentialCount := b.credentialCount.toNat
  configCount := b.configCount.toNat

theorem reads (b : StatsBody) :
    Reads TenantStats.read b.layout b.stats := by
  have hstats := (Reads.u32 b.configCount).map fun configCount =>
    ({ found := decide (b.found = 1)
       activeConnections := b.activeConnections.toNat
       registeredServices := b.registeredServices.toNat
       registeredInstances := b.registeredInstances.toNat
       credentialCount := b.credentialCount.toNat
       configCount := configCount } : TenantStats)
  exact (Reads.flag b.found).bind ((Reads.u32 b.activeConnections).bind
    ((Reads.u16 b.registeredServices).bind
      ((Reads.u32 b.registeredInstances).bind
        ((Reads.u16 b.credentialCount).bind hstats))))

end StatsBody

namespace CredentialItem

def layout (i : CredentialItem) : Bytes :=
  i.clientId.layout ++ (i.tenant.layout ++ (i.nodeType.layout ++
    (bigEndian 1 i.enabled.toNat ++ bigEndian 8 i.createdAt.toNat)))

def info (i : CredentialItem) : CredentialInfo where
  clientId := i.clientId.text
  tenant := i.tenant.text
  nodeType := i.nodeType.text
  enabled := decide (i.enabled = 1)
  createdAt := i.createdAt.toNat

theorem reads (i : CredentialItem) :
    Reads AdminService.readCredential i.layout i.info := by
  have hinfo := (Reads.u64 i.createdAt).map fun createdAt =>
    ({ clientId := i.clientId.text
       tenant := i.tenant.text
       nodeType := i.nodeType.text
       enabled := decide (i.enabled = 1)
       createdAt := createdAt } : CredentialInfo)
  exact (Reads.stringU16 i.clientId).bind ((Reads.stringU16 i.tenant).bind
    ((Reads.stringU16 i.nodeType).bind ((Reads.flag i.enabled).bind hinfo)))

end CredentialItem

namespace ConfigItem

def layout (i : ConfigItem) : Bytes :=
  i.tenant.layout ++ (i.group.layout ++ (i.dataId.layout ++ (i.md5 ++
    (bigEndian 4 i.length.toNat ++ bigEndian 1 i.deleted.toNat))))

def item (i : ConfigItem) : AdminConfigItem where
  tenant := i.tenant.text
  group := i.group.text
  dataId := i.dataId.text
  md5 := i.md5
  length := i.length.toNat
  deleted := decide (i.deleted = 1)

theorem reads (i : ConfigItem) :
    Reads AdminService.readConfigItem i.layout i.item := by
  have hmd5 : Reads (BinaryReader.readBytes 16) i.md5 i.md5 := by
    rw [← i.md5_length]
    exact Reads.bytes i.md5
  have hitem := (Reads.flag i.deleted).map fun deleted =>
    ({ tenant := i.tenant.text
       group := i.group.text
       dataId := i.dataId.text
       md5 := i.md5
       length := i.length.toNat
       deleted := deleted } : AdminConfigItem)
  exact (Reads.stringU16 i.tenant).bind ((Reads.stringU16 i.group).bind
    ((Reads.stringU16 i.dataId).bind (hmd5.bind
      ((Reads.u32 i.length).bind hitem))))

end ConfigItem

namespace TenantItem

def layout (i : TenantItem) : Bytes :=
  i.tenant.layout ++ (bigEndian 4 i.maxConnections.toNat ++
    (bigEndian 4 i.rateLimitOps.toNat ++ bigEndian 2 i.policyFlags.toNat))

def item (i : TenantItem) : AdminTenantItem where
  tenant := i.tenant.text
  maxConnections := i.maxConnections.toNat
  rateLimitOps := i.rateLimitOps.toNat
  policyFlags := i.policyFlags.toNat

theorem reads (i : TenantItem) :
    Reads AdminService.readTenantItem i.layout i.item := by
  have hitem := (Reads.u16 i.policyFlags).map fun policyFlags =>
    ({ tenant := i.tenant.text
       maxConnections := i.maxConnections.toNat
       rateLimitOps := i.rateLimitOps.toNat
       policyFlags := policyFlags } : AdminTenantItem)
  exact (Reads.stringU16 i.tenant).bind ((Reads.u32 i.maxConnections).bind
    ((Reads.u32 i.rateLimitOps).bind hitem))

end TenantItem

namespace PolicyFields

def layout (f : PolicyFields) : Bytes :=
  bigEndian 2 f.policyFlags.toNat ++ (bigEndian 4 f.maxConnections.toNat ++
    (bigEndian 4 f.rateLimitOps.toNat ++ bigEndian 8 f.leaseDurationMs.toNat))

def policy (tenant : Text) (f : PolicyFields) : TenantPolicy where
  tenant := tenant
  policyFlags := f.policyFlags.toNat
  maxConnections := f.maxConnections.toNat
  rateLimitOps := f.rateLimitOps.toNat
  leaseDurationMs := f.leaseDurationMs.toNat

theorem reads (tenant : Text) (f : PolicyFields) :
    Reads (AdminService.readPolicyFields tenant) f.layout
      (f.policy tenant) := by
  have hpolicy := (Reads.u64 f.leaseDurationMs).map fun leaseDurationMs =>
    ({ tenant := tenant
       policyFlags := f.policyFlags.toNat
       maxConnections := f.maxConnections.toNat
       rateLimitOps := f.rateLimitOps.toNat
       leaseDurationMs := leaseDurationMs } : TenantPolicy)
  exact (Reads.u16 f.policyFlags).bind ((Reads.u32 f.maxConnections).bind
    ((Reads.u32 f.rateLimitOps).bind hpolicy))

end PolicyFields

namespace BreakerItem

def layout (i : BreakerItem) : Bytes :=
  i.serviceKey.layout ++ (bigEndian 1 i.state.toNat ++
    bigEndian 4 i.failureCount.toNat)

def entry (i : BreakerItem) : CircuitBreakerEntry where
  serviceKey := i.serviceKey.text
  state := i.state.toNat
  failureCount := i.failureCount.toNat

theorem reads (i : BreakerItem) :
    Reads AdminService.readCircuitBreaker i.layout i.entry := by
  have hentry := (Reads.u32 i.failureCount).map fun failureCount =>
    ({ serviceKey := i.serviceKey.text
       state := i.state.toNat
       failureCount := failureCount } : CircuitBreakerEntry)
  exact (Reads.stringU16 i.serviceKey).bind ((Reads.u8 i.state).bind hentry)

end BreakerItem

def ruleLayout (rule : SizedText 2 × SizedText 2) : Bytes :=
  rule.1.layout ++ rule.2.layout

def ruleOf (rule : SizedText 2 × SizedText 2) : ColoringRule where
  key := rule.1.text
  value := rule.2.text

theorem reads_rule (rule : SizedText 2 × SizedText 2) :
    Reads AdminService.readColoringRule (ruleLayout rule) (ruleOf rule) :=
  (Reads.stringU16 rule.1).bind
    ((Reads.stringU16 rule.2).map (ColoringRule.mk rule.1.text))

def voteLayout (vote : UInt64 × UInt32) : Bytes :=
  bigEndian 8 vote.1.toNat ++ bigEndian 4 vote.2.toNat

def voteOf (vote : UInt64 × UInt32) : OutlierVote where
  suspectServerId := vote.1.toNat
  voteCount := vote.2.toNat

theorem reads_vote (vote : UInt64 × UInt32) :
    Reads AdminService.readOutlierVote (voteLayout vote) (voteOf vote) :=
  (Reads.u64 vote.1).bind
    ((Reads.u32 vote.2).map (OutlierVote.mk vote.1.toNat))

/-- The bodies of responses. -/
inductive AdminBody where
  | status (status : UInt16)
  | stats (b : StatsBody)
  | credentials (items : Counted CredentialItem)
  | services (names : Counted (SizedText 2))
  | configs (items : Counted ConfigItem)
  | tenants (items : Counted TenantItem)
  | noPolicy
  | policy (found : UInt8) (ne : found ≠ 0) (fields : PolicyFields)
  | governance (breakers : Counted BreakerItem)
      (rules : Counted (SizedText 2 × SizedText 2))
      (votes : Counted (UInt64 × UInt32))

def AdminBody.layout : AdminBody -> Bytes
  | status code => bigEndian 2 code.toNat
  | stats body => body.layout
  | credentials items => items.layout CredentialItem.layout
  | services names => names.layout SizedText.layout
  | configs items => items.layout ConfigItem.layout
  | tenants items => items.layout TenantItem.layout
  | noPolicy => bigEndian 1 0
  | policy found _ fields => bigEndian 1 found.toNat ++ fields.layout
  | governance breakers rules votes =>
      breakers.layout BreakerItem.layout ++ (rules.layout ruleLayout ++
        votes.layout voteLayout)

/-- What a call returns for a body, if the body is one of a response to it. -/
def AdminCall.answerTo : AdminCall -> AdminBody -> Option AdminAnswer
  | getTenantStats _, .stats b => some (.stats b.stats)
  | listCredentials _, .credentials items =>
      some (.credentials (items.values CredentialItem.info))
  | listServices _, .services names =>
      some (.services (names.values SizedText.text))
  | listConfigs _ _, .configs items =>
      some (.configs (items.values ConfigItem.item))
  | publishConfig .., .status status => some (.accepted (status == 0))
  | deleteConfig .., .status status => some (.accepted (status == 0))
  | migrateConnection .., .status status => some (.accepted (status == 0))
  | listTenants, .tenants items =>
      some (.tenants (items.values TenantItem.item))
  | getTenantPolicy _, .noPolicy => some (.policy none)
  | getTenantPolicy tenant, .policy _ _ fields =>
      some (.policy (some (fields.policy tenant)))
  | getGovernanceState, .governance breakers rules votes =>
      some (.governance
        { circuitBreakers := breakers.values BreakerItem.entry
          coloringRules := rules.values ruleOf
          outlierVotes := votes.values voteOf })
  | createTenant .., .status status => some (.status status.toNat)
  | updateTenantPolicy .., .status status => some (.status status.toNat)
  | deleteTenant .., .status status => some (.status status.toNat)
  | createCredential .., .status status => some (.status status.toNat)
  | updateCredential .., .status status => some (.status status.toNat)
  | deleteCredential .., .status status => some (.status status.toNat)
  | _, _ => none

/-!
# Responses are read back
-/

namespace AdminService

theorem reads_status (status : UInt16) :
    Reads readStatus (bigEndian 2 status.toNat) (.status status.toNat) :=
  (Reads.u16 status).map AdminAnswer.status

theorem reads_accepted (status : UInt16) :
    Reads readAccepted (bigEndian 2 status.toNat)
      (.accepted (status == 0)) := by
  have hzero : (status.toNat == 0) = (status == 0) := by
    rw [Bool.eq_iff_iff, beq_iff_eq, beq_iff_eq, ← UInt16.toNat_inj]
    rfl
  rw [← hzero]
  exact (Reads.u16 status).map fun n => AdminAnswer.accepted (n == 0)

theorem reads_policy (tenant : Text) {found : UInt8} (ne : found ≠ 0)
    (fields : PolicyFields) :
    Reads (readPolicy tenant) (bigEndian 1 found.toNat ++ fields.layout)
      (.policy (some (fields.policy tenant))) := by
  have hfound : found.toNat ≠ 0 := by
    intro hzero
    exact ne (UInt8.toNat_inj.mp hzero)
  have hfields : Reads (readPolicyBehind tenant found.toNat) fields.layout
      (.policy (some (fields.policy tenant))) := by
    unfold readPolicyBehind
    rw [if_neg hfound]
    exact (fields.reads tenant).map fun policy =>
      AdminAnswer.policy (some policy)
  exact (Reads.u8 found).bind hfields

theorem reads_noPolicy (tenant : Text) :
    Reads (readPolicy tenant) (bigEndian 1 0) (.policy none) := by
  have hnone : Reads (readPolicyBehind tenant 0) [] (.policy none) :=
    Reads.nothing _
  exact (Reads.u8 0).bind hnone

theorem reads_governance (breakers : Counted BreakerItem)
    (rules : Counted (SizedText 2 × SizedText 2))
    (votes : Counted (UInt64 × UInt32)) :
    Reads readGovernance (AdminBody.governance breakers rules votes).layout
      (.governance
        { circuitBreakers := breakers.values BreakerItem.entry
          coloringRules := rules.values ruleOf
          outlierVotes := votes.values voteOf }) := by
  have hstate := (votes.reads reads_vote).map fun outlierVotes =>
    AdminAnswer.governance
      { circuitBreakers := breakers.values BreakerItem.entry
        coloringRules := rules.values ruleOf
        outlierVotes := outlierVotes }
  exact (breakers.reads BreakerItem.reads).bind
    ((rules.reads reads_rule).bind hstate)

end AdminService

namespace AdminCall

theorem reads_response {call : AdminCall} {body : AdminBody}
    {answer : AdminAnswer} (h : call.answerTo body = some answer) :
    Reads call.readResponse body.layout answer := by
  cases call with
  | createTenant _ _ _ _ _ | updateTenantPolicy _ _ _ _ _ | deleteTenant _ _
  | createCredential _ _ _ _ | updateCredential _ _ _ _ _
  | deleteCredential _ =>
      cases body with
      | status status =>
          injection h with h
          subst h
          exact AdminService.reads_status status
      | _ => cases h
  | publishConfig _ _ _ _ | deleteConfig _ _ _ | migrateConnection _ _ _ _ =>
      cases body with
      | status status =>
          injection h with h
          subst h
          exact AdminService.reads_accepted status
      | _ => cases h
  | getTenantStats tenant =>
      cases body with
      | stats b =>
          injection h with h
          subst h
          exact b.reads.map AdminAnswer.stats
      | _ => cases h
  | listCredentials tenantFilter =>
      cases body with
      | credentials items =>
          injection h with h
          subst h
          exact (items.reads CredentialItem.reads).map AdminAnswer.credentials
      | _ => cases h
  | listServices tenant =>
      cases body with
      | services names =>
          injection h with h
          subst h
          exact (names.reads Reads.stringU16).map AdminAnswer.services
      | _ => cases h
  | listConfigs tenant group =>
      cases body with
      | configs items =>
          injection h with h
          subst h
          exact (items.reads ConfigItem.reads).map AdminAnswer.configs
      | _ => cases h
  | listTenants =>
      cases body with
      | tenants items =>
          injection h with h
          subst h
          exact (items.reads TenantItem.reads).map AdminAnswer.tenants
      | _ => cases h
  | getTenantPolicy tenant =>
      cases body with
      | noPolicy =>
          injection h with h
          subst h
          exact AdminService.reads_noPolicy tenant
      | policy found ne fields =>
          injection h with h
          subst h
          exact AdminService.reads_policy tenant ne fields
      | _ => cases h
  | getGovernanceState =>
      cases body with
      | governance breakers rules votes =>
          injection h with h
          subst h
          exact AdminService.reads_governance breakers rules votes
      | _ => cases h

theorem handleResponse_of_request {call : AdminCall}
    {request : OpCode × Bytes} (h : call.request = Except.ok request) :
    call.handleResponse = parseBody call.readResponse := by
  funext response
  unfold handleResponse
  rw [h]
  rfl

theorem parseBody_layout {call : AdminCall} {body : AdminBody}
    {answer : AdminAnswer} (h : call.answerTo body = some answer)
    (tail : Bytes) :
    parseBody call.readResponse (body.layout ++ tail) = Except.ok answer :=
  parseBody_of_ok ((reads_response h).complete tail 0)

theorem parseBody_cut {call : AdminCall} {body : AdminBody}
    {answer : AdminAnswer} (h : call.answerTo body = some answer) {n : Nat}
    (hn : n < body.layout.length) :
    EndsEarly (parseBody call.readResponse) (body.layout.take n) := by
  rcases (reads_response h).cut n 0 hn with ⟨message, hraises⟩
  exact ⟨message, parseBody_of_error hraises⟩

/-- A call of a lifecycle sends a request from which its server reads back the
call, and returns what the server answers to it, whatever bytes follow; it
raises if the response is cut anywhere.  Every other call raises before it
sends, although the code behind its request would read the answer too. -/
theorem answered (call : AdminCall) (body : AdminBody) (answer : AdminAnswer)
    (h : call.answerTo body = some answer) :
    (call.isLifecycle = true -> call.Fits ->
      (forall c : AdminClient, c.authenticated = true ->
        exists c' opcode request,
          call.perform c = Except.ok c' ∧
          c'.sent = c.sent ++
            [{ opcode := opcode
               body := request
               streamId := nextStreamId c.streamIdCounter }] ∧
          readCall opcode request = some call) ∧
      (forall tail,
        call.handleResponse (body.layout ++ tail) = Except.ok answer) ∧
      forall n, n < body.layout.length ->
        EndsEarly call.handleResponse (body.layout.take n)) ∧
    (call.isLifecycle = false -> call.Fits -> exists message,
      (forall c, call.perform c = Except.error (.valueError message)) ∧
      forall response,
        call.handleResponse response = Except.error (.valueError message)) ∧
    (forall tail,
      parseBody call.readResponse (body.layout ++ tail) = Except.ok answer) ∧
    forall n, n < body.layout.length ->
      EndsEarly (parseBody call.readResponse) (body.layout.take n) := by
  refine ⟨?_, ?_, parseBody_layout h, fun n hn => parseBody_cut h hn⟩
  · intro hcall hfits
    rcases readCall_request hcall hfits with ⟨opcode, request, hrequest, hread⟩
    rw [handleResponse_of_request hrequest]
    refine ⟨?_, parseBody_layout h, fun n hn => parseBody_cut h hn⟩
    intro c hc
    rcases perform_of_request hrequest hc with ⟨c', hperform, hsent⟩
    exact ⟨c', opcode, request, hperform, hsent, hread⟩
  · intro hcall hfits
    rcases request_of_not_lifecycle hcall fun width s hs =>
      (hfits.1 width s hs).1 with ⟨n, _, hrequest⟩
    refine ⟨toString n ++ " is not a valid OpCode", fun c => ?_,
      fun response => ?_⟩
    · unfold perform
      rw [hrequest]
      rfl
    · unfold handleResponse
      rw [hrequest]
      rfl

def flaggedCredential (enabled : UInt8) : CredentialItem where
  clientId := SizedText.letter 1
  tenant := SizedText.letter 1
  nodeType := SizedText.letter 1
  enabled := enabled
  createdAt := 5

def twoCredentials : AdminBody :=
  .credentials
    { items := [flaggedCredential 1, flaggedCredential 2], few := by decide }

/-- Of two credentials the one whose flag is one is enabled. -/
theorem answered_credentials :
    handleResponse (listCredentials (text "t")) twoCredentials.layout =
      Except.ok (AdminAnswer.credentials
        [{ clientId := text "a"
           tenant := text "a"
           nodeType := text "a"
           enabled := true
           createdAt := 5 },
         { clientId := text "a"
           tenant := text "a"
           nodeType := text "a"
           enabled := false
           createdAt := 5 }]) := by
  have hfits : (listCredentials (text "t")).Fits := by
    refine ⟨?_, fun width value hvalue => by cases hvalue⟩
    intro width s hs
    rw [strings, List.mem_singleton, Prod.mk.injEq] at hs
    rcases hs with ⟨rfl, rfl⟩
    exact ⟨by decide, by decide⟩
  have hanswered := ((answered (listCredentials (text "t")) twoCredentials _
    rfl).1 rfl hfits).2.1 []
  rw [List.append_nil] at hanswered
  exact hanswered

end AdminCall

end Client
end Hmmp
