import Hmmp.Client.AdminRequests
import Hmmp.Wire.Framing

/-!
# What an admin request tells

The body of an operation that is sent is read back, under its code, as the
operation and its arguments, so no two calls send the same request.  An
operation whose code is no member of the enumeration raises before it sends.
-/

namespace Hmmp
namespace Client

open Foundation
open Wire
open Connection

/-!
# Layouts
-/

/-- An integer that is not negative, in {lit}`width` bytes. -/
def integerLayout (width : Nat) : Codec Int :=
  (Codec.uint width).imap (fun n => some (n : Int))
    (fun value => if 0 <= value then some value.toNat else none)
    (by
      intro n value
      constructor
      · intro h
        injection h with h
        subst h
        rw [if_pos (Int.natCast_nonneg n), Int.toNat_natCast]
      · intro h
        split at h
        · rename_i hnonneg
          injection h with h
          rw [← h, Int.toNat_of_nonneg hnonneg]
        · cases h)

def tenantPolicyLayout : Codec (Text × Int × Int × Int × Int) :=
  (stringLayout 2).seq ((integerLayout 2).seq ((integerLayout 4).seq
    ((integerLayout 4).seq (integerLayout 8))))

def deleteTenantLayout : Codec (Text × Bool) :=
  (stringLayout 2).seq Codec.flag

def createCredentialLayout : Codec (Text × Text × Text × Text) :=
  (stringLayout 2).seq ((stringLayout 2).seq ((stringLayout 2).seq
    (stringLayout 2)))

/-- The client id, and four fields each of which may be absent. -/
def updateCredentialLayout :
    Codec (Text × Option Text × Option Text × Option Text × Option Bool) :=
  (stringLayout 2).seq ((Codec.optional Codec.flag (stringLayout 2)).seq
    ((Codec.optional Codec.flag (stringLayout 2)).seq
      ((Codec.optional Codec.flag (stringLayout 2)).seq
        (Codec.optional Codec.flag Codec.flag))))

def readCall (opcode : OpCode) (body : Bytes) : Option AdminCall :=
  match opcode with
  | OpCode.adminCreateTenantReq => do
      let (tenant, policyFlags, maxConnections, rateLimitOps,
        leaseDurationMs) ← tenantPolicyLayout.whole.decode body
      some (AdminCall.createTenant tenant policyFlags maxConnections
        rateLimitOps leaseDurationMs)
  | OpCode.adminUpdateTenantPolicyReq => do
      let (tenant, policyFlags, maxConnections, rateLimitOps,
        leaseDurationMs) ← tenantPolicyLayout.whole.decode body
      some (AdminCall.updateTenantPolicy tenant policyFlags maxConnections
        rateLimitOps leaseDurationMs)
  | OpCode.adminDeleteTenantReq => do
      let (tenant, force) ← deleteTenantLayout.whole.decode body
      some (AdminCall.deleteTenant tenant force)
  | OpCode.adminGetTenantStatsReq => do
      let tenant ← (stringLayout 2).whole.decode body
      some (AdminCall.getTenantStats tenant)
  | OpCode.adminCreateCredentialReq => do
      let (clientId, secret, tenant, nodeType) ←
        createCredentialLayout.whole.decode body
      some (AdminCall.createCredential clientId secret tenant nodeType)
  | OpCode.adminUpdateCredentialReq => do
      let (clientId, secret, tenant, nodeType, enabled) ←
        updateCredentialLayout.whole.decode body
      some (AdminCall.updateCredential clientId secret tenant nodeType enabled)
  | OpCode.adminDeleteCredentialReq => do
      let clientId ← (stringLayout 2).whole.decode body
      some (AdminCall.deleteCredential clientId)
  | OpCode.adminListCredentialsReq => do
      let tenantFilter ← (stringLayout 2).whole.decode body
      some (AdminCall.listCredentials tenantFilter)
  | _ => none

/-!
# Framing
-/

theorem integer_framing (width : Nat) (value : Int) :
    Framing (BinaryWriter.writeUnsigned width value)
      ((integerLayout width).encode value) []
      (0 <= value ∧ value < (256 ^ width : Nat)) := by
  have h := (SizedFraming.integer width value).framing
  have hencode : (if 0 <= value then (Codec.uint width).encode value.toNat
      else none) = (integerLayout width).encode value := by
    unfold integerLayout Codec.imap
    simp only
    split
    · rfl
    · rfl
  rw [hencode] at h
  exact h

theorem optional_framing {α : Type} {c : Codec α} {write : α -> Writing Unit}
    {stringsOf : α -> List Text} {fitsOf : α -> Prop}
    (h : forall a, Framing (write a) (c.encode a) (stringsOf a) (fitsOf a))
    (o : Option α) :
    Framing (writeOptional write o)
      ((Codec.optional Codec.flag c).encode o) (o.toList.flatMap stringsOf)
      (forall a, o = some a -> fitsOf a) := by
  cases o with
  | none =>
      apply Framing.congr (Framing.byte 0 (by omega))
      simp
  | some a =>
      have hbody := (Framing.byte 1 (by omega)).bind (h a)
      have hstrings : (some a).toList.flatMap stringsOf =
          [] ++ stringsOf a := by
        simp
      rw [hstrings]
      apply Framing.congr hbody
      simp

theorem flag_framing (b : Bool) :
    Framing (writeFlag b) (Codec.flag.encode b) [] True :=
  Framing.flag b

theorem sendMember_of_framing {α : Type} {c : Codec α} {a : α}
    {writes : Writing Unit} {strings : List Text} {fits : Prop}
    (opcode : OpCode) (h : Framing writes (c.encode a) strings fits)
    (hfits : fits) (hstrings : forall s, s ∈ strings -> ¬ Unencodable s) :
    exists body, AdminService.sendMember opcode writes =
        Except.ok (opcode, body) ∧ c.whole.decode body = some a := by
  rcases h with ⟨out, hout, hframed⟩
  cases out with
  | none =>
      rcases hframed.raises.mp rfl with ⟨s, hs, hnone⟩
      exact absurd hnone (hstrings s hs)
  | some body =>
      have hencode := hframed.fit hfits
      refine ⟨body, ?_, (c.whole.decode_iff a body).mpr hencode⟩
      unfold AdminService.sendMember
      rw [hout.getvalue_eq_ok.mpr rfl]
      rfl

theorem sendNumber_raises {n : Nat} (hn : OpCode.ofCode n = none)
    (writes : Writing Unit) {request : OpCode × Bytes} :
    AdminService.sendNumber n writes ≠ Except.ok request := by
  intro h
  rcases bind_eq_ok.mp h with ⟨body, _, h⟩
  rcases bind_eq_ok.mp h with ⟨opcode, hopcode, _⟩
  unfold opCodeOf at hopcode
  rw [hn] at hopcode
  cases hopcode

theorem sendNumber_of_framing {n : Nat} (hn : OpCode.ofCode n = none)
    {writes : Writing Unit} {encoding : Option Bytes} {strings : List Text}
    {fits : Prop} (h : Framing writes encoding strings fits)
    (hstrings : forall s, s ∈ strings -> ¬ Unencodable s) :
    AdminService.sendNumber n writes =
      Except.error
        (PyError.valueError (toString n ++ " is not a valid OpCode")) := by
  rcases h with ⟨out, hout, hframed⟩
  cases out with
  | none =>
      rcases hframed.raises.mp rfl with ⟨s, hs, hnone⟩
      exact absurd hnone (hstrings s hs)
  | some body =>
      unfold AdminService.sendNumber opCodeOf
      rw [hout.getvalue_eq_ok.mpr rfl, hn]
      rfl

/-!
# Calls
-/

namespace AdminCall

/-- Every string fits its length, and every integer its field. -/
def Fits (call : AdminCall) : Prop :=
  (forall width s, (width, s) ∈ call.strings ->
    ¬ Unencodable s ∧ utf8Length s < 256 ^ width) ∧
  forall width value, (width, value) ∈ call.integers ->
    0 <= value ∧ value < (256 ^ width : Nat)

theorem tenantPolicy_framing (tenant : Text)
    (policyFlags maxConnections rateLimitOps leaseDurationMs : Int) :
    Framing
      (AdminService.writeTenantPolicy tenant policyFlags maxConnections
        rateLimitOps leaseDurationMs)
      (tenantPolicyLayout.encode (tenant, policyFlags, maxConnections,
        rateLimitOps, leaseDurationMs)) [tenant]
      (utf8Length tenant < 256 ^ 2 ∧
        (0 <= policyFlags ∧ policyFlags < (256 ^ 2 : Nat)) ∧
          (0 <= maxConnections ∧ maxConnections < (256 ^ 4 : Nat)) ∧
            (0 <= rateLimitOps ∧ rateLimitOps < (256 ^ 4 : Nat)) ∧
              0 <= leaseDurationMs ∧ leaseDurationMs < (256 ^ 8 : Nat)) :=
  (Framing.string 2 tenant).bind ((integer_framing 2 policyFlags).bind
    ((integer_framing 4 maxConnections).bind
      ((integer_framing 4 rateLimitOps).bind
        (integer_framing 8 leaseDurationMs))))

theorem deleteTenant_framing (tenant : Text) (force : Bool) :
    Framing
      (do
        BinaryWriter.writeStringU16 tenant
        writeFlag force)
      (deleteTenantLayout.encode (tenant, force)) [tenant]
      (utf8Length tenant < 256 ^ 2 ∧ True) :=
  (Framing.string 2 tenant).bind (flag_framing force)

theorem createCredential_framing (clientId secret tenant nodeType : Text) :
    Framing
      (do
        BinaryWriter.writeStringU16 clientId
        BinaryWriter.writeStringU16 secret
        BinaryWriter.writeStringU16 tenant
        BinaryWriter.writeStringU16 nodeType)
      (createCredentialLayout.encode (clientId, secret, tenant, nodeType))
      [clientId, secret, tenant, nodeType]
      (utf8Length clientId < 256 ^ 2 ∧ utf8Length secret < 256 ^ 2 ∧
        utf8Length tenant < 256 ^ 2 ∧ utf8Length nodeType < 256 ^ 2) :=
  (Framing.string 2 clientId).bind ((Framing.string 2 secret).bind
    ((Framing.string 2 tenant).bind (Framing.string 2 nodeType)))

theorem optionalString_framing (s : Option Text) :
    Framing (writeOptional BinaryWriter.writeStringU16 s)
      ((Codec.optional Codec.flag (stringLayout 2)).encode s)
      (s.toList.flatMap fun s => [s])
      (forall t, s = some t -> utf8Length t < 256 ^ 2) :=
  optional_framing (Framing.string 2) s

theorem updateCredential_framing (clientId : Text)
    (secret tenant nodeType : Option Text) (enabled : Option Bool) :
    Framing
      (do
        BinaryWriter.writeStringU16 clientId
        writeOptional BinaryWriter.writeStringU16 secret
        writeOptional BinaryWriter.writeStringU16 tenant
        writeOptional BinaryWriter.writeStringU16 nodeType
        writeOptional writeFlag enabled)
      (updateCredentialLayout.encode
        (clientId, secret, tenant, nodeType, enabled))
      ([clientId] ++ (secret.toList.flatMap (fun s => [s]) ++
        (tenant.toList.flatMap (fun s => [s]) ++
          (nodeType.toList.flatMap (fun s => [s]) ++
            enabled.toList.flatMap fun _ => []))))
      (utf8Length clientId < 256 ^ 2 ∧
        (forall t, secret = some t -> utf8Length t < 256 ^ 2) ∧
          (forall t, tenant = some t -> utf8Length t < 256 ^ 2) ∧
            (forall t, nodeType = some t -> utf8Length t < 256 ^ 2) ∧
              forall b : Bool, enabled = some b -> True) :=
  (Framing.string 2 clientId).bind ((optionalString_framing secret).bind
    ((optionalString_framing tenant).bind
      ((optionalString_framing nodeType).bind
        (optional_framing flag_framing enabled))))

theorem sendMember_tenantPolicy (opcode : OpCode) {tenant : Text}
    {policyFlags maxConnections rateLimitOps leaseDurationMs : Int}
    (h : (createTenant tenant policyFlags maxConnections rateLimitOps
      leaseDurationMs).Fits) :
    exists body,
      AdminService.sendMember opcode
          (AdminService.writeTenantPolicy tenant policyFlags maxConnections
            rateLimitOps leaseDurationMs) = Except.ok (opcode, body) ∧
        tenantPolicyLayout.whole.decode body =
          some (tenant, policyFlags, maxConnections, rateLimitOps,
            leaseDurationMs) := by
  rcases h with ⟨hstrings, hintegers⟩
  have htenant := hstrings 2 tenant (by simp [strings])
  have hflags := hintegers 2 policyFlags (by simp [integers])
  have hconnections := hintegers 4 maxConnections (by simp [integers])
  have hops := hintegers 4 rateLimitOps (by simp [integers])
  have hlease := hintegers 8 leaseDurationMs (by simp [integers])
  apply sendMember_of_framing opcode
    (tenantPolicy_framing tenant policyFlags maxConnections rateLimitOps
      leaseDurationMs) ⟨htenant.2, hflags, hconnections, hops, hlease⟩
  intro s hs
  rw [List.mem_singleton.mp hs]
  exact htenant.1

theorem sendMember_string (opcode : OpCode) {s : Text}
    (h : ¬ Unencodable s ∧ utf8Length s < 256 ^ 2) :
    exists body,
      AdminService.sendMember opcode (BinaryWriter.writeStringU16 s) =
          Except.ok (opcode, body) ∧
        (stringLayout 2).whole.decode body = some s := by
  apply sendMember_of_framing opcode (Framing.string 2 s) h.2
  intro t ht
  rw [List.mem_singleton.mp ht]
  exact h.1

theorem sendMember_createCredential
    {clientId secret tenant nodeType : Text}
    (h : (createCredential clientId secret tenant nodeType).Fits) :
    exists body,
      AdminService.createCredential clientId secret tenant nodeType =
          Except.ok (OpCode.adminCreateCredentialReq, body) ∧
        createCredentialLayout.whole.decode body =
          some (clientId, secret, tenant, nodeType) := by
  have hclient := h.1 2 clientId (by simp [strings])
  have hsecret := h.1 2 secret (by simp [strings])
  have htenant := h.1 2 tenant (by simp [strings])
  have hnode := h.1 2 nodeType (by simp [strings])
  apply sendMember_of_framing OpCode.adminCreateCredentialReq
    (createCredential_framing clientId secret tenant nodeType)
    ⟨hclient.2, hsecret.2, htenant.2, hnode.2⟩
  intro s hs
  simp only [List.mem_cons, List.not_mem_nil, or_false] at hs
  rcases hs with rfl | rfl | rfl | rfl
  · exact hclient.1
  · exact hsecret.1
  · exact htenant.1
  · exact hnode.1

theorem sendMember_updateCredential {clientId : Text}
    {secret tenant nodeType : Option Text} {enabled : Option Bool}
    (h : (updateCredential clientId secret tenant nodeType enabled).Fits) :
    exists body,
      AdminService.updateCredential clientId secret tenant nodeType enabled =
          Except.ok (OpCode.adminUpdateCredentialReq, body) ∧
        updateCredentialLayout.whole.decode body =
          some (clientId, secret, tenant, nodeType, enabled) := by
  have hfield : forall s, s ∈ clientId :: (secret.toList ++
      tenant.toList ++ nodeType.toList) ->
      ¬ Unencodable s ∧ utf8Length s < 256 ^ 2 := by
    intro s hs
    apply h.1 2 s
    unfold strings
    rcases List.mem_cons.mp hs with rfl | hs
    · exact List.mem_cons_self
    · exact List.mem_cons_of_mem _ (List.mem_map_of_mem hs)
  have hclient := hfield clientId List.mem_cons_self
  apply sendMember_of_framing OpCode.adminUpdateCredentialReq
    (updateCredential_framing clientId secret tenant nodeType enabled)
    ⟨hclient.2, fun t ht => (hfield t (by simp [ht])).2,
      fun t ht => (hfield t (by simp [ht])).2,
      fun t ht => (hfield t (by simp [ht])).2, fun _ _ => trivial⟩
  intro s hs
  apply (hfield s _).1
  simpa [List.flatMap_singleton', or_assoc] using hs

theorem readCall_request {call : AdminCall} (hcall : call.isLifecycle = true)
    (hfits : call.Fits) :
    exists opcode body, call.request = Except.ok (opcode, body) ∧
      readCall opcode body = some call := by
  have hstrings := hfits.1
  cases call with
  | createTenant tenant flags connections ops lease =>
      rcases sendMember_tenantPolicy OpCode.adminCreateTenantReq hfits with
        ⟨body, hsend, hdecode⟩
      refine ⟨_, body, hsend, ?_⟩
      simp only [readCall, hdecode]
      rfl
  | updateTenantPolicy tenant flags connections ops lease =>
      rcases sendMember_tenantPolicy OpCode.adminUpdateTenantPolicyReq
        hfits with ⟨body, hsend, hdecode⟩
      refine ⟨_, body, hsend, ?_⟩
      simp only [readCall, hdecode]
      rfl
  | deleteTenant tenant force =>
      have htenant := hstrings 2 tenant (by simp [strings])
      rcases sendMember_of_framing OpCode.adminDeleteTenantReq
        (deleteTenant_framing tenant force) ⟨htenant.2, trivial⟩ (by
          intro s hs
          rw [List.mem_singleton.mp hs]
          exact htenant.1) with ⟨body, hsend, hdecode⟩
      refine ⟨_, body, hsend, ?_⟩
      simp only [readCall, hdecode]
      rfl
  | getTenantStats tenant =>
      rcases sendMember_string OpCode.adminGetTenantStatsReq
        (hstrings 2 tenant (by simp [strings])) with ⟨body, hsend, hdecode⟩
      refine ⟨_, body, hsend, ?_⟩
      simp only [readCall, hdecode]
      rfl
  | createCredential clientId secret tenant nodeType =>
      rcases sendMember_createCredential hfits with ⟨body, hsend, hdecode⟩
      refine ⟨_, body, hsend, ?_⟩
      simp only [readCall, hdecode]
      rfl
  | updateCredential clientId secret tenant nodeType enabled =>
      rcases sendMember_updateCredential hfits with ⟨body, hsend, hdecode⟩
      refine ⟨_, body, hsend, ?_⟩
      simp only [readCall, hdecode]
      rfl
  | deleteCredential clientId =>
      rcases sendMember_string OpCode.adminDeleteCredentialReq
        (hstrings 2 clientId (by simp [strings])) with
        ⟨body, hsend, hdecode⟩
      refine ⟨_, body, hsend, ?_⟩
      simp only [readCall, hdecode]
      rfl
  | listCredentials tenantFilter =>
      rcases sendMember_string OpCode.adminListCredentialsReq
        (hstrings 2 tenantFilter (by simp [strings])) with
        ⟨body, hsend, hdecode⟩
      refine ⟨_, body, hsend, ?_⟩
      simp only [readCall, hdecode]
      rfl
  | _ => cases hcall

theorem isLifecycle_of_request {call : AdminCall} {request : OpCode × Bytes}
    (h : call.request = Except.ok request) : call.isLifecycle = true := by
  cases call with
  | listServices tenant => exact absurd h (sendNumber_raises rfl _)
  | listConfigs tenant group => exact absurd h (sendNumber_raises rfl _)
  | publishConfig tenant group dataId content =>
      exact absurd h (sendNumber_raises rfl _)
  | deleteConfig tenant group dataId =>
      exact absurd h (sendNumber_raises rfl _)
  | listTenants => exact absurd h (sendNumber_raises rfl _)
  | getTenantPolicy tenant => exact absurd h (sendNumber_raises rfl _)
  | getGovernanceState => exact absurd h (sendNumber_raises rfl _)
  | migrateConnection source target streamId wait =>
      exact absurd h (sendNumber_raises rfl _)
  | _ => rfl

/-- Every other call raises at the look-up of its code. -/
theorem request_of_not_lifecycle {call : AdminCall}
    (hcall : call.isLifecycle = false)
    (hstrings : forall width s, (width, s) ∈ call.strings ->
      ¬ Unencodable s) :
    exists n, OpCode.ofCode n = none ∧
      call.request = Except.error
        (PyError.valueError (toString n ++ " is not a valid OpCode")) := by
  have hencodable : forall s, s ∈ call.strings.map Prod.snd ->
      ¬ Unencodable s := by
    intro s hs
    rcases List.mem_map.mp hs with ⟨⟨width, _⟩, hmem, rfl⟩
    exact hstrings width _ hmem
  cases call with
  | listServices tenant =>
      exact ⟨0x0401, rfl, sendNumber_of_framing rfl (Framing.string 2 tenant)
        hencodable⟩
  | listConfigs tenant group =>
      exact ⟨0x0409, rfl, sendNumber_of_framing rfl
        ((Framing.string 2 tenant).bind (Framing.string 2 group)) hencodable⟩
  | publishConfig tenant group dataId content =>
      exact ⟨0x040B, rfl, sendNumber_of_framing rfl
        ((Framing.string 2 tenant).bind ((Framing.string 2 group).bind
          ((Framing.string 2 dataId).bind (Framing.string 4 content))))
        hencodable⟩
  | deleteConfig tenant group dataId =>
      exact ⟨0x040D, rfl, sendNumber_of_framing rfl
        ((Framing.string 2 tenant).bind ((Framing.string 2 group).bind
          (Framing.string 2 dataId))) hencodable⟩
  | listTenants =>
      exact ⟨0x0407, rfl, sendNumber_of_framing rfl SizedFraming.pure.framing
        hencodable⟩
  | getTenantPolicy tenant =>
      exact ⟨0x040D, rfl, sendNumber_of_framing rfl (Framing.string 2 tenant)
        hencodable⟩
  | getGovernanceState =>
      exact ⟨0x040F, rfl, sendNumber_of_framing rfl SizedFraming.pure.framing
        hencodable⟩
  | migrateConnection source target streamId wait =>
      exact ⟨0x0405, rfl, sendNumber_of_framing rfl
        ((integer_framing 8 source).bind ((integer_framing 8 target).bind
          ((integer_framing 4 streamId).bind (integer_framing 4 wait))))
        hencodable⟩
  | _ => cases hcall

theorem request_inj {call other : AdminCall} (hfits : call.Fits)
    (hfits' : other.Fits) {request : OpCode × Bytes}
    (h : call.request = Except.ok request)
    (h' : other.request = Except.ok request) : other = call := by
  rcases readCall_request (isLifecycle_of_request h) hfits with
    ⟨opcode, body, hsend, hread⟩
  rcases readCall_request (isLifecycle_of_request h') hfits' with
    ⟨opcode', body', hsend', hread'⟩
  rw [h] at hsend
  rw [h'] at hsend'
  injection hsend with hsend
  injection hsend' with hsend'
  rw [hsend] at hsend'
  injection hsend' with hopcode hbody
  rw [← hopcode, ← hbody, hread] at hread'
  injection hread' with hread'
  exact hread'.symm

/-!
# What is sent
-/

theorem perform_of_request {call : AdminCall} {opcode : OpCode} {body : Bytes}
    (h : call.request = Except.ok (opcode, body)) {c : AdminClient}
    (hc : c.authenticated = true) :
    exists c', call.perform c = Except.ok c' ∧
      c'.sent = c.sent ++
        [{ opcode := opcode
           body := body
           streamId := nextStreamId c.streamIdCounter }] := by
  unfold perform
  rw [h]
  show exists c', c.sendRequest opcode body = Except.ok c' ∧ _
  unfold AdminClient.sendRequest
  rw [if_pos hc]
  exact ⟨_, rfl, rfl⟩

theorem request_of_perform {call : AdminCall} {c c' : AdminClient}
    (h : call.perform c = Except.ok c') :
    exists opcode body, call.request = Except.ok (opcode, body) ∧
      c'.sent = c.sent ++
        [{ opcode := opcode
           body := body
           streamId := nextStreamId c.streamIdCounter }] := by
  rcases bind_eq_ok.mp h with ⟨⟨opcode, body⟩, hrequest, hsend⟩
  refine ⟨opcode, body, hrequest, ?_⟩
  have hsend : c.sendRequest opcode body = Except.ok c' := hsend
  unfold AdminClient.sendRequest at hsend
  split at hsend
  · injection hsend with hsend
    rw [← hsend]
  · cases hsend

/-- The call sends one request, and no other call that fits sends one with the
code and the body of it. -/
def SendsOwnRequest (call : AdminCall) : Prop :=
  forall c : AdminClient, c.authenticated = true ->
    exists c' request, call.perform c = Except.ok c' ∧
      c'.sent = c.sent ++ [request] ∧
        forall (other : AdminCall) (d d' : AdminClient)
          (request' : FrameRequest), other.Fits ->
            other.perform d = Except.ok d' -> d'.sent = d.sent ++ [request'] ->
              request'.opcode = request.opcode ->
                request'.body = request.body -> other = call

/-- Exactly the calls of the tenant and the credential lifecycle send a request
of their own; the others raise before they send anything. -/
theorem sendsOwnRequest_iff (call : AdminCall) (hfits : call.Fits) :
    call.SendsOwnRequest <-> call.isLifecycle = true := by
  constructor
  · intro h
    rcases h { authenticated := true } rfl with ⟨c', request, hperform, _⟩
    rcases request_of_perform hperform with ⟨opcode, body, hrequest, _⟩
    exact isLifecycle_of_request hrequest
  · intro hcall c hc
    rcases readCall_request hcall hfits with ⟨opcode, body, hrequest, _⟩
    rcases perform_of_request hrequest hc with ⟨c', hperform, hsent⟩
    refine ⟨c', _, hperform, hsent, ?_⟩
    intro other d d' request' hother hperform' hsent' hopcode hbody
    rcases request_of_perform hperform' with
      ⟨opcode', body', hrequest', hsent⟩
    rw [hsent] at hsent'
    have hsame := List.append_cancel_left hsent'
    injection hsame with hsame
    rw [← hsame] at hopcode hbody
    have hopcode : opcode' = opcode := hopcode
    have hbody : body' = body := hbody
    subst hopcode hbody
    exact request_inj hfits hother hrequest hrequest'

/-- A client id and a secret are updated with a request of their own. -/
theorem sendsOwnRequest_updateCredential :
    (updateCredential (text "c") (some (text "s")) none none
      (some false)).SendsOwnRequest := by
  apply (sendsOwnRequest_iff _ _).mpr
  · rfl
  · refine ⟨?_, ?_⟩
    · intro width s hs
      simp only [strings, Option.toList, List.append_nil, List.map_cons,
        List.map_nil, List.mem_cons, Prod.mk.injEq, List.not_mem_nil,
        or_false] at hs
      rcases hs with ⟨rfl, rfl⟩ | ⟨rfl, rfl⟩
      · exact ⟨by decide, by decide⟩
      · exact ⟨by decide, by decide⟩
    · intro width value hvalue
      cases hvalue

/-- Listing services sends nothing at all. -/
theorem listServices_raises :
    (listServices (text "t")).perform { authenticated := true } =
        Except.error (PyError.valueError "1025 is not a valid OpCode") ∧
      ¬ (listServices (text "t")).SendsOwnRequest := by
  have hraises : (listServices (text "t")).perform { authenticated := true } =
      Except.error (PyError.valueError "1025 is not a valid OpCode") := rfl
  refine ⟨hraises, ?_⟩
  intro h
  rcases h { authenticated := true } rfl with ⟨c', _, hperform, _⟩
  rw [hraises] at hperform
  cases hperform

end AdminCall

end Client
end Hmmp
