import Hmmp.Client.RequestFraming

/-!
# Registrations and deregistrations

The layouts of the bodies that register an instance, take it back and look a
service up, when they are read back, and the instance each of them names.
-/

namespace Hmmp
namespace Client

open Foundation
open Wire
open Models

/-!
# Layouts
-/

def registerInstanceLayout :
    Codec (Text × ((IpType × Nat × Bool) × Bytes) × UInt32) :=
  (stringLayout 2).seq (addressLayout.seq Codec.word)

/-- An address family, as the type of the addresses in it. -/
def familyLayout : Codec IpType :=
  (Codec.uint 2).imap
    (fun n =>
      if n = AddressFamily.ipv4.code then some IpType.ipv4
      else if n = AddressFamily.ipv6.code then some IpType.ipv6
      else none)
    (fun
      | IpType.ipv4 => some AddressFamily.ipv4.code
      | IpType.ipv6 => some AddressFamily.ipv6.code)
    (by
      intro n ipType
      cases ipType <;> simp only [AddressFamily.code] <;> grind)

/-- A deregistration: service name, address and port. -/
def deregisterLayout : Codec (Text × (IpType × Bytes) × Nat) :=
  (stringLayout 2).seq
    ((familyLayout.bind fun ipType => Codec.raw ipType.width).seq
      (Codec.uint 2))

def discoverServiceBody (serviceName : Text) : Except PyError Bytes :=
  BinaryWriter.getvalue (BinaryWriter.writeStringU16 serviceName)

/-- What tells an instance from every other. -/
structure InstanceName where
  serviceName : Text
  ipType : IpType
  octets : Bytes
  port : Nat
  deriving DecidableEq

def registeredName (body : Bytes) : Option InstanceName := do
  let (serviceName, ((ipType, port, _), octets), _) ←
    registerInstanceLayout.whole.decode body
  some ⟨serviceName, ipType, octets, port⟩

def deregisteredName (body : Bytes) : Option InstanceName := do
  let (serviceName, (ipType, octets), port) ←
    deregisterLayout.whole.decode body
  some ⟨serviceName, ipType, octets, port⟩

/-!
# Framing
-/

/-- The service name and the port fit their fields. -/
def NameFits (i : ServiceInstance UInt32) : Prop :=
  utf8Length i.serviceName < 65536 ∧ i.port < 65536

theorem family_framing (ipType : IpType) :
    Framing
      (BinaryWriter.writeU16
        (if ipType = IpType.ipv4 then AddressFamily.ipv4
          else AddressFamily.ipv6).code)
      (familyLayout.encode ipType) [] True := by
  cases ipType
  · exact (Framing.count 2 1).congr ⟨fun _ => trivial, fun _ => by decide⟩
  · exact (Framing.count 2 2).congr ⟨fun _ => trivial, fun _ => by decide⟩

variable {i : ServiceInstance UInt32} {octets : Bytes} {ipType : IpType}

theorem registerInstance_framing
    (hip : ipToBytes i.ip = Except.ok (octets, ipType)) :
    Framing i.writeRegister
      (registerInstanceLayout.encode
        (i.serviceName, ((ipType, i.port, i.ephemeral), octets), i.weight))
      [i.serviceName] (NameFits i) := by
  have hbody := (Framing.string 2 i.serviceName).bind
    ((ipType_framing ipType).bind ((Framing.count 2 i.port).bind
      ((Framing.flag i.ephemeral).bind
        ((Framing.bytes octets ipType.width).bind
          (Framing.word i.weight)))))
  have hwrites : i.writeRegister = (do
      BinaryWriter.writeStringU16 i.serviceName
      BinaryWriter.writeU8 ipType.code
      BinaryWriter.writeU16 i.port
      BinaryWriter.writeU8 (if i.ephemeral then 1 else 0)
      BinaryWriter.writeBytes octets
      BinaryWriter.writeF32 i.weight) := by
    unfold ServiceInstance.writeRegister
    rw [hip]
    rfl
  have hencode : registerInstanceLayout.encode
      (i.serviceName, ((ipType, i.port, i.ephemeral), octets), i.weight) =
      emissions ((stringLayout 2).encode i.serviceName)
        (emissions
          (emissions
            (emissions (ipTypeLayout.encode ipType)
              (emissions ((Codec.uint 2).encode i.port)
                (Codec.flag.encode i.ephemeral)))
            ((Codec.raw ipType.width).encode octets))
          (Codec.word.encode i.weight)) := rfl
  rw [hwrites, hencode]
  simp only [emissions_assoc]
  apply Framing.congr hbody
  simp [NameFits, ipToBytes_length hip]

theorem deregisterInstance_framing
    (hip : ipToBytes i.ip = Except.ok (octets, ipType)) :
    Framing i.writeDeregister
      (deregisterLayout.encode (i.serviceName, (ipType, octets), i.port))
      [i.serviceName] (NameFits i) := by
  have hbody := (Framing.string 2 i.serviceName).bind
    ((family_framing ipType).bind
      ((Framing.bytes octets ipType.width).bind (Framing.count 2 i.port)))
  have hwrites : i.writeDeregister = (do
      BinaryWriter.writeStringU16 i.serviceName
      BinaryWriter.writeU16
        (if ipType = IpType.ipv4 then AddressFamily.ipv4
          else AddressFamily.ipv6).code
      BinaryWriter.writeBytes octets
      BinaryWriter.writeU16 i.port) := by
    unfold ServiceInstance.writeDeregister
    rw [hip]
    rfl
  have hencode :
      deregisterLayout.encode (i.serviceName, (ipType, octets), i.port) =
      emissions ((stringLayout 2).encode i.serviceName)
        (emissions
          (emissions (familyLayout.encode ipType)
            ((Codec.raw ipType.width).encode octets))
          ((Codec.uint 2).encode i.port)) := rfl
  rw [hwrites, hencode]
  simp only [emissions_assoc]
  apply Framing.congr hbody
  simp [NameFits, ipToBytes_length hip]

theorem registerInstance_framed_iff
    (hip : ipToBytes i.ip = Except.ok (octets, ipType)) :
    FaithfullyFramed i.toRegisterBytes (fun _ => registerInstanceLayout)
        (i.serviceName, ((ipType, i.port, i.ephemeral), octets), i.weight) <->
      (exists s, s ∈ [i.serviceName] ∧ Unencodable s) ∨ NameFits i :=
  faithfullyFramed_iff (fun _ _ => registerInstance_framing hip)
    (fun bs _ => Nat.zero_le bs.length)

theorem deregisterInstance_framed_iff
    (hip : ipToBytes i.ip = Except.ok (octets, ipType)) :
    FaithfullyFramed i.toDeregisterBytes (fun _ => deregisterLayout)
        (i.serviceName, (ipType, octets), i.port) <->
      (exists s, s ∈ [i.serviceName] ∧ Unencodable s) ∨ NameFits i :=
  faithfullyFramed_iff (fun _ _ => deregisterInstance_framing hip)
    (fun bs _ => Nat.zero_le bs.length)

theorem discoverService_framed_iff (serviceName : Text) :
    FaithfullyFramed (discoverServiceBody serviceName)
        (fun _ => stringLayout 2) serviceName <->
      (exists s, s ∈ [serviceName] ∧ Unencodable s) ∨
        utf8Length serviceName < 65536 :=
  faithfullyFramed_iff (fun _ _ => Framing.string 2 serviceName)
    (fun bs _ => Nat.zero_le bs.length)

theorem decode_of_framed {α : Type} {layout : Nat -> Codec α} {a : α}
    {result : Except PyError Bytes} {body : Bytes}
    (h : FaithfullyFramed result layout a)
    (hresult : result = Except.ok body) :
    (layout body.length).whole.decode body = some a := by
  rcases h with ⟨e, herror⟩ | ⟨bs, hbs, hdecode⟩
  · rw [hresult] at herror
    cases herror
  · rw [hresult] at hbs
    injection hbs with hbs
    subst hbs
    exact ((layout body.length).whole.decode_iff a body).mpr
      ((Codec.decode_nil_iff _ a body).mp hdecode)

/-!
# Instances without an address
-/

theorem raises_of_emits_none {writes : Writing Unit} (h : Emits writes none) :
    exists e, BinaryWriter.getvalue writes = Except.error e := by
  cases hresult : BinaryWriter.getvalue writes with
  | error e => exact ⟨e, rfl⟩
  | ok bs => cases h.getvalue_eq_ok.mp hresult

theorem emits_string_throw (s : Text) (e : PyError) :
    Emits (do BinaryWriter.writeStringU16 s; throw e) none := by
  have hthrow : Emits (throw e) none := fun _ => ⟨e, rfl⟩
  have h := (Emits.writeString 2 s).bind hthrow
  rwa [emissions_eq_none.mpr (Or.inr rfl)] at h

theorem no_address_raises {e : PyError}
    (hip : ipToBytes i.ip = Except.error e) :
    (exists e', i.toRegisterBytes = Except.error e') ∧
      (exists e', i.toRegisterWithMetaBytes = Except.error e') ∧
        exists e', i.toDeregisterBytes = Except.error e' := by
  have hthrow := emits_string_throw i.serviceName e
  have hregister : i.writeRegister = (do
      BinaryWriter.writeStringU16 i.serviceName
      throw e) := by
    unfold ServiceInstance.writeRegister
    rw [hip]
    rfl
  have hregisterWithMeta : i.writeRegisterWithMeta = (do
      BinaryWriter.writeStringU16 i.serviceName
      throw e) := by
    unfold ServiceInstance.writeRegisterWithMeta
    rw [hip]
    rfl
  have hderegister : i.writeDeregister = (do
      BinaryWriter.writeStringU16 i.serviceName
      throw e) := by
    unfold ServiceInstance.writeDeregister
    rw [hip]
    rfl
  refine ⟨?_, ?_, ?_⟩
  · unfold ServiceInstance.toRegisterBytes
    rw [hregister]
    exact raises_of_emits_none hthrow
  · unfold ServiceInstance.toRegisterWithMetaBytes
    rw [hregisterWithMeta]
    exact raises_of_emits_none hthrow
  · unfold ServiceInstance.toDeregisterBytes
    rw [hderegister]
    exact raises_of_emits_none hthrow

/-!
# Names
-/

theorem registeredName_of_fits
    (hip : ipToBytes i.ip = Except.ok (octets, ipType)) (hfits : NameFits i)
    {body : Bytes} (hbody : i.toRegisterBytes = Except.ok body) :
    registeredName body = some ⟨i.serviceName, ipType, octets, i.port⟩ := by
  have hframed := (registerInstance_framed_iff hip).mpr (Or.inr hfits)
  unfold registeredName
  rw [decode_of_framed hframed hbody]
  rfl

theorem deregisteredName_of_fits
    (hip : ipToBytes i.ip = Except.ok (octets, ipType)) (hfits : NameFits i)
    {body : Bytes} (hbody : i.toDeregisterBytes = Except.ok body) :
    deregisteredName body = some ⟨i.serviceName, ipType, octets, i.port⟩ := by
  have hframed := (deregisterInstance_framed_iff hip).mpr (Or.inr hfits)
  unfold deregisteredName
  rw [decode_of_framed hframed hbody]
  rfl

theorem address_of_bytes {body : Bytes}
    (h : i.toRegisterBytes = Except.ok body ∨
      i.toRegisterWithMetaBytes = Except.ok body ∨
        i.toDeregisterBytes = Except.ok body) :
    exists octets ipType, ipToBytes i.ip = Except.ok (octets, ipType) := by
  cases hip : ipToBytes i.ip with
  | ok address => exact ⟨address.1, address.2, rfl⟩
  | error e =>
      rcases no_address_raises hip with
        ⟨⟨_, hregister⟩, ⟨_, hregisterWithMeta⟩, _, hderegister⟩
      rw [hregister, hregisterWithMeta, hderegister] at h
      rcases h with h | h | h
      · cases h
      · cases h
      · cases h

/-- The bodies of a registration and of a deregistration are read back exactly
if the service name cannot be encoded or it and the port fit, an instance
without an address is never sent, and a deregistration names the instance that a
registration named exactly if service name, address and port agree. -/
theorem instance_bodies :
    (forall (i : ServiceInstance UInt32) (octets : Bytes) (ipType : IpType),
      ipToBytes i.ip = Except.ok (octets, ipType) ->
        (FaithfullyFramed i.toRegisterBytes (fun _ => registerInstanceLayout)
            (i.serviceName, ((ipType, i.port, i.ephemeral), octets),
              i.weight) <->
          Unencodable i.serviceName ∨ NameFits i) ∧
        (FaithfullyFramed i.toDeregisterBytes (fun _ => deregisterLayout)
            (i.serviceName, (ipType, octets), i.port) <->
          Unencodable i.serviceName ∨ NameFits i)) ∧
    (forall (i : ServiceInstance UInt32) (e : PyError),
      ipToBytes i.ip = Except.error e ->
        (exists e', i.toRegisterBytes = Except.error e') ∧
          (exists e', i.toRegisterWithMetaBytes = Except.error e') ∧
            exists e', i.toDeregisterBytes = Except.error e') ∧
    forall (i j : ServiceInstance UInt32) (body body' : Bytes),
      i.toRegisterBytes = Except.ok body ->
        j.toDeregisterBytes = Except.ok body' ->
          NameFits i -> NameFits j ->
            (deregisteredName body' = registeredName body <->
              j.serviceName = i.serviceName ∧
                ipToBytes j.ip = ipToBytes i.ip ∧ j.port = i.port) := by
  refine ⟨?_, fun i e hip => no_address_raises hip, ?_⟩
  · intro i octets ipType hip
    have hregister := registerInstance_framed_iff (i := i) hip
    have hderegister := deregisterInstance_framed_iff (i := i) hip
    simp only [List.mem_singleton, exists_eq_left] at hregister hderegister
    exact ⟨hregister, hderegister⟩
  · intro i j body body' hbody hbody' hfits hfits'
    rcases address_of_bytes (Or.inl hbody) with ⟨octets, ipType, hip⟩
    rcases address_of_bytes (Or.inr (Or.inr hbody')) with
      ⟨octets', ipType', hip'⟩
    rw [registeredName_of_fits hip hfits hbody,
      deregisteredName_of_fits hip' hfits' hbody', hip, hip']
    simp only [Option.some.injEq, InstanceName.mk.injEq, Except.ok.injEq,
      Prod.mk.injEq]
    constructor
    · rintro ⟨hname, htype, hoctets, hport⟩
      exact ⟨hname, ⟨hoctets, htype⟩, hport⟩
    · rintro ⟨hname, ⟨hoctets, htype⟩, hport⟩
      exact ⟨hname, htype, hoctets, hport⟩

end Client
end Hmmp
