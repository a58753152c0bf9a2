import Hmmp.Client.RequestBodies
import Hmmp.Models.FilterLayout
import Hmmp.Models.Service

/-!
# Framing of request bodies

The specified layouts of four request bodies, and when a body that is sent is
read back by its layout as the arguments of the call.
-/

namespace Hmmp
namespace Client

open Foundation
open Wire
open Models

/-!
# Layouts
-/

def labelLayout : Codec (Text × Text) :=
  (stringLayout 1).seq (stringLayout 1)

/-- A config request: tenant, group, data id, and labels if there are any. -/
def getConfigLayout :
    Codec (Text × Text × Text × Option (List (Text × Text))) :=
  (stringLayout 1).seq ((stringLayout 1).seq ((stringLayout 1).seq
    (Codec.optional Codec.flag
      (Codec.counted (Codec.uint 1) labelLayout))))

/-- The labels of a config request, absent if there are none. -/
def givenLabels (labels : Option (Dict Text Text)) :
    Option (List (Text × Text)) :=
  match labels with
  | some labels =>
      if labels.entries.isEmpty then none else some labels.entries
  | none => none

def listenEntryLayout : Codec ListenConfigEntry :=
  ((stringLayout 1).seq ((stringLayout 1).seq ((stringLayout 1).seq
    (Codec.raw 16)))).imap
    (fun p => some ⟨p.1, p.2.1, p.2.2.1, p.2.2.2⟩)
    (fun e => some (e.tenant, e.group, e.dataId, e.currentMd5))
    (by
      intro fields e
      rcases fields with ⟨tenant, group, dataId, md5⟩
      rcases e with ⟨tenant', group', dataId', md5'⟩
      simp [eq_comm])

def listenLayout : Codec (List ListenConfigEntry) :=
  Codec.counted (Codec.uint 2) listenEntryLayout

def ipTypeLayout : Codec IpType :=
  (Codec.uint 1).imap
    (fun n =>
      if n = IpType.ipv4.code then some IpType.ipv4
      else if n = IpType.ipv6.code then some IpType.ipv6
      else none)
    (fun ipType => some ipType.code)
    (by
      intro n ipType
      cases ipType <;> simp only [IpType.code] <;> grind)

/-- Address type, port and lifetime, and the octets of the address. -/
def addressLayout : Codec ((IpType × Nat × Bool) × Bytes) :=
  (ipTypeLayout.seq ((Codec.uint 2).seq Codec.flag)).bind fun header =>
    Codec.raw header.1.width

def metadataEntryLayout : Codec (Text × Text) :=
  (stringLayout 1).seq (stringLayout 2)

/-- A registration: service name, address, weight and metadata. -/
def registerLayout :
    Codec (Text × ((IpType × Nat × Bool) × Bytes) × UInt32 ×
      List (Text × Text)) :=
  (stringLayout 2).seq (addressLayout.seq (Codec.word.seq
    (Codec.counted (Codec.uint 2) metadataEntryLayout)))

theorem filterLayout_ne_nil (bound : Nat) (e : FilterExpression) :
    (FilterExpression.layout bound).whole.encode e ≠ some [] := by
  intro h
  have hdecode := (FilterExpression.layout bound).decode_encode h
  cases bound <;> cases hdecode

/-- A filtered discovery: tenant, service name, a filter or none, and whether
metadata is wanted.  The nesting of the filter is at most the given bound. -/
def discoverLayout (bound : Nat) :
    Codec (Text × Text × Option FilterExpression × Bool) :=
  (stringLayout 2).seq ((stringLayout 2).seq
    ((Codec.block (Codec.uint 2)
      (Format.optional (FilterExpression.layout bound).whole
        (filterLayout_ne_nil bound))).seq Codec.flag))

/-!
# Config requests
-/

/-- The labels are few enough, and they are short. -/
def LabelsFit (labels : Option (List (Text × Text))) : Prop :=
  forall given, labels = some given ->
    given.length < 256 ∧ forall label, label ∈ given ->
      utf8Length label.1 < 256 ∧ utf8Length label.2 < 256

def labelStrings (labels : Option (List (Text × Text))) : List Text :=
  (labels.getD []).flatMap fun label => [label.1, label.2]

def GetConfigFits (e : ConfigEntry) (labels : Option (Dict Text Text)) :
    Prop :=
  utf8Length e.tenant < 256 ∧ utf8Length e.group < 256 ∧
    utf8Length e.dataId < 256 ∧ LabelsFit (givenLabels labels)

def getConfigStrings (e : ConfigEntry) (labels : Option (Dict Text Text)) :
    List Text :=
  [e.tenant, e.group, e.dataId] ++ labelStrings (givenLabels labels)

theorem label_framing (label : Text × Text) :
    Framing (BinaryWriter.writeLabel label) (labelLayout.encode label)
      [label.1, label.2]
      (utf8Length label.1 < 256 ∧ utf8Length label.2 < 256) :=
  (Framing.string 1 label.1).bind (Framing.string 1 label.2)

theorem writeGetRequest_eq (e : ConfigEntry)
    (labels : Option (Dict Text Text)) :
    e.writeGetRequest labels = (do
      BinaryWriter.writeStringU8 e.tenant
      BinaryWriter.writeStringU8 e.group
      BinaryWriter.writeStringU8 e.dataId
      match givenLabels labels with
      | none => BinaryWriter.writeU8 0
      | some given => do
          BinaryWriter.writeU8 1
          BinaryWriter.writeU8 given.length
          given.forM BinaryWriter.writeLabel) := by
  unfold ConfigEntry.writeGetRequest givenLabels
  cases labels with
  | none => rfl
  | some labels =>
      by_cases hempty : labels.entries.isEmpty
      · simp only [if_pos hempty]
      · simp only [if_neg hempty]

theorem getConfig_framing (e : ConfigEntry)
    (labels : Option (Dict Text Text)) :
    Framing (e.writeGetRequest labels)
      (getConfigLayout.encode
        (e.tenant, e.group, e.dataId, givenLabels labels))
      (getConfigStrings e labels) (GetConfigFits e labels) := by
  rw [writeGetRequest_eq]
  unfold getConfigStrings GetConfigFits
  cases hgiven : givenLabels labels with
  | none =>
      have hbody := (Framing.string 1 e.tenant).bind
        ((Framing.string 1 e.group).bind
          ((Framing.string 1 e.dataId).bind (Framing.byte 0 (by omega))))
      apply Framing.congr hbody
      simp [LabelsFit]
  | some given =>
      have hlabels := Framing.counted 1 given label_framing
      have hbody := (Framing.string 1 e.tenant).bind
        ((Framing.string 1 e.group).bind
          ((Framing.string 1 e.dataId).bind
            ((Framing.byte 1 (by omega)).bind hlabels)))
      apply Framing.congr hbody
      simp [LabelsFit]

theorem getConfig_framed_iff (e : ConfigEntry)
    (labels : Option (Dict Text Text)) :
    FaithfullyFramed (e.toGetRequestBytes labels) (fun _ => getConfigLayout)
        (e.tenant, e.group, e.dataId, givenLabels labels) <->
      (exists s, s ∈ getConfigStrings e labels ∧ Unencodable s) ∨
        GetConfigFits e labels :=
  faithfullyFramed_iff (fun _ _ => getConfig_framing e labels)
    (fun bs _ => Nat.zero_le bs.length)

/-!
# Subscriptions to configurations
-/

def ListenEntryFits (e : ListenConfigEntry) : Prop :=
  utf8Length e.tenant < 256 ∧ utf8Length e.group < 256 ∧
    utf8Length e.dataId < 256 ∧ e.currentMd5.length = 16

def ListenFits (configs : List ListenConfigEntry) : Prop :=
  configs.length < 65536 ∧ forall e, e ∈ configs -> ListenEntryFits e

def listenStrings (configs : List ListenConfigEntry) : List Text :=
  configs.flatMap fun e => [e.tenant, e.group, e.dataId]

theorem listenEntry_framing (e : ListenConfigEntry) :
    Framing (do BinaryWriter.writeBytes (← e.toBytes))
      (listenEntryLayout.encode e) [e.tenant, e.group, e.dataId]
      (ListenEntryFits e) :=
  ((Framing.string 1 e.tenant).bind ((Framing.string 1 e.group).bind
    ((Framing.string 1 e.dataId).bind (Framing.bytes e.currentMd5 16)))).embed

theorem listen_framed_iff (configs : List ListenConfigEntry) :
    FaithfullyFramed (listenConfigBody configs) (fun _ => listenLayout)
        configs <->
      (exists s, s ∈ listenStrings configs ∧ Unencodable s) ∨
        ListenFits configs :=
  faithfullyFramed_iff
    (fun _ _ => Framing.counted 2 configs listenEntry_framing)
    (fun bs _ => Nat.zero_le bs.length)

/-!
# Registrations
-/

def MetadataEntryFits (entry : Text × Text) : Prop :=
  utf8Length entry.1 < 256 ∧ utf8Length entry.2 < 65536

def RegisterFits (i : ServiceInstance UInt32) : Prop :=
  utf8Length i.serviceName < 65536 ∧ i.metadata.entries.length < 65536 ∧
    forall entry, entry ∈ i.metadata.entries -> MetadataEntryFits entry

def registerStrings (i : ServiceInstance UInt32) : List Text :=
  i.serviceName :: i.metadata.entries.flatMap fun entry => [entry.1, entry.2]

theorem metadataEntry_framing (entry : Text × Text) :
    Framing (ServiceInstance.writeMetadataEntry entry)
      (metadataEntryLayout.encode entry) [entry.1, entry.2]
      (MetadataEntryFits entry) :=
  (Framing.string 1 entry.1).bind (Framing.string 2 entry.2)

theorem ipType_framing (ipType : IpType) :
    Framing (BinaryWriter.writeU8 ipType.code) (ipTypeLayout.encode ipType) []
      True := by
  cases ipType
  · exact Framing.byte 4 (by omega)
  · exact Framing.byte 6 (by omega)

theorem register_framing {i : ServiceInstance UInt32} {octets : Bytes}
    {ipType : IpType} (hip : ipToBytes i.ip = Except.ok (octets, ipType))
    (hport : i.port < 65536) :
    Framing i.writeRegisterWithMeta
      (registerLayout.encode
        (i.serviceName, ((ipType, i.port, i.ephemeral), octets), i.weight,
          i.metadata.entries))
      (registerStrings i) (RegisterFits i) := by
  have hbody := (Framing.string 2 i.serviceName).bind
    ((ipType_framing ipType).bind ((Framing.count 2 i.port).bind
      ((Framing.flag i.ephemeral).bind
        ((Framing.bytes octets ipType.width).bind
          ((Framing.word i.weight).bind
            (Framing.counted 2 i.metadata.entries metadataEntry_framing))))))
  have hwrites : i.writeRegisterWithMeta = (do
      BinaryWriter.writeStringU16 i.serviceName
      BinaryWriter.writeU8 ipType.code
      BinaryWriter.writeU16 i.port
      BinaryWriter.writeU8 (if i.ephemeral then 1 else 0)
      BinaryWriter.writeBytes octets
      BinaryWriter.writeF32 i.weight
      BinaryWriter.writeU16 i.metadata.entries.length
      i.metadata.entries.forM ServiceInstance.writeMetadataEntry) := by
    unfold ServiceInstance.writeRegisterWithMeta
    rw [hip]
    rfl
  have hencode : registerLayout.encode
      (i.serviceName, ((ipType, i.port, i.ephemeral), octets), i.weight,
        i.metadata.entries) =
      emissions ((stringLayout 2).encode i.serviceName)
        (emissions
          (emissions
            (emissions (ipTypeLayout.encode ipType)
              (emissions ((Codec.uint 2).encode i.port)
                (Codec.flag.encode i.ephemeral)))
            ((Codec.raw ipType.width).encode octets))
          (emissions (Codec.word.encode i.weight)
            ((Codec.counted (Codec.uint 2) metadataEntryLayout).encode
              i.metadata.entries))) := rfl
  rw [hwrites, hencode]
  simp only [emissions_assoc]
  apply Framing.congr hbody
  simp [RegisterFits, hport, ipToBytes_length hip]

theorem register_framed_iff {i : ServiceInstance UInt32} {octets : Bytes}
    {ipType : IpType} (hip : ipToBytes i.ip = Except.ok (octets, ipType))
    (hport : i.port < 65536) :
    FaithfullyFramed i.toRegisterWithMetaBytes (fun _ => registerLayout)
        (i.serviceName, ((ipType, i.port, i.ephemeral), octets), i.weight,
          i.metadata.entries) <->
      (exists s, s ∈ registerStrings i ∧ Unencodable s) ∨ RegisterFits i :=
  faithfullyFramed_iff (fun _ _ => register_framing hip hport)
    (fun bs _ => Nat.zero_le bs.length)

/-!
# Filtered discovery
-/

/-- The filter is a tree of the grammar that fits, and so does its length. -/
def FilterFits (filterExpr : Option FilterExpression) : Prop :=
  forall e, filterExpr = some e -> e.Fits ∧ e.size < 65536

def filterStrings (filterExpr : Option FilterExpression) : List Text :=
  match filterExpr with
  | some e => e.strings
  | none => []

def DiscoverFits (tenant serviceName : Text)
    (filterExpr : Option FilterExpression) : Prop :=
  utf8Length tenant < 65536 ∧ utf8Length serviceName < 65536 ∧
    FilterFits filterExpr

def discoverStrings (tenant serviceName : Text)
    (filterExpr : Option FilterExpression) : List Text :=
  [tenant, serviceName] ++ filterStrings filterExpr

def filterDepth (filterExpr : Option FilterExpression) : Nat :=
  match filterExpr with
  | some e => e.depth
  | none => 0

def filterSize (filterExpr : Option FilterExpression) : Nat :=
  match filterExpr with
  | some e => e.size
  | none => 0

theorem filterDepth_le_size (filterExpr : Option FilterExpression) :
    filterDepth filterExpr <= filterSize filterExpr := by
  cases filterExpr with
  | none => exact Nat.le_refl 0
  | some e => exact e.depth_le_size

theorem filter_framing (filterExpr : Option FilterExpression) {bound : Nat}
    (hbound : filterDepth filterExpr <= bound) :
    SizedFraming (writeFilter filterExpr)
      ((Codec.block (Codec.uint 2)
        (Format.optional (FilterExpression.layout bound).whole
          (filterLayout_ne_nil bound))).encode filterExpr)
      (filterStrings filterExpr) (FilterFits filterExpr)
      (2 + filterSize filterExpr) := by
  cases filterExpr with
  | none =>
      have hzero := SizedFraming.fixed 2 0
      exact hzero.congr (by simp [FilterFits]) rfl
  | some e =>
      have htree := FilterExpression.write_framing e bound hbound
      have hblock := SizedFraming.embedBlock
        (f := Format.optional (FilterExpression.layout bound).whole
          (filterLayout_ne_nil bound)) (a := some e) 2 htree
      exact hblock.congr (by simp [FilterFits]) rfl

theorem discover_framing (tenant serviceName : Text)
    (filterExpr : Option FilterExpression) (includeMetadata : Bool)
    {bound : Nat} (hbound : filterDepth filterExpr <= bound) :
    SizedFraming
      (writeDiscoverByFilter tenant serviceName filterExpr includeMetadata)
      ((discoverLayout bound).encode
        (tenant, serviceName, filterExpr, includeMetadata))
      (discoverStrings tenant serviceName filterExpr)
      (DiscoverFits tenant serviceName filterExpr)
      (utf8Length tenant + utf8Length serviceName + filterSize filterExpr +
        7) := by
  have hbody := (SizedFraming.string 2 tenant).bind
    ((SizedFraming.string 2 serviceName).bind
      ((filter_framing filterExpr hbound).bind
        (SizedFraming.flag includeMetadata)))
  rw [List.append_nil] at hbody
  exact hbody.congr (by simp [DiscoverFits]) (by omega)

theorem discover_framed_iff (config : ClientConfig) (serviceName : Text)
    (filterExpr : Option FilterExpression) (includeMetadata : Bool)
    (tenant : Option Text) :
    FaithfullyFramed
        (discoverByFilterBody config serviceName filterExpr includeMetadata
          tenant) discoverLayout
        (callTenant config tenant, serviceName, filterExpr,
          includeMetadata) <->
      (exists s,
        s ∈ discoverStrings (callTenant config tenant) serviceName
          filterExpr ∧ Unencodable s) ∨
        DiscoverFits (callTenant config tenant) serviceName filterExpr := by
  apply faithfullyFramed_iff
  · intro bound hbound
    exact (discover_framing _ serviceName filterExpr includeMetadata
      hbound).framing
  · intro bs hbs
    have hlength := (discover_framing (callTenant config tenant) serviceName
      filterExpr includeMetadata (Nat.le_refl _)).getvalue_length hbs
    have hdepth := filterDepth_le_size filterExpr
    omega

/-!
# All four bodies
-/

/-- Whatever the arguments, none of the bodies is silently misframed. -/
def NoneMisframed (config : ClientConfig) : Prop :=
  (forall (e : ConfigEntry) (labels : Option (Dict Text Text)),
    FaithfullyFramed (e.toGetRequestBytes labels) (fun _ => getConfigLayout)
      (e.tenant, e.group, e.dataId, givenLabels labels)) ∧
  (forall configs : List ListenConfigEntry,
    FaithfullyFramed (listenConfigBody configs) (fun _ => listenLayout)
      configs) ∧
  (forall (i : ServiceInstance UInt32) (octets : Bytes) (ipType : IpType),
    ipToBytes i.ip = Except.ok (octets, ipType) -> i.port < 65536 ->
      FaithfullyFramed i.toRegisterWithMetaBytes (fun _ => registerLayout)
        (i.serviceName, ((ipType, i.port, i.ephemeral), octets), i.weight,
          i.metadata.entries)) ∧
  (forall (serviceName : Text) (filterExpr : Option FilterExpression)
      (includeMetadata : Bool) (tenant : Option Text),
    FaithfullyFramed
      (discoverByFilterBody config serviceName filterExpr includeMetadata
        tenant) discoverLayout
      (callTenant config tenant, serviceName, filterExpr, includeMetadata))

/--
Each body is faithfully framed exactly when a string in it cannot be encoded,
so that the call raises, or when every string, count and operator in it fits
its field, digests have sixteen bytes and the filter is a tree of the grammar.
-/
theorem requestBodies_framed_iff (config : ClientConfig) :
    (forall (e : ConfigEntry) (labels : Option (Dict Text Text)),
      FaithfullyFramed (e.toGetRequestBytes labels) (fun _ => getConfigLayout)
          (e.tenant, e.group, e.dataId, givenLabels labels) <->
        (exists s, s ∈ getConfigStrings e labels ∧ Unencodable s) ∨
          GetConfigFits e labels) ∧
    (forall configs : List ListenConfigEntry,
      FaithfullyFramed (listenConfigBody configs) (fun _ => listenLayout)
          configs <->
        (exists s, s ∈ listenStrings configs ∧ Unencodable s) ∨
          ListenFits configs) ∧
    (forall (i : ServiceInstance UInt32) (octets : Bytes) (ipType : IpType),
      ipToBytes i.ip = Except.ok (octets, ipType) -> i.port < 65536 ->
        (FaithfullyFramed i.toRegisterWithMetaBytes (fun _ => registerLayout)
            (i.serviceName, ((ipType, i.port, i.ephemeral), octets), i.weight,
              i.metadata.entries) <->
          (exists s, s ∈ registerStrings i ∧ Unencodable s) ∨
            RegisterFits i)) ∧
    (forall (serviceName : Text) (filterExpr : Option FilterExpression)
        (includeMetadata : Bool) (tenant : Option Text),
      FaithfullyFramed
          (discoverByFilterBody config serviceName filterExpr includeMetadata
            tenant) discoverLayout
          (callTenant config tenant, serviceName, filterExpr,
            includeMetadata) <->
        (exists s,
          s ∈ discoverStrings (callTenant config tenant) serviceName
            filterExpr ∧ Unencodable s) ∨
          DiscoverFits (callTenant config tenant) serviceName filterExpr) := by
  refine ⟨getConfig_framed_iff, listen_framed_iff, ?_,
    discover_framed_iff config⟩
  intro i octets ipType hip hport
  exact register_framed_iff hip hport

def sampleInstance : ServiceInstance UInt32 where
  serviceName := text "orders"
  ip := text "10.0.0.1"
  port := 80
  weight := 0x3F800000
  metadata := Dict.empty.set (text "zone") (text "a")

/-- A registration whose strings are short. -/
theorem requestBodies_framed_iff_sample :
    FaithfullyFramed sampleInstance.toRegisterWithMetaBytes
      (fun _ => registerLayout)
      (sampleInstance.serviceName,
        ((IpType.ipv4, 80, true), [10, 0, 0, 1]), 0x3F800000,
        sampleInstance.metadata.entries) := by
  have hframed := (requestBodies_framed_iff { clientId := [] }).2.2.1
    sampleInstance [10, 0, 0, 1] IpType.ipv4 (by decide +kernel) (by decide)
  apply hframed.mpr
  right
  refine ⟨by decide +kernel, by decide, ?_⟩
  intro entry hentry
  rcases List.mem_singleton.mp hentry with rfl
  constructor <;> decide +kernel

def longTenantEntry : ConfigEntry where
  tenant := List.replicate 256 (codePointOf 'a')
  group := text "g"
  dataId := text "d"

/-- The length of a tenant of 256 characters is written as zero. -/
theorem long_tenant_misframed :
    ¬ forall config : ClientConfig, NoneMisframed config := by
  intro h
  have hframed := (h { clientId := [] }).1 longTenantEntry none
  rcases (getConfig_framed_iff longTenantEntry none).mp hframed with
    ⟨s, hs, hunencodable⟩ | hfits
  · have hencodable : forall t, t ∈ getConfigStrings longTenantEntry none ->
        ¬ Unencodable t := by
      decide +kernel
    exact hencodable s hs hunencodable
  · have hlong : ¬ utf8Length longTenantEntry.tenant < 256 := by
      decide +kernel
    exact hlong hfits.1

end Client
end Hmmp
