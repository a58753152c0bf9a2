import Hmmp.Foundation.Separated
import Hmmp.Models.Service
import Hmmp.Security.Crypto
import Hmmp.Wire.FieldReading

/-!
# Readings of snapshots

The layout of a snapshot of any number of instances is read back as these
instances, and a snapshot that is cut off is not read at all.
-/

namespace Hmmp
namespace Models

open Foundation
open Security
open Wire

/-- The address library has different texts for different octets. -/
structure FaithfulIpLib (lib : IpLib) : Prop where
  ipv4_inj : forall x y : Bytes, x.length = IpType.ipv4.width ->
    y.length = IpType.ipv4.width -> lib.ipv4Text x = lib.ipv4Text y -> x = y
  ipv6_inj : forall x y : Bytes, x.length = IpType.ipv6.width ->
    y.length = IpType.ipv6.width -> lib.ipv6Text x = lib.ipv6Text y -> x = y
  disjoint : forall x y : Bytes, x.length = IpType.ipv4.width ->
    y.length = IpType.ipv6.width -> lib.ipv4Text x ≠ lib.ipv6Text y

/-!
# Items
-/

/-- The values that an item of a snapshot carries. -/
structure SnapshotItem where
  ipType : IpType
  octets : Bytes
  octets_length : octets.length = ipType.width
  port : UInt16
  healthy : Bool
  weight : UInt32
  metricsPack : UInt32
  metadataHash : UInt64

namespace SnapshotItem

/-- The bytes of an item with a given health byte. -/
def layoutWith (i : SnapshotItem) (health : UInt8) : Bytes :=
  bigEndian 1 i.ipType.code ++ (bigEndian 2 i.port.toNat ++
    (bigEndian 1 health.toNat ++ (i.octets ++
      (bigEndian 4 i.weight.toNat ++ (bigEndian 4 i.metricsPack.toNat ++
        bigEndian 8 i.metadataHash.toNat)))))

def layout (i : SnapshotItem) : Bytes :=
  i.layoutWith (if i.healthy then 1 else 0)

def instanceOf (lib : IpLib) (serviceName : Text) (i : SnapshotItem) :
    ServiceInstance UInt32 where
  serviceName := serviceName
  ip := bytesToIp lib i.octets i.ipType
  port := i.port.toNat
  weight := i.weight
  healthy := i.healthy
  metricsPack := i.metricsPack.toNat
  metadataHash := i.metadataHash.toNat

theorem reads_layoutWith (lib : IpLib) (serviceName : Text) (i : SnapshotItem)
    {health : UInt8} (h : i.healthy = (health.toNat == 1)) :
    Reads (ServiceInstance.fromSnapshotBytes lib serviceName)
      (i.layoutWith health) (i.instanceOf lib serviceName) := by
  have htype : IpType.ofCode i.ipType.code = Except.ok i.ipType := by
    cases i.ipType <;> rfl
  have hcode : i.ipType.code < 256 ^ 1 := by
    cases i.ipType <;> decide
  have hhealth : health.toNat < 256 ^ 1 := health.toNat_lt
  have hport : i.port.toNat < 256 ^ 2 := i.port.toNat_lt
  have hpack : i.metricsPack.toNat < 256 ^ 4 := i.metricsPack.toNat_lt
  have hhash : i.metadataHash.toNat < 256 ^ 8 := i.metadataHash.toNat_lt
  have hip : Reads (BinaryReader.readIp i.ipType) i.octets i.octets := by
    unfold BinaryReader.readIp
    rw [← i.octets_length]
    exact Reads.bytes i.octets
  have hinstance := (Reads.unsigned hhash "u64").map fun metadataHash =>
    ({ serviceName := serviceName
       ip := bytesToIp lib i.octets i.ipType
       port := i.port.toNat
       weight := i.weight
       healthy := health.toNat == 1
       metricsPack := i.metricsPack.toNat
       metadataHash := metadataHash } : ServiceInstance UInt32)
  unfold instanceOf
  rw [h]
  exact (Reads.unsigned hcode "u8").bind ((Reads.lift htype).bind
    ((Reads.unsigned hport "u16").bind ((Reads.unsigned hhealth "u8").bind
      (hip.bind ((Reads.f32 i.weight).bind
        ((Reads.unsigned hpack "u32").bind hinstance))))))

theorem reads (lib : IpLib) (serviceName : Text) (i : SnapshotItem) :
    Reads (ServiceInstance.fromSnapshotBytes lib serviceName) i.layout
      (i.instanceOf lib serviceName) := by
  apply i.reads_layoutWith
  cases i.healthy with
  | true => rfl
  | false => rfl

theorem bytesToIp_inj {lib : IpLib} (hlib : FaithfulIpLib lib)
    {octets octets' : Bytes} {ipType ipType' : IpType}
    (h : octets.length = ipType.width) (h' : octets'.length = ipType'.width)
    (htext : bytesToIp lib octets ipType = bytesToIp lib octets' ipType') :
    octets = octets' ∧ ipType = ipType' := by
  cases ipType with
  | ipv4 =>
      cases ipType' with
      | ipv4 => exact ⟨hlib.ipv4_inj _ _ h h' htext, rfl⟩
      | ipv6 => exact absurd htext (hlib.disjoint _ _ h h')
  | ipv6 =>
      cases ipType' with
      | ipv4 => exact absurd htext.symm (hlib.disjoint _ _ h' h)
      | ipv6 => exact ⟨hlib.ipv6_inj _ _ h h' htext, rfl⟩

theorem instanceOf_injective {lib : IpLib} (hlib : FaithfulIpLib lib)
    (serviceName : Text) :
    Function.Injective (instanceOf lib serviceName) := by
  intro i j h
  rcases i with ⟨ipType, octets, hoctets, port, healthy, weight, pack, hash⟩
  rcases j with
    ⟨ipType', octets', hoctets', port', healthy', weight', pack', hash'⟩
  unfold instanceOf at h
  injection h with _ hip hport hweight _ hhealthy _ hhash hpack
  rcases bytesToIp_inj hlib hoctets hoctets' hip with ⟨rfl, rfl⟩
  have hport := UInt16.toNat_inj.mp hport
  have hpack := UInt32.toNat_inj.mp hpack
  have hhash := UInt64.toNat_inj.mp hhash
  subst hport hpack hhash hweight hhealthy
  rfl

end SnapshotItem

/-!
# Snapshots
-/

/-- The values that a snapshot carries. -/
structure SnapshotBody where
  serviceName : SizedText 2
  topologyVersion : UInt64
  items : List SnapshotItem
  few : items.length < 256 ^ 2

namespace SnapshotBody

def layout (b : SnapshotBody) : Bytes :=
  b.serviceName.layout ++ (bigEndian 8 b.topologyVersion.toNat ++
    (bigEndian 2 b.items.length ++ b.items.flatMap SnapshotItem.layout))

def snapshot (lib : IpLib) (b : SnapshotBody) : ServiceSnapshot UInt32 where
  serviceName := b.serviceName.text
  topologyVersion := b.topologyVersion.toNat
  instances := b.items.map (SnapshotItem.instanceOf lib b.serviceName.text)

theorem reads (lib : IpLib) (b : SnapshotBody) :
    Reads (ServiceSnapshot.read lib) b.layout (b.snapshot lib) := by
  have hversion : b.topologyVersion.toNat < 256 ^ 8 :=
    b.topologyVersion.toNat_lt
  have hinstances := (Reads.many b.items fun i _ =>
    i.reads lib b.serviceName.text).map fun instances =>
      ({ serviceName := b.serviceName.text
         topologyVersion := b.topologyVersion.toNat
         instances := instances } : ServiceSnapshot UInt32)
  exact (Reads.stringU16 b.serviceName).bind
    ((Reads.unsigned hversion "u64").bind
      ((Reads.unsigned b.few "u16").bind hinstances))

theorem snapshot_injective {lib : IpLib} (hlib : FaithfulIpLib lib) :
    Function.Injective (snapshot lib) := by
  intro b b' h
  rcases b with ⟨serviceName, topologyVersion, items, few⟩
  rcases b' with ⟨serviceName', topologyVersion', items', few'⟩
  unfold snapshot at h
  injection h with hname hversion hitems
  have hname := SizedText.ext hname
  have hversion := UInt64.toNat_inj.mp hversion
  subst hname hversion
  have hitems := List.map_injective_iff.mpr
    (SnapshotItem.instanceOf_injective hlib serviceName.text) hitems
  subst hitems
  rfl

end SnapshotBody

namespace ServiceSnapshot

/-- A snapshot is read back from its layout, whatever follows, and determines
the values laid out; a layout that is cut off is not read. -/
theorem fromBytes_snapshotLayout (lib : IpLib) (hlib : FaithfulIpLib lib)
    (b : SnapshotBody) :
    (forall tail, fromBytes lib (b.layout ++ tail) =
      Except.ok (b.snapshot lib)) ∧
    (forall b', b'.snapshot lib = b.snapshot lib -> b' = b) ∧
    forall n, n < b.layout.length -> exists message,
      fromBytes lib (b.layout.take n) =
        Except.error (PyError.eofError message) := by
  have hreads := b.reads lib
  refine ⟨?_, ?_, ?_⟩
  · intro tail
    unfold fromBytes
    rw [BinaryReader.new, hreads.complete tail 0]
    rfl
  · intro b' h
    exact SnapshotBody.snapshot_injective hlib h
  · intro n hn
    rcases hreads.cut n 0 hn with ⟨message, hraises⟩
    refine ⟨message, ?_⟩
    unfold fromBytes
    rw [BinaryReader.new, hraises]
    rfl

end ServiceSnapshot

/-!
# An address library
-/

def hextets : Bytes -> List Bytes
  | high :: low :: octets => [high, low] :: hextets octets
  | _ => []

/-- The texts of addresses in full: dotted decimal, and hextets of four digits
between colons. -/
def plainIpLib : IpLib where
  ipv4Text octets := [codePointOf '.'].intercalate
    (octets.map fun octet => decimal octet.toNat)
  ipv6Text octets := [codePointOf ':'].intercalate ((hextets octets).map hex)

theorem flatten_hextets (octets : Bytes) (h : octets.length % 2 = 0) :
    (hextets octets).flatten = octets := by
  induction octets using hextets.induct with
  | case1 high low octets ih =>
      have heven : octets.length % 2 = 0 := by
        rw [List.length_cons, List.length_cons] at h
        omega
      rw [hextets, List.flatten_cons, ih heven]
      rfl
  | case2 octets hshort =>
      rcases octets with _ | ⟨high, _ | ⟨low, octets⟩⟩
      · rfl
      · cases h
      · exact absurd rfl (hshort high low octets)

theorem notMem_hex {c : CodePoint}
    (hdigit : forall n, n < 16 -> c ≠ hexDigit n) (bs : Bytes) :
    c ∉ hex bs := by
  intro hmem
  rcases List.mem_flatMap.mp hmem with ⟨b, _, hb⟩
  have hlt := b.toNat_lt
  rcases List.mem_cons.mp hb with hhigh | hlow
  · exact hdigit _ (by omega) hhigh
  · exact hdigit _ (by omega) (List.mem_singleton.mp hlow)

theorem splitOn_ipv4Text {octets : Bytes} (h : octets ≠ []) :
    (plainIpLib.ipv4Text octets).splitOn (codePointOf '.') =
      octets.map fun octet => decimal octet.toNat := by
  apply List.splitOn_intercalate
  · intro part hpart
    rcases List.mem_map.mp hpart with ⟨octet, _, rfl⟩
    exact notMem_decimal (by decide) _
  · simpa using h

theorem splitOn_ipv6Text {octets : Bytes} (h : hextets octets ≠ []) :
    (plainIpLib.ipv6Text octets).splitOn (codePointOf ':') =
      (hextets octets).map hex := by
  apply List.splitOn_intercalate
  · intro part hpart
    rcases List.mem_map.mp hpart with ⟨bs, _, rfl⟩
    exact notMem_hex (by decide) bs
  · simpa using h

theorem hextets_ne_nil {octets : Bytes}
    (h : octets.length = IpType.ipv6.width) : hextets octets ≠ [] := by
  intro hnil
  have hflat := flatten_hextets octets (by rw [h]; rfl)
  rw [hnil, List.flatten_nil] at hflat
  rw [← hflat] at h
  cases h

theorem plainIpLib_faithful : FaithfulIpLib plainIpLib where
  ipv4_inj x y hx hy htext := by
    have hx : x ≠ [] := List.ne_nil_of_length_eq_add_one hx
    have hy : y ≠ [] := List.ne_nil_of_length_eq_add_one hy
    have hparts := congrArg (List.splitOn (codePointOf '.')) htext
    rw [splitOn_ipv4Text hx, splitOn_ipv4Text hy] at hparts
    apply List.map_injective_iff.mpr _ hparts
    intro a b hab
    exact UInt8.toNat_inj.mp (decimal_injective hab)
  ipv6_inj x y hx hy htext := by
    have hparts := congrArg (List.splitOn (codePointOf ':')) htext
    rw [splitOn_ipv6Text (hextets_ne_nil hx),
      splitOn_ipv6Text (hextets_ne_nil hy)] at hparts
    have hpairs := List.map_injective_iff.mpr hex_injective hparts
    calc
      x = (hextets x).flatten := (flatten_hextets x (by rw [hx]; rfl)).symm
      _ = (hextets y).flatten := by rw [hpairs]
      _ = y := flatten_hextets y (by rw [hy]; rfl)
  disjoint x y hx hy htext := by
    -- A dot is in every dotted text, and in no text with colons.
    have hdot : codePointOf '.' ∈ plainIpLib.ipv4Text x := by
      rcases x with _ | ⟨a, _ | ⟨b, x⟩⟩
      · cases hx
      · cases hx
      · show codePointOf '.' ∈ [codePointOf '.'].intercalate
          (decimal a.toNat :: decimal b.toNat ::
            x.map fun octet => decimal octet.toNat)
        rw [List.intercalate_cons_cons]
        exact List.mem_append_left _
          (List.mem_append_right _ List.mem_cons_self)
    rw [htext] at hdot
    rcases mem_intercalate hdot with hsep | ⟨part, hpart, hmem⟩
    · exact absurd hsep (by decide)
    · rcases List.mem_map.mp hpart with ⟨bs, _, rfl⟩
      exact notMem_hex (by decide) bs hmem

def ipv4Item : SnapshotItem where
  ipType := IpType.ipv4
  octets := [10, 0, 0, 1]
  octets_length := rfl
  port := 8080
  healthy := true
  weight := 0x3F800000
  metricsPack := 5
  metadataHash := 77

/-- A dead instance at 2001:1db8:1001:1002:1003:1004:1005:1006, port 443. -/
def ipv6Item : SnapshotItem where
  ipType := IpType.ipv6
  octets := [0x20, 0x01, 0x1D, 0xB8, 0x10, 0x01, 0x10, 0x02, 0x10, 0x03, 0x10,
    0x04, 0x10, 0x05, 0x10, 0x06]
  octets_length := rfl
  port := 443
  healthy := false
  weight := 0x40000000
  metricsPack := 0
  metadataHash := 0

def sampleBody : SnapshotBody where
  serviceName := SizedText.letter 1
  topologyVersion := 3
  items := [ipv4Item, ipv6Item]
  few := by decide

/-- Both instances are read from the whole layout, and nothing from its first
thirty bytes. -/
theorem ServiceSnapshot.fromBytes_snapshotLayout_sample :
    ServiceSnapshot.fromBytes plainIpLib (sampleBody.layout ++ [1, 2]) =
        Except.ok (sampleBody.snapshot plainIpLib) ∧
      exists message,
        ServiceSnapshot.fromBytes plainIpLib (sampleBody.layout.take 30) =
          Except.error (PyError.eofError message) := by
  have hlayout := ServiceSnapshot.fromBytes_snapshotLayout plainIpLib
    plainIpLib_faithful sampleBody
  exact ⟨hlayout.1 [1, 2], hlayout.2.2 30 (by decide)⟩

end Models
end Hmmp
