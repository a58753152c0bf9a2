import Hmmp.Models.SnapshotReading

/-!
# Readings of filtered snapshots

Every item of a filtered snapshot is laid out with the number of its metadata
entries.  The reader takes the number only where it expects the entries, so
without metadata it takes the numbers for the items that follow.
-/

namespace Hmmp
namespace Models

open Foundation
open Security
open Wire

/-- The values that an item of a filtered snapshot carries. -/
structure FilteredItem where
  item : SnapshotItem
  metadata : SizedEntries 2 2

namespace FilteredItem

/-- The item and the number of its metadata entries, and the entries if they
are asked for. -/
def layout (includeMetadata : Bool) (i : FilteredItem) : Bytes :=
  i.item.layout ++
    if includeMetadata then i.metadata.layout
    else bigEndian 2 i.metadata.entries.length

def instanceOf (lib : IpLib) (includeMetadata : Bool) (serviceName : Text)
    (i : FilteredItem) : ServiceInstance UInt32 :=
  { i.item.instanceOf lib serviceName with
    metadata := if includeMetadata then i.metadata.dict else Dict.empty }

theorem reads (lib : IpLib) (serviceName : Text) (i : FilteredItem) :
    Reads (FilteredServiceSnapshot.readItem lib true serviceName)
      (i.layout true) (i.instanceOf lib true serviceName) := by
  have hentries : Reads
      (FilteredServiceSnapshot.readMetadata i.metadata.entries.length
        Dict.empty)
      (i.metadata.entries.flatMap SizedEntries.layoutEntry)
      i.metadata.dict := by
    rw [← foldl_set_empty i.metadata]
    exact Reads.entries Reads.stringU16 (fun _ => rfl) (fun _ _ => rfl)
      i.metadata.entries Dict.empty
  have hinstance := hentries.map fun metadata =>
    ({ i.item.instanceOf lib serviceName with metadata := metadata } :
      ServiceInstance UInt32)
  exact (i.item.reads lib serviceName).bind
    ((Reads.unsigned i.metadata.few "u16").bind hinstance)

end FilteredItem

/-- The values that a filtered snapshot carries. -/
structure FilteredBody where
  serviceName : SizedText 2
  topologyVersion : UInt64
  totalCount : UInt16
  items : List FilteredItem
  few : items.length < 256 ^ 2

namespace FilteredBody

def header (b : FilteredBody) : Bytes :=
  b.serviceName.layout ++ (bigEndian 8 b.topologyVersion.toNat ++
    (bigEndian 2 b.totalCount.toNat ++ bigEndian 2 b.items.length))

def layout (includeMetadata : Bool) (b : FilteredBody) : Bytes :=
  b.header ++ b.items.flatMap (FilteredItem.layout includeMetadata)

def instances (lib : IpLib) (includeMetadata : Bool) (b : FilteredBody) :
    List (ServiceInstance UInt32) :=
  b.items.map (FilteredItem.instanceOf lib includeMetadata b.serviceName.text)

def snapshot (lib : IpLib) (includeMetadata : Bool) (b : FilteredBody) :
    FilteredServiceSnapshot UInt32 where
  serviceName := b.serviceName.text
  topologyVersion := b.topologyVersion.toNat
  totalCount := b.totalCount.toNat
  instances := b.instances lib includeMetadata

end FilteredBody

/-!
# Items without their numbers
-/

theorem ofCode_eq_ok {code : Nat} {ipType : IpType}
    (h : IpType.ofCode code = Except.ok ipType) : code = ipType.code := by
  unfold IpType.ofCode at h
  split at h
  · rename_i hcode
    injection h with h
    rw [← h, hcode]
  · split at h
    · rename_i hcode
      injection h with h
      rw [← h, hcode]
    · cases h

/-- What was read as an instance is the bytes of an item, up to the health byte
of one that is not healthy. -/
theorem fromSnapshotBytes_eq_ok {lib : IpLib} {serviceName : Text}
    {r r' : BinaryReader} {found : ServiceInstance UInt32}
    (h : (ServiceInstance.fromSnapshotBytes lib serviceName).run r =
      Except.ok (found, r')) :
    exists (i : SnapshotItem) (health : UInt8),
      i.healthy = (health.toNat == 1) ∧
        r.rest = i.layoutWith health ++ r'.rest ∧
          found = i.instanceOf lib serviceName := by
  rcases run_bind_eq_ok h with ⟨code, r₁, hcode, h⟩
  rcases run_bind_eq_ok h with ⟨ipType, r₂, htype, h⟩
  rcases run_bind_eq_ok h with ⟨port, r₃, hport, h⟩
  rcases run_bind_eq_ok h with ⟨health, r₄, hhealth, h⟩
  rcases run_bind_eq_ok h with ⟨octets, r₅, hoctets, h⟩
  rcases run_bind_eq_ok h with ⟨weight, r₆, hweight, h⟩
  rcases run_bind_eq_ok h with ⟨pack, r₇, hpack, h⟩
  rcases run_bind_eq_ok h with ⟨hash, r₈, hhash, h⟩
  injection h with h
  injection h with hfound hr
  subst hfound hr
  rcases run_lift_eq_ok htype with ⟨hofCode, rfl⟩
  unfold BinaryReader.readIp BinaryReader.readBytes at hoctets
  rcases readUnsigned_eq_ok hcode with ⟨_, hcode⟩
  rcases readUnsigned_eq_ok hport with ⟨hport_lt, hport⟩
  rcases readUnsigned_eq_ok hhealth with ⟨hhealth_lt, hhealth⟩
  rcases takeBytes_eq_ok hoctets with ⟨hlength, hoctets⟩
  have hweight := readF32_eq_ok hweight
  rcases readUnsigned_eq_ok hpack with ⟨hpack_lt, hpack⟩
  rcases readUnsigned_eq_ok hhash with ⟨hhash_lt, hhash⟩
  have hport_nat := UInt16.toNat_ofNat_of_lt' hport_lt
  have hhealth_nat := UInt8.toNat_ofNat_of_lt' hhealth_lt
  have hpack_nat := UInt32.toNat_ofNat_of_lt' hpack_lt
  have hhash_nat := UInt64.toNat_ofNat_of_lt' hhash_lt
  refine ⟨{ ipType := ipType
            octets := octets
            octets_length := hlength
            port := UInt16.ofNat port
            healthy := health == 1
            weight := weight
            metricsPack := UInt32.ofNat pack
            metadataHash := UInt64.ofNat hash }, UInt8.ofNat health, ?_, ?_, ?_⟩
  · rw [hhealth_nat]
  · unfold SnapshotItem.layoutWith
    simp only [hport_nat, hhealth_nat, hpack_nat, hhash_nat,
      List.append_assoc]
    rw [hcode, ofCode_eq_ok hofCode, hport, hhealth, hoctets, hweight, hpack,
      hhash]
  · unfold SnapshotItem.instanceOf
    simp only [hport_nat, hpack_nat, hhash_nat]

/-- The bytes begin with the items in a row, up to the health bytes of those
that are not healthy. -/
def BeginsWith : List SnapshotItem -> Bytes -> Prop
  | [], _ => True
  | i :: items, bs =>
      exists health rest, i.healthy = (UInt8.toNat health == 1) ∧
        bs = i.layoutWith health ++ rest ∧ BeginsWith items rest

theorem readMany_iff {lib : IpLib} (hlib : FaithfulIpLib lib)
    (serviceName : Text) (items : List SnapshotItem) (bs : Bytes)
    (position : Nat) :
    (exists r', (BinaryReader.readMany
      (ServiceInstance.fromSnapshotBytes lib serviceName) items.length).run
        { rest := bs, position := position } =
          Except.ok (items.map (SnapshotItem.instanceOf lib serviceName), r')) <->
      BeginsWith items bs := by
  induction items generalizing bs position with
  | nil =>
      constructor
      · intro _
        trivial
      · intro _
        exact ⟨_, rfl⟩
  | cons i items ih =>
      constructor
      · rintro ⟨r', hrun⟩
        rcases run_bind_eq_ok hrun with ⟨first, mid, hfirst, hrun⟩
        rcases run_bind_eq_ok hrun with ⟨others, r₁, hothers, hpure⟩
        injection hpure with hpure
        injection hpure with hlist hr
        injection hlist with hhead htail
        rcases fromSnapshotBytes_eq_ok hfirst with
          ⟨found, health, hhealth, hrest, hfound⟩
        have hsame : found = i := by
          apply SnapshotItem.instanceOf_injective hlib serviceName
          rw [← hfound, hhead]
        subst hsame htail
        rcases mid with ⟨rest, position'⟩
        exact ⟨health, rest, hhealth, hrest,
          (ih rest position').mp ⟨r₁, hothers⟩⟩
      · rintro ⟨health, rest, hhealth, rfl, hbegins⟩
        have hfirst := i.reads_layoutWith lib serviceName hhealth
        rcases (ih rest (position + (i.layoutWith health).length)).mpr hbegins
          with ⟨r', hothers⟩
        refine ⟨r', ?_⟩
        rw [List.length_cons]
        unfold BinaryReader.readMany
        rw [run_bind_of_ok (hfirst.complete rest position),
          run_bind_of_ok hothers]
        rfl

theorem readItem_plain (lib : IpLib) (serviceName : Text) :
    FilteredServiceSnapshot.readItem lib false serviceName =
      ServiceInstance.fromSnapshotBytes lib serviceName :=
  bind_pure _

/-- The items with their numbers begin with the items without them. -/
def NumbersPass (items : List FilteredItem) : Prop :=
  BeginsWith (items.map FilteredItem.item)
    (items.flatMap (FilteredItem.layout false))

theorem numbersPass_of_short {items : List FilteredItem}
    (h : items.length <= 1) : NumbersPass items := by
  rcases items with _ | ⟨i, _ | ⟨j, items⟩⟩
  · trivial
  · refine ⟨if i.item.healthy then 1 else 0,
      bigEndian 2 i.metadata.entries.length, ?_, ?_, trivial⟩
    · cases i.item.healthy with
      | true => rfl
      | false => rfl
    · exact List.append_nil _
  · rw [List.length_cons, List.length_cons] at h
    omega

theorem number_of_numbersPass {i j : FilteredItem}
    {items : List FilteredItem} (h : NumbersPass (i :: j :: items)) :
    i.metadata.entries.length / 256 = j.item.ipType.code := by
  rcases h with ⟨health, rest, _, hfirst, health', rest', _, hsecond, _⟩
  have hlength : (i.item.layoutWith (if i.item.healthy then 1 else 0)).length =
      (i.item.layoutWith health).length := by
    simp [SnapshotItem.layoutWith]
  rw [List.flatMap_cons] at hfirst
  unfold FilteredItem.layout at hfirst
  rw [List.append_assoc] at hfirst
  have hrest := List.append_inj_right hfirst hlength
  rw [hsecond] at hrest
  injection hrest with hbyte _
  have hfew := i.metadata.few
  have hhigh : i.metadata.entries.length / 256 < 256 := by omega
  have hcode : j.item.ipType.code < 256 := by
    cases j.item.ipType with
    | ipv4 => decide
    | ipv6 => decide
  have hnat := congrArg UInt8.toNat hbyte
  rw [UInt8.toNat_ofNat_of_lt' hhigh, UInt8.toNat_ofNat_of_lt' hcode] at hnat
  exact hnat

theorem many_of_numbersPass {i j : FilteredItem} {items : List FilteredItem}
    (h : NumbersPass (i :: j :: items)) : 1024 <= i.metadata.entries.length := by
  have hnumber := number_of_numbersPass h
  have hcode : 4 <= j.item.ipType.code := by
    cases j.item.ipType with
    | ipv4 => decide
    | ipv6 => decide
  omega

namespace FilteredServiceSnapshot

theorem fromBytes_iff (lib : IpLib) (includeMetadata : Bool)
    (b : FilteredBody) :
    fromBytes lib (b.layout includeMetadata) includeMetadata =
        Except.ok (b.snapshot lib includeMetadata) <->
      exists r', (BinaryReader.readMany
        (readItem lib includeMetadata b.serviceName.text) b.items.length).run
          { rest := b.items.flatMap (FilteredItem.layout includeMetadata)
            position := b.header.length } =
              Except.ok (b.instances lib includeMetadata, r') := by
  have hversion : b.topologyVersion.toNat < 256 ^ 8 :=
    b.topologyVersion.toNat_lt
  have htotal : b.totalCount.toNat < 256 ^ 2 := b.totalCount.toNat_lt
  have hname := (Reads.stringU16 b.serviceName).complete
  have hversion := (Reads.unsigned hversion "u64").complete
  have htotal := (Reads.unsigned htotal "u16").complete
  have hcount := (Reads.unsigned b.few "u16").complete
  unfold fromBytes read FilteredBody.layout FilteredBody.header
  unfold BinaryReader.readU64 BinaryReader.readU16 BinaryReader.new
  simp only [List.append_assoc]
  rw [run_bind_of_ok (hname _ 0), run_bind_of_ok (hversion _ _),
    run_bind_of_ok (htotal _ _), run_bind_of_ok (hcount _ _)]
  simp only [List.length_append, Nat.zero_add, Nat.add_assoc]
  constructor
  · intro h
    rcases bind_eq_ok.mp h with ⟨⟨snapshot, r'⟩, hrun, hpure⟩
    rcases run_bind_eq_ok hrun with ⟨instances, r₁, hmany, hbuilt⟩
    injection hbuilt with hbuilt
    injection hbuilt with hsnapshot hr
    injection hpure with hpure
    have hsame := hsnapshot.trans hpure
    injection hsame with _ _ _ hinstances
    rw [hinstances] at hmany
    exact ⟨r₁, hmany⟩
  · rintro ⟨r', hmany⟩
    rw [run_bind_of_ok hmany]
    rfl

/-- A filtered snapshot is read back with metadata, and without if it has a
single item.  Else the number of a first item would have to pass for the next
one, which takes 1024 entries. -/
theorem fromBytes_filtered_iff (lib : IpLib) (hlib : FaithfulIpLib lib)
    (includeMetadata : Bool) (b : FilteredBody) :
    (fromBytes lib (b.layout includeMetadata) includeMetadata =
        Except.ok (b.snapshot lib includeMetadata) <->
      includeMetadata = true ∨ b.items.length <= 1 ∨ NumbersPass b.items) ∧
    forall i j items, b.items = i :: j :: items -> NumbersPass b.items ->
      1024 <= i.metadata.entries.length := by
  constructor
  · rw [fromBytes_iff]
    cases includeMetadata with
    | true =>
        constructor
        · intro _
          exact Or.inl rfl
        · intro _
          have hmany := Reads.many b.items fun i _ =>
            i.reads lib b.serviceName.text
          have hcomplete := hmany.complete [] b.header.length
          rw [List.append_nil] at hcomplete
          exact ⟨_, hcomplete⟩
    | false =>
        have hplain := readMany_iff hlib b.serviceName.text
          (b.items.map FilteredItem.item)
          (b.items.flatMap (FilteredItem.layout false)) b.header.length
        rw [List.length_map, List.map_map] at hplain
        rw [readItem_plain]
        constructor
        · intro h
          exact Or.inr (Or.inr (hplain.mp h))
        · rintro (hfalse | hshort | hpass)
          · cases hfalse
          · exact hplain.mpr (numbersPass_of_short hshort)
          · exact hplain.mpr hpass
  · intro i j items hitems hpass
    rw [hitems] at hpass
    exact many_of_numbersPass hpass

end FilteredServiceSnapshot

/-- Two instances, the first of them with a single entry. -/
def sampleFilteredBody : FilteredBody where
  serviceName := SizedText.letter 1
  topologyVersion := 3
  totalCount := 5
  items :=
    [{ item := ipv4Item
       metadata :=
         { entries := [(SizedText.letter 0, SizedText.letter 1)]
           distinct := by decide
           few := by decide } },
      { item := ipv6Item
        metadata := { entries := [], distinct := by decide, few := by decide } }]
  few := by decide

theorem FilteredServiceSnapshot.fromBytes_filtered_sample :
    FilteredServiceSnapshot.fromBytes plainIpLib
        (sampleFilteredBody.layout true) true =
      Except.ok (sampleFilteredBody.snapshot plainIpLib true) ∧
    FilteredServiceSnapshot.fromBytes plainIpLib
        (sampleFilteredBody.layout false) false ≠
      Except.ok (sampleFilteredBody.snapshot plainIpLib false) := by
  have htrue := FilteredServiceSnapshot.fromBytes_filtered_iff plainIpLib
    plainIpLib_faithful true sampleFilteredBody
  have hfalse := FilteredServiceSnapshot.fromBytes_filtered_iff plainIpLib
    plainIpLib_faithful false sampleFilteredBody
  refine ⟨htrue.1.mpr (Or.inl rfl), ?_⟩
  intro hread
  rcases hfalse.1.mp hread with hflag | hshort | hpass
  · cases hflag
  · exact absurd hshort (by decide)
  · exact absurd (hfalse.2 _ _ _ rfl hpass) (by decide)

/-- Without metadata the number of the first item is taken for the type of the
second one. -/
theorem FilteredServiceSnapshot.fromBytes_filtered_raises :
    FilteredServiceSnapshot.fromBytes plainIpLib
        (sampleFilteredBody.layout false) false =
      Except.error (PyError.valueError "0 is not a valid IpType") ∧
    FilteredServiceSnapshot.fromBytes plainIpLib
        (sampleFilteredBody.layout false) false ≠
      Except.ok (sampleFilteredBody.snapshot plainIpLib false) := by
  have hraises : FilteredServiceSnapshot.fromBytes plainIpLib
      (sampleFilteredBody.layout false) false =
        Except.error (PyError.valueError "0 is not a valid IpType") := rfl
  refine ⟨hraises, ?_⟩
  rw [hraises]
  intro h
  cases h

end Models
end Hmmp
