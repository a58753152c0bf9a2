import Mathlib.Data.List.Perm.Subperm
import Hmmp.Wire.GovernanceParsing

/-!
# Governance blocks read back

What a block writes is a row of complete entries, and storing them one after
another, from the empty block on, gives the block again.
-/

namespace Hmmp
namespace Wire

open Foundation

/-- A block whose fields have the sizes of their formats. -/
structure SizedBlock where
  block : GovernanceBlock
  trace_length : forall t, block.traceContext = some t ->
    t.traceId.length = 16 ∧ t.spanId.length = 8
  traffic_length : forall c, block.trafficColoring = some c ->
    exists encoded, encodeUtf8 c.tag = some encoded ∧ encoded.length <= 255
  metrics_lt : forall m, block.methodMetrics = some m ->
    m.queueDurationUs < 2 ^ 32 ∧ m.executionDurationMs < 2 ^ 32
  token_length : forall q, block.tenantQuotaToken = some q ->
    q.token.length = 16
  unknown_tag : forall tag, tag ∈ block.unknownTags.keys ->
    tag = 0 ∨ (5 <= tag ∧ tag <= 255)
  unknown_length : forall entry, entry ∈ block.unknownTags.entries ->
    entry.2.length <= 65535

theorem fixedBytes_of_length {n : Nat} {bs : Bytes} (h : bs.length = n) :
    fixedBytes n bs = bs := by
  subst h
  simp [fixedBytes]

/-!
# Fields read back
-/

theorem slice_pair {first second : Bytes} {mid stop : Nat}
    (hfirst : first.length = mid) (hsecond : mid + second.length = stop) :
    slice (first ++ second) 0 mid = first ∧
      slice (first ++ second) mid stop = second := by
  subst hfirst
  subst hsecond
  simp [slice]

theorem TraceContext.fromBytes_fixed {t : TraceContext}
    (htrace : t.traceId.length = 16) (hspan : t.spanId.length = 8) :
    fromBytes t.toBytes = Except.ok t := by
  rw [toBytes, fixedBytes_of_length htrace, fixedBytes_of_length hspan]
  have hslices := slice_pair htrace
    (show 16 + t.spanId.length = 24 by omega)
  have hlong : ¬ (t.traceId ++ t.spanId).length < 24 := by
    rw [List.length_append]
    omega
  rw [fromBytes, if_neg hlong, hslices.1, hslices.2]
  rfl

theorem TrafficColoring.fromBytes_encoded {c : TrafficColoring}
    {encoded : Bytes} (h : encodeUtf8 c.tag = some encoded) :
    fromBytes encoded = Except.ok c := by
  unfold fromBytes BinaryReader.decodeString
  rw [decodeUtf8_encodeUtf8 h]
  rfl

theorem MethodMetrics.fromBytes_packed {m : MethodMetrics}
    (hqueue : m.queueDurationUs < 256 ^ 4)
    (hexec : m.executionDurationMs < 256 ^ 4) :
    fromBytes (bigEndian 4 m.queueDurationUs ++
      bigEndian 4 m.executionDurationMs) = Except.ok m := by
  have hslices := slice_pair (bigEndian_length 4 m.queueDurationUs)
    (show 4 + (bigEndian 4 m.executionDurationMs).length = 8 by simp)
  have hlong : ¬ (bigEndian 4 m.queueDurationUs ++
      bigEndian 4 m.executionDurationMs).length < 8 := by
    simp
  rw [fromBytes, if_neg hlong, hslices.1, hslices.2, fromBigEndian_bigEndian,
    fromBigEndian_bigEndian, Nat.mod_eq_of_lt hqueue, Nat.mod_eq_of_lt hexec]
  rfl

theorem TenantQuotaToken.fromBytes_fixed {q : TenantQuotaToken}
    (h : q.token.length = 16) : fromBytes q.toBytes = Except.ok q := by
  have hall : slice q.token 0 16 = q.token := by
    simp [slice, ← h]
  have hlong : ¬ q.token.length < 16 := by omega
  rw [toBytes, fixedBytes_of_length h, fromBytes, if_neg hlong, hall]
  rfl

/-!
# Writes that store
-/

/--
The writes emit at most {lit}`n` complete entries, which lead the parser from
one block to another.
-/
def Stores (writes : Writing Unit) (n : Nat)
    (block block' : GovernanceBlock) : Prop :=
  exists entries : List TlvEntry,
    Emits writes (some (TlvEntry.concat entries)) ∧ entries.length <= n ∧
      block.assignAll entries = Except.ok block'

namespace Stores

theorem pure (block : GovernanceBlock) :
    Stores (Pure.pure ()) 0 block block :=
  ⟨[], Emits.pure, Nat.le_refl 0, rfl⟩

theorem bind {writes writes' : Writing Unit} {n n' : Nat}
    {block block' block'' : GovernanceBlock}
    (h : Stores writes n block block')
    (h' : Stores writes' n' block' block'') :
    Stores (do writes; writes') (n + n') block block'' := by
  rcases h with ⟨entries, hemits, hcount, hassign⟩
  rcases h' with ⟨entries', hemits', hcount', hassign'⟩
  refine ⟨entries ++ entries', ?_, ?_, ?_⟩
  · have hconcat : TlvEntry.concat (entries ++ entries') =
        TlvEntry.concat entries ++ TlvEntry.concat entries' :=
      List.flatMap_append
    rw [hconcat]
    exact hemits.bind hemits'
  · rw [List.length_append]
    omega
  · unfold GovernanceBlock.assignAll at hassign hassign' ⊢
    rw [List.foldlM_append, hassign]
    exact hassign'

theorem writeEntry {tag : Nat} {value : Bytes} (htag : tag < 256)
    (hvalue : value.length <= 65535) {block block' : GovernanceBlock}
    (h : block.assign tag value = Except.ok block') :
    Stores (GovernanceBlock.writeEntry tag value) 1 block block' := by
  let entry : TlvEntry :=
    { tag := tag, value := value, tag_lt := htag, value_length := hvalue }
  refine ⟨[entry], ?_, Nat.le_refl 1, ?_⟩
  · have hbytes : TlvEntry.concat [entry] =
        bigEndian 1 tag ++ (bigEndian 2 value.length ++ value) :=
      List.append_nil _
    rw [hbytes]
    exact (Emits.writeCount 1 tag).bind
      ((Emits.writeCount 2 value.length).bind (Emits.writeBytes value))
  · unfold GovernanceBlock.assignAll
    rw [List.foldlM_cons]
    show (block.assign tag value >>= fun block => Except.ok block) = _
    rw [h]
    rfl

theorem writeField {α : Type} {tag : GovernanceTag}
    {toBytes : α -> Except PyError Bytes} {a? : Option α}
    {block block' : GovernanceBlock}
    (hsome : forall a, a? = some a ->
      exists value, toBytes a = Except.ok value ∧ value.length <= 65535 ∧
        block.assign tag.code value = Except.ok block')
    (hnone : a? = none -> block' = block) :
    Stores (GovernanceBlock.writeField tag toBytes a?) 1 block block' := by
  cases a? with
  | none =>
      rw [hnone rfl]
      exact ⟨[], Emits.pure, Nat.zero_le 1, rfl⟩
  | some a =>
      rcases hsome a rfl with ⟨value, hvalue, hlength, hassign⟩
      have htag : tag.code < 256 := by cases tag <;> decide
      simp only [GovernanceBlock.writeField, hvalue]
      exact writeEntry htag hlength hassign

/-!
The four known fields, each stored in a block that has none yet.
-/

theorem traceContext (block : GovernanceBlock) {t? : Option TraceContext}
    (h : forall t, t? = some t ->
      t.traceId.length = 16 ∧ t.spanId.length = 8)
    (hempty : block.traceContext = none) :
    Stores
      (GovernanceBlock.writeField GovernanceTag.traceContext
        (fun t => Pure.pure (TraceContext.toBytes t)) t?) 1
      block { block with traceContext := t? } := by
  refine writeField (fun t ht => ?_) (fun hnone => by rw [hnone, ← hempty])
  rcases h t ht with ⟨hid, hspan⟩
  refine ⟨t.toBytes, rfl, by simp [TraceContext.toBytes], ?_⟩
  simp [GovernanceBlock.assign, TraceContext.fromBytes_fixed hid hspan, ht]

theorem trafficColoring (block : GovernanceBlock)
    {c? : Option TrafficColoring}
    (h : forall c, c? = some c ->
      exists encoded, encodeUtf8 c.tag = some encoded ∧
        encoded.length <= 255)
    (hempty : block.trafficColoring = none) :
    Stores
      (GovernanceBlock.writeField GovernanceTag.trafficColoring
        TrafficColoring.toBytes c?) 1
      block { block with trafficColoring := c? } := by
  refine writeField (fun c hc => ?_) (fun hnone => by rw [hnone, ← hempty])
  rcases h c hc with ⟨encoded, hencoded, hshort⟩
  refine ⟨encoded, ?_, by omega, ?_⟩
  · unfold TrafficColoring.toBytes
    rw [BinaryWriter.encodeString_eq_ok.mpr hencoded]
    show Except.ok (encoded.take 255) = _
    rw [List.take_of_length_le hshort]
  · simp [GovernanceBlock.assign, GovernanceTag.code,
      TrafficColoring.fromBytes_encoded hencoded, hc]

theorem methodMetrics (block : GovernanceBlock) {m? : Option MethodMetrics}
    (h : forall m, m? = some m ->
      m.queueDurationUs < 2 ^ 32 ∧ m.executionDurationMs < 2 ^ 32)
    (hempty : block.methodMetrics = none) :
    Stores
      (GovernanceBlock.writeField GovernanceTag.methodMetrics
        MethodMetrics.toBytes m?) 1
      block { block with methodMetrics := m? } := by
  refine writeField (fun m hm => ?_) (fun hnone => by rw [hnone, ← hempty])
  rcases h m hm with ⟨hqueue, hexec⟩
  refine ⟨bigEndian 4 m.queueDurationUs ++
    bigEndian 4 m.executionDurationMs, ?_, by simp, ?_⟩
  · simp only [MethodMetrics.toBytes, @packUnsigned_of_lt 4 _ hqueue,
      @packUnsigned_of_lt 4 _ hexec]
    rfl
  · simp [GovernanceBlock.assign, GovernanceTag.code,
      MethodMetrics.fromBytes_packed hqueue hexec, hm]

theorem tenantQuotaToken (block : GovernanceBlock)
    {q? : Option TenantQuotaToken}
    (h : forall q, q? = some q -> q.token.length = 16)
    (hempty : block.tenantQuotaToken = none) :
    Stores
      (GovernanceBlock.writeField GovernanceTag.tenantQuotaToken
        (fun q => Pure.pure (TenantQuotaToken.toBytes q)) q?) 1
      block { block with tenantQuotaToken := q? } := by
  refine writeField (fun q hq => ?_) (fun hnone => by rw [hnone, ← hempty])
  refine ⟨q.toBytes, rfl, by simp [TenantQuotaToken.toBytes], ?_⟩
  simp [GovernanceBlock.assign, GovernanceTag.code,
    TenantQuotaToken.fromBytes_fixed (h q hq), hq]

theorem writeUnknown (block : GovernanceBlock) {d d' : Dict Nat Bytes}
    {entries : List (Nat × Bytes)} (hd : d'.entries = d.entries ++ entries)
    (htag : forall entry, entry ∈ entries ->
      entry.1 = 0 ∨ (5 <= entry.1 ∧ entry.1 <= 255))
    (hlength : forall entry, entry ∈ entries -> entry.2.length <= 65535) :
    Stores
      (entries.forM fun entry =>
        GovernanceBlock.writeEntry entry.1 entry.2)
      entries.length { block with unknownTags := d }
      { block with unknownTags := d' } := by
  induction entries generalizing d with
  | nil =>
      have heq : d' = d := Dict.eq_of_entries (by simpa using hd)
      rw [heq]
      exact Stores.pure _
  | cons entry entries ih =>
      rcases entry with ⟨tag, value⟩
      have hunknown := htag (tag, value) List.mem_cons_self
      have hnew : tag ∉ d.entries.map Prod.fst := by
        have hnodup := d'.nodup
        rw [hd, List.map_append, List.nodup_append] at hnodup
        intro hmem
        exact hnodup.2.2 tag hmem tag List.mem_cons_self rfl
      have hset : (d.set tag value).entries = d.entries ++ [(tag, value)] :=
        Dict.setIn_of_notMem value hnew
      have hassign : GovernanceBlock.assign { block with unknownTags := d }
          tag value = Except.ok
            { block with unknownTags := d.set tag value } := by
        refine GovernanceBlock.assign_other _ value ?_ ?_ ?_ ?_ <;> omega
      have hentry := writeEntry (by omega)
        (hlength (tag, value) List.mem_cons_self) hassign
      have hrest := ih (d := d.set tag value)
        (by rw [hd, hset, List.append_assoc]; rfl)
        (fun other hmem => htag other (List.mem_cons_of_mem _ hmem))
        (fun other hmem => hlength other (List.mem_cons_of_mem _ hmem))
      have hboth := hentry.bind hrest
      rw [Nat.add_comm] at hboth
      exact hboth

end Stores

theorem TlvEntry.concat_length_le (entries : List TlvEntry) :
    (concat entries).length <= entries.length * 65538 := by
  induction entries with
  | nil => exact Nat.le_refl 0
  | cons entry entries ih =>
      have hconcat : concat (entry :: entries) =
          entry.bytes ++ concat entries := rfl
      have hvalue := entry.value_length
      rw [hconcat, List.length_append, bytes_length, List.length_cons,
        Nat.add_mul]
      omega

namespace SizedBlock

theorem unknown_count (s : SizedBlock) :
    s.block.unknownTags.entries.length <= 256 := by
  have hsubset : s.block.unknownTags.keys ⊆ List.range 256 := by
    intro tag hmem
    have htag := s.unknown_tag tag hmem
    rw [List.mem_range]
    omega
  have hnodup : s.block.unknownTags.keys.Nodup := s.block.unknownTags.nodup
  have hcount := (hnodup.subperm hsubset).length_le
  rw [List.length_range, Dict.keys, List.length_map] at hcount
  exact hcount

theorem writeBlock_stores (s : SizedBlock) :
    Stores s.block.writeBlock
      (1 + (1 + (1 + (1 + s.block.unknownTags.entries.length)))) {}
      s.block := by
  have htrace := Stores.traceContext {} s.trace_length rfl
  have htraffic := Stores.trafficColoring
    { traceContext := s.block.traceContext } s.traffic_length rfl
  have hmetrics := Stores.methodMetrics
    { traceContext := s.block.traceContext
      trafficColoring := s.block.trafficColoring } s.metrics_lt rfl
  have htoken := Stores.tenantQuotaToken
    { traceContext := s.block.traceContext
      trafficColoring := s.block.trafficColoring
      methodMetrics := s.block.methodMetrics } s.token_length rfl
  have hunknown := @Stores.writeUnknown
    { s.block with unknownTags := Dict.empty } Dict.empty
    s.block.unknownTags _ (List.nil_append _).symm
    (fun entry hmem => s.unknown_tag entry.1 (List.mem_map_of_mem hmem))
    s.unknown_length
  exact htrace.bind (htraffic.bind (hmetrics.bind (htoken.bind hunknown)))

/--
A block is read back from its bytes, and its frame bytes are its bytes behind
their length.
-/
theorem fromBytes_toBytes (s : SizedBlock) :
    exists content, s.block.toBytes = Except.ok content ∧
      GovernanceBlock.fromBytes content = Except.ok s.block ∧
      content.length < 2 ^ 32 ∧
      s.block.toFrameBytes =
        Except.ok (bigEndian 4 content.length ++ content) := by
  rcases s.writeBlock_stores with ⟨entries, hemits, hcount, hassign⟩
  have hunknown := s.unknown_count
  have hshort : (TlvEntry.concat entries).length < 256 ^ 4 := by
    have hlength := TlvEntry.concat_length_le entries
    omega
  have hcontent : s.block.toBytes = Except.ok (TlvEntry.concat entries) :=
    hemits.getvalue_eq_ok.mpr rfl
  refine ⟨TlvEntry.concat entries, hcontent, ?_, hshort, ?_⟩
  · have hparsed := GovernanceBlock.fromBytes_concat entries
      GovernanceBlock.stops_nil
    rw [List.append_nil, hassign] at hparsed
    exact hparsed
  · rw [GovernanceBlock.toFrameBytes, hcontent]
    simp only [bind, Except.bind, packUnsigned_of_lt hshort]
    rfl

/-- A block in which every field is as long as it can be. -/
def full : SizedBlock where
  block :=
    { traceContext :=
        some { traceId := List.replicate 16 1, spanId := List.replicate 8 2 }
      trafficColoring :=
        some { tag := List.replicate 252 (codePointOf 'a') ++
          [codePointOf '€'] }
      methodMetrics :=
        some
          { queueDurationUs := 2 ^ 32 - 1
            executionDurationMs := 2 ^ 32 - 1 }
      tenantQuotaToken := some { token := List.replicate 16 3 }
      unknownTags := (Dict.empty.set 255 []).set 0 (List.replicate 65535 4) }
  trace_length t ht := by
    injection ht with ht
    subst ht
    exact ⟨List.length_replicate, List.length_replicate⟩
  traffic_length c hc := by
    injection hc with hc
    subst hc
    exact ⟨List.replicate 252 97 ++ [0xE2, 0x82, 0xAC], by decide +kernel,
      by decide +kernel⟩
  metrics_lt m hm := by
    injection hm with hm
    subst hm
    exact ⟨by decide, by decide⟩
  token_length q hq := by
    injection hq with hq
    subst hq
    exact List.length_replicate
  unknown_tag tag hmem := by
    have hkeys : tag ∈ [255, 0] := hmem
    simp only [List.mem_cons, List.not_mem_nil, or_false] at hkeys
    rcases hkeys with rfl | rfl
    · exact Or.inr ⟨by decide, Nat.le_refl _⟩
    · exact Or.inl rfl
  unknown_length entry hmem := by
    have hentries : entry ∈ [(255, []), (0, List.replicate 65535 4)] := hmem
    simp only [List.mem_cons, List.not_mem_nil, or_false] at hentries
    rcases hentries with rfl | rfl
    · exact Nat.zero_le _
    · exact Nat.le_of_eq List.length_replicate

theorem fromBytes_toBytes_full :
    exists content, full.block.toBytes = Except.ok content ∧
      GovernanceBlock.fromBytes content = Except.ok full.block := by
  rcases full.fromBytes_toBytes with ⟨content, hwritten, hread, _⟩
  exact ⟨content, hwritten, hread⟩

end SizedBlock

end Wire
end Hmmp
