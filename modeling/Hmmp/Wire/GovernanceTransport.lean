import Hmmp.Wire.FrameRoundTrip
import Hmmp.Wire.Governance

/-!
# Governance blocks in transport

A block built for a frame, encoded, decoded and parsed again.  The builder and
the frame encoder both write the length of the block, while the frame decoder
strips one length only: the parser starts on the builder's length.
-/

namespace Hmmp
namespace Wire

open Foundation

/-!
# What the builder accepts
-/

/-- A non-empty selection of well-sized governance inputs. -/
structure GovernanceSelection where
  traceContext : Option TraceContext := none
  trafficColoring : Option TrafficColoring := none
  methodMetrics : Option MethodMetrics := none
  tenantQuotaToken : Option TenantQuotaToken := none
  trace_length : forall t, traceContext = some t ->
    t.traceId.length = 16 ∧ t.spanId.length = 8
  traffic_length : forall c, trafficColoring = some c ->
    c.tag ≠ [] ∧
      exists encoded, encodeUtf8 c.tag = some encoded ∧ encoded.length <= 255
  metrics_lt : forall m, methodMetrics = some m ->
    m.queueDurationUs < 2 ^ 32 ∧ m.executionDurationMs < 2 ^ 32
  token_length : forall q, tenantQuotaToken = some q -> q.token.length = 16
  selected : traceContext.isSome ∨ trafficColoring.isSome ∨
    methodMetrics.isSome ∨ tenantQuotaToken.isSome

namespace GovernanceSelection

def block (s : GovernanceSelection) : GovernanceBlock where
  traceContext := s.traceContext
  trafficColoring := s.trafficColoring
  methodMetrics := s.methodMetrics
  tenantQuotaToken := s.tenantQuotaToken

def build (s : GovernanceSelection) : Except PyError (Option Bytes) :=
  buildGovernanceBlock (s.traceContext.map TraceContext.traceId)
    (s.traceContext.map TraceContext.spanId)
    (s.trafficColoring.map TrafficColoring.tag)
    (s.methodMetrics.map MethodMetrics.queueDurationUs)
    (s.methodMetrics.map MethodMetrics.executionDurationMs)
    (s.tenantQuotaToken.map TenantQuotaToken.token)

end GovernanceSelection

/-!
# Size of a built block
-/

def EmitsWithin (writes : Writing Unit) (n : Nat) : Prop :=
  exists bs, Emits writes (some bs) ∧ bs.length <= n

namespace EmitsWithin

theorem bind {writes writes' : Writing Unit} {n n' : Nat}
    (h : EmitsWithin writes n) (h' : EmitsWithin writes' n') :
    EmitsWithin (do writes; writes') (n + n') := by
  rcases h with ⟨bs, hemits, hlen⟩
  rcases h' with ⟨bs', hemits', hlen'⟩
  refine ⟨bs ++ bs', hemits.bind hemits', ?_⟩
  rw [List.length_append]
  omega

theorem writeEntry (tag : Nat) {value : Bytes} {n : Nat}
    (h : value.length <= n) :
    EmitsWithin (GovernanceBlock.writeEntry tag value) (1 + (2 + n)) := by
  have htag : EmitsWithin (BinaryWriter.writeU8 tag) 1 :=
    ⟨_, Emits.writeUnsigned 1 tag, Nat.le_of_eq (bigEndian_length _ _)⟩
  have hlength : EmitsWithin (BinaryWriter.writeU16 value.length) 2 :=
    ⟨_, Emits.writeUnsigned 2 value.length, Nat.le_of_eq (bigEndian_length _ _)⟩
  exact htag.bind (hlength.bind ⟨value, Emits.writeBytes value, h⟩)

theorem writeField {α : Type} (tag : GovernanceTag)
    {toBytes : α -> Except PyError Bytes} {a? : Option α} {n : Nat}
    (h : forall a, a? = some a ->
      exists value, toBytes a = Except.ok value ∧ value.length <= n) :
    EmitsWithin (GovernanceBlock.writeField tag toBytes a?)
      (1 + (2 + n)) := by
  cases a? with
  | none => exact ⟨[], Emits.pure, Nat.zero_le _⟩
  | some a =>
      rcases h a rfl with ⟨value, hvalue, hlen⟩
      simp only [GovernanceBlock.writeField, hvalue]
      exact writeEntry tag.code hlen

end EmitsWithin

namespace GovernanceSelection

theorem toBytes_within (s : GovernanceSelection) :
    exists content, s.block.toBytes = Except.ok content ∧
      content.length <= 315 := by
  have htrace : EmitsWithin
      (GovernanceBlock.writeField GovernanceTag.traceContext
        (fun t => pure (TraceContext.toBytes t)) s.traceContext)
      (1 + (2 + 24)) := by
    refine EmitsWithin.writeField _ fun t _ => ⟨t.toBytes, rfl, ?_⟩
    simp [TraceContext.toBytes]
  have htraffic : EmitsWithin
      (GovernanceBlock.writeField GovernanceTag.trafficColoring
        TrafficColoring.toBytes s.trafficColoring)
      (1 + (2 + 255)) := by
    refine EmitsWithin.writeField _ fun c hc => ?_
    rcases s.traffic_length c hc with ⟨_, encoded, hencoded, _⟩
    refine ⟨encoded.take 255, ?_, List.length_take_le 255 encoded⟩
    simp [TrafficColoring.toBytes, BinaryWriter.encodeString, hencoded]
    rfl
  have hmetrics : EmitsWithin
      (GovernanceBlock.writeField GovernanceTag.methodMetrics
        MethodMetrics.toBytes s.methodMetrics)
      (1 + (2 + 8)) := by
    refine EmitsWithin.writeField _ fun m hm => ?_
    have hlt := s.metrics_lt m hm
    refine ⟨bigEndian 4 m.queueDurationUs ++
      bigEndian 4 m.executionDurationMs, ?_, by simp⟩
    have hqueue := @packUnsigned_of_lt 4 _ hlt.1
    have hexec := @packUnsigned_of_lt 4 _ hlt.2
    simp only [MethodMetrics.toBytes, hqueue, hexec]
    rfl
  have htoken : EmitsWithin
      (GovernanceBlock.writeField GovernanceTag.tenantQuotaToken
        (fun q => pure (TenantQuotaToken.toBytes q)) s.tenantQuotaToken)
      (1 + (2 + 16)) := by
    refine EmitsWithin.writeField _ fun q _ => ⟨q.toBytes, rfl, ?_⟩
    simp [TenantQuotaToken.toBytes]
  have hunknown : EmitsWithin (pure ()) 0 := ⟨[], Emits.pure, Nat.le_refl 0⟩
  have hblock : EmitsWithin s.block.writeBlock _ :=
    htrace.bind (htraffic.bind (hmetrics.bind (htoken.bind hunknown)))
  rcases hblock with ⟨content, hemits, hlen⟩
  exact ⟨content, hemits.getvalue_eq_ok.mpr rfl, hlen⟩

theorem block_not_isEmpty (s : GovernanceSelection) :
    s.block.isEmpty = false := by
  have hselected := s.selected
  unfold GovernanceBlock.isEmpty block
  cases htrace : s.traceContext <;> cases htraffic : s.trafficColoring <;>
    cases hmetrics : s.methodMetrics <;>
      cases htoken : s.tenantQuotaToken <;> simp_all

theorem build_eq (s : GovernanceSelection) :
    s.build = (do
      let bytes ← s.block.toFrameBytes
      pure (some bytes)) := by
  have htrace : (bothPresent
      (nonEmpty (s.traceContext.map TraceContext.traceId))
      (nonEmpty (s.traceContext.map TraceContext.spanId))).map
        (fun ids => ({ traceId := ids.1, spanId := ids.2 } : TraceContext)) =
      s.traceContext := by
    cases h : s.traceContext with
    | none => rfl
    | some t =>
        rcases s.trace_length t h with ⟨hid, hspan⟩
        have hid' : t.traceId ≠ [] := by
          intro hnil
          simp [hnil] at hid
        have hspan' : t.spanId ≠ [] := by
          intro hnil
          simp [hnil] at hspan
        simp only [Option.map_some, nonEmpty_some hid', nonEmpty_some hspan',
          bothPresent]
  have htraffic : (nonEmpty (s.trafficColoring.map TrafficColoring.tag)).map
      (fun tag => ({ tag := tag } : TrafficColoring)) =
        s.trafficColoring := by
    cases h : s.trafficColoring with
    | none => rfl
    | some c =>
        rcases s.traffic_length c h with ⟨hne, _⟩
        simp only [Option.map_some, nonEmpty_some hne]
  have hmetrics : (bothPresent
      (s.methodMetrics.map MethodMetrics.queueDurationUs)
      (s.methodMetrics.map MethodMetrics.executionDurationMs)).map
        (fun durations =>
          ({ queueDurationUs := durations.1
             executionDurationMs := durations.2 } : MethodMetrics)) =
      s.methodMetrics := by
    cases s.methodMetrics <;> rfl
  have htoken : (nonEmpty
      (s.tenantQuotaToken.map TenantQuotaToken.token)).map
        (fun token => ({ token := token } : TenantQuotaToken)) =
      s.tenantQuotaToken := by
    cases h : s.tenantQuotaToken with
    | none => rfl
    | some q =>
        have hlen := s.token_length q h
        have hne : q.token ≠ [] := by
          intro hnil
          simp [hnil] at hlen
        simp only [Option.map_some, nonEmpty_some hne]
  unfold build buildGovernanceBlock
  rw [htrace, htraffic, hmetrics, htoken]
  show (if s.block.isEmpty then _ else _) = _
  rw [s.block_not_isEmpty]
  rfl

theorem build_eq_ok (s : GovernanceSelection) :
    exists content, content.length <= 315 ∧
      s.build = Except.ok
        (some (bigEndian 4 content.length ++ content)) := by
  rcases s.toBytes_within with ⟨content, hcontent, hlen⟩
  have hlt : content.length < 256 ^ 4 := by
    omega
  refine ⟨content, hlen, ?_⟩
  rw [s.build_eq, GovernanceBlock.toFrameBytes, hcontent]
  simp only [bind, Except.bind, packUnsigned_of_lt hlt]
  rfl

end GovernanceSelection

/-!
# Parsing behind a second length
-/

namespace GovernanceBlock

theorem readEntry_append (tag : Nat) (value tail : Bytes) (position : Nat)
    (htag : tag < 256 ^ 1) (hlen : value.length < 256 ^ 2) :
    readEntry.run
        { rest := bigEndian 1 tag ++
            (bigEndian 2 value.length ++ (value ++ tail))
          position := position } =
      Except.ok ((tag, value),
        { rest := tail, position := position + 1 + 2 + value.length }) := by
  unfold readEntry BinaryReader.readU8 BinaryReader.readU16
    BinaryReader.readBytes
  rw [run_bind_of_ok (BinaryReader.readUnsigned_append htag _ _ _),
    run_bind_of_ok (BinaryReader.readUnsigned_append hlen _ _ _),
    run_bind_of_ok (BinaryReader.takeBytes_append _ _ _ _)]
  rfl

theorem assign_unknown {block block' : GovernanceBlock} {tag : Nat}
    {value : Bytes} (h : block.assign tag value = Except.ok block')
    {unknown : Nat} (hunknown : (block.unknownTags.get? unknown).isSome) :
    (block'.unknownTags.get? unknown).isSome := by
  have hkeep : forall {α : Type} {parse : Except PyError α}
      {store : α -> GovernanceBlock},
      (forall a, (store a).unknownTags = block.unknownTags) ->
      (parse >>= fun a => pure (store a)) = Except.ok block' ->
      (block'.unknownTags.get? unknown).isSome := by
    intro α parse store hstore hok
    cases parse with
    | error e => cases hok
    | ok a =>
        injection hok with hok
        rw [← hok, hstore a]
        exact hunknown
  unfold assign at h
  split at h
  · exact hkeep (by intro; rfl) h
  · split at h
    · exact hkeep (by intro; rfl) h
    · split at h
      · exact hkeep (by intro; rfl) h
      · split at h
        · exact hkeep (by intro; rfl) h
        · injection h with h
          rw [← h]
          show ((block.unknownTags.set tag value).get? unknown).isSome
          rw [Dict.get?_set]
          split
          · rfl
          · exact hunknown

theorem parseEntries_unknown {rounds : Nat} {reader : BinaryReader}
    {block block' : GovernanceBlock}
    (h : parseEntries rounds reader block = Except.ok block')
    {unknown : Nat} (hunknown : (block.unknownTags.get? unknown).isSome) :
    (block'.unknownTags.get? unknown).isSome := by
  induction rounds generalizing reader block with
  | zero =>
      injection h with h
      rw [← h]
      exact hunknown
  | succ rounds ih =>
      unfold parseEntries at h
      split at h
      · injection h with h
        rw [← h]
        exact hunknown
      · split at h
        · injection h with h
          rw [← h]
          exact hunknown
        · cases h
        · rename_i tag value reader' hread
          cases hassign : block.assign tag value with
          | error e =>
              rw [hassign] at h
              cases h
          | ok next =>
              rw [hassign] at h
              exact ih h (assign_unknown hassign hunknown)

/-- A four-byte length is a tag byte, a two-byte length and one more byte. -/
theorem bigEndian_four (n : Nat) :
    bigEndian 4 n =
      bigEndian 1 (n / 2 ^ 24) ++ (bigEndian 2 (n / 2 ^ 8) ++ bigEndian 1 n) := by
  simp [bigEndian, Nat.div_div_eq_div_mul]

/--
Parsing content that still carries its length finds an entry of tag 0, whose
length is made of the middle bytes of the length of the content.
-/
theorem fromBytes_length_append {content : Bytes}
    (hlen : content.length < 2 ^ 24) {block : GovernanceBlock}
    (h : fromBytes (bigEndian 4 content.length ++ content) =
      Except.ok block) :
    (block.unknownTags.get? 0).isSome := by
  have htag : content.length / 2 ^ 24 = 0 := Nat.div_eq_of_lt hlen
  generalize hafter : bigEndian 1 content.length ++ content = after
  have hafterLen : after.length = 1 + content.length := by
    rw [← hafter]
    simp
  have hshort : content.length / 2 ^ 8 <= after.length := by
    rw [hafterLen]
    omega
  have hvalue : (after.take (content.length / 2 ^ 8)).length =
      content.length / 2 ^ 8 := by
    rw [List.length_take, Nat.min_eq_left hshort]
  have hsplit : bigEndian 4 content.length ++ content =
      bigEndian 1 0 ++
        (bigEndian 2 (after.take (content.length / 2 ^ 8)).length ++
          (after.take (content.length / 2 ^ 8) ++
            after.drop (content.length / 2 ^ 8))) := by
    rw [hvalue, List.take_append_drop, ← hafter, bigEndian_four, htag]
    simp
  have hread := readEntry_append 0 (after.take (content.length / 2 ^ 8))
    (after.drop (content.length / 2 ^ 8)) 0 (by decide)
    (by rw [hvalue]; omega)
  rw [← hsplit] at hread
  have hrounds : (bigEndian 4 content.length ++ content).length =
      content.length + 3 + 1 := by
    simp
    omega
  have hne : (bigEndian 4 content.length ++ content).isEmpty = false := by
    rw [List.isEmpty_eq_false_iff]
    intro hnil
    rw [hnil] at hrounds
    cases hrounds
  unfold fromBytes at h
  rw [hrounds, parseEntries] at h
  simp only [BinaryReader.new, hne, hread] at h
  exact parseEntries_unknown h rfl

end GovernanceBlock

/-!
# A block on its way through a frame
-/

/-- Build a block, send it in a frame, decode the frame and parse the block
that the decoder hands over. -/
def governanceTransport (encoder : FrameEncoder) (msgpack : Msgpack)
    (s : GovernanceSelection) (r : FrameRequest) :
    Except PyError GovernanceBlock := do
  let g ← s.build
  let bytes ← encoder.encode msgpack { r with governanceBlock := g }
  let frame ← FrameDecoder.decode msgpack bytes
  match frame.governanceBlock with
  | some block => parseGovernanceBlock block
  | none => throw PyError.typeError

theorem governanceTransport_eq {encoder : FrameEncoder} {msgpack : Msgpack}
    {s : GovernanceSelection} {r : FrameRequest} {g metaBytes : Bytes}
    (hbuild : s.build = Except.ok (some g))
    (h : encoder.Encodable msgpack { r with governanceBlock := some g }
      metaBytes) :
    governanceTransport encoder msgpack s r = parseGovernanceBlock g := by
  have hsent : FrameRequest.sentGovernance
      { r with governanceBlock := some g } = some g :=
    FrameRequest.sentGovernance_eq h.governance
  unfold governanceTransport
  rw [hbuild]
  simp only [bind, Except.bind, FrameEncoder.encode_eq h,
    FrameDecoder.decode_encode h]
  simp only [FrameEncoder.sentFrame, hsent]

/--
Whatever is selected and whatever frame carries it, the builder returns a
block, and the parser at the other end does not return the selected fields:
what it returns, if it does not raise, has an unknown entry of tag 0.
-/
theorem governanceTransport_misparses (encoder : FrameEncoder)
    (msgpack : Msgpack) (s : GovernanceSelection) :
    exists g, s.build = Except.ok (some g) ∧
      forall (r : FrameRequest) (metaBytes : Bytes),
        encoder.Encodable msgpack { r with governanceBlock := some g }
            metaBytes ->
          governanceTransport encoder msgpack s r ≠ Except.ok s.block ∧
            forall block,
              governanceTransport encoder msgpack s r = Except.ok block ->
                (block.unknownTags.get? 0).isSome := by
  rcases s.build_eq_ok with ⟨content, hlen, hbuild⟩
  refine ⟨_, hbuild, fun r metaBytes h => ?_⟩
  have hunknown : forall block,
      governanceTransport encoder msgpack s r = Except.ok block ->
        (block.unknownTags.get? 0).isSome := by
    intro block hblock
    rw [governanceTransport_eq hbuild h] at hblock
    exact GovernanceBlock.fromBytes_length_append (by omega) hblock
  refine ⟨?_, hunknown⟩
  intro hselected
  have hnone := hunknown s.block hselected
  cases hnone

def quotaSelection : GovernanceSelection where
  tenantQuotaToken := some { token := List.replicate 16 7 }
  trace_length := by simp
  traffic_length := by simp
  metrics_lt := by simp
  token_length := by simp
  selected := by simp

/-- The block the builder returns for the quota token. -/
def quotaBlock : Bytes :=
  [0, 0, 0, 19, 4, 0, 16] ++ List.replicate 16 7

theorem governanceTransport_misparses_quota :
    governanceTransport {} Msgpack.flat quotaSelection (heartbeat 1 none) ≠
      Except.ok quotaSelection.block := by
  rcases governanceTransport_misparses {} Msgpack.flat quotaSelection with
    ⟨g, hbuild, hmisparse⟩
  have hg : g = quotaBlock := by
    injection hbuild with hbuild
    injection hbuild with hbuild
    exact hbuild.symm
  have hencodable := heartbeat_encodable 1 (some quotaBlock)
    (by decide) (by decide) (by decide)
  subst hg
  exact (hmisparse (heartbeat 1 none) heartbeatMetadata hencodable).1

/-- The quota token does not survive the way through a heartbeat frame. -/
theorem quota_token_lost :
    ¬ (forall (encoder : FrameEncoder) (msgpack : Msgpack)
        (s : GovernanceSelection) (r : FrameRequest) (g metaBytes : Bytes),
        s.build = Except.ok (some g) ->
        encoder.Encodable msgpack { r with governanceBlock := some g }
          metaBytes ->
        governanceTransport encoder msgpack s r = Except.ok s.block) := by
  intro hclaim
  have hencodable := heartbeat_encodable 1 (some quotaBlock)
    (by decide) (by decide) (by decide)
  have hparsed := hclaim {} Msgpack.flat quotaSelection (heartbeat 1 none)
    quotaBlock heartbeatMetadata rfl hencodable
  rw [governanceTransport_eq rfl hencodable] at hparsed
  have hlen : (quotaBlock.drop 4).length < 2 ^ 24 := by
    decide
  have hunknown := GovernanceBlock.fromBytes_length_append hlen hparsed
  cases hunknown

end Wire
end Hmmp
