import Hmmp.Foundation.TextFile
import Hmmp.Wire.GovernanceParsing

/-!
# Traffic tags cut to length

A traffic tag is cut after 255 bytes of its encoding, wherever in a character
that is, and read back as a whole.
-/

namespace Hmmp
namespace Wire

open Foundation

namespace TrafficColoring

/-!
# Whole characters
-/

/-- The text can be encoded, in 255 bytes or fewer. -/
def Fits (s : Text) : Prop :=
  exists bytes, encodeUtf8 s = some bytes ∧ bytes.length <= 255

/-- The longest part of a tag from its beginning that fits. -/
structure LongestFitting (tag kept : Text) : Prop where
  isPrefix : kept <+: tag
  fits : Fits kept
  longest : forall other, other <+: tag -> Fits other ->
    other.length <= kept.length

/-- The tag is written, and read back as its longest part that fits. -/
def CutWhole (tag : Text) : Prop :=
  exists bytes kept, toBytes { tag := tag } = Except.ok bytes ∧
    fromBytes bytes = Except.ok { tag := kept } ∧ LongestFitting tag kept

/-- The tag can be encoded, and it fits or some part from its beginning takes
255 bytes exactly. -/
def EndsWhole (tag : Text) : Prop :=
  exists encoded, encodeUtf8 tag = some encoded ∧
    (encoded.length <= 255 ∨
      exists front bytes, front <+: tag ∧ encodeUtf8 front = some bytes ∧
        bytes.length = 255)

theorem toBytes_eq_ok {tag : Text} {bytes : Bytes} :
    toBytes { tag := tag } = Except.ok bytes <->
      exists encoded, encodeUtf8 tag = some encoded ∧
        bytes = encoded.take 255 := by
  unfold toBytes
  rw [bind_eq_ok]
  constructor
  · rintro ⟨encoded, hencoded, hbytes⟩
    injection hbytes with hbytes
    exact ⟨encoded, BinaryWriter.encodeString_eq_ok.mp hencoded,
      hbytes.symm⟩
  · rintro ⟨encoded, hencoded, rfl⟩
    exact ⟨encoded, BinaryWriter.encodeString_eq_ok.mpr hencoded, rfl⟩

theorem fromBytes_eq_ok {bytes : Bytes} {kept : Text} :
    fromBytes bytes = Except.ok { tag := kept } <->
      encodeUtf8 kept = some bytes := by
  rw [← decodeUtf8_eq_some_iff]
  unfold fromBytes BinaryReader.decodeString
  cases decodeUtf8 bytes with
  | none =>
      constructor
      · intro h
        cases h
      · intro h
        cases h
  | some value =>
      constructor
      · intro h
        injection h with h
        injection h with h
        rw [h]
      · intro h
        injection h with h
        rw [h]
        rfl

theorem encoded_length_lt {s t : Text} {x y : Bytes} (hfront : s <+: t)
    (hlonger : s.length < t.length) (hs : encodeUtf8 s = some x)
    (ht : encodeUtf8 t = some y) : x.length < y.length := by
  rcases hfront with ⟨rest, rfl⟩
  rcases (Utf8.codePoint.encodeAll_append_eq_some).mp ht with
    ⟨x', back, hx', hback, rfl⟩
  have hsame : x' = x := Option.some.inj (hx'.symm.trans hs)
  rw [hsame, List.length_append]
  have hrest : back ≠ [] := by
    intro hnil
    rw [hnil] at hback
    rw [encodeUtf8_eq_nil_iff.mp hback, List.append_nil] at hlonger
    exact Nat.lt_irrefl _ hlonger
  have hpos := List.length_pos_iff.mpr hrest
  omega

theorem exists_decoded_cut_iff {tag : Text} {encoded : Bytes}
    (hencoded : encodeUtf8 tag = some encoded) :
    (exists kept, encodeUtf8 kept = some (encoded.take 255)) <->
      encoded.length <= 255 ∨
        exists front bytes, front <+: tag ∧ encodeUtf8 front = some bytes ∧
          bytes.length = 255 := by
  constructor
  · rintro ⟨kept, hkept⟩
    by_cases hshort : encoded.length <= 255
    · exact Or.inl hshort
    · right
      refine ⟨kept, encoded.take 255, ?_, hkept, ?_⟩
      · apply Utf8.codePoint.prefix_of_encodeAll Utf8.encodeCodePoint_ne_nil
          hkept (y := encoded.drop 255)
        rw [List.take_append_drop]
        exact hencoded
      · rw [List.length_take]
        omega
  · rintro (hshort | ⟨front, bytes, ⟨rest, rfl⟩, hfront, hlength⟩)
    · exact ⟨tag, by rw [List.take_of_length_le hshort, hencoded]⟩
    · rcases (Utf8.codePoint.encodeAll_append_eq_some).mp hencoded with
        ⟨bytes', back, hbytes', _, rfl⟩
      have hsame : bytes' = bytes :=
        Option.some.inj (hbytes'.symm.trans hfront)
      refine ⟨front, ?_⟩
      rw [hsame, ← hlength, List.take_left]
      exact hfront

theorem longestFitting_of_cut {tag kept : Text} {encoded : Bytes}
    (hencoded : encodeUtf8 tag = some encoded)
    (hkept : encodeUtf8 kept = some (encoded.take 255)) :
    LongestFitting tag kept := by
  have hfront : kept <+: tag := by
    apply Utf8.codePoint.prefix_of_encodeAll Utf8.encodeCodePoint_ne_nil
      hkept (y := encoded.drop 255)
    rw [List.take_append_drop]
    exact hencoded
  refine ⟨hfront, ⟨_, hkept, List.length_take_le 255 encoded⟩, ?_⟩
  rintro other hother ⟨bytes, hbytes, hshort⟩
  by_contra hlonger
  have hlonger : kept.length < other.length := Nat.lt_of_not_le hlonger
  have hgrows := encoded_length_lt
    (List.prefix_of_prefix_length_le hfront hother (Nat.le_of_lt hlonger))
    hlonger hkept hbytes
  have hwhole : bytes.length <= encoded.length := by
    rcases Nat.lt_or_ge other.length tag.length with hlt | hge
    · exact Nat.le_of_lt (encoded_length_lt hother hlt hbytes hencoded)
    · rw [hother.eq_of_length_le hge, hencoded] at hbytes
      injection hbytes with hbytes
      exact Nat.le_of_eq (congrArg List.length hbytes).symm
  rw [List.length_take] at hgrows
  omega

/-- A tag is cut to whole characters exactly when its cut ends with one. -/
theorem cutWhole_iff (tag : Text) : CutWhole tag <-> EndsWhole tag := by
  constructor
  · rintro ⟨bytes, kept, hwritten, hread, _⟩
    rcases toBytes_eq_ok.mp hwritten with ⟨encoded, hencoded, rfl⟩
    have hkept := fromBytes_eq_ok.mp hread
    exact ⟨encoded, hencoded,
      (exists_decoded_cut_iff hencoded).mp ⟨kept, hkept⟩⟩
  · rintro ⟨encoded, hencoded, hends⟩
    rcases (exists_decoded_cut_iff hencoded).mpr hends with ⟨kept, hkept⟩
    exact ⟨_, kept, toBytes_eq_ok.mpr ⟨encoded, hencoded, rfl⟩,
      fromBytes_eq_ok.mpr hkept, longestFitting_of_cut hencoded hkept⟩

end TrafficColoring

/-!
# Readings that ignore their position
-/

/-- What a reading returns, without the position of the reader. -/
def erasePosition {α : Type} (result : Except PyError (α × BinaryReader)) :
    Except PyError (α × Bytes) :=
  result.map fun pair => (pair.1, pair.2.rest)

theorem erasePosition_eq_ok {α : Type}
    {result : Except PyError (α × BinaryReader)} {a : α} {rest : Bytes}
    (h : erasePosition result = Except.ok (a, rest)) :
    exists position,
      result = Except.ok (a, { rest := rest, position := position }) := by
  cases result with
  | error e => cases h
  | ok pair =>
      rcases pair with ⟨a', rest', position⟩
      injection h with h
      injection h with ha hrest
      exact ⟨position, by rw [← ha, ← hrest]⟩

theorem erasePosition_eq_error {α : Type}
    {result : Except PyError (α × BinaryReader)} {e : PyError}
    (h : erasePosition result = Except.error e) : result = Except.error e := by
  cases result with
  | error e' =>
      injection h with h
      rw [h]
  | ok pair => cases h

def PositionFree {α : Type} (reading : Reading α) : Prop :=
  forall rest position position',
    erasePosition (reading.run { rest := rest, position := position }) =
      erasePosition (reading.run { rest := rest, position := position' })

namespace PositionFree

theorem pure {α : Type} (a : α) : PositionFree (Pure.pure a) :=
  fun _ _ _ => rfl

theorem takeBytes (n : Nat) (message : Nat -> String) :
    PositionFree (BinaryReader.takeBytes n message) := by
  intro rest position position'
  by_cases hshort : rest.length < n
  · rw [BinaryReader.takeBytes_short hshort,
      BinaryReader.takeBytes_short hshort]
  · have hlong : n <= rest.length := Nat.le_of_not_lt hshort
    rw [BinaryReader.takeBytes_long hlong, BinaryReader.takeBytes_long hlong]
    rfl

theorem bind {α β : Type} {first : Reading α} {next : α -> Reading β}
    (h : PositionFree first) (h' : forall a, PositionFree (next a)) :
    PositionFree (first >>= next) := by
  intro rest position position'
  have hsame := h rest position position'
  rw [StateT.run_bind, StateT.run_bind]
  cases hfirst : first.run { rest := rest, position := position } with
  | error e =>
      cases hfirst' : first.run { rest := rest, position := position' } with
      | error e' =>
          rw [hfirst, hfirst'] at hsame
          injection hsame with hsame
          rw [hsame]
      | ok pair' =>
          rw [hfirst, hfirst'] at hsame
          cases hsame
  | ok pair =>
      cases hfirst' : first.run { rest := rest, position := position' } with
      | error e' =>
          rw [hfirst, hfirst'] at hsame
          cases hsame
      | ok pair' =>
          rcases pair with ⟨a, rest₁, position₁⟩
          rcases pair' with ⟨a', rest₁', position₁'⟩
          rw [hfirst, hfirst'] at hsame
          injection hsame with hsame
          injection hsame with ha hrest
          subst ha hrest
          exact h' a rest₁ position₁ position₁'

theorem readUnsigned (width : Nat) (name : String) :
    PositionFree (BinaryReader.readUnsigned width name) :=
  (takeBytes width _).bind fun _ => pure _

theorem readEntry : PositionFree GovernanceBlock.readEntry :=
  (readUnsigned 1 "u8").bind fun _ => (readUnsigned 2 "u16").bind fun _ =>
    (takeBytes _ _).bind fun _ => pure _

end PositionFree

namespace GovernanceBlock

/-!
# Accepted bytes
-/

def Returns {α : Type} (result : Except PyError α) : Prop :=
  exists a, result = Except.ok a

theorem returns_bind_iff {α β : Type} {first : Except PyError α}
    {next : α -> Except PyError β} :
    Returns (first >>= next) <->
      exists a, first = Except.ok a ∧ Returns (next a) := by
  constructor
  · rintro ⟨b, hb⟩
    rcases bind_eq_ok.mp hb with ⟨a, hfirst, hnext⟩
    exact ⟨a, hfirst, b, hnext⟩
  · rintro ⟨a, hfirst, b, hnext⟩
    exact ⟨b, bind_eq_ok.mpr ⟨a, hfirst, hnext⟩⟩

theorem returns_bind_pure {α β : Type} (parsed : Except PyError α)
    (store : α -> β) :
    Returns (parsed >>= fun a => pure (store a)) <-> Returns parsed := by
  rw [returns_bind_iff]
  constructor
  · rintro ⟨a, hparsed, _⟩
    exact ⟨a, hparsed⟩
  · rintro ⟨a, hparsed⟩
    exact ⟨a, hparsed, store a, rfl⟩

theorem assign_returns_iff (block block' : GovernanceBlock) (tag : Nat)
    (value : Bytes) :
    Returns (block.assign tag value) <->
      Returns (block'.assign tag value) := by
  unfold assign
  split
  · rw [returns_bind_pure, returns_bind_pure]
  · split
    · rw [returns_bind_pure, returns_bind_pure]
    · split
      · rw [returns_bind_pure, returns_bind_pure]
      · split
        · rw [returns_bind_pure, returns_bind_pure]
        · exact ⟨fun _ => ⟨_, rfl⟩, fun _ => ⟨_, rfl⟩⟩

theorem parseEntries_nil (rounds position : Nat) (block : GovernanceBlock) :
    Returns (parseEntries rounds { rest := [], position := position }
      block) :=
  ⟨block, stops_nil rounds position block⟩

theorem parseEntries_returns {rounds rounds' : Nat} {rest : Bytes}
    {position position' : Nat} {block block' : GovernanceBlock}
    (hrounds : rest.length <= rounds) (hrounds' : rest.length <= rounds')
    (h : Returns (parseEntries rounds
      { rest := rest, position := position } block)) :
    Returns (parseEntries rounds'
      { rest := rest, position := position' } block') := by
  induction rounds generalizing rounds' rest position position' block
    block' with
  | zero =>
      have hnil := List.length_eq_zero_iff.mp (Nat.le_zero.mp hrounds)
      rw [hnil]
      exact parseEntries_nil rounds' position' block'
  | succ rounds ih =>
      cases rounds' with
      | zero =>
          have hnil := List.length_eq_zero_iff.mp (Nat.le_zero.mp hrounds')
          rw [hnil]
          exact parseEntries_nil 0 position' block'
      | succ rounds' =>
          unfold parseEntries at h ⊢
          cases hempty : rest.isEmpty with
          | true => exact ⟨block', by simp only [if_true]; rfl⟩
          | false =>
              simp only [hempty, Bool.false_eq_true, if_false] at h ⊢
              have hsame := PositionFree.readEntry rest position position'
              rcases readEntry_cases
                  { rest := rest, position := position } with
                ⟨tag, value, reader₁, hread, hshorter⟩ | ⟨message, hread⟩
              · rw [hread] at h hsame
                rcases erasePosition_eq_ok hsame.symm with ⟨_, hread'⟩
                rw [hread']
                change Returns
                  (block.assign tag value >>= parseEntries rounds reader₁) at h
                show Returns
                  (block'.assign tag value >>= parseEntries rounds' _)
                rcases returns_bind_iff.mp h with ⟨block₁, hstored, h⟩
                have hassign := assign_returns_iff block block' tag value
                rcases hassign.mp ⟨block₁, hstored⟩ with
                  ⟨block₁', hstored'⟩
                have hfewer : reader₁.rest.length + 3 <= rest.length :=
                  hshorter
                have hfits : reader₁.rest.length <= rounds := by omega
                have hfits' : reader₁.rest.length <= rounds' := by omega
                exact returns_bind_iff.mpr
                  ⟨block₁', hstored', ih hfits hfits' h⟩
              · rw [hread] at hsame
                rw [erasePosition_eq_error hsame.symm]
                exact ⟨block', rfl⟩

def Accepts (bs : Bytes) : Prop :=
  Returns (fromBytes bs)

/-- The block is written, and its bytes are accepted. -/
def ReadBack (block : GovernanceBlock) : Prop :=
  exists bytes, block.toBytes = Except.ok bytes ∧ Accepts bytes

theorem accepts_entry_append (entry : TlvEntry) (rest : Bytes) :
    Accepts (entry.bytes ++ rest) <-> ¬ entry.Malformed ∧ Accepts rest := by
  have hvalue := entry.value_length
  have hread := readEntry_append entry.tag entry.value rest 0 entry.tag_lt
    (by omega)
  have hbytes : entry.bytes ++ rest = bigEndian 1 entry.tag ++
      (bigEndian 2 entry.value.length ++ (entry.value ++ rest)) := by
    rw [TlvEntry.bytes]
    simp only [List.append_assoc]
  have hlength : (entry.bytes ++ rest).length =
      entry.value.length + rest.length + 2 + 1 := by
    rw [List.length_append, TlvEntry.bytes_length]
    omega
  have hround : fromBytes (entry.bytes ++ rest) =
      (assign {} entry.tag entry.value >>=
        parseEntries (entry.value.length + rest.length + 2)
          { rest := rest, position := 0 + 1 + 2 + entry.value.length }) := by
    have hnonempty : (entry.bytes ++ rest).isEmpty = false := by
      rw [hbytes]
      rfl
    unfold fromBytes BinaryReader.new
    rw [hlength]
    unfold parseEntries
    simp only [hnonempty, Bool.false_eq_true, if_false]
    rw [hbytes, hread]
  have hlong : rest.length <= entry.value.length + rest.length + 2 := by
    omega
  unfold Accepts
  rw [hround]
  by_cases hmalformed : entry.Malformed
  · rcases assign_malformed {} hmalformed with ⟨e, he⟩
    rw [he]
    constructor
    · rintro ⟨block, hblock⟩
      cases hblock
    · rintro ⟨hformed, _⟩
      exact absurd hmalformed hformed
  · rw [assign_overwrite {} hmalformed]
    constructor
    · intro h
      exact ⟨hmalformed, parseEntries_returns hlong (Nat.le_refl _) h⟩
    · rintro ⟨_, h⟩
      exact parseEntries_returns (Nat.le_refl _) hlong h

/-- Bytes in front that make no difference. -/
def Harmless (front : Bytes) : Prop :=
  forall rest, Accepts (front ++ rest) <-> Accepts rest

theorem harmless_nil : Harmless [] :=
  fun _ => Iff.rfl

theorem harmless_entry {entry : TlvEntry} (h : ¬ entry.Malformed) :
    Harmless entry.bytes := by
  intro rest
  rw [accepts_entry_append]
  exact and_iff_right h

/-!
# What a block writes
-/

/-- The bytes of an entry, its tag and its length masked. -/
def entryBytes (tag : Nat) (value : Bytes) : Bytes :=
  bigEndian 1 tag ++ (bigEndian 2 value.length ++ value)

theorem emits_writeEntry (tag : Nat) (value : Bytes) :
    Emits (writeEntry tag value) (some (entryBytes tag value)) :=
  (Emits.writeCount 1 tag).bind
    ((Emits.writeCount 2 value.length).bind (Emits.writeBytes value))

def fieldBytes {α : Type} (tag : GovernanceTag)
    (toBytes : α -> Except PyError Bytes) : Option α -> Option Bytes
  | some a =>
      match toBytes a with
      | Except.ok value => some (entryBytes tag.code value)
      | Except.error _ => none
  | none => some []

theorem emits_writeField {α : Type} (tag : GovernanceTag)
    (toBytes : α -> Except PyError Bytes) (a? : Option α) :
    Emits (writeField tag toBytes a?) (fieldBytes tag toBytes a?) := by
  cases a? with
  | none => exact Emits.pure
  | some a =>
      cases hvalue : toBytes a with
      | error e =>
          simp only [writeField, fieldBytes, hvalue]
          intro w
          exact ⟨e, rfl⟩
      | ok value =>
          simp only [writeField, fieldBytes, hvalue]
          exact emits_writeEntry tag.code value

def unknownBytes (block : GovernanceBlock) : Bytes :=
  block.unknownTags.entries.flatMap fun entry => entryBytes entry.1 entry.2

theorem emits_unknown (entries : List (Nat × Bytes)) :
    Emits (entries.forM fun entry => writeEntry entry.1 entry.2)
      (some (entries.flatMap fun entry => entryBytes entry.1 entry.2)) := by
  induction entries with
  | nil => exact Emits.pure
  | cons entry entries ih => exact (emits_writeEntry entry.1 entry.2).bind ih

/-- The bytes of what follows the traffic coloring. -/
def restBytes (block : GovernanceBlock) : Option Bytes :=
  emissions
    (fieldBytes GovernanceTag.methodMetrics MethodMetrics.toBytes
      block.methodMetrics)
    (emissions
      (fieldBytes GovernanceTag.tenantQuotaToken (fun q => pure q.toBytes)
        block.tenantQuotaToken)
      (some block.unknownBytes))

theorem toBytes_eq_ok_iff (block : GovernanceBlock) (bytes : Bytes) :
    block.toBytes = Except.ok bytes <->
      emissions
        (fieldBytes GovernanceTag.traceContext (fun t => pure t.toBytes)
          block.traceContext)
        (emissions
          (fieldBytes GovernanceTag.trafficColoring TrafficColoring.toBytes
            block.trafficColoring)
          block.restBytes) = some bytes := by
  apply Emits.getvalue_eq_ok
  exact (emits_writeField _ _ _).bind ((emits_writeField _ _ _).bind
    ((emits_writeField _ _ _).bind ((emits_writeField _ _ _).bind
      (emits_unknown _))))

theorem field_harmless {α : Type} {tag : GovernanceTag}
    {toBytes : α -> Except PyError Bytes} {a? : Option α}
    (h : forall a, a? = some a -> exists entry : TlvEntry,
      entry.tag = tag.code ∧ toBytes a = Except.ok entry.value ∧
        ¬ entry.Malformed) :
    exists front, fieldBytes tag toBytes a? = some front ∧
      Harmless front := by
  cases a? with
  | none => exact ⟨[], rfl, harmless_nil⟩
  | some a =>
      rcases h a rfl with ⟨entry, htag, hvalue, hformed⟩
      refine ⟨entry.bytes, ?_, harmless_entry hformed⟩
      simp only [fieldBytes, hvalue, ← htag]
      rfl

theorem trace_harmless (t? : Option TraceContext) :
    exists front, fieldBytes GovernanceTag.traceContext
        (fun t => pure t.toBytes) t? = some front ∧ Harmless front := by
  apply field_harmless
  intro t _
  have hlength : t.toBytes.length = 24 := by
    simp [TraceContext.toBytes]
  refine ⟨{ tag := 1, value := t.toBytes, tag_lt := by decide
            value_length := by omega }, rfl, rfl, ?_⟩
  simp [TlvEntry.Malformed, hlength]

theorem token_harmless (q? : Option TenantQuotaToken) :
    exists front, fieldBytes GovernanceTag.tenantQuotaToken
        (fun q => pure q.toBytes) q? = some front ∧ Harmless front := by
  apply field_harmless
  intro q _
  have hlength : q.toBytes.length = 16 := by
    simp [TenantQuotaToken.toBytes]
  refine ⟨{ tag := 4, value := q.toBytes, tag_lt := by decide
            value_length := by omega }, rfl, rfl, ?_⟩
  simp [TlvEntry.Malformed, hlength]

def MetricsFit (m : MethodMetrics) : Prop :=
  m.queueDurationUs < 2 ^ 32 ∧ m.executionDurationMs < 2 ^ 32

theorem metrics_harmless {m? : Option MethodMetrics}
    (h : forall m, m? = some m -> MetricsFit m) :
    exists front, fieldBytes GovernanceTag.methodMetrics
        MethodMetrics.toBytes m? = some front ∧ Harmless front := by
  apply field_harmless
  intro m hm
  have hqueue : m.queueDurationUs < 256 ^ 4 := (h m hm).1
  have hexec : m.executionDurationMs < 256 ^ 4 := (h m hm).2
  have hlength : (bigEndian 4 m.queueDurationUs ++
      bigEndian 4 m.executionDurationMs).length = 8 := by
    simp
  refine ⟨{ tag := 3, value := _, tag_lt := by decide
            value_length := Nat.le_trans (Nat.le_of_eq hlength) (by decide) },
    rfl, ?_, ?_⟩
  · unfold MethodMetrics.toBytes
    rw [packUnsigned_of_lt hqueue, packUnsigned_of_lt hexec]
    rfl
  · simp [TlvEntry.Malformed]

theorem metricsFit_of_field {m? : Option MethodMetrics} {front : Bytes}
    (h : fieldBytes GovernanceTag.methodMetrics MethodMetrics.toBytes m? =
      some front) : forall m, m? = some m -> MetricsFit m := by
  rintro m rfl
  cases hvalue : m.toBytes with
  | error e =>
      simp only [fieldBytes, hvalue] at h
      cases h
  | ok value =>
      rcases bind_eq_ok.mp hvalue with ⟨queue, hqueue, hvalue⟩
      rcases bind_eq_ok.mp hvalue with ⟨exec, hexec, _⟩
      exact ⟨(packUnsigned_eq_ok.mp hqueue).1,
        (packUnsigned_eq_ok.mp hexec).1⟩

def coloringEntry (encoded : Bytes) : TlvEntry where
  tag := 2
  value := encoded.take 255
  tag_lt := by decide
  value_length :=
    Nat.le_trans (List.length_take_le 255 encoded) (by decide)

theorem coloringEntry_formed_iff {tag : Text} {encoded : Bytes}
    (h : encodeUtf8 tag = some encoded) :
    ¬ (coloringEntry encoded).Malformed <->
      TrafficColoring.EndsWhole tag := by
  have hmalformed : (coloringEntry encoded).Malformed <->
      decodeUtf8 (encoded.take 255) = none := by
    simp [coloringEntry, TlvEntry.Malformed]
  rw [hmalformed, ← ne_eq, Option.ne_none_iff_exists']
  simp only [decodeUtf8_eq_some_iff]
  rw [TrafficColoring.exists_decoded_cut_iff h]
  constructor
  · intro hends
    exact ⟨encoded, h, hends⟩
  · rintro ⟨encoded', hencoded', hends⟩
    rw [h] at hencoded'
    injection hencoded' with hsame
    rw [hsame]
    exact hends

theorem coloring_fieldBytes {c : TrafficColoring} {encoded : Bytes}
    (h : encodeUtf8 c.tag = some encoded) :
    fieldBytes GovernanceTag.trafficColoring TrafficColoring.toBytes
      (some c) = some (coloringEntry encoded).bytes := by
  have hvalue : c.toBytes = Except.ok (encoded.take 255) :=
    TrafficColoring.toBytes_eq_ok.mpr ⟨encoded, h, rfl⟩
  simp only [fieldBytes, hvalue]
  rfl

theorem coloring_accepts_iff (c : TrafficColoring) (rest : Bytes) :
    (exists front, fieldBytes GovernanceTag.trafficColoring
        TrafficColoring.toBytes (some c) = some front ∧
          Accepts (front ++ rest)) <->
      TrafficColoring.EndsWhole c.tag ∧ Accepts rest := by
  constructor
  · rintro ⟨front, hfront, haccepts⟩
    cases hvalue : c.toBytes with
    | error e =>
        simp only [fieldBytes, hvalue] at hfront
        cases hfront
    | ok value =>
        rcases TrafficColoring.toBytes_eq_ok.mp hvalue with
          ⟨encoded, hencoded, _⟩
        rw [coloring_fieldBytes hencoded] at hfront
        injection hfront with hfront
        rw [← hfront, accepts_entry_append] at haccepts
        exact ⟨(coloringEntry_formed_iff hencoded).mp haccepts.1,
          haccepts.2⟩
  · rintro ⟨hends, haccepts⟩
    rcases hends with ⟨encoded, hencoded, hcut⟩
    refine ⟨_, coloring_fieldBytes hencoded, ?_⟩
    rw [accepts_entry_append]
    exact ⟨(coloringEntry_formed_iff hencoded).mpr
      ⟨encoded, hencoded, hcut⟩, haccepts⟩

theorem readBack_iff (block : GovernanceBlock) :
    block.ReadBack <-> exists rest, block.restBytes = some rest ∧
      exists front, fieldBytes GovernanceTag.trafficColoring
        TrafficColoring.toBytes block.trafficColoring = some front ∧
          Accepts (front ++ rest) := by
  rcases trace_harmless block.traceContext with ⟨trace, htrace, hharmless⟩
  unfold ReadBack
  simp only [toBytes_eq_ok_iff, htrace, emissions_eq_some]
  constructor
  · rintro ⟨bytes, ⟨first, last, hfirst, ⟨front, rest, hfront, hrest, rfl⟩,
      rfl⟩, haccepts⟩
    injection hfirst with hfirst
    subst hfirst
    exact ⟨rest, hrest, front, hfront, (hharmless _).mp haccepts⟩
  · rintro ⟨rest, hrest, front, hfront, haccepts⟩
    exact ⟨_, ⟨trace, _, rfl, ⟨front, rest, hfront, hrest, rfl⟩, rfl⟩,
      (hharmless _).mpr haccepts⟩

theorem readBack_uncolored_iff {block : GovernanceBlock}
    (h : block.trafficColoring = none) :
    block.ReadBack <->
      exists rest, block.restBytes = some rest ∧ Accepts rest := by
  rw [readBack_iff, h]
  constructor
  · rintro ⟨rest, hrest, front, hfront, haccepts⟩
    injection hfront with hfront
    rw [← hfront] at haccepts
    exact ⟨rest, hrest, haccepts⟩
  · rintro ⟨rest, hrest, haccepts⟩
    exact ⟨rest, hrest, [], rfl, haccepts⟩

theorem readBack_coloring_iff {block : GovernanceBlock} {c : TrafficColoring}
    (h : block.trafficColoring = some c) :
    block.ReadBack <-> TrafficColoring.EndsWhole c.tag ∧
      ({ block with trafficColoring := none } : GovernanceBlock).ReadBack := by
  have hnone : { block with trafficColoring := none }.trafficColoring = none :=
    rfl
  have hplain := readBack_uncolored_iff hnone
  rw [hplain, readBack_iff, h]
  simp only [coloring_accepts_iff]
  constructor
  · rintro ⟨rest, hrest, hends, haccepts⟩
    exact ⟨hends, rest, hrest, haccepts⟩
  · rintro ⟨hends, rest, hrest, haccepts⟩
    exact ⟨rest, hrest, hends, haccepts⟩

def unknownEntry (tag : Nat) (value : Bytes) (h : value.length <= 65535) :
    TlvEntry where
  tag := tag % 256
  value := value
  tag_lt := Nat.mod_lt tag (by decide)
  value_length := h

theorem unknown_accepts_iff {entries : List (Nat × Bytes)}
    (hlength : forall entry, entry ∈ entries -> entry.2.length <= 65535) :
    Accepts (entries.flatMap fun entry => entryBytes entry.1 entry.2) <->
      forall entry (h : entry ∈ entries),
        ¬ (unknownEntry entry.1 entry.2 (hlength entry h)).Malformed := by
  induction entries with
  | nil =>
      constructor
      · intro _ entry hmem
        cases hmem
      · intro _
        exact ⟨{}, rfl⟩
  | cons entry entries ih =>
      have hfirst := hlength entry List.mem_cons_self
      have hrest : forall other, other ∈ entries ->
          other.2.length <= 65535 :=
        fun other hmem => hlength other (List.mem_cons_of_mem entry hmem)
      have hbytes : entryBytes entry.1 entry.2 =
          (unknownEntry entry.1 entry.2 hfirst).bytes := by
        unfold entryBytes TlvEntry.bytes unknownEntry
        rw [← bigEndian_mod 1 entry.1]
        rfl
      rw [List.flatMap_cons, hbytes, accepts_entry_append, ih hrest]
      constructor
      · rintro ⟨hformed, hothers⟩ other hmem
        rcases List.mem_cons.mp hmem with rfl | hmem
        · exact hformed
        · exact hothers other hmem
      · intro hall
        exact ⟨hall entry List.mem_cons_self,
          fun other hmem => hall other (List.mem_cons_of_mem entry hmem)⟩

/-- A block without a coloring is read back if its durations fit and no unknown
tag is written as a malformed field. -/
theorem readBack_plain_iff {block : GovernanceBlock}
    (h : block.trafficColoring = none)
    (hlength : forall entry, entry ∈ block.unknownTags.entries ->
      entry.2.length <= 65535) :
    block.ReadBack <->
      (forall m, block.methodMetrics = some m -> MetricsFit m) ∧
      forall entry (hmem : entry ∈ block.unknownTags.entries),
        ¬ (unknownEntry entry.1 entry.2 (hlength entry hmem)).Malformed := by
  rcases token_harmless block.tenantQuotaToken with
    ⟨token, htoken, hharmless⟩
  rw [readBack_uncolored_iff h, ← unknown_accepts_iff hlength]
  unfold restBytes
  simp only [htoken, emissions_eq_some]
  constructor
  · rintro ⟨rest, ⟨metrics, last, hmetrics, ⟨token', unknown, htoken',
      hunknown, rfl⟩, rfl⟩, haccepts⟩
    have hfit := metricsFit_of_field hmetrics
    rcases metrics_harmless hfit with ⟨metrics', hmetrics', hharmless'⟩
    injection htoken' with htoken'
    injection hunknown with hunknown
    have hsame : metrics' = metrics :=
      Option.some.inj (hmetrics'.symm.trans hmetrics)
    subst htoken' hunknown hsame
    exact ⟨hfit, (hharmless _).mp ((hharmless' _).mp haccepts)⟩
  · rintro ⟨hfit, haccepts⟩
    rcases metrics_harmless hfit with ⟨metrics, hmetrics, hharmless'⟩
    exact ⟨_, ⟨metrics, _, hmetrics, ⟨token, _, rfl, rfl, rfl⟩, rfl⟩,
      (hharmless' _).mpr ((hharmless _).mpr haccepts)⟩

/--
When traffic tags are cut well.  A tag is read back as its longest part that
fits exactly if its cut ends with a character; a block with that tag is read
back exactly if, besides, the block without a tag is; and that is so exactly if
its durations fit and no unknown tag is written as a malformed field.
-/
theorem trafficTag_cut_iff (tag : Text) (block : GovernanceBlock) :
    (TrafficColoring.CutWhole tag <-> TrafficColoring.EndsWhole tag) ∧
    (({ block with trafficColoring := some { tag := tag } } :
        GovernanceBlock).ReadBack <->
      TrafficColoring.EndsWhole tag ∧
        ({ block with trafficColoring := none } :
          GovernanceBlock).ReadBack) ∧
    forall hlength : (forall entry, entry ∈ block.unknownTags.entries ->
        entry.2.length <= 65535),
      ({ block with trafficColoring := none } : GovernanceBlock).ReadBack <->
        (forall m, block.methodMetrics = some m -> MetricsFit m) ∧
        forall entry (hmem : entry ∈ block.unknownTags.entries),
          ¬ (unknownEntry entry.1 entry.2
            (hlength entry hmem)).Malformed := by
  refine ⟨TrafficColoring.cutWhole_iff tag, ?_, ?_⟩
  · exact readBack_coloring_iff rfl
  · intro hlength
    have hnone : { block with trafficColoring := none }.trafficColoring =
        none := rfl
    exact readBack_plain_iff hnone hlength

/-- A tag of 256 bytes whose first 255 end with a character of two bytes. -/
def longTag : Text :=
  List.replicate 253 (codePointOf 'a') ++ [codePointOf 'é', codePointOf 'b']

/-- A block with durations and unknown tags; the second is written with the code
of the durations. -/
def taggedBlock : GovernanceBlock where
  methodMetrics :=
    some { queueDurationUs := 5, executionDurationMs := 2 ^ 32 - 1 }
  unknownTags := (Dict.empty.set 200 [1]).set 259 (List.replicate 8 7)

theorem trafficTag_cut_iff_long :
    TrafficColoring.CutWhole longTag ∧
      ({ taggedBlock with trafficColoring := some { tag := longTag } } :
        GovernanceBlock).ReadBack := by
  have hends : TrafficColoring.EndsWhole longTag := by
    refine ⟨List.replicate 253 97 ++ [0xC3, 0xA9, 98], by decide +kernel,
      Or.inr ⟨List.replicate 253 (codePointOf 'a') ++ [codePointOf 'é'],
        List.replicate 253 97 ++ [0xC3, 0xA9], ⟨[codePointOf 'b'], ?_⟩,
        by decide +kernel, by decide +kernel⟩⟩
    rw [longTag, List.append_assoc]
    rfl
  have hentries : taggedBlock.unknownTags.entries =
      [(200, [1]), (259, List.replicate 8 7)] := rfl
  have hlength : forall entry, entry ∈ taggedBlock.unknownTags.entries ->
      entry.2.length <= 65535 := by
    rw [hentries]
    decide
  rcases trafficTag_cut_iff longTag taggedBlock with ⟨hcut, hblock, hplain⟩
  refine ⟨hcut.mpr hends, hblock.mpr ⟨hends, (hplain hlength).mpr ⟨?_, ?_⟩⟩⟩
  · intro m hm
    injection hm with hm
    subst hm
    exact ⟨by decide, by decide⟩
  · intro entry hmem
    have hcases : entry = (200, [1]) ∨ entry = (259, List.replicate 8 7) := by
      simpa [hentries] using hmem
    rcases hcases with rfl | rfl
    · simp [unknownEntry, TlvEntry.Malformed]
    · simp [unknownEntry, TlvEntry.Malformed]

/-- A tag whose 255th byte is the first of two of its last character. -/
def splitTag : Text :=
  List.replicate 254 (codePointOf 'a') ++ [codePointOf 'é']

def splitBytes : Bytes :=
  List.replicate 254 97 ++ [0xC3, 0xA9]

theorem splitTag_not_endsWhole : ¬ TrafficColoring.EndsWhole splitTag := by
  have hencoded : encodeUtf8 splitTag = some splitBytes := by
    decide +kernel
  have hcut : decodeUtf8 (coloringEntry splitBytes).value = none := by
    decide +kernel
  intro hends
  have hformed := (coloringEntry_formed_iff hencoded).mpr hends
  exact hformed (Or.inr (Or.inl ⟨rfl, hcut⟩))

/-- The tag is not read back, and neither is the block with it. -/
theorem splitTag_lost :
    ¬ TrafficColoring.CutWhole splitTag ∧
      ¬ ({ trafficColoring := some { tag := splitTag } } :
        GovernanceBlock).ReadBack := by
  constructor
  · intro hwhole
    exact splitTag_not_endsWhole
      ((TrafficColoring.cutWhole_iff splitTag).mp hwhole)
  · intro hread
    exact splitTag_not_endsWhole ((readBack_coloring_iff rfl).mp hread).1

end GovernanceBlock

end Wire
end Hmmp
