import Hmmp.Wire.GovernanceTransport

/-!
# Parsing a row of governance entries

The parsing loop runs until its bytes are used up or an entry is cut off.  On
complete entries followed by the beginning of one more it stores the complete
ones from left to right and drops the beginning.
-/

namespace Hmmp
namespace Wire

open Foundation

namespace GovernanceBlock

theorem readEntry_cases (reader : BinaryReader) :
    (exists tag value reader',
      readEntry.run reader = Except.ok ((tag, value), reader') ∧
        reader'.rest.length + 3 <= reader.rest.length) ∨
      exists message,
        readEntry.run reader = Except.error (PyError.eofError message) := by
  unfold readEntry BinaryReader.readU8 BinaryReader.readU16
    BinaryReader.readBytes
  rcases Nat.lt_or_ge reader.rest.length 1 with htag | htag
  · right
    exact ⟨_, run_bind_of_error (BinaryReader.readUnsigned_short htag _)⟩
  rw [run_bind_of_ok (BinaryReader.readUnsigned_long htag _)]
  generalize fromBigEndian (reader.rest.take 1) = tag
  generalize hheader : BinaryReader.mk (reader.rest.drop 1) _ = header
  have hheaderLen : header.rest.length + 1 = reader.rest.length := by
    rw [← hheader, List.length_drop]
    omega
  rcases Nat.lt_or_ge header.rest.length 2 with hsize | hsize
  · right
    exact ⟨_, run_bind_of_error (BinaryReader.readUnsigned_short hsize _)⟩
  rw [run_bind_of_ok (BinaryReader.readUnsigned_long hsize _)]
  generalize fromBigEndian (header.rest.take 2) = size
  generalize hbody : BinaryReader.mk (header.rest.drop 2) _ = body
  have hbodyLen : body.rest.length + 2 = header.rest.length := by
    rw [← hbody, List.length_drop]
    omega
  rcases Nat.lt_or_ge body.rest.length size with hvalue | hvalue
  · right
    exact ⟨_, run_bind_of_error (BinaryReader.takeBytes_short hvalue _)⟩
  rw [run_bind_of_ok (BinaryReader.takeBytes_long hvalue _)]
  refine Or.inl ⟨tag, body.rest.take size, _, rfl, ?_⟩
  show (body.rest.drop size).length + 3 <= _
  rw [List.length_drop]
  omega

/-!
# The loop
-/

/-- The guarded part of a round: read an entry and store it. -/
def readField (block : GovernanceBlock) : Reading GovernanceBlock := do
  let entry ← readEntry
  block.assign entry.1 entry.2

/--
The loop, started on a reader and a block, comes to an end with the given
outcome: the bytes are used up, a round meets the end of the data, a round
raises another error, or a round is followed by a loop that comes to an end.
-/
inductive LoopEnds :
    BinaryReader -> GovernanceBlock -> Except PyError GovernanceBlock -> Prop
  | exhausted {reader : BinaryReader} {block : GovernanceBlock}
      (hrest : reader.rest = []) : LoopEnds reader block (Except.ok block)
  | cut {reader : BinaryReader} {block : GovernanceBlock} {message : String}
      (hrest : reader.rest ≠ [])
      (hround : block.readField.run reader =
        Except.error (PyError.eofError message)) :
      LoopEnds reader block (Except.ok block)
  | raised {reader : BinaryReader} {block : GovernanceBlock} {e : PyError}
      (hrest : reader.rest ≠ [])
      (hround : block.readField.run reader = Except.error e)
      (hother : forall message, e ≠ PyError.eofError message) :
      LoopEnds reader block (Except.error e)
  | next {reader reader' : BinaryReader} {block block' : GovernanceBlock}
      {outcome : Except PyError GovernanceBlock}
      (hrest : reader.rest ≠ [])
      (hround : block.readField.run reader = Except.ok (block', reader'))
      (hloop : LoopEnds reader' block' outcome) :
      LoopEnds reader block outcome

theorem readField_run_ok {reader reader' : BinaryReader} {tag : Nat}
    {value : Bytes}
    (h : readEntry.run reader = Except.ok ((tag, value), reader'))
    (block : GovernanceBlock) :
    block.readField.run reader =
      (block.assign tag value).map fun block' => (block', reader') := by
  unfold readField
  rw [run_bind_of_ok h]
  cases block.assign tag value <;> rfl

theorem readField_run_error {reader : BinaryReader} {e : PyError}
    (h : readEntry.run reader = Except.error e) (block : GovernanceBlock) :
    block.readField.run reader = Except.error e :=
  run_bind_of_error h

end GovernanceBlock

/-!
# Entries
-/

/-- A complete entry. -/
structure TlvEntry where
  tag : Nat
  value : Bytes
  tag_lt : tag < 256
  value_length : value.length <= 65535

namespace TlvEntry

def bytes (entry : TlvEntry) : Bytes :=
  bigEndian 1 entry.tag ++ (bigEndian 2 entry.value.length ++ entry.value)

def concat (entries : List TlvEntry) : Bytes :=
  entries.flatMap bytes

@[simp] theorem bytes_length (entry : TlvEntry) :
    entry.bytes.length = entry.value.length + 3 := by
  simp [bytes]
  omega

def Malformed (entry : TlvEntry) : Prop :=
  (entry.tag = 1 ∧ entry.value.length < 24) ∨
    (entry.tag = 2 ∧ decodeUtf8 entry.value = none) ∨
    (entry.tag = 3 ∧ entry.value.length < 8) ∨
    (entry.tag = 4 ∧ entry.value.length < 16)

end TlvEntry

namespace GovernanceBlock

/-- The block with the field of the entry's tag overwritten by its value. -/
def overwrite (block : GovernanceBlock) (entry : TlvEntry) :
    GovernanceBlock :=
  match entry.tag with
  | 1 =>
      { block with
        traceContext := some
          { traceId := entry.value.take 16
            spanId := (entry.value.take 24).drop 16 } }
  | 2 =>
      { block with
        trafficColoring := some
          { tag := (decodeUtf8 entry.value).getD [] } }
  | 3 =>
      { block with
        methodMetrics := some
          { queueDurationUs := fromBigEndian (entry.value.take 4)
            executionDurationMs :=
              fromBigEndian ((entry.value.take 8).drop 4) } }
  | 4 =>
      { block with
        tenantQuotaToken := some { token := entry.value.take 16 } }
  | tag =>
      { block with unknownTags := block.unknownTags.set tag entry.value }

/-!
# Storing one entry
-/

theorem assign_other (block : GovernanceBlock) {tag : Nat} (value : Bytes)
    (hone : tag ≠ 1) (htwo : tag ≠ 2) (hthree : tag ≠ 3) (hfour : tag ≠ 4) :
    block.assign tag value =
      Except.ok
        { block with unknownTags := block.unknownTags.set tag value } := by
  simp [assign, GovernanceTag.code, hone, htwo, hthree, hfour]
  rfl

theorem assign_overwrite (block : GovernanceBlock) {entry : TlvEntry}
    (h : ¬ entry.Malformed) :
    block.assign entry.tag entry.value =
      Except.ok (block.overwrite entry) := by
  unfold TlvEntry.Malformed at h
  unfold overwrite
  split
  · rename_i htag
    have hlong : ¬ entry.value.length < 24 := fun hlt =>
      h (Or.inl ⟨htag, hlt⟩)
    simp [assign, GovernanceTag.code, htag, TraceContext.fromBytes, hlong,
      slice, List.drop_take]
    rfl
  · rename_i htag
    cases htext : decodeUtf8 entry.value with
    | none => exact absurd (Or.inr (Or.inl ⟨htag, htext⟩)) h
    | some text =>
        simp [assign, GovernanceTag.code, htag, TrafficColoring.fromBytes,
          BinaryReader.decodeString, htext]
        rfl
  · rename_i htag
    have hlong : ¬ entry.value.length < 8 := fun hlt =>
      h (Or.inr (Or.inr (Or.inl ⟨htag, hlt⟩)))
    simp [assign, GovernanceTag.code, htag, MethodMetrics.fromBytes, hlong,
      slice, List.drop_take]
    rfl
  · rename_i htag
    have hlong : ¬ entry.value.length < 16 := fun hlt =>
      h (Or.inr (Or.inr (Or.inr ⟨htag, hlt⟩)))
    simp [assign, GovernanceTag.code, htag, TenantQuotaToken.fromBytes, hlong,
      slice]
    rfl
  · rename_i hone htwo hthree hfour
    exact assign_other block entry.value hone htwo hthree hfour

theorem assign_malformed (block : GovernanceBlock) {entry : TlvEntry}
    (h : entry.Malformed) :
    exists e, block.assign entry.tag entry.value = Except.error e := by
  unfold assign
  rcases h with ⟨htag, hshort⟩ | ⟨htag, htext⟩ | ⟨htag, hshort⟩ |
    ⟨htag, hshort⟩
  · simp [GovernanceTag.code, htag, TraceContext.fromBytes, hshort]
    exact ⟨_, rfl⟩
  · simp [GovernanceTag.code, htag, TrafficColoring.fromBytes,
      BinaryReader.decodeString, htext]
    exact ⟨_, rfl⟩
  · simp [GovernanceTag.code, htag, MethodMetrics.fromBytes, hshort]
    exact ⟨_, rfl⟩
  · simp [GovernanceTag.code, htag, TenantQuotaToken.fromBytes, hshort]
    exact ⟨_, rfl⟩

/-- A parser that does not raise the end of the data. -/
def RaisesOther {α : Type} (parsed : Except PyError α) : Prop :=
  forall e, parsed = Except.error e ->
    forall message, e ≠ PyError.eofError message

theorem RaisesOther.bind_pure {α β : Type} {parsed : Except PyError α}
    (h : RaisesOther parsed) (store : α -> β) :
    RaisesOther (parsed >>= fun a => pure (store a)) := by
  intro e he message
  cases parsed with
  | ok a => cases he
  | error e' =>
      injection he with he
      rw [← he]
      exact h e' rfl message

theorem RaisesOther.valueError {α : Type} {p : Prop} [Decidable p]
    {message : String} {a : α} :
    RaisesOther
      (if p then throw (PyError.valueError message) else pure a) := by
  intro e he other
  split at he
  · injection he with he
    rw [← he]
    intro heof
    cases heof
  · cases he

theorem RaisesOther.decodeString (data : Bytes) :
    RaisesOther (BinaryReader.decodeString data) := by
  intro e he other
  unfold BinaryReader.decodeString at he
  split at he
  · cases he
  · injection he with he
    rw [← he]
    intro heof
    cases heof

theorem assign_raisesOther (block : GovernanceBlock) (tag : Nat)
    (value : Bytes) : RaisesOther (block.assign tag value) := by
  unfold assign
  split
  · exact RaisesOther.valueError.bind_pure _
  · split
    · exact ((RaisesOther.decodeString value).bind_pure _).bind_pure _
    · split
      · exact RaisesOther.valueError.bind_pure _
      · split
        · exact RaisesOther.valueError.bind_pure _
        · intro e he
          cases he

/-!
# The rounds suffice
-/

theorem parseEntries_ends {rounds : Nat} {reader : BinaryReader}
    (h : reader.rest.length <= rounds) (block : GovernanceBlock) :
    LoopEnds reader block (parseEntries rounds reader block) := by
  induction rounds generalizing reader block with
  | zero =>
      exact LoopEnds.exhausted (List.length_eq_zero_iff.mp (Nat.le_zero.mp h))
  | succ rounds ih =>
      unfold parseEntries
      split
      · rename_i hempty
        exact LoopEnds.exhausted (List.isEmpty_iff.mp hempty)
      · rename_i hrest
        have hne : reader.rest ≠ [] := fun hnil =>
          hrest (List.isEmpty_iff.mpr hnil)
        rcases readEntry_cases reader with
          ⟨tag, value, reader', hread, hshorter⟩ | ⟨message, hread⟩
        · rw [hread]
          have hround := readField_run_ok hread block
          show LoopEnds reader block
            (block.assign tag value >>= parseEntries rounds reader')
          cases hassign : block.assign tag value with
          | error e =>
              rw [hassign] at hround
              exact LoopEnds.raised hne hround
                (assign_raisesOther block tag value e hassign)
          | ok block' =>
              rw [hassign] at hround
              have hrounds : reader'.rest.length <= rounds := by omega
              exact LoopEnds.next hne hround (ih hrounds block')
        · rw [hread]
          exact LoopEnds.cut hne (readField_run_error hread block)

theorem fromBytes_ends (data : Bytes) :
    LoopEnds (BinaryReader.new data) {} (fromBytes data) :=
  parseEntries_ends (Nat.le_refl _) {}

end GovernanceBlock

/-!
# A cut entry
-/

/-- The beginning of an entry, without its end. -/
structure CutEntry where
  entry : TlvEntry
  bytes : Bytes
  isPrefix : bytes <+: entry.bytes
  ne_bytes : bytes ≠ entry.bytes

theorem prefix_append_cases {front first second : Bytes}
    (h : front <+: first ++ second) :
    front.length < first.length ∨
      exists back, front = first ++ back ∧ back <+: second := by
  rcases Nat.lt_or_ge front.length first.length with hlt | hge
  · exact Or.inl hlt
  · have hfirst : first <+: front :=
      List.prefix_of_prefix_length_le (List.prefix_append first second) h hge
    rcases hfirst with ⟨back, rfl⟩
    exact Or.inr ⟨back, rfl, (List.prefix_append_right_inj first).mp h⟩

namespace GovernanceBlock

theorem readEntry_cut (cut : CutEntry) (position : Nat) :
    exists message, readEntry.run { rest := cut.bytes, position := position } =
      Except.error (PyError.eofError message) := by
  rcases cut with ⟨⟨tag, value, htag, hvalue⟩, front, hprefix, hne⟩
  unfold TlvEntry.bytes at hprefix hne
  dsimp only at hprefix hne ⊢
  unfold readEntry BinaryReader.readU8 BinaryReader.readU16
    BinaryReader.readBytes
  -- the cut is in the tag, in the length or in the value
  rcases prefix_append_cases hprefix with hshort | ⟨afterTag, rfl, hafterTag⟩
  · rw [bigEndian_length] at hshort
    exact ⟨_, run_bind_of_error (BinaryReader.readUnsigned_short hshort _)⟩
  rw [run_bind_of_ok (BinaryReader.readUnsigned_append htag _ _ _)]
  rcases prefix_append_cases hafterTag with
    hshort | ⟨afterLength, rfl, hafterLength⟩
  · rw [bigEndian_length] at hshort
    exact ⟨_, run_bind_of_error (BinaryReader.readUnsigned_short hshort _)⟩
  have hlength : value.length < 256 ^ 2 := by omega
  rw [run_bind_of_ok (BinaryReader.readUnsigned_append hlength _ _ _)]
  have hshort : afterLength.length < value.length := by
    refine Nat.lt_of_le_of_ne hafterLength.length_le fun hlen => ?_
    rw [hafterLength.eq_of_length hlen] at hne
    exact hne rfl
  exact ⟨_, run_bind_of_error (BinaryReader.takeBytes_short hshort _)⟩

/-- The loop stops here, whatever it has collected. -/
def Stops (tail : Bytes) : Prop :=
  forall rounds position block,
    parseEntries rounds { rest := tail, position := position } block =
      Except.ok block

theorem stops_nil : Stops [] := by
  intro rounds position block
  cases rounds <;> rfl

theorem stops_cut (cut : CutEntry) : Stops cut.bytes := by
  intro rounds position block
  cases rounds with
  | zero => rfl
  | succ rounds =>
      unfold parseEntries
      split
      · rfl
      · rcases readEntry_cut cut position with ⟨message, hread⟩
        rw [hread]
        rfl

/-!
# A row of entries
-/

def assignAll (block : GovernanceBlock) (entries : List TlvEntry) :
    Except PyError GovernanceBlock :=
  entries.foldlM (fun block entry => block.assign entry.tag entry.value) block

theorem parseEntries_concat {tail : Bytes} (htail : Stops tail)
    {rounds : Nat} {entries : List TlvEntry}
    (hrounds : (TlvEntry.concat entries).length <= rounds) (position : Nat)
    (block : GovernanceBlock) :
    parseEntries rounds
        { rest := TlvEntry.concat entries ++ tail, position := position }
        block =
      block.assignAll entries := by
  induction entries generalizing rounds position block with
  | nil => exact htail rounds position block
  | cons entry entries ih =>
      have hconcat : TlvEntry.concat (entry :: entries) =
          entry.bytes ++ TlvEntry.concat entries := rfl
      rw [hconcat, List.length_append, TlvEntry.bytes_length] at hrounds
      cases rounds with
      | zero => omega
      | succ rounds =>
          have hbytes : TlvEntry.concat (entry :: entries) ++ tail =
              bigEndian 1 entry.tag ++ (bigEndian 2 entry.value.length ++
                (entry.value ++ (TlvEntry.concat entries ++ tail))) := by
            rw [hconcat, TlvEntry.bytes]
            simp only [List.append_assoc]
          have hlength : entry.value.length < 256 ^ 2 := by
            have := entry.value_length
            omega
          have hread := readEntry_append entry.tag entry.value
            (TlvEntry.concat entries ++ tail) position entry.tag_lt hlength
          have hnonempty : (TlvEntry.concat (entry :: entries) ++
              tail).isEmpty = false := by
            rw [hbytes]
            rfl
          unfold parseEntries
          rw [hbytes] at hnonempty ⊢
          rw [hnonempty, hread]
          show (block.assign entry.tag entry.value >>= parseEntries rounds _) =
            block.assign entry.tag entry.value >>= fun block' =>
              block'.assignAll entries
          have hrest : (TlvEntry.concat entries).length <= rounds := by
            omega
          congr 1
          funext block'
          exact ih hrest _ block'

theorem fromBytes_concat (entries : List TlvEntry) {tail : Bytes}
    (htail : Stops tail) :
    fromBytes (TlvEntry.concat entries ++ tail) = assignAll {} entries := by
  refine parseEntries_concat htail ?_ 0 {}
  rw [List.length_append]
  omega

theorem assignAll_overwrite {entries : List TlvEntry}
    (h : forall entry, entry ∈ entries -> ¬ entry.Malformed)
    (block : GovernanceBlock) :
    block.assignAll entries = Except.ok (entries.foldl overwrite block) := by
  induction entries generalizing block with
  | nil => rfl
  | cons entry entries ih =>
      have hentry := assign_overwrite block (h entry List.mem_cons_self)
      unfold assignAll
      rw [List.foldlM_cons, hentry]
      exact ih (fun other hmem => h other (List.mem_cons_of_mem entry hmem)) _

theorem assignAll_malformed {entries : List TlvEntry}
    (h : exists entry, entry ∈ entries ∧ entry.Malformed)
    (block : GovernanceBlock) :
    exists e, block.assignAll entries = Except.error e := by
  induction entries generalizing block with
  | nil =>
      rcases h with ⟨entry, hmem, _⟩
      cases hmem
  | cons first entries ih =>
      unfold assignAll
      rw [List.foldlM_cons]
      cases hassign : block.assign first.tag first.value with
      | error e => exact ⟨e, rfl⟩
      | ok block' =>
          rcases h with ⟨entry, hmem, hmalformed⟩
          rcases List.mem_cons.mp hmem with rfl | hmem
          · rcases assign_malformed block hmalformed with ⟨e, he⟩
            rw [hassign] at he
            cases he
          · exact ih ⟨entry, hmem, hmalformed⟩ block'

/--
On complete entries followed by a cut one the loop ends.  It raises exactly if
an entry is malformed; otherwise the outcome is the block that the complete
entries overwrite from left to right.
-/
theorem fromBytes_entries (entries : List TlvEntry) (cut : CutEntry) :
    LoopEnds (BinaryReader.new (TlvEntry.concat entries ++ cut.bytes)) {}
        (fromBytes (TlvEntry.concat entries ++ cut.bytes)) ∧
      ((exists e, fromBytes (TlvEntry.concat entries ++ cut.bytes) =
          Except.error e) <->
        exists entry, entry ∈ entries ∧ entry.Malformed) ∧
      ((¬ exists entry, entry ∈ entries ∧ entry.Malformed) ->
        fromBytes (TlvEntry.concat entries ++ cut.bytes) =
          Except.ok (entries.foldl overwrite {})) := by
  have hstored := fromBytes_concat entries (stops_cut cut)
  have hfold : (¬ exists entry, entry ∈ entries ∧ entry.Malformed) ->
      fromBytes (TlvEntry.concat entries ++ cut.bytes) =
        Except.ok (entries.foldl overwrite {}) := by
    intro hformed
    rw [hstored]
    exact assignAll_overwrite
      (fun entry hmem hmalformed => hformed ⟨entry, hmem, hmalformed⟩) {}
  refine ⟨fromBytes_ends _, ⟨?_, ?_⟩, hfold⟩
  · rintro ⟨e, he⟩
    by_contra hformed
    rw [hfold hformed] at he
    cases he
  · intro hmalformed
    rw [hstored]
    exact assignAll_malformed hmalformed {}

/-- Two values of one tag and a third that is cut off behind its tag. -/
example :
    let entry (value : Bytes) (h : value.length <= 65535) : TlvEntry :=
      { tag := 7, value := value, tag_lt := by decide, value_length := h }
    fromBytes
        (TlvEntry.concat [entry [1] (by decide), entry [2, 3] (by decide)] ++
          [7, 0]) =
      Except.ok
        { unknownTags := { entries := [(7, [2, 3])], nodup := by decide } } := by
  rfl

end GovernanceBlock

end Wire
end Hmmp
