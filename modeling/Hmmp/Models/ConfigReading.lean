import Mathlib.Control.Monad.Basic
import Hmmp.Models.Config
import Hmmp.Wire.FieldReading

/-!
# Readings of config responses

The canary fields of a response are recognised by the bytes that remain behind
the content.  A cut behind the content gives the response without them, and a
cut anywhere else gives nothing.
-/

namespace Hmmp
namespace Models

open Foundation
open Wire

/-- The values that a response always carries. -/
structure ConfigChunk where
  tenant : SizedText 1
  group : SizedText 1
  dataId : SizedText 1
  md5 : Bytes
  md5_length : md5.length = 16
  totalChunks : UInt16
  chunkIndex : UInt16
  isDeleted : Bool
  content : Bytes
  content_fits : content.length < 256 ^ 4

/-- What follows the content of a response. -/
inductive CanaryBlock where
  | absent
  | noCanary
  | canary (versionId stableVersionId : SizedText 2)
      (matchLabels : SizedEntries 1 1)

namespace ConfigChunk

def layout (c : ConfigChunk) : Bytes :=
  c.tenant.layout ++ (c.group.layout ++ (c.dataId.layout ++ (c.md5 ++
    (bigEndian 2 c.totalChunks.toNat ++ (bigEndian 2 c.chunkIndex.toNat ++
      (bigEndian 1 (if c.isDeleted then 1 else 0) ++
        (bigEndian 4 c.content.length ++ c.content)))))))

def entry (c : ConfigChunk) : ConfigEntry where
  tenant := c.tenant.text
  group := c.group.text
  dataId := c.dataId.text
  content := c.content
  md5 := c.md5
  isDeleted := c.isDeleted
  totalChunks := c.totalChunks.toNat
  chunkIndex := c.chunkIndex.toNat

end ConfigChunk

namespace CanaryBlock

def layout : CanaryBlock -> Bytes
  | absent => []
  | noCanary => bigEndian 1 0
  | canary versionId stableVersionId matchLabels =>
      bigEndian 1 1 ++ (versionId.layout ++ (stableVersionId.layout ++
        matchLabels.layout))

/-- The entry with the canary fields of the block. -/
def assign (entry : ConfigEntry) : CanaryBlock -> ConfigEntry
  | canary versionId stableVersionId matchLabels =>
      { entry with
        versionId := versionId.text
        stableVersionId := stableVersionId.text
        matchLabels := matchLabels.dict }
  | _ => entry

end CanaryBlock

namespace ConfigEntry

/-!
# The fields before the canary fields
-/

def readChunk : Reading ConfigEntry := do
  let tenant ← BinaryReader.readStringU8
  let group ← BinaryReader.readStringU8
  let dataId ← BinaryReader.readStringU8
  let md5 ← BinaryReader.readBytes 16
  let totalChunks ← BinaryReader.readU16
  let chunkIndex ← BinaryReader.readU16
  let isDeleted ← BinaryReader.readU8
  let rawLen ← BinaryReader.readU32
  let rawBytes ← BinaryReader.readBytes rawLen
  pure
    { tenant := tenant
      group := group
      dataId := dataId
      md5 := md5
      totalChunks := totalChunks
      chunkIndex := chunkIndex
      isDeleted := isDeleted == 1
      content := rawBytes }

theorem readResponse_eq : readResponse = readChunk >>= readCanary := by
  unfold readResponse readChunk
  simp only [bind_assoc, pure_bind]

theorem reads_chunk (c : ConfigChunk) : Reads readChunk c.layout c.entry := by
  have hmd5 : Reads (BinaryReader.readBytes 16) c.md5 c.md5 := by
    rw [← c.md5_length]
    exact Reads.bytes c.md5
  have htotal : c.totalChunks.toNat < 256 ^ 2 := c.totalChunks.toNat_lt
  have hindex : c.chunkIndex.toNat < 256 ^ 2 := c.chunkIndex.toNat_lt
  have hdeleted : (if c.isDeleted then 1 else 0) < 256 ^ 1 := by
    cases c.isDeleted with
    | true => decide
    | false => decide
  have hflag : ((if c.isDeleted then 1 else 0) == 1) = c.isDeleted := by
    cases c.isDeleted with
    | true => rfl
    | false => rfl
  have hentry := (Reads.bytes c.content).map fun rawBytes =>
    ({ tenant := c.tenant.text
       group := c.group.text
       dataId := c.dataId.text
       md5 := c.md5
       totalChunks := c.totalChunks.toNat
       chunkIndex := c.chunkIndex.toNat
       isDeleted := (if c.isDeleted then 1 else 0) == 1
       content := rawBytes } : ConfigEntry)
  unfold ConfigChunk.entry
  rw [← hflag]
  exact (Reads.stringU8 c.tenant).bind ((Reads.stringU8 c.group).bind
    ((Reads.stringU8 c.dataId).bind (hmd5.bind
      ((Reads.unsigned htotal "u16").bind ((Reads.unsigned hindex "u16").bind
        ((Reads.unsigned hdeleted "u8").bind
          ((Reads.unsigned c.content_fits "u32").bind hentry)))))))

/-!
# The canary fields
-/

/-- Read the canary fields where some bytes remain. -/
def readBlock (entry : ConfigEntry) : Reading ConfigEntry := do
  let hasCanary ← BinaryReader.readU8
  if hasCanary = 1 then
    let versionId ← BinaryReader.readStringU16
    let stableVersionId ← BinaryReader.readStringU16
    let matchCount ← BinaryReader.readU8
    let matchLabels ← readLabels matchCount entry.matchLabels
    pure
      { entry with
        versionId := versionId
        stableVersionId := stableVersionId
        matchLabels := matchLabels }
  else pure entry

theorem readCanary_nil (entry : ConfigEntry) (position : Nat) :
    (readCanary entry).run { rest := [], position := position } =
      Except.ok (entry, { rest := [], position := position }) :=
  rfl

theorem readCanary_of_ne_nil (entry : ConfigEntry) {bs : Bytes} (h : bs ≠ [])
    (position : Nat) :
    (readCanary entry).run { rest := bs, position := position } =
      (readBlock entry).run { rest := bs, position := position } := by
  cases bs with
  | nil => exact absurd rfl h
  | cons b bs => rfl

theorem reads_block (entry : ConfigEntry) (hlabels : entry.matchLabels =
    Dict.empty) (block : CanaryBlock) (hblock : block ≠ CanaryBlock.absent) :
    Reads (readBlock entry) block.layout (block.assign entry) := by
  cases block with
  | absent => exact absurd rfl hblock
  | noCanary => exact (Reads.unsigned (by decide) "u8").bind (Reads.nothing _)
  | canary versionId stableVersionId matchLabels =>
      have hentries : Reads
          (readLabels matchLabels.entries.length entry.matchLabels)
          (matchLabels.entries.flatMap SizedEntries.layoutEntry)
          matchLabels.dict := by
        rw [← foldl_set_empty matchLabels, hlabels]
        exact Reads.entries Reads.stringU8 (fun _ => rfl) (fun _ _ => rfl)
          matchLabels.entries Dict.empty
      have hentry := hentries.map fun labels =>
        ({ entry with
            versionId := versionId.text
            stableVersionId := stableVersionId.text
            matchLabels := labels } : ConfigEntry)
      exact (Reads.unsigned (by decide) "u8").bind
        ((Reads.stringU16 versionId).bind ((Reads.stringU16 stableVersionId).bind
          ((Reads.unsigned matchLabels.few "u8").bind hentry)))

/-!
# Responses
-/

theorem fromResponseBytes_eq_ok {data : Bytes} {entry : ConfigEntry}
    {r : BinaryReader}
    (h : (readChunk >>= readCanary).run (BinaryReader.new data) =
      Except.ok (entry, r)) : fromResponseBytes data = Except.ok entry := by
  unfold fromResponseBytes
  rw [readResponse_eq, h]
  rfl

theorem fromResponseBytes_eq_error {data : Bytes} {e : PyError}
    (h : (readChunk >>= readCanary).run (BinaryReader.new data) =
      Except.error e) : fromResponseBytes data = Except.error e := by
  unfold fromResponseBytes
  rw [readResponse_eq, h]
  rfl

theorem fromResponseBytes_chunk (c : ConfigChunk) :
    fromResponseBytes c.layout = Except.ok c.entry := by
  have hchunk := (reads_chunk c).complete [] 0
  rw [List.append_nil] at hchunk
  apply fromResponseBytes_eq_ok
  rw [BinaryReader.new, run_bind_of_ok hchunk]
  exact readCanary_nil c.entry _

theorem fromResponseBytes_block (c : ConfigChunk) {block : CanaryBlock}
    (hblock : block ≠ CanaryBlock.absent) :
    fromResponseBytes (c.layout ++ block.layout) =
      Except.ok (block.assign c.entry) := by
  have hchunk := (reads_chunk c).complete block.layout 0
  have hreads := (reads_block c.entry rfl block hblock).complete []
  have hne : block.layout ≠ [] := by
    cases block with
    | absent => exact absurd rfl hblock
    | noCanary => exact List.cons_ne_nil _ _
    | canary versionId stableVersionId matchLabels =>
        exact List.cons_ne_nil _ _
  rw [List.append_nil] at hreads
  apply fromResponseBytes_eq_ok
  rw [BinaryReader.new, run_bind_of_ok hchunk, readCanary_of_ne_nil _ hne]
  exact hreads _

theorem fromResponseBytes_cut_chunk (c : ConfigChunk) {n : Nat}
    (hn : n < c.layout.length) : exists message,
      fromResponseBytes (c.layout.take n) =
        Except.error (PyError.eofError message) := by
  rcases (reads_chunk c).cut n 0 hn with ⟨message, hraises⟩
  refine ⟨message, fromResponseBytes_eq_error ?_⟩
  rw [BinaryReader.new, run_bind_of_error hraises]

theorem fromResponseBytes_cut_block (c : ConfigChunk) (block : CanaryBlock)
    {n : Nat} (hpos : 0 < n) (hn : n < block.layout.length) : exists message,
      fromResponseBytes (c.layout ++ block.layout.take n) =
        Except.error (PyError.eofError message) := by
  have hblock : block ≠ CanaryBlock.absent := by
    rintro rfl
    exact absurd hn (Nat.not_lt_zero n)
  have hne : block.layout.take n ≠ [] := by
    intro hnil
    have hlength := congrArg List.length hnil
    rw [List.length_take, List.length_nil] at hlength
    omega
  have hchunk := (reads_chunk c).complete (block.layout.take n) 0
  rcases (reads_block c.entry rfl block hblock).cut n
    (0 + c.layout.length) hn with ⟨message, hraises⟩
  refine ⟨message, fromResponseBytes_eq_error ?_⟩
  rw [BinaryReader.new, run_bind_of_ok hchunk, readCanary_of_ne_nil _ hne]
  exact hraises

/-- A response is read back from its layout.  A layout that is cut behind the
content is read without canary fields, and cut anywhere else it is not read. -/
theorem fromResponseBytes_layout (c : ConfigChunk) (block : CanaryBlock) :
    fromResponseBytes (c.layout ++ block.layout) =
        Except.ok (block.assign c.entry) ∧
      forall n, n < (c.layout ++ block.layout).length ->
        (n = c.layout.length ->
          fromResponseBytes ((c.layout ++ block.layout).take n) =
            Except.ok c.entry) ∧
        (n ≠ c.layout.length -> exists message,
          fromResponseBytes ((c.layout ++ block.layout).take n) =
            Except.error (PyError.eofError message)) := by
  constructor
  · by_cases hblock : block = CanaryBlock.absent
    · subst hblock
      have hchunk := fromResponseBytes_chunk c
      rw [← List.append_nil c.layout] at hchunk
      exact hchunk
    · exact fromResponseBytes_block c hblock
  · intro n hn
    rw [List.length_append] at hn
    constructor
    · rintro rfl
      rw [List.take_left']
      · exact fromResponseBytes_chunk c
      · rfl
    · intro hne
      rw [List.take_append]
      by_cases hshort : n < c.layout.length
      · rw [Nat.sub_eq_zero_of_le (Nat.le_of_lt hshort), List.take_zero,
          List.append_nil]
        exact fromResponseBytes_cut_chunk c hshort
      · rw [List.take_of_length_le (Nat.le_of_not_lt hshort)]
        exact fromResponseBytes_cut_block c block (by omega) (by omega)

def sampleChunk : ConfigChunk where
  tenant := SizedText.letter 0
  group := SizedText.letter 0
  dataId := SizedText.letter 0
  md5 := List.replicate 16 7
  md5_length := rfl
  totalChunks := 1
  chunkIndex := 0
  isDeleted := false
  content := [1, 2, 3]
  content_fits := by decide

def sampleBlock : CanaryBlock :=
  CanaryBlock.canary (SizedText.letter 1) (SizedText.letter 1)
    { entries := [(SizedText.letter 0, SizedText.letter 0)]
      distinct := by decide
      few := by decide }

theorem fromResponseBytes_layout_sample :
    fromResponseBytes ((sampleChunk.layout ++ sampleBlock.layout).take 34) =
        Except.ok sampleChunk.entry ∧
      exists message,
        fromResponseBytes ((sampleChunk.layout ++ sampleBlock.layout).take 36) =
          Except.error (PyError.eofError message) := by
  have hlayout := (fromResponseBytes_layout sampleChunk sampleBlock).2
  exact ⟨(hlayout 34 (by decide)).1 (by decide),
    (hlayout 36 (by decide)).2 (by decide)⟩

end ConfigEntry

end Models
end Hmmp
