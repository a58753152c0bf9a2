import Mathlib.Data.List.Infix
import Hmmp.Cache.SnapshotRecovery

/-!
# Crashes during a put

The file of a key is truncated when it is opened and then filled byte by byte,
so a process that dies during a put leaves the old file or any prefix of the
new bytes.  The reader has no means to tell a prefix from a whole file.
-/

namespace Hmmp
namespace Cache

open Foundation
open Wire

/-- The files a write goes through, the last one being its result. -/
def writeStages (disk : Disk) (filename : Text) (content : Text) :
    List Disk :=
  match systemName filename with
  | .error _ => [disk]
  | .ok name =>
      match encodeUtf8 content with
      | some bytes => bytes.inits.map fun written => disk.set name written
      | none => [disk.set name []]

/-- The file holds the whole encoding of a content, or does not exist. -/
def Complete (disk : Disk) (file : Except PyError Bytes) :
    Option Text -> Prop
  | none => held disk file = none
  | some content => exists bytes,
      encodeUtf8 content = some bytes ∧ held disk file = some bytes

namespace Process

/-- The files a put can leave behind when its process dies. -/
def putStages (md5 : Bytes -> Bytes) (p : Process) (name : ConfigName)
    (content : Text) (t : Rat) : List Disk :=
  let key := configKey name
  match store md5 p key content t with
  | (.error _, p) => [p.disk]
  | (.ok _, p) =>
      match p.config.snapshotDir with
      | none => [p.disk]
      | some _ =>
          p.disk :: writeStages p.disk (sanitizeFilename key) content

def laterLoad (md5 : Bytes -> Bytes) (p : Process) (disk : Disk)
    (name : ConfigName) (now : Rat) : Except PyError (Option Text) :=
  ((restart { p with disk := disk }).loadFromSnapshot md5 name now).1

/-- Wherever the process dies during a put, a later load answers as for the old
file, as for the new one, or with nothing. -/
def CrashSafe (md5 : Bytes -> Bytes) (p : Process) (name : ConfigName)
    (content : Text) (t : Rat) : Prop :=
  forall disk, disk ∈ p.putStages md5 name content t -> forall now,
    p.laterLoad md5 disk name now = p.laterLoad md5 p.disk name now ∨
      p.laterLoad md5 disk name now =
        p.laterLoad md5 (p.put md5 name content t).2.disk name now ∨
      p.laterLoad md5 disk name now = .ok none

/-!
# The stages of a put
-/

theorem getLast_inits (bytes : Bytes) :
    bytes.inits.getLast? = some bytes := by
  induction bytes with
  | nil => rfl
  | cons b bytes ih => simp [List.getLast?_cons, ih]

theorem writeStages_getLast (disk : Disk) (filename content : Text) :
    (writeStages disk filename content).getLast? =
      some (writeText disk filename content).2 := by
  unfold writeStages writeText
  cases systemName filename with
  | error e => rfl
  | ok name =>
      cases encodeUtf8 content with
      | none => rfl
      | some bytes =>
          simp only [List.getLast?_map, getLast_inits]
          rfl

theorem putStages_getLast (md5 : Bytes -> Bytes) (p : Process)
    (name : ConfigName) (content : Text) (t : Rat) :
    (p.putStages md5 name content t).getLast? =
      some (p.put md5 name content t).2.disk := by
  rcases hstored : store md5 p (configKey name) content t with
    ⟨answer, stored⟩
  cases answer with
  | error e => simp [putStages, put, hstored]
  | ok _ =>
      cases hdir : stored.config.snapshotDir with
      | none => simp [putStages, put, hstored, saveSnapshot, hdir]
      | some dir =>
          simp [putStages, put, hstored, saveSnapshot, hdir,
            List.getLast?_cons, writeStages_getLast]

theorem mem_putStages (md5 : Bytes -> Bytes) {p : Process} {dir : Text}
    (hdir : p.config.snapshotDir = some dir) {name : ConfigName}
    {content : Text} {bytes file : Bytes}
    (hcontent : encodeUtf8 content = some bytes)
    (hfile : snapshotFile name = .ok file) (t : Rat) (disk : Disk) :
    disk ∈ p.putStages md5 name content t <->
      disk = p.disk ∨ exists written, written <+: bytes ∧
        disk = p.disk.set file written := by
  unfold snapshotFile at hfile
  have hanswer := (store_of_encodes md5 p (configKey name) hcontent t).1
  have hdisk := store_disk md5 p (configKey name) content t
  have hdirs := store_snapshotDir md5 p (configKey name) content t
  rcases hstored : store md5 p (configKey name) content t with
    ⟨answer, stored⟩
  rw [hstored] at hanswer hdisk hdirs
  simp only at hanswer hdisk hdirs
  subst hanswer
  have hstages : p.putStages md5 name content t =
      p.disk :: bytes.inits.map
        (fun written => p.disk.set file written) := by
    simp [putStages, hstored, hdirs, hdir, hdisk, writeStages, hcontent,
      hfile]
  rw [hstages, List.mem_cons, List.mem_map]
  constructor
  · intro h
    rcases h with heq | ⟨written, hwritten, heq⟩
    · exact Or.inl heq
    · exact Or.inr ⟨written, (List.mem_inits _ _).mp hwritten, heq.symm⟩
  · intro h
    rcases h with heq | ⟨written, hwritten, heq⟩
    · exact Or.inl heq
    · exact Or.inr ⟨written, (List.mem_inits _ _).mpr hwritten, heq.symm⟩

theorem putStages_of_unencodable (md5 : Bytes -> Bytes) (p : Process)
    (name : ConfigName) {content : Text}
    (hcontent : encodeUtf8 content = none) (t : Rat) :
    p.putStages md5 name content t = [p.disk] := by
  simp [putStages, store, computeMd5, hcontent]

theorem putStages_of_unnamed (md5 : Bytes -> Bytes) (p : Process)
    {name : ConfigName} {e : PyError}
    (hfile : snapshotFile name = .error e) (content : Text) (t : Rat)
    {disk : Disk} (h : disk ∈ p.putStages md5 name content t) :
    disk = p.disk := by
  unfold snapshotFile at hfile
  have hdisk := store_disk md5 p (configKey name) content t
  rcases hstored : store md5 p (configKey name) content t with
    ⟨answer, stored⟩
  rw [hstored] at hdisk
  rw [← hdisk]
  unfold putStages at h
  simp only [hstored] at h
  cases answer with
  | error e => simpa using h
  | ok _ =>
      cases hdir : stored.config.snapshotDir with
      | none => simpa [hdir] using h
      | some dir => simpa [hdir, writeStages, hfile] using h

/-!
# What a later process loads
-/

theorem laterLoad_eq (md5 : Bytes -> Bytes) {p : Process} {dir : Text}
    (hdir : p.config.snapshotDir = some dir) (disk : Disk)
    (name : ConfigName) (now : Rat) :
    p.laterLoad md5 disk name now =
      fileAnswer (held disk (snapshotFile name)) :=
  load_answer md5 (p := restart { p with disk := disk }) hdir name now

theorem laterLoad_set (md5 : Bytes -> Bytes) {p : Process} {dir : Text}
    (hdir : p.config.snapshotDir = some dir) {name : ConfigName}
    {file : Bytes} (hfile : snapshotFile name = .ok file)
    (written : Bytes) (now : Rat) :
    p.laterLoad md5 (p.disk.set file written) name now =
      fileAnswer (some written) := by
  rw [laterLoad_eq md5 hdir, hfile, held, Dict.get?_set_self]

def completeAnswer : Option Text -> Except PyError (Option Text)
  | none => .ok none
  | some content => .ok (some (translateNewlines false content))

theorem fileAnswer_of_complete {disk : Disk} {file : Except PyError Bytes}
    {content : Option Text} (h : Complete disk file content) :
    fileAnswer (held disk file) = completeAnswer content := by
  cases content with
  | none =>
      rw [show held disk file = none from h]
      rfl
  | some content =>
      rcases h with ⟨bytes, hbytes, hfile⟩
      rw [hfile]
      simp [fileAnswer, readText_encodeUtf8 hbytes, completeAnswer]

theorem crashSafe_iff_prefixes (md5 : Bytes -> Bytes) {p : Process}
    {dir : Text} (hdir : p.config.snapshotDir = some dir)
    {name : ConfigName} {file : Bytes} (hfile : snapshotFile name = .ok file)
    {old : Option Text} (hold : Complete p.disk (snapshotFile name) old)
    {content : Text} {bytes : Bytes}
    (hcontent : encodeUtf8 content = some bytes) (t : Rat) :
    p.CrashSafe md5 name content t <->
      forall written, written <+: bytes ->
        fileAnswer (some written) = completeAnswer old ∨
          fileAnswer (some written) = completeAnswer (some content) ∨
          fileAnswer (some written) = .ok none := by
  have hnew : forall now,
      p.laterLoad md5 (p.put md5 name content t).2.disk name now =
        completeAnswer (some content) := by
    intro now
    rw [laterLoad_eq md5 hdir, put_file md5 hdir hcontent hfile]
    simp [fileAnswer, readText_encodeUtf8 hcontent, completeAnswer]
  have holds : forall now, p.laterLoad md5 p.disk name now =
      completeAnswer old := by
    intro now
    rw [laterLoad_eq md5 hdir, fileAnswer_of_complete hold]
  unfold CrashSafe
  constructor
  · intro hsafe written hwritten
    have hanswer := hsafe (p.disk.set file written)
      ((mem_putStages md5 hdir hcontent hfile t _).mpr
        (Or.inr ⟨written, hwritten, rfl⟩)) 0
    rwa [laterLoad_set md5 hdir hfile, holds, hnew] at hanswer
  · intro hprefixes disk hdisk now
    rcases (mem_putStages md5 hdir hcontent hfile t disk).mp hdisk with
      heq | ⟨written, hwritten, heq⟩
    · exact Or.inl (by rw [heq])
    · rw [heq, laterLoad_set md5 hdir hfile, holds, hnew]
      exact hprefixes written hwritten

/-!
# Which contents survive every crash
-/

theorem completeAnswer_eq_empty_iff {old : Option Text} :
    completeAnswer old = .ok (some []) <-> old = some [] := by
  cases old with
  | none => simp [completeAnswer]
  | some content =>
      simp [completeAnswer, translateNewlines_false_eq_nil_iff]

theorem prefix_single {b : UInt8} {written : Bytes}
    (h : written <+: [b]) : written = [] ∨ written = [b] := by
  simpa using List.prefix_cons_iff.mp h

theorem prefix_pair {b x : UInt8} {written : Bytes}
    (h : written <+: [b, x]) :
    written = [] ∨ written = [b] ∨ written = [b, x] := by
  rcases List.prefix_cons_iff.mp h with hnil | ⟨rest, hwritten, hrest⟩
  · exact Or.inl hnil
  · rcases prefix_single hrest with hnil | hone
    · exact Or.inr (Or.inl (by rw [hwritten, hnil]))
    · exact Or.inr (Or.inr (by rw [hwritten, hone]))

/-- The empty prefix shows the old content to have been empty, and the first
byte the new one to read like a single ASCII character. -/
theorem crash_condition {old : Option Text} {c : CodePoint} {rest : Text}
    {bytes : Bytes} (hcontent : encodeUtf8 (c :: rest) = some bytes)
    (h : forall written, written <+: bytes ->
      fileAnswer (some written) = completeAnswer old ∨
        fileAnswer (some written) = completeAnswer (some (c :: rest)) ∨
        fileAnswer (some written) = .ok none) :
    old = some [] ∧ c.val < 0x80 ∧
      (rest = [] ∨ (c = carriageReturn ∧ rest = [lineFeed])) := by
  have hempty : old = some [] := by
    apply completeAnswer_eq_empty_iff.mp
    rcases h [] (List.nil_prefix ..) with hold | hnew | hnone
    · exact hold.symm
    · have hnil := completeAnswer_eq_empty_iff.mp hnew.symm
      cases hnil
    · cases hnone
  subst hempty
  cases bytes with
  | nil => exact absurd (encodeUtf8_eq_nil_iff.mp hcontent) (by simp)
  | cons b bytes =>
      have hfirst := h [b] (by simp [List.prefix_cons_iff])
      cases hread : decodeUtf8 [b] with
      | none =>
          simp [fileAnswer, readText, hread, completeAnswer] at hfirst
      | some s =>
          rcases decodeUtf8_first_byte hcontent hread with ⟨rfl, hascii⟩
          refine ⟨rfl, hascii, translateNewlines_eq_head_iff.mp ?_⟩
          have hnonempty : translateNewlines false [c] ≠ [] := by
            intro hnil
            cases translateNewlines_false_eq_nil_iff.mp hnil
          have hnil : translateNewlines false [] = [] := rfl
          simp only [fileAnswer, readText, hread, Option.map_some,
            completeAnswer, hnil, Except.ok.injEq, Option.some.injEq,
            hnonempty, false_or, reduceCtorEq, or_false] at hfirst
          exact hfirst.symm

/-- A crash while two letters are written over one can leave the first of
them. -/
theorem half_written_content_is_loaded :
    ¬ (forall (md5 : Bytes -> Bytes) (p : Process) (dir : Text)
        (name : ConfigName) (old content : Text) (t : Rat),
        p.config.snapshotDir = some dir ->
        Complete p.disk (snapshotFile name) (some old) ->
        p.CrashSafe md5 name content t) := by
  intro hall
  let name : ConfigName :=
    { tenant := text "t", group := text "g", dataId := text "d" }
  let p : Process :=
    { config := { snapshotDir := some (text "snapshots") }
      disk := Dict.empty.set [116, 95, 103, 95, 100] [97] }
  have hfile : snapshotFile name = .ok [116, 95, 103, 95, 100] := rfl
  have hold : Complete p.disk (snapshotFile name) (some (text "a")) :=
    ⟨[97], rfl, Dict.get?_set_self _ _ _⟩
  have hsafe := hall id p (text "snapshots") name (text "a") (text "bc") 0
    rfl hold
  have hbytes : encodeUtf8 (text "bc") = some [98, 99] := rfl
  have hprefixes :=
    (crashSafe_iff_prefixes id (p := p) rfl hfile hold hbytes 0).mp hsafe
  have hhalf := hprefixes [98] (by decide)
  revert hhalf
  decide

theorem crashSafe_iff_of_file (md5 : Bytes -> Bytes) {p : Process}
    {dir : Text} (hdir : p.config.snapshotDir = some dir)
    {name : ConfigName} {file : Bytes} (hfile : snapshotFile name = .ok file)
    {old : Option Text} (hold : Complete p.disk (snapshotFile name) old)
    (content : Text) (t : Rat) :
    p.CrashSafe md5 name content t <->
      encodeUtf8 content = none ∨ content = [] ∨
        (old = some [] ∧
          ((exists c : CodePoint, c.val < 0x80 ∧ content = [c]) ∨
            content = [carriageReturn, lineFeed])) := by
  cases hcontent : encodeUtf8 content with
  | none =>
      refine iff_of_true ?_ (Or.inl rfl)
      intro disk hdisk now
      rw [putStages_of_unencodable md5 p name hcontent,
        List.mem_singleton] at hdisk
      exact Or.inl (by rw [hdisk])
  | some bytes =>
      rw [crashSafe_iff_prefixes md5 hdir hfile hold hcontent]
      constructor
      · intro h
        cases content with
        | nil => exact Or.inr (Or.inl rfl)
        | cons c rest =>
            rcases crash_condition hcontent h with
              ⟨hold, hascii, hshape⟩
            refine Or.inr (Or.inr ⟨hold, ?_⟩)
            rcases hshape with hsingle | ⟨hreturn, hfeed⟩
            · exact Or.inl ⟨c, hascii, by rw [hsingle]⟩
            · exact Or.inr (by rw [hreturn, hfeed])
      · intro h written hwritten
        rcases h with hnone | hempty | ⟨hempty, ⟨c, hascii, hsingle⟩ | hline⟩
        · cases hnone
        · subst hempty
          rw [encodeUtf8_nil] at hcontent
          injection hcontent with hcontent
          subst hcontent
          rw [List.prefix_nil] at hwritten
          subst hwritten
          exact Or.inr (Or.inl rfl)
        · subst hempty hsingle
          have hbytes : bytes = [UInt8.ofNat c.val] := by
            have hone : encodeUtf8 [c] = some [UInt8.ofNat c.val] :=
              encodeUtf8_cons_eq_some.mpr
                ⟨_, [], encodeCodePoint_ascii hascii, rfl, rfl⟩
            exact Option.some.inj (hcontent.symm.trans hone)
          subst hbytes
          rcases prefix_single hwritten with rfl | rfl
          · exact Or.inl rfl
          · refine Or.inr (Or.inl ?_)
            simp [fileAnswer, readText_encodeUtf8 hcontent, completeAnswer]
        · subst hempty hline
          have hbytes : bytes = [13, 10] :=
            Option.some.inj (hcontent.symm.trans
              (show encodeUtf8 [carriageReturn, lineFeed] = _ from rfl))
          subst hbytes
          rcases prefix_pair hwritten with rfl | rfl | rfl
          · exact Or.inl rfl
          · exact Or.inr (Or.inl rfl)
          · exact Or.inr (Or.inl rfl)

/--
Over a complete old file, or none, every crash during a put is safe exactly
when the key has no file that the system could open, when UTF-8 cannot encode
the new content, when the new content is empty, or when the old content is
empty and the new one is a single ASCII character or one Windows line end.
-/
theorem crash_safe_iff (md5 : Bytes -> Bytes) (p : Process) (dir : Text)
    (hdir : p.config.snapshotDir = some dir) (name : ConfigName)
    (old : Option Text) (hold : Complete p.disk (snapshotFile name) old)
    (content : Text) (t : Rat) :
    p.CrashSafe md5 name content t <->
      (exists e, snapshotFile name = .error e) ∨
        encodeUtf8 content = none ∨ content = [] ∨
          (old = some [] ∧
            ((exists c : CodePoint, c.val < 0x80 ∧ content = [c]) ∨
              content = [carriageReturn, lineFeed])) := by
  cases hfile : snapshotFile name with
  | error e =>
      refine iff_of_true ?_ (Or.inl ⟨e, rfl⟩)
      intro disk hdisk now
      exact Or.inl (by rw [putStages_of_unnamed md5 p hfile content t hdisk])
  | ok file =>
      rw [crashSafe_iff_of_file md5 hdir hfile hold]
      simp

/-- A digit written over an empty file. -/
theorem crash_safe_iff_digit :
    CrashSafe id
        { config := { snapshotDir := some (text "snapshots") }
          disk := Dict.empty.set [95, 95] [] }
        { tenant := [], group := [], dataId := [] } (text "1") 0 <->
      (exists e, snapshotFile { tenant := [], group := [], dataId := [] } =
          .error e) ∨
        encodeUtf8 (text "1") = none ∨ text "1" = [] ∨
          (some [] = some ([] : Text) ∧
            ((exists c : CodePoint, c.val < 0x80 ∧ text "1" = [c]) ∨
              text "1" = [carriageReturn, lineFeed])) :=
  crash_safe_iff id _ (text "snapshots") rfl _ (some [])
    ⟨[], rfl, rfl⟩ (text "1") 0

end Process

end Cache
end Hmmp
