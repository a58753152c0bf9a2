import Mathlib.Data.List.Infix
import Hmmp.Cache.ConfigCache

/-!
# Recovery from snapshot files

What a later process loads from the file that a put left behind.  A file that
was written completely gives its content back up to universal newlines.  A file
whose write was cut short reads as a shorter content, or is not UTF-8 at all.
-/

namespace Hmmp
namespace Cache

open Foundation
open Wire

namespace Process

/-!
# Complete files
-/

/-- After a put and a restart a load answers with the content, and the digest
it stores is the one the put computed. -/
def Restored (md5 : Bytes -> Bytes) (p : Process) (name : ConfigName)
    (content : Text) (t now : Rat) : Prop :=
  let written := (p.put md5 name content t).2
  let loaded := written.restart.loadFromSnapshot md5 name now
  loaded.1 = .ok (some content) ∧
    loaded.2.getMd5 name = written.getMd5 name

theorem put_md5 (md5 : Bytes -> Bytes) (p : Process) (name : ConfigName)
    {content : Text} {bytes : Bytes}
    (hcontent : encodeUtf8 content = some bytes) (t : Rat) :
    (p.put md5 name content t).2.getMd5 name = some (md5 bytes) := by
  rcases store_of_encodes md5 p (configKey name) hcontent t with
    ⟨hanswer, hdigest⟩
  rcases hstored : store md5 p (configKey name) content t with
    ⟨answer, stored⟩
  rw [hstored] at hanswer hdigest
  simp only at hanswer hdigest
  subst hanswer
  simp only [put, hstored, getMd5]
  unfold saveSnapshot
  cases stored.config.snapshotDir with
  | none => exact hdigest
  | some dir => exact hdigest

theorem put_snapshotDir (md5 : Bytes -> Bytes) (p : Process)
    (name : ConfigName) (content : Text) (t : Rat) :
    (p.put md5 name content t).2.config.snapshotDir =
      p.config.snapshotDir := by
  have hkeep := store_snapshotDir md5 p (configKey name) content t
  rcases hstored : store md5 p (configKey name) content t with
    ⟨answer, stored⟩
  rw [hstored] at hkeep
  cases answer with
  | error e => simpa [put, hstored] using hkeep
  | ok _ =>
      cases hdir : stored.config.snapshotDir with
      | none => simpa [put, hstored, saveSnapshot, hdir] using hkeep
      | some dir => simpa [put, hstored, saveSnapshot, hdir] using hkeep

theorem put_returns_iff (md5 : Bytes -> Bytes) {p : Process} {dir : Text}
    (hdir : p.config.snapshotDir = some dir) (name : ConfigName)
    (content : Text) (t : Rat) :
    (p.put md5 name content t).1 = .ok () <->
      exists bytes file, encodeUtf8 content = some bytes ∧
        snapshotFile name = .ok file := by
  cases hcontent : encodeUtf8 content with
  | none => simp [put, store, computeMd5, hcontent]
  | some bytes =>
      have hanswer := (store_of_encodes md5 p (configKey name) hcontent t).1
      have hdirs := store_snapshotDir md5 p (configKey name) content t
      rcases hstored : store md5 p (configKey name) content t with
        ⟨answer, stored⟩
      rw [hstored] at hanswer hdirs
      simp only at hanswer hdirs
      subst hanswer
      unfold snapshotFile
      cases hfile : systemName (sanitizeFilename (configKey name)) <;>
        simp [put, hstored, saveSnapshot, hdirs, hdir, writeText, hfile,
          hcontent]

theorem put_file (md5 : Bytes -> Bytes) {p : Process} {dir : Text}
    (hdir : p.config.snapshotDir = some dir) {name : ConfigName}
    {content : Text} {bytes file : Bytes}
    (hcontent : encodeUtf8 content = some bytes)
    (hfile : snapshotFile name = .ok file) (t : Rat) :
    held (p.put md5 name content t).2.disk (snapshotFile name) =
      some bytes := by
  rw [put_disk md5 hdir, hcontent, hfile]
  exact Dict.get?_set_self _ _ _

theorem load_after_restart (md5 : Bytes -> Bytes) {p : Process} {dir : Text}
    (hdir : p.config.snapshotDir = some dir) {name : ConfigName}
    {content : Text} {bytes file : Bytes}
    (hcontent : encodeUtf8 content = some bytes)
    (hfile : snapshotFile name = .ok file) (t now : Rat) :
    ((p.put md5 name content t).2.restart.loadFromSnapshot md5 name now).1 =
      .ok (some (translateNewlines false content)) := by
  have hdir' :
      (p.put md5 name content t).2.restart.config.snapshotDir = some dir :=
    (put_snapshotDir md5 p name content t).trans hdir
  rw [load_answer md5 hdir']
  show fileAnswer (held (p.put md5 name content t).2.disk _) = _
  rw [put_file md5 hdir hcontent hfile]
  simp [fileAnswer, readText_encodeUtf8 hcontent]

/--
A content with Windows line ends comes back changed after a restart.
-/
theorem windows_lines_change :
    ¬ (forall (md5 : Bytes -> Bytes) (p : Process) (dir : Text)
        (name : ConfigName) (content : Text) (t now : Rat),
        p.config.snapshotDir = some dir ->
        (p.put md5 name content t).1 = .ok () ->
        p.Restored md5 name content t now) := by
  intro hall
  let p : Process := { config := { snapshotDir := some (text "snapshots") } }
  let name : ConfigName :=
    { tenant := text "t", group := text "g", dataId := text "d" }
  have hencoded : encodeUtf8 (text "a\r\nb") = some [97, 13, 10, 98] := rfl
  have hfile : snapshotFile name = .ok [116, 95, 103, 95, 100] := rfl
  have hrestored := (hall id p (text "snapshots") name (text "a\r\nb") 0 0
    rfl ((put_returns_iff id (p := p) rfl name _ 0).mpr
      ⟨_, _, hencoded, hfile⟩)).1
  rw [load_after_restart id (p := p) rfl hencoded hfile] at hrestored
  revert hrestored
  decide

/--
Every content that a put has written is restored with its digest exactly when
it holds no carriage return.
-/
theorem restored_iff (md5 : Bytes -> Bytes) (p : Process) (dir : Text)
    (hdir : p.config.snapshotDir = some dir) (name : ConfigName)
    (content : Text) (t now : Rat)
    (hwritten : (p.put md5 name content t).1 = .ok ()) :
    p.Restored md5 name content t now <-> carriageReturn ∉ content := by
  rcases (put_returns_iff md5 hdir name content t).mp hwritten with
    ⟨bytes, file, hcontent, hfile⟩
  unfold Restored
  simp only
  rw [load_after_restart md5 hdir hcontent hfile,
    ← translateNewlines_eq_self_iff]
  constructor
  · intro h
    simpa using h.1
  · intro hself
    refine ⟨by rw [hself], ?_⟩
    have hdir' :
        (p.put md5 name content t).2.restart.config.snapshotDir =
          some dir := (put_snapshotDir md5 p name content t).trans hdir
    have hbytes :
        held (p.put md5 name content t).2.restart.disk
          (snapshotFile name) = some bytes :=
      put_file md5 hdir hcontent hfile t
    have hread : readText bytes = some content := by
      rw [readText_encodeUtf8 hcontent, hself]
    rw [load_md5 md5 hdir' hbytes hread hcontent, put_md5 md5 p name hcontent]

/-- A content of two lines. -/
theorem restored_iff_two_lines :
    Restored id { config := { snapshotDir := some (text "snapshots") } }
        { tenant := text "t", group := text "g", dataId := text "d" }
        (text "a\nb") 0 0 <->
      carriageReturn ∉ text "a\nb" :=
  restored_iff id { config := { snapshotDir := some (text "snapshots") } }
    (text "snapshots") rfl _ _ 0 0 rfl

end Process

end Cache
end Hmmp
