import Hmmp.Foundation.Dict
import Hmmp.Foundation.TextFile
import Hmmp.Wire.Errors

/-!
# The cache of configurations

The cache keeps contents, fetch times and MD5 digests in memory and a copy of
each content in a file of the snapshot directory.  The directory is a
dictionary from the bytes of file names to those of files; it keeps different
names apart and performs every operation on a name that has bytes.  The digest
is a parameter.
-/

namespace Hmmp
namespace Cache

open Foundation
open Wire

/-- The files of the snapshot directory. -/
abbrev Disk := Dict Bytes Bytes

/-- The arguments that name a configuration. -/
structure ConfigName where
  tenant : Text
  group : Text
  dataId : Text
  tag : Option Text := none
  deriving DecidableEq

structure ConfigCache where
  cache : Dict Text Text := Dict.empty
  fetchTime : Dict Text Rat := Dict.empty
  md5Cache : Dict Text Bytes := Dict.empty
  ttlMs : Int := 30000
  snapshotDir : Option Text := none

/-- A cache in a process together with the files that outlive it. -/
structure Process where
  config : ConfigCache := {}
  disk : Disk := Dict.empty

def configKey (name : ConfigName) : Text :=
  let key := name.tenant ++ text "+" ++ name.group ++ text "+" ++ name.dataId
  match name.tag with
  | some tag => if tag = [] then key else key ++ text "+tag:" ++ tag
  | none => key

/-- Every {lit}`+`, {lit}`/` and backslash becomes an underscore. -/
def sanitizeFilename (key : Text) : Text :=
  key.map fun c =>
    if c = codePointOf '+' ∨ c = codePointOf '/' ∨ c = codePointOf '\\' then
      codePointOf '_'
    else
      c

def computeMd5 (md5 : Bytes -> Bytes) (content : Text) :
    Except PyError Bytes :=
  match encodeUtf8 content with
  | some bytes => .ok (md5 bytes)
  | none => .error .unicodeEncodeError

/-- The name under which the system knows a file; without one every access
raises. -/
def systemName (filename : Text) : Except PyError Bytes :=
  match fsEncode filename with
  | none => .error .unicodeEncodeError
  | some name =>
      if 0 ∈ name then .error (.valueError "embedded null byte")
      else .ok name

/-- A file the system cannot have is not found. -/
def held (disk : Disk) : Except PyError Bytes -> Option Bytes
  | .error _ => none
  | .ok file => disk.get? file

/-- The file is truncated when it is opened, before the text is encoded. -/
def writeText (disk : Disk) (filename : Text) (content : Text) :
    Except PyError Unit × Disk :=
  match systemName filename with
  | .error e => (.error e, disk)
  | .ok name =>
      match encodeUtf8 content with
      | some bytes => (.ok (), disk.set name bytes)
      | none => (.error .unicodeEncodeError, disk.set name [])

def unlink (disk : Disk) (filename : Text) : Except PyError Unit × Disk :=
  match systemName filename with
  | .error e => (.error e, disk)
  | .ok name => (.ok (), disk.pop name)

namespace Process

def saveSnapshot (p : Process) (key content : Text) :
    Except PyError Unit × Process :=
  match p.config.snapshotDir with
  | none => (.ok (), p)
  | some _ =>
      let (answer, disk) := writeText p.disk (sanitizeFilename key) content
      (answer, { p with disk := disk })

def deleteSnapshot (p : Process) (key : Text) :
    Except PyError Unit × Process :=
  match p.config.snapshotDir with
  | none => (.ok (), p)
  | some _ =>
      let (answer, disk) := unlink p.disk (sanitizeFilename key)
      (answer, { p with disk := disk })

/-- The content and its fetch time are stored before the digest is computed,
which raises for a content that UTF-8 cannot encode. -/
def store (md5 : Bytes -> Bytes) (p : Process) (key content : Text)
    (now : Rat) : Except PyError Unit × Process :=
  let stored := { p.config with
    cache := p.config.cache.set key content
    fetchTime := p.config.fetchTime.set key now }
  match computeMd5 md5 content with
  | .error e => (.error e, { p with config := stored })
  | .ok digest =>
      (.ok (), { p with config :=
        { stored with md5Cache := stored.md5Cache.set key digest } })

/-- The cached content, if it is not expired at the reading. -/
def get (p : Process) (name : ConfigName) (now : Rat) : Option Text :=
  let key := configKey name
  match p.config.cache.get? key, p.config.fetchTime.get? key with
  | some cached, some fetchedAt =>
      if now - fetchedAt < p.config.ttlMs then some cached else none
  | _, _ => none

def put (md5 : Bytes -> Bytes) (p : Process) (name : ConfigName)
    (content : Text) (now : Rat) : Except PyError Unit × Process :=
  let key := configKey name
  match store md5 p key content now with
  | (.error e, p) => (.error e, p)
  | (.ok _, p) => p.saveSnapshot key content

/-- Forget the content in memory and keep the snapshot file. -/
def invalidate (p : Process) (name : ConfigName) : Process :=
  let key := configKey name
  { p with config := { p.config with
      cache := p.config.cache.pop key
      fetchTime := p.config.fetchTime.pop key
      md5Cache := p.config.md5Cache.pop key } }

def remove (p : Process) (name : ConfigName) :
    Except PyError Unit × Process :=
  (p.invalidate name).deleteSnapshot (configKey name)

def getMd5 (p : Process) (name : ConfigName) : Option Bytes :=
  p.config.md5Cache.get? (configKey name)

/-- A file that is not UTF-8 raises; what is read is stored again. -/
def loadFromSnapshot (md5 : Bytes -> Bytes) (p : Process)
    (name : ConfigName) (now : Rat) :
    Except PyError (Option Text) × Process :=
  let key := configKey name
  match p.config.snapshotDir with
  | none => (.ok none, p)
  | some _ =>
      match held p.disk (systemName (sanitizeFilename key)) with
      | none => (.ok none, p)
      | some bytes =>
          match readText bytes with
          | none => (.error .unicodeDecodeError, p)
          | some content =>
              match store md5 p key content now with
              | (.error e, p) => (.error e, p)
              | (.ok _, p) => (.ok (some content), p)

/-- A later process with a new cache over the same files. -/
def restart (p : Process) : Process :=
  { config :=
      { ttlMs := p.config.ttlMs, snapshotDir := p.config.snapshotDir }
    disk := p.disk }

/-!
# The snapshot file of a key

What a load answers depends on the file of its key alone, and that file is
changed by the puts and removals whose keys have the same file name.
-/

/-- The answer of a load that finds these bytes in the file of its key. -/
def fileAnswer : Option Bytes -> Except PyError (Option Text)
  | none => .ok none
  | some bytes =>
      match readText bytes with
      | none => .error .unicodeDecodeError
      | some content => .ok (some content)

def snapshotFile (name : ConfigName) : Except PyError Bytes :=
  systemName (sanitizeFilename (configKey name))

theorem store_disk (md5 : Bytes -> Bytes) (p : Process) (key content : Text)
    (now : Rat) : (store md5 p key content now).2.disk = p.disk := by
  unfold store
  cases computeMd5 md5 content <;> rfl

theorem store_snapshotDir (md5 : Bytes -> Bytes) (p : Process)
    (key content : Text) (now : Rat) :
    (store md5 p key content now).2.config.snapshotDir =
      p.config.snapshotDir := by
  unfold store
  cases computeMd5 md5 content <;> rfl

theorem computeMd5_of_encodes (md5 : Bytes -> Bytes) {content : Text}
    {bytes : Bytes} (h : encodeUtf8 content = some bytes) :
    computeMd5 md5 content = .ok (md5 bytes) := by
  simp [computeMd5, h]

theorem store_of_encodes (md5 : Bytes -> Bytes) (p : Process) (key : Text)
    {content : Text} {bytes : Bytes} (h : encodeUtf8 content = some bytes)
    (now : Rat) :
    (store md5 p key content now).1 = .ok () ∧
      (store md5 p key content now).2.config.md5Cache.get? key =
        some (md5 bytes) := by
  unfold store
  rw [computeMd5_of_encodes md5 h]
  exact ⟨rfl, Dict.get?_set_self _ _ _⟩

theorem load_answer (md5 : Bytes -> Bytes) {p : Process} {dir : Text}
    (hdir : p.config.snapshotDir = some dir) (name : ConfigName)
    (now : Rat) :
    (loadFromSnapshot md5 p name now).1 =
      fileAnswer (held p.disk (snapshotFile name)) := by
  unfold loadFromSnapshot fileAnswer snapshotFile
  simp only [hdir]
  cases held p.disk (systemName (sanitizeFilename (configKey name))) with
  | none => rfl
  | some bytes =>
      cases hread : readText bytes with
      | none => simp [hread]
      | some content =>
          rcases encodeUtf8_of_readText hread with ⟨again, hagain⟩
          simp [hread, store, computeMd5_of_encodes md5 hagain]

theorem load_md5 (md5 : Bytes -> Bytes) {p : Process} {dir : Text}
    (hdir : p.config.snapshotDir = some dir) {name : ConfigName}
    {bytes again : Bytes} {content : Text}
    (hfile : held p.disk (snapshotFile name) = some bytes)
    (hread : readText bytes = some content)
    (hagain : encodeUtf8 content = some again) (now : Rat) :
    (loadFromSnapshot md5 p name now).2.getMd5 name = some (md5 again) := by
  unfold snapshotFile at hfile
  have hstore := store_of_encodes md5 p (configKey name) hagain now
  rcases hstored : store md5 p (configKey name) content now with
    ⟨answer, stored⟩
  rw [hstored] at hstore
  rcases hstore with ⟨hanswer, hdigest⟩
  simp only at hanswer
  subst hanswer
  simp only [loadFromSnapshot, hdir, hfile, hread, hstored, getMd5]
  exact hdigest

theorem put_disk (md5 : Bytes -> Bytes) {p : Process} {dir : Text}
    (hdir : p.config.snapshotDir = some dir) (name : ConfigName)
    (content : Text) (now : Rat) :
    (put md5 p name content now).2.disk =
      match encodeUtf8 content, snapshotFile name with
      | some bytes, .ok file => p.disk.set file bytes
      | _, _ => p.disk := by
  have hdisk := store_disk md5 p (configKey name) content now
  have hdirs := store_snapshotDir md5 p (configKey name) content now
  cases hcontent : encodeUtf8 content with
  | none => simp [put, store, computeMd5, hcontent]
  | some bytes =>
      have hanswer :=
        (store_of_encodes md5 p (configKey name) hcontent now).1
      rcases hstored : store md5 p (configKey name) content now with
        ⟨answer, stored⟩
      rw [hstored] at hdisk hdirs hanswer
      simp only at hdisk hdirs hanswer
      subst hanswer
      unfold snapshotFile
      cases hfile : systemName (sanitizeFilename (configKey name)) <;>
        simp [put, hstored, saveSnapshot, hdirs, hdir, writeText, hfile,
          hcontent, hdisk]

theorem remove_disk {p : Process} {dir : Text}
    (hdir : p.config.snapshotDir = some dir) (name : ConfigName) :
    (remove p name).2.disk =
      match snapshotFile name with
      | .ok file => p.disk.pop file
      | .error _ => p.disk := by
  unfold snapshotFile
  cases hfile : systemName (sanitizeFilename (configKey name)) <;>
    simp [remove, deleteSnapshot, unlink, invalidate, hdir, hfile]

theorem load_disk (md5 : Bytes -> Bytes) (p : Process) (name : ConfigName)
    (now : Rat) : (loadFromSnapshot md5 p name now).2.disk = p.disk := by
  unfold loadFromSnapshot
  simp only
  split
  · rfl
  · split
    · rfl
    · split
      · rfl
      · rename_i content _
        have hdisk := store_disk md5 p (configKey name) content now
        split
        · rename_i hstored
          rw [hstored] at hdisk
          exact hdisk
        · rename_i hstored
          rw [hstored] at hdisk
          exact hdisk

end Process

end Cache
end Hmmp
