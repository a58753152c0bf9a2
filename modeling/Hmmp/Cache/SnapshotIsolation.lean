import Hmmp.Cache.ConfigCache

/-!
# Isolation of snapshot files

Two keys share a snapshot file exactly when their key strings agree once the
separators are replaced by underscores and the surrogates are escaped.
Operations under one key leave the snapshot of another alone exactly when they
share none; that the keys themselves differ is not enough.
-/

namespace Hmmp
namespace Cache

open Foundation
open Wire

inductive ConfigOperation where
  | put (name : ConfigName) (content : Text) (now : Rat)
  | remove (name : ConfigName)
  | invalidate (name : ConfigName)
  | loadFromSnapshot (name : ConfigName) (now : Rat)

namespace ConfigOperation

def name : ConfigOperation -> ConfigName
  | .put name _ _ => name
  | .remove name => name
  | .invalidate name => name
  | .loadFromSnapshot name _ => name

def Under (name : ConfigName) (operations : List ConfigOperation) : Prop :=
  forall operation, operation ∈ operations -> operation.name = name

end ConfigOperation

/-- No component of the name holds the separator of the key. -/
def ConfigName.Separable (name : ConfigName) : Prop :=
  codePointOf '+' ∉ name.tenant ∧ codePointOf '+' ∉ name.group ∧
    codePointOf '+' ∉ name.dataId ∧
    forall tag, name.tag = some tag -> codePointOf '+' ∉ tag

namespace Process

def apply (md5 : Bytes -> Bytes) (p : Process) :
    ConfigOperation -> Process
  | .put name content now => (p.put md5 name content now).2
  | .remove name => (p.remove name).2
  | .invalidate name => p.invalidate name
  | .loadFromSnapshot name now => (p.loadFromSnapshot md5 name now).2

def run (md5 : Bytes -> Bytes) (p : Process)
    (operations : List ConfigOperation) : Process :=
  operations.foldl (apply md5) p

/-- After every history, operations under the first key do not change what a
load answers for the second. -/
def Isolated (md5 : Bytes -> Bytes) (p : Process)
    (first second : ConfigName) : Prop :=
  forall (before operations : List ConfigOperation) (now now' : Rat),
    ConfigOperation.Under first operations ->
      (((p.run md5 before).run md5 operations).loadFromSnapshot md5
          second now').1 =
        ((p.run md5 before).loadFromSnapshot md5 second now).1

/-!
# One operation
-/

theorem apply_snapshotDir (md5 : Bytes -> Bytes) (p : Process)
    (operation : ConfigOperation) :
    (p.apply md5 operation).config.snapshotDir = p.config.snapshotDir := by
  have hstore := store_snapshotDir md5 p
  cases operation with
  | put name content now =>
      have hkeep := hstore (configKey name) content now
      rcases hstored : store md5 p (configKey name) content now with
        ⟨answer, stored⟩
      rw [hstored] at hkeep
      cases answer with
      | error e => simpa [apply, put, hstored] using hkeep
      | ok _ =>
          cases hdir : stored.config.snapshotDir with
          | none => simpa [apply, put, hstored, saveSnapshot, hdir] using hkeep
          | some dir =>
              simpa [apply, put, hstored, saveSnapshot, hdir] using hkeep
  | remove name =>
      cases hdir : p.config.snapshotDir with
      | none => simp [apply, remove, invalidate, deleteSnapshot, hdir]
      | some dir => simp [apply, remove, invalidate, deleteSnapshot, hdir]
  | invalidate name => rfl
  | loadFromSnapshot name now =>
      simp only [apply, loadFromSnapshot]
      split
      · rfl
      · split
        · rfl
        · split
          · rfl
          · rename_i content _
            have hkeep := hstore (configKey name) content now
            split
            · rename_i hstored
              rwa [hstored] at hkeep
            · rename_i hstored
              rwa [hstored] at hkeep

theorem apply_other_file (md5 : Bytes -> Bytes) {p : Process} {dir : Text}
    (hdir : p.config.snapshotDir = some dir) {operation : ConfigOperation}
    {file : Bytes} (hfile : snapshotFile operation.name ≠ .ok file) :
    (p.apply md5 operation).disk.get? file = p.disk.get? file := by
  cases operation with
  | put name content now =>
      show (put md5 p name content now).2.disk.get? file = _
      rw [put_disk md5 hdir]
      split
      · rename_i bytes own hown
        apply Dict.get?_set_of_ne
        rintro rfl
        exact hfile hown
      · rfl
  | remove name =>
      show (remove p name).2.disk.get? file = _
      rw [remove_disk hdir]
      split
      · rename_i own hown
        apply Dict.get?_pop_of_ne
        rintro rfl
        exact hfile hown
      · rfl
  | invalidate name => rfl
  | loadFromSnapshot name now =>
      show (loadFromSnapshot md5 p name now).2.disk.get? file = _
      rw [load_disk]

/-!
# Histories
-/

theorem run_snapshotDir (md5 : Bytes -> Bytes) (p : Process)
    (operations : List ConfigOperation) :
    (p.run md5 operations).config.snapshotDir = p.config.snapshotDir := by
  induction operations generalizing p with
  | nil => rfl
  | cons operation rest ih =>
      exact (ih (p.apply md5 operation)).trans
        (apply_snapshotDir md5 p operation)

theorem run_other_file (md5 : Bytes -> Bytes) {p : Process} {dir : Text}
    (hdir : p.config.snapshotDir = some dir) {name : ConfigName}
    {operations : List ConfigOperation}
    (hunder : ConfigOperation.Under name operations) {file : Bytes}
    (hfile : snapshotFile name ≠ .ok file) :
    (p.run md5 operations).disk.get? file = p.disk.get? file := by
  induction operations generalizing p with
  | nil => rfl
  | cons operation rest ih =>
      have hname : operation.name = name :=
        hunder operation (List.mem_cons_self ..)
      have hrest : ConfigOperation.Under name rest := by
        intro o ho
        exact hunder o (List.mem_cons_of_mem _ ho)
      have hdir' : (p.apply md5 operation).config.snapshotDir = some dir :=
        (apply_snapshotDir md5 p operation).trans hdir
      calc ((p.apply md5 operation).run md5 rest).disk.get? file
          = (p.apply md5 operation).disk.get? file := ih hdir' hrest
        _ = p.disk.get? file := by
            apply apply_other_file md5 hdir
            rw [hname]
            exact hfile

theorem load_after_put (md5 : Bytes -> Bytes) {p : Process} {dir : Text}
    (hdir : p.config.snapshotDir = some dir) {first second : ConfigName}
    {file : Bytes} (hfirst : snapshotFile first = .ok file)
    (hsecond : snapshotFile second = .ok file) {content : Text}
    {bytes : Bytes} (hcontent : encodeUtf8 content = some bytes)
    (t now : Rat) :
    ((p.apply md5 (.put first content t)).loadFromSnapshot md5
        second now).1 = .ok (some (translateNewlines false content)) := by
  have hdir' :
      (p.apply md5 (.put first content t)).config.snapshotDir = some dir :=
    (apply_snapshotDir md5 p _).trans hdir
  rw [load_answer md5 hdir', hsecond]
  show fileAnswer ((put md5 p first content t).2.disk.get? file) = _
  rw [put_disk md5 hdir, hcontent, hfirst]
  simp [Dict.get?_set_self, fileAnswer, readText_encodeUtf8 hcontent]

theorem not_isolated_of_same_file (md5 : Bytes -> Bytes) {p : Process}
    {dir : Text} (hdir : p.config.snapshotDir = some dir)
    {first second : ConfigName} {file : Bytes}
    (hfirst : snapshotFile first = .ok file)
    (hsecond : snapshotFile second = .ok file) :
    ¬ Isolated md5 p first second := by
  intro hisolated
  have hanswer := hisolated [.put first (text "a") 0]
    [.put first (text "b") 0] 0 0 (by
      intro operation hmem
      rw [List.mem_singleton] at hmem
      subst hmem
      rfl)
  have hdir' : (p.run md5 [.put first (text "a") 0]).config.snapshotDir =
      some dir := (run_snapshotDir md5 p _).trans hdir
  have hnew := load_after_put md5 hdir' hfirst hsecond
    (show encodeUtf8 (text "b") = some [98] from rfl) 0 0
  have hold := load_after_put md5 hdir hfirst hsecond
    (show encodeUtf8 (text "a") = some [97] from rfl) 0 0
  have hsame := hnew.symm.trans (hanswer.trans hold)
  revert hsame
  decide

/--
Two tenants whose names and groups differ only in the place of an underscore
have one snapshot file.
-/
theorem tenants_share_a_file :
    ¬ (forall (md5 : Bytes -> Bytes) (p : Process) (dir : Text)
        (first second : ConfigName),
        p.config.snapshotDir = some dir -> first ≠ second ->
        first.Separable -> second.Separable ->
        Isolated md5 p first second) := by
  intro hall
  let first : ConfigName :=
    { tenant := text "a_b", group := text "c", dataId := text "d" }
  let second : ConfigName :=
    { tenant := text "a", group := text "b_c", dataId := text "d" }
  let p : Process := { config := { snapshotDir := some (text "snapshots") } }
  have hfirst : first.Separable :=
    ⟨by decide, by decide, by decide, by intro tag htag; cases htag⟩
  have hsecond : second.Separable :=
    ⟨by decide, by decide, by decide, by intro tag htag; cases htag⟩
  have hfile : snapshotFile first = .ok [97, 95, 98, 95, 99, 95, 100] := rfl
  have hisolated : Isolated id p first second :=
    hall id p (text "snapshots") first second rfl (by decide) hfirst hsecond
  exact not_isolated_of_same_file id rfl hfile rfl hisolated

/--
With a snapshot directory enabled, the operations under one key never change
what is loaded for another exactly when the two do not share a file: their key
strings, with separators and path characters replaced by underscores, have
different bytes, or the system takes one of them for no file name.
-/
theorem isolated_iff (md5 : Bytes -> Bytes) (p : Process) (dir : Text)
    (hdir : p.config.snapshotDir = some dir)
    (first second : ConfigName) :
    Isolated md5 p first second <->
      forall file, systemName (sanitizeFilename (configKey first)) = .ok file ->
        systemName (sanitizeFilename (configKey second)) ≠ .ok file := by
  constructor
  · intro hisolated file hfirst hsecond
    exact not_isolated_of_same_file md5 hdir hfirst hsecond hisolated
  · intro happart before operations now now' hunder
    have hdir' : (p.run md5 before).config.snapshotDir = some dir :=
      (run_snapshotDir md5 p before).trans hdir
    have hdir'' :
        ((p.run md5 before).run md5 operations).config.snapshotDir =
          some dir := (run_snapshotDir md5 _ operations).trans hdir'
    rw [load_answer md5 hdir', load_answer md5 hdir'']
    cases hsecond : snapshotFile second with
    | error e => rfl
    | ok file =>
        have hother : snapshotFile first ≠ .ok file := fun hfirst =>
          happart file hfirst hsecond
        rw [held, held, run_other_file md5 hdir' hunder hother]

/-- Two data ids of one group. -/
theorem isolated_iff_data_ids :
    Isolated id
        { config := { snapshotDir := some (text "snapshots") } }
        { tenant := text "a", group := text "g", dataId := text "x" }
        { tenant := text "a", group := text "g", dataId := text "y" } <->
      forall file, systemName (sanitizeFilename (configKey
          { tenant := text "a", group := text "g", dataId := text "x" })) =
            .ok file ->
        systemName (sanitizeFilename (configKey
          { tenant := text "a", group := text "g", dataId := text "y" })) ≠
            .ok file :=
  isolated_iff id
    { config := { snapshotDir := some (text "snapshots") } }
    (text "snapshots") rfl _ _

-- an escaped byte pair and the letter whose encoding it is
example :
    systemName (sanitizeFilename (configKey
        { tenant := [0xDCC3, 0xDCA9], group := text "g"
          dataId := text "d" })) =
      systemName (sanitizeFilename (configKey
        { tenant := [0xE9], group := text "g", dataId := text "d" })) := by
  decide

end Process

end Cache
end Hmmp
