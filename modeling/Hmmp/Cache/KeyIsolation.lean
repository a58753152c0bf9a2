import Mathlib.Algebra.Order.Field.Rat
import Hmmp.Foundation.Purge
import Hmmp.Foundation.Separated
import Hmmp.Cache.SnapshotCache
import Hmmp.Cache.SnapshotIsolation
import Hmmp.Cache.SnapshotRecovery

/-!
# Isolation of keys in memory

The key of an identifier is its components joined by the separator.  Two
identifiers have the same key exactly when their components, split at the
separator, give the same parts in a row; exactly then the calls under one of
them show in what the other one gets.
-/

namespace Hmmp
namespace Cache

open Foundation
open Models
open Wire

def separator : CodePoint := codePointOf '+'

/-- The arguments that name a service. -/
structure ServiceId where
  tenant : Text
  group : Text
  serviceName : Text
  deriving DecidableEq

namespace ServiceId

def key (id : ServiceId) : Text :=
  ServiceSnapshotCache.cacheKey id.tenant id.group id.serviceName

/-- What lies between the separators of the components. -/
def parts (id : ServiceId) : List Text :=
  id.tenant.splitOn separator ++ id.group.splitOn separator ++
    id.serviceName.splitOn separator

end ServiceId

namespace ConfigName

/-- The part of a key that names its tag; an empty tag counts as none. -/
def tagPart (name : ConfigName) : Option Text :=
  (name.tag.filter fun tag => decide (tag ≠ [])).map fun tag =>
    text "tag:" ++ tag

/-- What lies between the separators of the components, a tag that counts being
one component more. -/
def parts (name : ConfigName) : List Text :=
  name.tenant.splitOn separator ++ name.group.splitOn separator ++
    name.dataId.splitOn separator ++
      match name.tagPart with
      | some tag => tag.splitOn separator
      | none => []

end ConfigName

/-!
# Keys and parts
-/

theorem splitOn_joined (xs ys : Text) :
    (xs ++ text "+" ++ ys).splitOn separator =
      xs.splitOn separator ++ ys.splitOn separator := by
  rw [List.append_assoc]
  exact List.splitOn_append_cons_self xs ys

theorem ServiceId.splitOn_key (id : ServiceId) :
    id.key.splitOn separator = id.parts := by
  unfold ServiceId.key ServiceSnapshotCache.cacheKey ServiceId.parts
  rw [splitOn_joined, splitOn_joined]

theorem ServiceId.key_eq_iff {first second : ServiceId} :
    first.key = second.key <-> first.parts = second.parts := by
  rw [← splitOn_inj separator, first.splitOn_key, second.splitOn_key]

theorem configKey_eq (name : ConfigName) :
    configKey name =
      name.tenant ++ text "+" ++ name.group ++ text "+" ++ name.dataId ++
        match name.tagPart with
        | some tag => text "+" ++ tag
        | none => [] := by
  unfold configKey ConfigName.tagPart
  cases htag : name.tag with
  | none => simp
  | some tag =>
      by_cases hempty : tag = []
      · simp [hempty, Option.filter]
      · have hprefix : text "+tag:" = text "+" ++ text "tag:" := rfl
        simp [hempty, Option.filter, hprefix]

theorem splitOn_configKey (name : ConfigName) :
    (configKey name).splitOn separator = name.parts := by
  rw [configKey_eq]
  unfold ConfigName.parts
  cases name.tagPart with
  | none =>
      simp only [List.append_nil]
      rw [splitOn_joined, splitOn_joined]
  | some tag =>
      simp only
      rw [← List.append_assoc, splitOn_joined, splitOn_joined, splitOn_joined]

theorem configKey_eq_iff {first second : ConfigName} :
    configKey first = configKey second <-> first.parts = second.parts := by
  rw [← splitOn_inj separator, splitOn_configKey, splitOn_configKey]

/-!
# The usual names

Components without a separator are single parts, so different names have
different keys.
-/

theorem ServiceId.eq_of_parts {first second : ServiceId}
    (hfirst : separator ∉ first.tenant ∧ separator ∉ first.group ∧
      separator ∉ first.serviceName)
    (hsecond : separator ∉ second.tenant ∧ separator ∉ second.group ∧
      separator ∉ second.serviceName)
    (h : first.parts = second.parts) : first = second := by
  rcases hfirst with ⟨htenant, hgroup, hservice⟩
  rcases hsecond with ⟨htenant', hgroup', hservice'⟩
  unfold ServiceId.parts at h
  rw [List.splitOn_eq_singleton htenant, List.splitOn_eq_singleton hgroup,
    List.splitOn_eq_singleton hservice, List.splitOn_eq_singleton htenant',
    List.splitOn_eq_singleton hgroup', List.splitOn_eq_singleton hservice']
    at h
  rcases first with ⟨tenant, group, serviceName⟩
  rcases second with ⟨tenant', group', serviceName'⟩
  simpa using h

theorem ConfigName.splitOn_tagPart {name : ConfigName}
    (h : name.Separable) {tag : Text} (htag : name.tagPart = some tag) :
    tag.splitOn separator = [tag] := by
  rcases Option.map_eq_some_iff.mp htag with ⟨given, hgiven, rfl⟩
  have hclear : separator ∉ given :=
    h.2.2.2 given (Option.filter_eq_some_iff.mp hgiven).1
  apply List.splitOn_eq_singleton
  rw [List.mem_append, not_or]
  exact ⟨by decide, hclear⟩

theorem ConfigName.parts_of_separable {name : ConfigName}
    (h : name.Separable) :
    name.parts =
      name.tenant :: name.group :: name.dataId :: name.tagPart.toList := by
  have htenant : separator ∉ name.tenant := h.1
  have hgroup : separator ∉ name.group := h.2.1
  have hdataId : separator ∉ name.dataId := h.2.2.1
  unfold ConfigName.parts
  rw [List.splitOn_eq_singleton htenant, List.splitOn_eq_singleton hgroup,
    List.splitOn_eq_singleton hdataId]
  cases hpart : name.tagPart with
  | none => rfl
  | some tag =>
      simp only
      rw [ConfigName.splitOn_tagPart h hpart]
      rfl

/-- Names without separators that agree in their parts differ at most in how
they say that there is no tag. -/
theorem ConfigName.eq_of_parts {first second : ConfigName}
    (hfirst : first.Separable) (hsecond : second.Separable)
    (h : first.parts = second.parts) :
    first.tenant = second.tenant ∧ first.group = second.group ∧
      first.dataId = second.dataId ∧ first.tagPart = second.tagPart := by
  rw [parts_of_separable hfirst, parts_of_separable hsecond] at h
  injection h with htenant h
  injection h with hgroup h
  injection h with hdataId h
  refine ⟨htenant, hgroup, hdataId, ?_⟩
  cases hpart : first.tagPart <;> cases hpart' : second.tagPart <;>
    simp_all

/-!
# Services
-/

namespace ServiceSnapshotCache

variable {ω : Type}

def Operation.identifier : Operation ω -> ServiceId
  | .put tenant group serviceName _ _ => ⟨tenant, group, serviceName⟩
  | .get tenant group serviceName _ => ⟨tenant, group, serviceName⟩
  | .invalidate tenant group serviceName => ⟨tenant, group, serviceName⟩

/-- After every history, at every reading, the second identifier gets what it
would get had there been no call under the first. -/
def Isolated (ω : Type) (ttlMs : Int) (first second : ServiceId) : Prop :=
  forall (history : List (Operation ω)) (now : Rat),
    (after ttlMs history).get second.tenant second.group second.serviceName
        now =
      (after ttlMs (purge (fun operation => operation.identifier = first)
        history)).get second.tenant second.group second.serviceName now

/-- All that a get under the key looks at. -/
def entryView (key : Text) (c : ServiceSnapshotCache ω) :
    Option (ServiceSnapshot ω) × Option Rat × Int :=
  (c.cache.get? key, c.fetchTime.get? key, c.ttlMs)

theorem get_of_entryView {c c' : ServiceSnapshotCache ω} {id : ServiceId}
    (h : entryView id.key c = entryView id.key c') (now : Rat) :
    c.get id.tenant id.group id.serviceName now =
      c'.get id.tenant id.group id.serviceName now := by
  injection h with hcache h
  injection h with hfetch httl
  unfold ServiceId.key at hcache hfetch
  simp only [get, hcache, hfetch, httl]

theorem entryView_put_self (c : ServiceSnapshotCache ω)
    (tenant group serviceName : Text) (snapshot : ServiceSnapshot ω)
    (now : Rat) :
    entryView (cacheKey tenant group serviceName)
        (c.put tenant group serviceName snapshot now).2 =
      if c.stale (cacheKey tenant group serviceName) snapshot then
        entryView (cacheKey tenant group serviceName) c
      else (some snapshot, some now, c.ttlMs) := by
  cases hstale : c.stale (cacheKey tenant group serviceName) snapshot with
  | true => simp [put, hstale]
  | false => simp [put, hstale, entryView, Dict.get?_set_self]

theorem entryView_put_of_ne {key : Text} (c : ServiceSnapshotCache ω)
    {tenant group serviceName : Text}
    (hkey : cacheKey tenant group serviceName ≠ key)
    (snapshot : ServiceSnapshot ω) (now : Rat) :
    entryView key (c.put tenant group serviceName snapshot now).2 =
      entryView key c := by
  cases hstale : c.stale (cacheKey tenant group serviceName) snapshot with
  | true => simp [put, hstale]
  | false =>
      simp [put, hstale, entryView, Dict.get?_set_of_ne _ _ hkey.symm]

theorem entryView_apply_of_ne {key : Text} (c : ServiceSnapshotCache ω)
    {operation : Operation ω} (hkey : operation.identifier.key ≠ key) :
    entryView key (c.apply operation) = entryView key c := by
  cases operation with
  | put tenant group serviceName snapshot now =>
      exact entryView_put_of_ne c hkey snapshot now
  | get tenant group serviceName now => rfl
  | invalidate tenant group serviceName =>
      have hne : key ≠ cacheKey tenant group serviceName :=
        fun heq => hkey heq.symm
      simp [apply, invalidate, entryView, Dict.get?_pop_of_ne _ hne]

theorem entryView_apply_self {c c' : ServiceSnapshotCache ω}
    {operation : Operation ω}
    (h : entryView operation.identifier.key c =
      entryView operation.identifier.key c') :
    entryView operation.identifier.key (c.apply operation) =
      entryView operation.identifier.key (c'.apply operation) := by
  have hcache := congrArg Prod.fst h
  have httl := congrArg (fun view => view.2.2) h
  cases operation with
  | put tenant group serviceName snapshot now =>
      have hstale : c.stale (cacheKey tenant group serviceName) snapshot =
          c'.stale (cacheKey tenant group serviceName) snapshot := by
        unfold stale
        rw [show c.cache.get? (cacheKey tenant group serviceName) =
          c'.cache.get? (cacheKey tenant group serviceName) from hcache]
      show entryView (cacheKey tenant group serviceName) (c.put ..).2 =
        entryView (cacheKey tenant group serviceName) (c'.put ..).2
      rw [entryView_put_self, entryView_put_self, hstale,
        show c.ttlMs = c'.ttlMs from httl]
      split
      · exact h
      · rfl
  | get tenant group serviceName now => exact h
  | invalidate tenant group serviceName =>
      show entryView (cacheKey tenant group serviceName) (c.invalidate ..) =
        entryView (cacheKey tenant group serviceName) (c'.invalidate ..)
      simp only [invalidate, entryView, Dict.get?_pop_self]
      rw [show c.ttlMs = c'.ttlMs from httl]

theorem entryView_autonomous (key : Text) :
    Autonomous (apply (ω := ω)) (fun _ => True) (entryView key) where
  keep _ _ _ := trivial
  view_apply c c' operation _ _ h := by
    by_cases hkey : operation.identifier.key = key
    · subst hkey
      exact entryView_apply_self h
    · rw [entryView_apply_of_ne c hkey, entryView_apply_of_ne c' hkey, h]

theorem isolated_of_key_ne {first second : ServiceId}
    (hkey : first.key ≠ second.key) (ttlMs : Int) :
    Isolated ω ttlMs first second := by
  intro history now
  apply get_of_entryView
  refine (entryView_autonomous second.key).view_purge ?_ trivial trivial rfl
    history
  intro c operation _ hfirst
  apply entryView_apply_of_ne
  rw [hfirst]
  exact hkey

theorem not_isolated_of_key_eq {first second : ServiceId}
    (hkey : first.key = second.key) (ttlMs : Int) :
    ¬ Isolated ω ttlMs first second := by
  intro h
  let snapshot : ServiceSnapshot ω :=
    { serviceName := [], topologyVersion := 0 }
  let put : Operation ω :=
    .put first.tenant first.group first.serviceName snapshot 0
  have hget := h [put] (ttlMs - 1)
  have hheld : (after ttlMs [put]).Holds second.key (some (snapshot, 0)) := by
    rw [← hkey]
    exact holds_put_self (holds_new ttlMs first.key) snapshot 0
  have hpurged : purge (fun operation => operation.identifier = first)
      [put] = [] := by
    simp [purge, put, Operation.identifier]
  rw [hpurged, get_of_holds hheld, after_ttlMs] at hget
  simp [Option.filter, get, after] at hget

end ServiceSnapshotCache

/-!
# Configurations without a snapshot directory
-/

namespace Process

/-- All that a get under the key looks at. -/
def memoryView (key : Text) (p : Process) :
    Option Text × Option Rat × Option Bytes × Int :=
  (p.config.cache.get? key, p.config.fetchTime.get? key,
    p.config.md5Cache.get? key, p.config.ttlMs)

/-- After every history, at every reading, the second name gets the content
and the digest it would get had there been no call under the first. -/
def MemoryIsolated (md5 : Bytes -> Bytes) (ttlMs : Int)
    (first second : ConfigName) : Prop :=
  forall (history : List ConfigOperation) (now : Rat),
    let start : Process := { config := { ttlMs := ttlMs } }
    let all := start.run md5 history
    let without := start.run md5
      (purge (fun operation => operation.name = first) history)
    all.get second now = without.get second now ∧
      all.getMd5 second = without.getMd5 second

theorem get_of_memoryView {p q : Process} {name : ConfigName}
    (h : memoryView (configKey name) p = memoryView (configKey name) q)
    (now : Rat) :
    p.get name now = q.get name now ∧ p.getMd5 name = q.getMd5 name := by
  injection h with hcache h
  injection h with hfetch h
  injection h with hmd5 httl
  constructor
  · simp only [get, hcache, hfetch, httl]
  · exact hmd5

theorem memoryView_store_of_ne (md5 : Bytes -> Bytes) (p : Process)
    {key stored : Text} (hkey : key ≠ stored) (content : Text) (now : Rat) :
    memoryView key (store md5 p stored content now).2 = memoryView key p := by
  unfold store
  cases computeMd5 md5 content <;>
    simp [memoryView, Dict.get?_set_of_ne _ _ hkey]

theorem memoryView_store_self (md5 : Bytes -> Bytes) (p : Process)
    (key content : Text) (now : Rat) :
    memoryView key (store md5 p key content now).2 =
      (some content, some now,
        match computeMd5 md5 content with
        | .ok digest => some digest
        | .error _ => p.config.md5Cache.get? key,
        p.config.ttlMs) := by
  unfold store
  cases computeMd5 md5 content <;>
    simp [memoryView, Dict.get?_set_self]

theorem memoryView_put (md5 : Bytes -> Bytes) {p : Process}
    (hdir : p.config.snapshotDir = none) (key : Text) (name : ConfigName)
    (content : Text) (now : Rat) :
    memoryView key (put md5 p name content now).2 =
      memoryView key (store md5 p (configKey name) content now).2 := by
  have hdirs := store_snapshotDir md5 p (configKey name) content now
  rcases hstored : store md5 p (configKey name) content now with
    ⟨answer, stored⟩
  rw [hstored] at hdirs
  cases answer with
  | error e => simp [put, hstored]
  | ok _ =>
      have hnone : stored.config.snapshotDir = none := hdirs.trans hdir
      simp [put, hstored, saveSnapshot, hnone]

theorem memoryView_apply_of_ne (md5 : Bytes -> Bytes) {p : Process}
    (hdir : p.config.snapshotDir = none) {key : Text}
    {operation : ConfigOperation} (hkey : key ≠ configKey operation.name) :
    memoryView key (p.apply md5 operation) = memoryView key p := by
  cases operation with
  | put name content now =>
      have hne : key ≠ configKey name := hkey
      show memoryView key (put md5 p name content now).2 = _
      rw [memoryView_put md5 hdir, memoryView_store_of_ne md5 p hne]
  | remove name =>
      have hne : key ≠ configKey name := hkey
      simp [apply, remove, deleteSnapshot, invalidate, hdir, memoryView,
        Dict.get?_pop_of_ne _ hne]
  | invalidate name =>
      have hne : key ≠ configKey name := hkey
      simp [apply, invalidate, memoryView, Dict.get?_pop_of_ne _ hne]
  | loadFromSnapshot name now => simp [apply, loadFromSnapshot, hdir]

theorem memoryView_apply_self (md5 : Bytes -> Bytes) {p q : Process}
    (hp : p.config.snapshotDir = none) (hq : q.config.snapshotDir = none)
    {operation : ConfigOperation}
    (h : memoryView (configKey operation.name) p =
      memoryView (configKey operation.name) q) :
    memoryView (configKey operation.name) (p.apply md5 operation) =
      memoryView (configKey operation.name) (q.apply md5 operation) := by
  have hparts := h
  injection hparts with _ hparts
  injection hparts with _ hparts
  injection hparts with hmd5 httl
  cases operation with
  | put name content now =>
      show memoryView (configKey name) (put md5 p name content now).2 =
        memoryView (configKey name) (put md5 q name content now).2
      have hdigest : p.config.md5Cache.get? (configKey name) =
          q.config.md5Cache.get? (configKey name) := hmd5
      rw [memoryView_put md5 hp, memoryView_put md5 hq,
        memoryView_store_self, memoryView_store_self, hdigest, httl]
  | remove name =>
      simp [apply, remove, deleteSnapshot, invalidate, hp, hq, memoryView,
        ConfigOperation.name, Dict.get?_pop_self, httl]
  | invalidate name =>
      simp [apply, invalidate, memoryView, ConfigOperation.name,
        Dict.get?_pop_self, httl]
  | loadFromSnapshot name now =>
      simpa [apply, loadFromSnapshot, hp, hq] using h

theorem memoryView_autonomous (md5 : Bytes -> Bytes) (key : Text) :
    Autonomous (apply md5) (fun p => p.config.snapshotDir = none)
      (memoryView key) where
  keep p operation hp := (apply_snapshotDir md5 p operation).trans hp
  view_apply p q operation hp hq h := by
    by_cases hkey : key = configKey operation.name
    · subst hkey
      exact memoryView_apply_self md5 hp hq h
    · rw [memoryView_apply_of_ne md5 hp hkey,
        memoryView_apply_of_ne md5 hq hkey, h]

theorem memoryIsolated_of_key_ne (md5 : Bytes -> Bytes)
    {first second : ConfigName} (hkey : configKey first ≠ configKey second)
    (ttlMs : Int) : MemoryIsolated md5 ttlMs first second := by
  intro history now
  apply get_of_memoryView
  refine (memoryView_autonomous md5 (configKey second)).view_purge ?_ rfl rfl
    rfl history
  intro p operation hp hfirst
  apply memoryView_apply_of_ne md5 hp
  rw [hfirst]
  exact hkey.symm

theorem not_memoryIsolated_of_key_eq (md5 : Bytes -> Bytes)
    {first second : ConfigName} (hkey : configKey first = configKey second)
    (ttlMs : Int) : ¬ MemoryIsolated md5 ttlMs first second := by
  intro h
  have hmd5 := (h [.put first [] 0] 0).2
  have hpurged : purge (fun operation => operation.name = first)
      [ConfigOperation.put first [] 0] = [] := by
    simp [purge, ConfigOperation.name]
  rw [hpurged] at hmd5
  have hstored : getMd5 (run md5 { config := { ttlMs := ttlMs } }
      [.put first [] 0]) second = some (md5 []) := by
    unfold getMd5
    rw [← hkey]
    exact put_md5 md5 _ first (show encodeUtf8 [] = some [] from rfl) 0
  rw [hstored] at hmd5
  cases hmd5

end Process

/--
A separator inside a component moves the border between two components, and a
data id can look like a tag: different identifiers show each other's entries.
-/
theorem identifiers_share_an_entry :
    ¬ (forall (md5 : Bytes -> Bytes) (ttlMs : Int),
        (forall first second : ServiceId, first ≠ second ->
          ServiceSnapshotCache.Isolated Rat ttlMs first second) ∧
        forall first second : ConfigName, first ≠ second ->
          Process.MemoryIsolated md5 ttlMs first second) := by
  intro hall
  let first : ServiceId := ⟨text "t", text "g+x", text "y"⟩
  let second : ServiceId := ⟨text "t", text "g", text "x+y"⟩
  have hkey : first.key = second.key := by decide
  exact ServiceSnapshotCache.not_isolated_of_key_eq hkey 30000
    ((hall id 30000).1 first second (by decide))

/--
The calls under one identifier never show under another, in either cache,
exactly when the two do not consist of the same parts.
-/
theorem memory_isolated_iff (ω : Type) (md5 : Bytes -> Bytes)
    (ttlMs : Int) :
    (forall first second : ServiceId,
      ServiceSnapshotCache.Isolated ω ttlMs first second <->
        first.parts ≠ second.parts) ∧
    forall first second : ConfigName,
      Process.MemoryIsolated md5 ttlMs first second <->
        first.parts ≠ second.parts := by
  constructor
  · intro first second
    rw [ne_eq, ← ServiceId.key_eq_iff]
    constructor
    · intro hisolated hkey
      exact ServiceSnapshotCache.not_isolated_of_key_eq hkey ttlMs hisolated
    · intro hkey
      exact ServiceSnapshotCache.isolated_of_key_ne hkey ttlMs
  · intro first second
    rw [ne_eq, ← configKey_eq_iff]
    constructor
    · intro hisolated hkey
      exact Process.not_memoryIsolated_of_key_eq md5 hkey ttlMs hisolated
    · intro hkey
      exact Process.memoryIsolated_of_key_ne md5 hkey ttlMs

end Cache
end Hmmp
