import Mathlib.Data.List.Induction
import Hmmp.Cache.ConfigCache

/-!
# Consistency of the configuration maps

The three maps of the cache are updated one after another by calls that can
raise in between.  What the file system does during a call is an argument of the
call, so that every exit is covered: a file that is missing, an access that
fails, and an access that raises.
-/

namespace Hmmp
namespace Cache

open Foundation
open Wire

/-- What comes of writing or removing a file.  An {lit}`OSError` is caught. -/
inductive FileChange where
  | changed
  | osError
  | raised (e : PyError)

/-- What comes of looking for a file and reading it. -/
inductive FileRead where
  | missing
  | found (bytes : Bytes)
  | osError
  | raised (e : PyError)

/-- A call with the reading of the clock and what the file system does. -/
inductive ConfigCall where
  | put (name : ConfigName) (content : Text) (now : Rat) (file : FileChange)
  | remove (name : ConfigName) (file : FileChange)
  | invalidate (name : ConfigName)
  | loadFromSnapshot (name : ConfigName) (now : Rat) (file : FileRead)

namespace ConfigCache

/-- The content and its fetch time are stored before the digest is computed. -/
def store (md5 : Bytes -> Bytes) (c : ConfigCache) (key content : Text)
    (now : Rat) : Except PyError Unit × ConfigCache :=
  let stored := { c with
    cache := c.cache.set key content
    fetchTime := c.fetchTime.set key now }
  match computeMd5 md5 content with
  | .error e => (.error e, stored)
  | .ok digest =>
      (.ok (), { stored with md5Cache := stored.md5Cache.set key digest })

def forget (c : ConfigCache) (key : Text) : ConfigCache :=
  { c with
    cache := c.cache.pop key
    fetchTime := c.fetchTime.pop key
    md5Cache := c.md5Cache.pop key }

/-- How the part of a call that changes the snapshot file ends. -/
def changeFile (c : ConfigCache) (file : FileChange) : Except PyError Unit :=
  match c.snapshotDir, file with
  | some _, .raised e => .error e
  | _, _ => .ok ()

def put (md5 : Bytes -> Bytes) (c : ConfigCache) (name : ConfigName)
    (content : Text) (now : Rat) (file : FileChange) :
    Except PyError Unit × ConfigCache :=
  match c.store md5 (configKey name) content now with
  | (.error e, c) => (.error e, c)
  | (.ok _, c) => (c.changeFile file, c)

def remove (c : ConfigCache) (name : ConfigName) (file : FileChange) :
    Except PyError Unit × ConfigCache :=
  let c := c.forget (configKey name)
  (c.changeFile file, c)

def loadFromSnapshot (md5 : Bytes -> Bytes) (c : ConfigCache)
    (name : ConfigName) (now : Rat) (file : FileRead) :
    Except PyError (Option Text) × ConfigCache :=
  match c.snapshotDir with
  | none => (.ok none, c)
  | some _ =>
      match file with
      | .missing => (.ok none, c)
      | .osError => (.ok none, c)
      | .raised e => (.error e, c)
      | .found bytes =>
          match readText bytes with
          | none => (.error .unicodeDecodeError, c)
          | some content =>
              match c.store md5 (configKey name) content now with
              | (.error e, c) => (.error e, c)
              | (.ok _, c) => (.ok (some content), c)

/-- The cache after a call, whether it returned or raised. -/
def apply (md5 : Bytes -> Bytes) (c : ConfigCache) :
    ConfigCall -> ConfigCache
  | .put name content now file => (c.put md5 name content now file).2
  | .remove name file => (c.remove name file).2
  | .invalidate name => c.forget (configKey name)
  | .loadFromSnapshot name now file =>
      (c.loadFromSnapshot md5 name now file).2

/-- The cache after a history of calls on a new one. -/
def after (md5 : Bytes -> Bytes) (ttlMs : Int) (dir : Option Text)
    (history : List ConfigCall) : ConfigCache :=
  history.foldl (apply md5) { ttlMs := ttlMs, snapshotDir := dir }

def get (c : ConfigCache) (name : ConfigName) (now : Rat) : Option Text :=
  let key := configKey name
  match c.cache.get? key, c.fetchTime.get? key with
  | some cached, some fetchedAt =>
      if now - fetchedAt < c.ttlMs then some cached else none
  | _, _ => none

end ConfigCache

/-!
# The cache of a process

With the files of a process in the place of the arguments, the calls are those
of the process.
-/

namespace Process

/-- What a load finds in the files of the process. -/
def snapshotRead (p : Process) (name : ConfigName) : FileRead :=
  match held p.disk (snapshotFile name) with
  | none => .missing
  | some bytes => .found bytes

def snapshotChange (name : ConfigName) : FileChange :=
  match snapshotFile name with
  | .ok _ => .changed
  | .error e => .raised e

theorem get_config (p : Process) (name : ConfigName) (now : Rat) :
    p.get name now = p.config.get name now := rfl

theorem put_config (md5 : Bytes -> Bytes) (p : Process) (name : ConfigName)
    (content : Text) (now : Rat) :
    (p.put md5 name content now).1 =
        (p.config.put md5 name content now (snapshotChange name)).1 ∧
      (p.put md5 name content now).2.config =
        (p.config.put md5 name content now (snapshotChange name)).2 := by
  unfold put ConfigCache.put store ConfigCache.store ConfigCache.changeFile
    snapshotChange snapshotFile
  simp only
  cases hcontent : encodeUtf8 content with
  | none => simp [computeMd5, hcontent]
  | some bytes =>
      simp only [computeMd5, hcontent, saveSnapshot, writeText]
      cases p.config.snapshotDir with
      | none => exact ⟨rfl, rfl⟩
      | some dir =>
          cases systemName (sanitizeFilename (configKey name)) <;>
            exact ⟨rfl, rfl⟩

theorem remove_config (p : Process) (name : ConfigName) :
    (p.remove name).1 =
        (p.config.remove name (snapshotChange name)).1 ∧
      (p.remove name).2.config =
        (p.config.remove name (snapshotChange name)).2 := by
  unfold remove deleteSnapshot ConfigCache.remove ConfigCache.changeFile
    snapshotChange snapshotFile unlink
  cases hdir : p.config.snapshotDir with
  | none => simp [invalidate, ConfigCache.forget, hdir]
  | some dir =>
      cases systemName (sanitizeFilename (configKey name)) <;>
        simp [invalidate, ConfigCache.forget, hdir]

theorem loadFromSnapshot_config (md5 : Bytes -> Bytes) (p : Process)
    (name : ConfigName) (now : Rat) :
    (p.loadFromSnapshot md5 name now).1 =
        (p.config.loadFromSnapshot md5 name now (p.snapshotRead name)).1 ∧
      (p.loadFromSnapshot md5 name now).2.config =
        (p.config.loadFromSnapshot md5 name now (p.snapshotRead name)).2 := by
  unfold loadFromSnapshot ConfigCache.loadFromSnapshot snapshotRead
    snapshotFile
  cases p.config.snapshotDir with
  | none => exact ⟨rfl, rfl⟩
  | some dir =>
      simp only
      cases held p.disk (systemName (sanitizeFilename (configKey name))) with
      | none => exact ⟨rfl, rfl⟩
      | some bytes =>
          simp only
          cases readText bytes with
          | none => exact ⟨rfl, rfl⟩
          | some content =>
              simp only [store, ConfigCache.store]
              cases computeMd5 md5 content <;> exact ⟨rfl, rfl⟩

end Process

/-!
# What the maps hold
-/

namespace ConfigCall

def Encodable : ConfigCall -> Prop
  | .put _ content _ _ => exists bytes, encodeUtf8 content = some bytes
  | _ => True

def foundText (dir : Option Text) : FileRead -> Option Text
  | .found bytes => dir.bind fun _ => readText bytes
  | _ => none

/-- The content and the reading under a key after one more call. -/
def extend (dir : Option Text) (key : Text)
    (entry : Option (Text × Rat)) : ConfigCall -> Option (Text × Rat)
  | .put name content now _ =>
      if configKey name = key then some (content, now) else entry
  | .remove name _ => if configKey name = key then none else entry
  | .invalidate name => if configKey name = key then none else entry
  | .loadFromSnapshot name now file =>
      match foundText dir file with
      | some content =>
          if configKey name = key then some (content, now) else entry
      | none => entry

end ConfigCall

/-- What the latest call that changed the key stored there, and when. -/
def lastStored (dir : Option Text) (key : Text)
    (history : List ConfigCall) : Option (Text × Rat) :=
  history.foldl (ConfigCall.extend dir key) none

namespace ConfigCache

/-- Each key is in all three maps or in none, with the digest of the encoding
of its content. -/
def Consistent (md5 : Bytes -> Bytes) (c : ConfigCache) : Prop :=
  forall key,
    (c.cache.get? key = none ∧ c.fetchTime.get? key = none ∧
      c.md5Cache.get? key = none) ∨
    exists content reading bytes,
      c.cache.get? key = some content ∧
        c.fetchTime.get? key = some reading ∧
          encodeUtf8 content = some bytes ∧
            c.md5Cache.get? key = some (md5 bytes)

/-- A get answers with what was stored last, while that is fresh. -/
def Faithful (c : ConfigCache) (history : List ConfigCall) : Prop :=
  forall name now content,
    c.get name now = some content <->
      exists reading,
        lastStored c.snapshotDir (configKey name) history =
            some (content, reading) ∧
          now - reading < c.ttlMs

def Holds (c : ConfigCache) (key : Text) (entry : Option (Text × Rat)) :
    Prop :=
  c.cache.get? key = entry.map Prod.fst ∧
    c.fetchTime.get? key = entry.map Prod.snd

/-- The digest under a key is that of the content under it. -/
def Digested (md5 : Bytes -> Bytes) (c : ConfigCache) (key : Text) : Prop :=
  match c.cache.get? key with
  | none => c.md5Cache.get? key = none
  | some content => exists bytes,
      encodeUtf8 content = some bytes ∧
        c.md5Cache.get? key = some (md5 bytes)

/-!
# One call
-/

theorem put_state (md5 : Bytes -> Bytes) (c : ConfigCache)
    (name : ConfigName) (content : Text) (now : Rat) (file : FileChange) :
    (c.put md5 name content now file).2 =
      (c.store md5 (configKey name) content now).2 := by
  unfold put
  rcases c.store md5 (configKey name) content now with ⟨answer, stored⟩
  cases answer <;> rfl

theorem loadFromSnapshot_state (md5 : Bytes -> Bytes) (c : ConfigCache)
    (name : ConfigName) (now : Rat) (file : FileRead) :
    (c.loadFromSnapshot md5 name now file).2 =
      match ConfigCall.foundText c.snapshotDir file with
      | some content => (c.store md5 (configKey name) content now).2
      | none => c := by
  unfold loadFromSnapshot
  cases c.snapshotDir with
  | none => cases file <;> rfl
  | some dir =>
      cases file with
      | missing => rfl
      | osError => rfl
      | raised e => rfl
      | found bytes =>
          simp only [ConfigCall.foundText, Option.bind_some]
          cases readText bytes with
          | none => rfl
          | some content =>
              simp only
              rcases c.store md5 (configKey name) content now with
                ⟨answer, stored⟩
              cases answer <;> rfl

theorem store_settings (md5 : Bytes -> Bytes) (c : ConfigCache)
    (key content : Text) (now : Rat) :
    (c.store md5 key content now).2.snapshotDir = c.snapshotDir ∧
      (c.store md5 key content now).2.ttlMs = c.ttlMs := by
  unfold store
  cases computeMd5 md5 content <;> exact ⟨rfl, rfl⟩

theorem apply_settings (md5 : Bytes -> Bytes) (c : ConfigCache)
    (call : ConfigCall) :
    (c.apply md5 call).snapshotDir = c.snapshotDir ∧
      (c.apply md5 call).ttlMs = c.ttlMs := by
  cases call with
  | put name content now file =>
      rw [apply, put_state]
      exact store_settings md5 c _ _ _
  | remove name file => exact ⟨rfl, rfl⟩
  | invalidate name => exact ⟨rfl, rfl⟩
  | loadFromSnapshot name now file =>
      rw [apply, loadFromSnapshot_state]
      split
      · exact store_settings md5 c _ _ _
      · exact ⟨rfl, rfl⟩

theorem holds_store (md5 : Bytes -> Bytes) {c : ConfigCache} {key : Text}
    {entry : Option (Text × Rat)} (h : c.Holds key entry)
    (stored content : Text) (now : Rat) :
    (c.store md5 stored content now).2.Holds key
      (if stored = key then some (content, now) else entry) := by
  have hmaps : (c.store md5 stored content now).2.cache =
      c.cache.set stored content ∧
    (c.store md5 stored content now).2.fetchTime =
      c.fetchTime.set stored now := by
    unfold store
    cases computeMd5 md5 content <;> exact ⟨rfl, rfl⟩
  unfold Holds
  rw [hmaps.1, hmaps.2]
  by_cases hkey : stored = key
  · subst hkey
    simp [Dict.get?_set_self]
  · have hne : key ≠ stored := fun heq => hkey heq.symm
    rw [if_neg hkey, Dict.get?_set_of_ne _ _ hne,
      Dict.get?_set_of_ne _ _ hne]
    exact h

theorem holds_forget {c : ConfigCache} {key : Text}
    {entry : Option (Text × Rat)} (h : c.Holds key entry) (gone : Text) :
    (c.forget gone).Holds key (if gone = key then none else entry) := by
  by_cases hkey : gone = key
  · subst hkey
    simp [Holds, forget, Dict.get?_pop_self]
  · have hne : key ≠ gone := fun heq => hkey heq.symm
    rw [if_neg hkey]
    exact ⟨(Dict.get?_pop_of_ne _ hne).trans h.1,
      (Dict.get?_pop_of_ne _ hne).trans h.2⟩

theorem holds_apply (md5 : Bytes -> Bytes) {c : ConfigCache} {key : Text}
    {entry : Option (Text × Rat)} (h : c.Holds key entry)
    (call : ConfigCall) :
    (c.apply md5 call).Holds key
      (ConfigCall.extend c.snapshotDir key entry call) := by
  cases call with
  | put name content now file =>
      rw [apply, put_state]
      exact holds_store md5 h _ _ _
  | remove name file => exact holds_forget h _
  | invalidate name => exact holds_forget h _
  | loadFromSnapshot name now file =>
      rw [apply, loadFromSnapshot_state]
      simp only [ConfigCall.extend]
      cases ConfigCall.foundText c.snapshotDir file with
      | none => exact h
      | some content => exact holds_store md5 h _ _ _

theorem digested_store (md5 : Bytes -> Bytes) {c : ConfigCache} {key : Text}
    (h : c.Digested md5 key) (stored : Text) {content : Text} {bytes : Bytes}
    (hcontent : encodeUtf8 content = some bytes) (now : Rat) :
    (c.store md5 stored content now).2.Digested md5 key := by
  unfold store
  rw [Process.computeMd5_of_encodes md5 hcontent]
  unfold Digested
  simp only
  by_cases hkey : key = stored
  · subst hkey
    rw [Dict.get?_set_self, Dict.get?_set_self]
    exact ⟨bytes, hcontent, rfl⟩
  · rw [Dict.get?_set_of_ne _ _ hkey, Dict.get?_set_of_ne _ _ hkey]
    exact h

theorem digested_forget (md5 : Bytes -> Bytes) {c : ConfigCache} {key : Text}
    (h : c.Digested md5 key) (gone : Text) :
    (c.forget gone).Digested md5 key := by
  unfold forget Digested
  simp only
  by_cases hkey : key = gone
  · subst hkey
    rw [Dict.get?_pop_self, Dict.get?_pop_self]
  · rw [Dict.get?_pop_of_ne _ hkey, Dict.get?_pop_of_ne _ hkey]
    exact h

/-- What is read from a file can be encoded, so only a put can fail to compute
its digest. -/
theorem digested_apply (md5 : Bytes -> Bytes) {c : ConfigCache} {key : Text}
    (h : c.Digested md5 key) {call : ConfigCall} (hcall : call.Encodable) :
    (c.apply md5 call).Digested md5 key := by
  cases call with
  | put name content now file =>
      rcases hcall with ⟨bytes, hcontent⟩
      rw [apply, put_state]
      exact digested_store md5 h _ hcontent _
  | remove name file => exact digested_forget md5 h _
  | invalidate name => exact digested_forget md5 h _
  | loadFromSnapshot name now file =>
      rw [apply, loadFromSnapshot_state]
      split
      · rename_i content hfound
        cases file with
        | found bytes =>
            rcases Option.bind_eq_some_iff.mp hfound with ⟨_, _, hread⟩
            rcases encodeUtf8_of_readText hread with ⟨again, hagain⟩
            exact digested_store md5 h _ hagain _
        | missing => cases hfound
        | osError => cases hfound
        | raised e => cases hfound
      · exact h

theorem inconsistent_put (md5 : Bytes -> Bytes) (c : ConfigCache)
    {name : ConfigName} {content : Text} {now : Rat} {file : FileChange}
    (h : ¬ (ConfigCall.put name content now file).Encodable) :
    ¬ (c.apply md5 (.put name content now file)).Consistent md5 := by
  intro hconsistent
  have hheld : (c.apply md5 (.put name content now file)).cache.get?
      (configKey name) = some content := by
    rw [apply, put_state]
    unfold store
    cases computeMd5 md5 content <;> exact Dict.get?_set_self _ _ _
  rcases hconsistent (configKey name) with
    ⟨hnone, _⟩ | ⟨content', _, bytes, hcontent', _, hbytes, _⟩
  · rw [hheld] at hnone
    cases hnone
  · rw [hheld] at hcontent'
    injection hcontent' with hcontent'
    subst hcontent'
    exact h ⟨bytes, hbytes⟩

/-!
# Histories
-/

theorem after_concat (md5 : Bytes -> Bytes) (ttlMs : Int)
    (dir : Option Text) (history : List ConfigCall) (call : ConfigCall) :
    after md5 ttlMs dir (history ++ [call]) =
      (after md5 ttlMs dir history).apply md5 call := by
  simp [after]

theorem after_settings (md5 : Bytes -> Bytes) (ttlMs : Int)
    (dir : Option Text) (history : List ConfigCall) :
    (after md5 ttlMs dir history).snapshotDir = dir ∧
      (after md5 ttlMs dir history).ttlMs = ttlMs := by
  induction history using List.reverseRecOn with
  | nil => exact ⟨rfl, rfl⟩
  | append_singleton history call ih =>
      have hcall := apply_settings md5 (after md5 ttlMs dir history) call
      rw [after_concat]
      exact ⟨hcall.1.trans ih.1, hcall.2.trans ih.2⟩

theorem after_holds (md5 : Bytes -> Bytes) (ttlMs : Int) (dir : Option Text)
    (history : List ConfigCall) (key : Text) :
    (after md5 ttlMs dir history).Holds key
      (lastStored dir key history) := by
  induction history using List.reverseRecOn with
  | nil => exact ⟨rfl, rfl⟩
  | append_singleton history call ih =>
      have hcall := holds_apply md5 ih call
      rw [(after_settings md5 ttlMs dir history).1] at hcall
      rw [after_concat]
      simpa [lastStored] using hcall

theorem after_digested (md5 : Bytes -> Bytes) (ttlMs : Int)
    (dir : Option Text) {history : List ConfigCall}
    (h : forall call, call ∈ history -> call.Encodable) (key : Text) :
    (after md5 ttlMs dir history).Digested md5 key := by
  induction history using List.reverseRecOn with
  | nil => rfl
  | append_singleton history call ih =>
      have hhistory : forall call, call ∈ history -> call.Encodable := by
        intro other hother
        exact h other (List.mem_append_left _ hother)
      rw [after_concat]
      exact digested_apply md5 (ih hhistory) (h call (by simp))

theorem consistent_of_digested {md5 : Bytes -> Bytes} {c : ConfigCache}
    {stored : Text -> Option (Text × Rat)}
    (hholds : forall key, c.Holds key (stored key))
    (hdigested : forall key, c.Digested md5 key) : c.Consistent md5 := by
  intro key
  have hdigest := hdigested key
  rcases hholds key with ⟨hcache, hfetch⟩
  unfold Digested at hdigest
  rw [hcache] at hdigest
  cases hentry : stored key with
  | none =>
      rw [hentry] at hcache hfetch hdigest
      exact Or.inl ⟨hcache, hfetch, hdigest⟩
  | some entry =>
      rw [hentry] at hcache hfetch hdigest
      rcases hdigest with ⟨bytes, hbytes, hmd5⟩
      exact Or.inr ⟨entry.1, entry.2, bytes, hcache, hfetch, hbytes, hmd5⟩

theorem after_faithful (md5 : Bytes -> Bytes) (ttlMs : Int)
    (dir : Option Text) (history : List ConfigCall) :
    (after md5 ttlMs dir history).Faithful history := by
  intro name now content
  rcases after_holds md5 ttlMs dir history (configKey name) with
    ⟨hcache, hfetch⟩
  rw [(after_settings md5 ttlMs dir history).1]
  simp only [get, hcache, hfetch]
  cases lastStored dir (configKey name) history with
  | none => simp
  | some entry =>
      rcases entry with ⟨stored, reading⟩
      by_cases hfresh : now - reading <
          (after md5 ttlMs dir history).ttlMs
      · simp [hfresh]
      · simp [hfresh]

/--
A put of a lone surrogate stores its content and raises before the digest.
-/
theorem surrogate_put_inconsistent :
    ¬ (forall (md5 : Bytes -> Bytes) (ttlMs : Int) (dir : Option Text)
        (history : List ConfigCall),
        (after md5 ttlMs dir history).Consistent md5 ∧
          (after md5 ttlMs dir history).Faithful history) := by
  intro hall
  let name : ConfigName :=
    { tenant := text "t", group := text "g", dataId := text "d" }
  have hconsistent :=
    (hall id 30000 none [.put name [0xD800] 0 .changed]).1
  refine inconsistent_put id _ ?_ hconsistent
  intro hencodable
  rcases hencodable with ⟨bytes, hbytes⟩
  have hnone : encodeUtf8 [0xD800] = none := by decide
  rw [hnone] at hbytes
  cases hbytes

/--
The maps are consistent, and gets faithful, after every call of a history
exactly when UTF-8 encodes the content of each of its puts.
-/
theorem always_consistent_iff (md5 : Bytes -> Bytes) (ttlMs : Int)
    (dir : Option Text) (history : List ConfigCall) :
    (forall past future, history = past ++ future ->
      (after md5 ttlMs dir past).Consistent md5 ∧
        (after md5 ttlMs dir past).Faithful past) <->
      forall call, call ∈ history -> call.Encodable := by
  constructor
  · intro h call hcall
    by_contra hencodable
    rcases List.append_of_mem hcall with ⟨past, future, hsplit⟩
    have hconsistent := (h (past ++ [call]) future (by simp [hsplit])).1
    rw [after_concat] at hconsistent
    cases call with
    | put name content now file =>
        exact inconsistent_put md5 _ hencodable hconsistent
    | remove name file => exact hencodable trivial
    | invalidate name => exact hencodable trivial
    | loadFromSnapshot name now file => exact hencodable trivial
  · intro h past future hsplit
    have hpast : forall call, call ∈ past -> call.Encodable := by
      intro call hcall
      apply h
      rw [hsplit]
      exact List.mem_append_left _ hcall
    exact ⟨consistent_of_digested (after_holds md5 ttlMs dir past)
        (after_digested md5 ttlMs dir hpast),
      after_faithful md5 ttlMs dir past⟩

end ConfigCache

end Cache
end Hmmp
