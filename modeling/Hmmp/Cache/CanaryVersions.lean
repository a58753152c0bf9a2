import Hmmp.Foundation.KeyedHistory
import Hmmp.Cache.KeyIsolation

/-!
# The canary version vector

The version under a key is the one tracked last, promoted if a promotion has
come since, and gone once it has been removed or withdrawn.
-/

namespace Hmmp
namespace Cache

open Foundation
open Wire

structure CanaryVersion where
  versionId : Text
  stableVersionId : Text
  md5 : Bytes
  receivedAt : Rat
  deriving DecidableEq

namespace CanaryVersion

def isCanary (v : CanaryVersion) : Bool :=
  decide (v.versionId ≠ v.stableVersionId)

/-- The version as the stable one, received at the reading. -/
def promoted (v : CanaryVersion) (now : Rat) : CanaryVersion where
  versionId := v.versionId
  stableVersionId := v.versionId
  md5 := v.md5
  receivedAt := now

end CanaryVersion

structure CanaryVersionVector where
  versions : Dict Text CanaryVersion := Dict.empty

namespace CanaryVersionVector

def configKey (tenant group dataId : Text) : Text :=
  tenant ++ text "+" ++ group ++ text "+" ++ dataId

def put (vector : CanaryVersionVector)
    (tenant group dataId versionId stableVersionId : Text) (md5 : Bytes)
    (now : Rat) : CanaryVersionVector where
  versions := vector.versions.set (configKey tenant group dataId)
    { versionId := versionId
      stableVersionId := stableVersionId
      md5 := md5
      receivedAt := now }

def get (vector : CanaryVersionVector) (tenant group dataId : Text) :
    Option CanaryVersion :=
  vector.versions.get? (configKey tenant group dataId)

def remove (vector : CanaryVersionVector) (tenant group dataId : Text) :
    CanaryVersionVector where
  versions := vector.versions.pop (configKey tenant group dataId)

def onCanaryPromoted (vector : CanaryVersionVector)
    (tenant group dataId : Text) (now : Rat) : CanaryVersionVector :=
  let key := configKey tenant group dataId
  match vector.versions.get? key with
  | some cv => { versions := vector.versions.set key (cv.promoted now) }
  | none => vector

def onCanaryWithdrawn (vector : CanaryVersionVector)
    (tenant group dataId : Text) : CanaryVersionVector where
  versions := vector.versions.pop (configKey tenant group dataId)

/-!
# Histories
-/

inductive Operation where
  | put (tenant group dataId versionId stableVersionId : Text) (md5 : Bytes)
      (now : Rat)
  | remove (tenant group dataId : Text)
  | onCanaryPromoted (tenant group dataId : Text) (now : Rat)
  | onCanaryWithdrawn (tenant group dataId : Text)

def apply (vector : CanaryVersionVector) : Operation -> CanaryVersionVector
  | .put tenant group dataId versionId stableVersionId md5 now =>
      vector.put tenant group dataId versionId stableVersionId md5 now
  | .remove tenant group dataId => vector.remove tenant group dataId
  | .onCanaryPromoted tenant group dataId now =>
      vector.onCanaryPromoted tenant group dataId now
  | .onCanaryWithdrawn tenant group dataId =>
      vector.onCanaryWithdrawn tenant group dataId

/-- The vector after a history of operations on a new one. -/
def after (history : List Operation) : CanaryVersionVector :=
  history.foldl apply {}

/-- What happens to the version of one configuration. -/
inductive CanaryEvent where
  | tracked (v : CanaryVersion)
  | promoted (now : Rat)
  | ended

def CanaryEvent.change (version : Option CanaryVersion) :
    CanaryEvent -> Option CanaryVersion
  | tracked v => some v
  | promoted now => version.map fun v => v.promoted now
  | ended => none

/-- An event of the configuration with this key, seen from another key. -/
def eventAt (own key : Text) (event : CanaryEvent) : List CanaryEvent :=
  if own = key then [event] else []

/-- What an operation does to the version under a key. -/
def events (key : Text) : Operation -> List CanaryEvent
  | .put tenant group dataId versionId stableVersionId md5 now =>
      eventAt (configKey tenant group dataId) key (.tracked
        { versionId := versionId
          stableVersionId := stableVersionId
          md5 := md5
          receivedAt := now })
  | .remove tenant group dataId =>
      eventAt (configKey tenant group dataId) key .ended
  | .onCanaryPromoted tenant group dataId now =>
      eventAt (configKey tenant group dataId) key (.promoted now)
  | .onCanaryWithdrawn tenant group dataId =>
      eventAt (configKey tenant group dataId) key .ended

def eventsOf (key : Text) (history : List Operation) : List CanaryEvent :=
  history.flatMap (events key)

def versionUnder (key : Text) (vector : CanaryVersionVector) :
    Option CanaryVersion :=
  vector.versions.get? key

theorem foldl_eventAt (own key : Text) (event : CanaryEvent)
    (version : Option CanaryVersion) :
    (eventAt own key event).foldl CanaryEvent.change version =
      if key = own then event.change version else version := by
  unfold eventAt
  by_cases hkey : own = key
  · rw [if_pos hkey, if_pos hkey.symm]
    rfl
  · rw [if_neg hkey, if_neg fun h => hkey h.symm]
    rfl

theorem versionUnder_apply (vector : CanaryVersionVector)
    (operation : Operation) (key : Text) :
    versionUnder key (vector.apply operation) =
      (events key operation).foldl CanaryEvent.change
        (versionUnder key vector) := by
  cases operation with
  | put tenant group dataId versionId stableVersionId md5 now =>
      unfold events
      rw [foldl_eventAt]
      exact Dict.get?_set _ _ _ _
  | remove tenant group dataId =>
      unfold events
      rw [foldl_eventAt]
      exact Dict.get?_pop _ _ _
  | onCanaryWithdrawn tenant group dataId =>
      unfold events
      rw [foldl_eventAt]
      exact Dict.get?_pop _ _ _
  | onCanaryPromoted tenant group dataId now =>
      unfold events
      rw [foldl_eventAt]
      unfold apply onCanaryPromoted versionUnder CanaryEvent.change
      cases hheld : vector.versions.get? (configKey tenant group dataId) with
      | none =>
          simp only [hheld]
          by_cases hkey : key = configKey tenant group dataId
          · rw [if_pos hkey, hkey, hheld]
            rfl
          · rw [if_neg hkey]
      | some cv =>
          simp only [hheld]
          rw [Dict.get?_set]
          by_cases hkey : key = configKey tenant group dataId
          · rw [if_pos hkey, if_pos hkey, hkey, hheld]
            rfl
          · rw [if_neg hkey, if_neg hkey]

/-!
# One configuration
-/

def promotedAt (v : CanaryVersion) (readings : List Rat) : CanaryVersion :=
  readings.foldl CanaryVersion.promoted v

theorem promotedAt_concat (v : CanaryVersion) (readings : List Rat)
    (now : Rat) :
    promotedAt v (readings ++ [now]) = (promotedAt v readings).promoted now := by
  unfold promotedAt
  rw [List.foldl_append]
  rfl

theorem promotedAt_fields (v : CanaryVersion) (readings : List Rat) :
    (promotedAt v readings).versionId = v.versionId ∧
      (promotedAt v readings).md5 = v.md5 ∧
      (promotedAt v readings).receivedAt =
        readings.getLast?.getD v.receivedAt ∧
      ((promotedAt v readings).isCanary = true <->
        readings = [] ∧ v.isCanary = true) := by
  induction readings using List.reverseRecOn with
  | nil => exact ⟨rfl, rfl, rfl, by simp [promotedAt]⟩
  | append_singleton readings now ih =>
      rcases ih with ⟨hversion, hmd5, _, _⟩
      rw [promotedAt_concat]
      refine ⟨hversion, hmd5, ?_, ?_⟩
      · rw [List.getLast?_concat]
        rfl
      · simp [CanaryVersion.promoted, CanaryVersion.isCanary]

theorem tracked_last {events before : List CanaryEvent} {event : CanaryEvent}
    {v : CanaryVersion} {readings : List Rat}
    (h : events ++ [event] = before ++ CanaryEvent.tracked v ::
      readings.map CanaryEvent.promoted) :
    (readings = [] ∧ event = CanaryEvent.tracked v) ∨
      exists front now, readings = front ++ [now] ∧
        event = CanaryEvent.promoted now ∧
        events = before ++ CanaryEvent.tracked v ::
          front.map CanaryEvent.promoted := by
  rcases List.eq_nil_or_concat' readings with rfl | ⟨front, now, rfl⟩
  · have hlast := List.append_inj_right' h rfl
    injection hlast with hlast
    exact Or.inl ⟨rfl, hlast⟩
  · rw [List.map_append, ← List.cons_append, ← List.append_assoc] at h
    rcases List.append_inj' h rfl with ⟨hfront, hlast⟩
    injection hlast with hlast
    exact Or.inr ⟨front, now, rfl, hlast, hfront⟩

/-- A version is left exactly when, since it was tracked, nothing but promotions
has happened. -/
theorem foldl_change_iff (events : List CanaryEvent) (cv : CanaryVersion) :
    events.foldl CanaryEvent.change none = some cv <->
      exists before v readings,
        events = before ++ CanaryEvent.tracked v ::
          readings.map CanaryEvent.promoted ∧
        cv = promotedAt v readings := by
  induction events using List.reverseRecOn generalizing cv with
  | nil =>
      constructor
      · intro h
        cases h
      · rintro ⟨before, v, readings, hsplit, _⟩
        exact absurd hsplit.symm (List.append_ne_nil_of_right_ne_nil _
          (List.cons_ne_nil _ _))
  | append_singleton events event ih =>
      rw [List.foldl_append]
      constructor
      · intro h
        cases event with
        | tracked v =>
            injection h with h
            exact ⟨events, v, [], rfl, h.symm⟩
        | promoted now =>
            rcases Option.map_eq_some_iff.mp h with ⟨cv', hcv', rfl⟩
            rcases (ih cv').mp hcv' with ⟨before, v, readings, rfl, rfl⟩
            refine ⟨before, v, readings ++ [now], ?_, ?_⟩
            · rw [List.map_append, List.append_assoc, List.cons_append]
              rfl
            · rw [promotedAt_concat]
        | ended => cases h
      · rintro ⟨before, v, readings, hsplit, rfl⟩
        rcases tracked_last hsplit with
          ⟨rfl, rfl⟩ | ⟨front, now, rfl, rfl, hfront⟩
        · rfl
        · have hheld := (ih (promotedAt v front)).mpr
            ⟨before, v, front, hfront, rfl⟩
          rw [hheld, promotedAt_concat]
          rfl

/--
After every history a configuration has a version exactly when it has been
tracked and since then, among the operations with its key, only promoted.  It is
the tracked version with the reading of the last promotion, if there was one,
and a canary exactly if there was none and it was tracked as one.  Names whose
components hold no plus sign have keys of their own.
-/
theorem get_after_history (history : List Operation) :
    (forall (tenant group dataId : Text) (cv : CanaryVersion),
      (after history).get tenant group dataId = some cv <->
        exists before v readings,
          eventsOf (configKey tenant group dataId) history =
            before ++ CanaryEvent.tracked v ::
              readings.map CanaryEvent.promoted ∧
          cv = promotedAt v readings) ∧
    (forall (v : CanaryVersion) (readings : List Rat),
      (promotedAt v readings).versionId = v.versionId ∧
        (promotedAt v readings).md5 = v.md5 ∧
        (promotedAt v readings).receivedAt =
          readings.getLast?.getD v.receivedAt ∧
        ((promotedAt v readings).isCanary = true <->
          readings = [] ∧ v.isCanary = true)) ∧
    forall first second : ServiceId,
      separator ∉ first.tenant ∧ separator ∉ first.group ∧
        separator ∉ first.serviceName ->
      separator ∉ second.tenant ∧ separator ∉ second.group ∧
        separator ∉ second.serviceName ->
      configKey first.tenant first.group first.serviceName =
        configKey second.tenant second.group second.serviceName ->
          first = second := by
  refine ⟨?_, promotedAt_fields, ?_⟩
  · intro tenant group dataId cv
    have hversion : (after history).get tenant group dataId =
        (eventsOf (configKey tenant group dataId) history).foldl
          CanaryEvent.change none :=
      foldl_decomposes versionUnder_apply {} history _
    rw [hversion]
    exact foldl_change_iff _ cv
  · intro first second hfirst hsecond hkey
    exact ServiceId.eq_of_parts hfirst hsecond (ServiceId.key_eq_iff.mp hkey)

end CanaryVersionVector

end Cache
end Hmmp
