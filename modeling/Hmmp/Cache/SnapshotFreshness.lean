import Mathlib.Data.List.MinMax
import Mathlib.Tactic.Linarith
import Hmmp.Cache.SnapshotCache

/-!
# Freshness of a cached snapshot

The history of a key determines its entry: of the puts since the key was last
invalidated, the entry is the first one that brought the largest topology
version.  Its reading alone starts the clock of the time to live, so a later
put of the same version does not prolong it.
-/

namespace Hmmp
namespace Cache

open Foundation
open Models

namespace ServiceSnapshotCache

variable {ω : Type}

def Operation.Invalidates (key : Text) : Operation ω -> Prop
  | .invalidate tenant group serviceName =>
      cacheKey tenant group serviceName = key
  | _ => False

/-- No operation of the history invalidates the key. -/
def Keeps (key : Text) (history : List (Operation ω)) : Prop :=
  forall operation, operation ∈ history -> ¬ operation.Invalidates key

def extendPuts (key : Text) (puts : List (ServiceSnapshot ω × Rat)) :
    Operation ω -> List (ServiceSnapshot ω × Rat)
  | .put tenant group serviceName snapshot now =>
      if cacheKey tenant group serviceName = key then
        puts ++ [(snapshot, now)]
      else
        puts
  | .get _ _ _ _ => puts
  | .invalidate tenant group serviceName =>
      if cacheKey tenant group serviceName = key then [] else puts

/-- The puts under a key since its last invalidation, with their readings. -/
def putsUnder (key : Text) (history : List (Operation ω)) :
    List (ServiceSnapshot ω × Rat) :=
  history.foldl (extendPuts key) []

def version (entry : ServiceSnapshot ω × Rat) : Nat :=
  entry.1.topologyVersion

/-- The first put that brought the largest version put under the key since its
last invalidation. -/
def newest (key : Text) (history : List (Operation ω)) :
    Option (ServiceSnapshot ω × Rat) :=
  (putsUnder key history).argmax version

/-- A get at the reading answers with a snapshot of at least the version. -/
def Usable (c : ServiceSnapshotCache ω) (tenant group serviceName : Text)
    (least : Nat) (now : Rat) : Prop :=
  exists found, c.get tenant group serviceName now = some found ∧
    least <= found.topologyVersion

/-!
# The entry a history leaves
-/

theorem putsUnder_concat (key : Text) (history : List (Operation ω))
    (operation : Operation ω) :
    putsUnder key (history ++ [operation]) =
      extendPuts key (putsUnder key history) operation := by
  simp [putsUnder]

theorem argmax_concat_raised (puts : List (ServiceSnapshot ω × Rat))
    (snapshot : ServiceSnapshot ω) (now : Rat) :
    (puts ++ [(snapshot, now)]).argmax version =
      some (raised snapshot now (puts.argmax version)) := by
  rw [List.argmax_concat]
  cases puts.argmax version with
  | none => rfl
  | some entry =>
      by_cases hstale : snapshot.topologyVersion <= entry.1.topologyVersion
      · simp [raised, version, hstale, Nat.not_lt.mpr hstale]
      · simp [raised, version, hstale, Nat.lt_of_not_le hstale]

/-- After every history the cache holds the newest put of each key. -/
theorem after_holds_newest (ttlMs : Int) (history : List (Operation ω))
    (key : Text) : (after ttlMs history).Holds key (newest key history) := by
  induction history using List.reverseRecOn with
  | nil => exact holds_new ttlMs key
  | append_singleton history operation ih =>
      rw [after_concat, newest, putsUnder_concat]
      cases operation with
      | put tenant group serviceName snapshot now =>
          by_cases hkey : cacheKey tenant group serviceName = key
          · subst hkey
            simp only [extendPuts, if_true]
            rw [argmax_concat_raised]
            exact holds_put_self ih snapshot now
          · simp only [extendPuts, if_neg hkey]
            exact holds_put_of_ne ih hkey snapshot now
      | get tenant group serviceName now => exact ih
      | invalidate tenant group serviceName =>
          by_cases hkey : cacheKey tenant group serviceName = key
          · subst hkey
            simp only [extendPuts, if_true]
            exact holds_invalidate_self _ tenant group serviceName
          · simp only [extendPuts, if_neg hkey]
            exact holds_invalidate_of_ne ih hkey

theorem get_after (ttlMs : Int) (history : List (Operation ω))
    (tenant group serviceName : Text) (now : Rat)
    (found : ServiceSnapshot ω) :
    (after ttlMs history).get tenant group serviceName now = some found <->
      exists reading,
        newest (cacheKey tenant group serviceName) history =
            some (found, reading) ∧
          now < reading + ttlMs := by
  rw [get_of_holds (after_holds_newest ttlMs history _), after_ttlMs]
  cases newest (cacheKey tenant group serviceName) history with
  | none => simp
  | some entry =>
      rcases entry with ⟨snapshot, reading⟩
      by_cases hfresh : now - reading < ttlMs
      · have hbefore : now < reading + ttlMs := by linarith
        simp [Option.filter, hfresh, hbefore]
      · have hlate : ¬ now < reading + ttlMs := by
          intro h
          exact hfresh (by linarith)
        simp [Option.filter, hfresh, hlate]

theorem get_after_expiry (ttlMs : Int) {history : List (Operation ω)}
    {tenant group serviceName : Text} {now : Rat}
    {entry : ServiceSnapshot ω × Rat}
    (hnewest : newest (cacheKey tenant group serviceName) history = some entry)
    (hlate : entry.2 + ttlMs <= now) :
    (after ttlMs history).get tenant group serviceName now = none := by
  apply Option.eq_none_iff_forall_ne_some.mpr
  intro found hfound
  rcases (get_after _ _ _ _ _ _ _).mp hfound with ⟨reading, hentry, hfresh⟩
  rw [hnewest] at hentry
  rw [Option.some.inj hentry] at hlate
  exact absurd hfresh (not_lt_of_ge hlate)

/-!
# A snapshot that is put again
-/

theorem mem_putsUnder_of_keeps {key : Text}
    {entry : ServiceSnapshot ω × Rat} {before : List (Operation ω)}
    (hmem : entry ∈ putsUnder key before) (between : List (Operation ω))
    (hkeeps : Keeps key between) :
    entry ∈ putsUnder key (before ++ between) := by
  induction between using List.reverseRecOn with
  | nil => simpa using hmem
  | append_singleton between operation ih =>
      have hprefix : entry ∈ putsUnder key (before ++ between) := by
        apply ih
        intro o ho
        exact hkeeps o (by simp [ho])
      have hlast : ¬ operation.Invalidates key :=
        hkeeps operation (by simp)
      rw [← List.append_assoc, putsUnder_concat]
      cases operation with
      | put tenant group serviceName snapshot now =>
          simp only [extendPuts]
          split
          · exact List.mem_append.mpr (Or.inl hprefix)
          · exact hprefix
      | get tenant group serviceName now => exact hprefix
      | invalidate tenant group serviceName =>
          have hother : cacheKey tenant group serviceName ≠ key := hlast
          simpa only [extendPuts, if_neg hother] using hprefix

theorem version_le_newest {key : Text} {history : List (Operation ω)}
    {entry found : ServiceSnapshot ω × Rat}
    (hmem : entry ∈ putsUnder key history)
    (hnewest : newest key history = some found) :
    version entry <= version found :=
  List.le_of_mem_argmax hmem hnewest

def ordersSnapshot : ServiceSnapshot Rat :=
  { serviceName := text "orders", topologyVersion := 7 }

def putOrders (now : Rat) : Operation Rat :=
  .put [] [] (text "orders") ordersSnapshot now

/--
A version that is put again does not restart the clock: after a put at 0 the
same snapshot is put at 1500, past its expiry, and a get at 1600 finds nothing.
-/
theorem refetched_expires :
    ¬ (forall (ttlMs : Int) (before between : List (Operation Rat))
        (tenant group serviceName : Text) (snapshot : ServiceSnapshot Rat)
        (t now : Rat),
        0 < ttlMs ->
        (forall cached,
          (after ttlMs before).cache.get?
              (cacheKey tenant group serviceName) = some cached ->
            cached.topologyVersion <= snapshot.topologyVersion) ->
        Keeps (cacheKey tenant group serviceName) between ->
        now < t + ttlMs ->
        (after ttlMs (before ++
          .put tenant group serviceName snapshot t :: between)).Usable
            tenant group serviceName snapshot.topologyVersion now) := by
  intro hall
  have hcached : forall cached,
      (after 1000 [putOrders 0]).cache.get?
          (cacheKey [] [] (text "orders")) = some cached ->
        cached.topologyVersion <= ordersSnapshot.topologyVersion := by
    intro cached hcached
    rw [(after_holds_newest 1000 [putOrders 0] _).1] at hcached
    have hsame : ordersSnapshot = cached := Option.some.inj hcached
    rw [hsame]
  have husable := hall 1000 [putOrders 0] [] [] [] (text "orders")
    ordersSnapshot 1500 1600 (by decide) hcached
    (by intro operation hmem; cases hmem) (by norm_num)
  rcases husable with ⟨found, hfound, _⟩
  have hentry : newest (cacheKey [] [] (text "orders"))
      [putOrders 0, putOrders 1500] = some (ordersSnapshot, 0) := rfl
  cases (get_after_expiry 1000 hentry (by norm_num)).symm.trans hfound

/--
After every history, a put and every continuation that does not invalidate its
key, a get answers with a snapshot of at least the version that was put exactly
when it comes less than the time to live after the first put that brought the
largest version put under the key since its last invalidation.
-/
theorem refetched_usable_iff (ttlMs : Int)
    (before between : List (Operation ω))
    (tenant group serviceName : Text) (snapshot : ServiceSnapshot ω)
    (t now : Rat)
    (hkeeps : Keeps (cacheKey tenant group serviceName) between) :
    (after ttlMs (before ++
        .put tenant group serviceName snapshot t :: between)).Usable
          tenant group serviceName snapshot.topologyVersion now <->
      exists entry,
        newest (cacheKey tenant group serviceName)
            (before ++ .put tenant group serviceName snapshot t :: between) =
          some entry ∧ now < entry.2 + ttlMs := by
  have hmem : (snapshot, t) ∈ putsUnder (cacheKey tenant group serviceName)
      (before ++ .put tenant group serviceName snapshot t :: between) := by
    rw [List.append_cons]
    apply mem_putsUnder_of_keeps _ between hkeeps
    rw [putsUnder_concat]
    simp [extendPuts]
  constructor
  · intro h
    rcases h with ⟨found, hfound, _⟩
    rcases (get_after _ _ _ _ _ _ _).mp hfound with
      ⟨reading, hnewest, hfresh⟩
    exact ⟨(found, reading), hnewest, hfresh⟩
  · intro h
    rcases h with ⟨entry, hnewest, hfresh⟩
    refine ⟨entry.1, ?_, version_le_newest hmem hnewest⟩
    exact (get_after _ _ _ _ _ _ _).mpr ⟨entry.2, hnewest, hfresh⟩

def newerOrders : ServiceSnapshot Rat :=
  { ordersSnapshot with topologyVersion := 8 }

/-- A newer version that is fetched after the expiry is usable for the whole
time to live. -/
theorem refetched_usable_iff_newer :
    (after 1000 [putOrders 0]).get [] [] (text "orders") 1500 = none ∧
      (after 1000 ([putOrders 0] ++
        .put [] [] (text "orders") newerOrders 1500 ::
          [.get [] [] (text "orders") 1600])).Usable
            [] [] (text "orders") 8 2499 := by
  constructor
  · have hentry : newest (cacheKey [] [] (text "orders")) [putOrders 0] =
        some (ordersSnapshot, 0) := rfl
    exact get_after_expiry 1000 hentry (by norm_num)
  · apply (refetched_usable_iff 1000 [putOrders 0]
      [.get [] [] (text "orders") 1600] [] [] (text "orders") newerOrders 1500
      2499 (by intro operation hmem; simp_all [Operation.Invalidates])).mpr
    exact ⟨(newerOrders, 1500), rfl, by norm_num⟩

end ServiceSnapshotCache

end Cache
end Hmmp
