import Hmmp.Connection.Connection
import Hmmp.Connection.Router
import Hmmp.Foundation.AtMostOne
import Hmmp.Foundation.Transition

/-!
# The requests of one connection

Requests that draw their stream ids from one connection and wait in one router,
while frames arrive, timers run out and all requests are failed.  The stream
ids start over after {lit}`maxStreamId` draws.
-/

namespace Hmmp
namespace Connection

open Foundation
open Wire

/-!
# Settling many futures
-/

namespace FrameRouter

/-- Settle the futures of some entries of the table. -/
def settleAll (r : FrameRouter) (entries : List (Nat × FutureId))
    (outcome : FutureState) : FrameRouter :=
  entries.foldl (fun acc entry => acc.settle entry.2 outcome) r

theorem settleAll_pendingRequests (r : FrameRouter)
    (entries : List (Nat × FutureId)) (outcome : FutureState) :
    (r.settleAll entries outcome).pendingRequests = r.pendingRequests := by
  induction entries generalizing r with
  | nil => rfl
  | cons entry entries ih =>
      exact (ih (r.settle entry.2 outcome)).trans
        (r.settle_pendingRequests entry.2 outcome)

theorem settleAll_futures_length (r : FrameRouter)
    (entries : List (Nat × FutureId)) (outcome : FutureState) :
    (r.settleAll entries outcome).futures.length = r.futures.length := by
  induction entries generalizing r with
  | nil => rfl
  | cons entry entries ih =>
      exact (ih (r.settle entry.2 outcome)).trans
        (r.settle_futures_length entry.2 outcome)

theorem failAll_eq (r : FrameRouter) (error : PyError) :
    r.failAll error =
      { r with pendingRequests := Dict.empty }.settleAll
        r.pendingRequests.entries (FutureState.exception error) :=
  rfl

theorem settle_future_of_done {r : FrameRouter} {id : FutureId}
    {state : FutureState} (hstate : r.future id = some state)
    (hdone : state ≠ FutureState.pending) (other : FutureId)
    (outcome : FutureState) :
    (r.settle other outcome).future id = some state := by
  by_cases hsame : id = other
  · subst hsame
    unfold settle
    rw [hstate]
    cases state with
    | pending => exact absurd rfl hdone
    | result frame => exact hstate
    | exception e => exact hstate
    | cancelled => exact hstate
  · rw [settle_future_of_ne r outcome hsame]
    exact hstate

theorem settleAll_future_of_done {r : FrameRouter} {id : FutureId}
    {state : FutureState} (hstate : r.future id = some state)
    (hdone : state ≠ FutureState.pending) (entries : List (Nat × FutureId))
    (outcome : FutureState) :
    (r.settleAll entries outcome).future id = some state := by
  induction entries generalizing r with
  | nil => exact hstate
  | cons entry entries ih =>
      exact ih (settle_future_of_done hstate hdone entry.2 outcome)

theorem finish_future_of_done {r : FrameRouter} {id : FutureId}
    {state : FutureState} (hstate : r.future id = some state)
    (hdone : state ≠ FutureState.pending) (streamId : Nat)
    (outcome : FutureState) :
    (r.finish streamId outcome).future id = some state := by
  unfold finish
  split
  · exact hstate
  · rename_i owner _
    exact settle_future_of_done
      (r := { r with pendingRequests := r.pendingRequests.pop streamId })
      hstate hdone owner outcome

end FrameRouter

/-!
# Requests and steps
-/

/-- What took a request out of the table. -/
inductive Removal where
  | answered (frame : Frame)
  | cancelled
  | failed (error : PyError)

/-- A request that has drawn a stream id, with what became of it. -/
structure TrackedRequest where
  streamId : Nat
  future : FutureId
  removal : Option Removal := none

namespace TrackedRequest

/-- The request was neither answered nor cancelled nor failed by the router. -/
def Registered (r : TrackedRequest) : Prop :=
  r.removal = none

instance (r : TrackedRequest) : Decidable r.Registered :=
  decidable_of_iff (r.removal.isNone = true) Option.isNone_iff_eq_none

/-- Record a removal, unless the request is removed already. -/
def remove (why : Removal) (r : TrackedRequest) : TrackedRequest :=
  match r.removal with
  | none => { r with removal := some why }
  | some _ => r

/-- Record an arriving frame, if it answers the request. -/
def answer (frame : Frame) (r : TrackedRequest) : TrackedRequest :=
  if frame.streamId ≠ 0 ∧ r.streamId = frame.streamId then
    r.remove (Removal.answered frame)
  else r

theorem remove_not_registered (why : Removal) (r : TrackedRequest) :
    ¬ (r.remove why).Registered := by
  unfold Registered remove
  split
  · intro h
    cases h
  · rename_i earlier hearlier
    rw [hearlier]
    intro h
    cases h

/-- The same request, perhaps with a removal recorded. -/
structure Marks (r r' : TrackedRequest) : Prop where
  streamId : r'.streamId = r.streamId
  future : r'.future = r.future
  registered : r'.Registered -> r.Registered

theorem Marks.refl (r : TrackedRequest) : Marks r r where
  streamId := rfl
  future := rfl
  registered h := h

theorem remove_marks (why : Removal) (r : TrackedRequest) :
    Marks r (r.remove why) where
  streamId := by
    unfold remove
    split <;> rfl
  future := by
    unfold remove
    split <;> rfl
  registered h := absurd h (r.remove_not_registered why)

theorem answer_marks (frame : Frame) (r : TrackedRequest) :
    Marks r (r.answer frame) := by
  unfold answer
  split
  · exact r.remove_marks _
  · exact Marks.refl r

end TrackedRequest

/-- A connection's counter, its router, and the requests in the order of their
stream ids. -/
structure RequestTable where
  streamIdCounter : Nat := 0
  router : FrameRouter := {}
  requests : List TrackedRequest := []

/-- A step of a task that uses the connection. -/
inductive TableEvent where
  | start
  | arrive (frame : Frame)
  | timeout (i : Nat)
  | cancel (i : Nat)
  | failAll (error : PyError)

namespace RequestTable

/-- A new connection and a router with the given handlers. -/
def new (notifyHandlers : Dict Int HandlerId)
    (globalHandlers : List HandlerId) : RequestTable where
  router :=
    { notifyHandlers := notifyHandlers, globalHandlers := globalHandlers }

/-- Draw a stream id and register a request under it. -/
def draw (s : RequestTable) : RequestTable :=
  let streamId := nextStreamId s.streamIdCounter
  let (future, router) := s.router.registerRequest streamId
  { streamIdCounter := streamId
    router := router
    requests := s.requests ++ [{ streamId := streamId, future := future }] }

/-- A timer cancels the future first; the cancellation of the request is a step
of its own, and other steps may come between the two.  A frame takes its step
when the global handlers have returned, however long they wait. -/
def next (s : RequestTable) : TableEvent -> Option RequestTable
  | TableEvent.start => some s.draw
  | TableEvent.arrive frame =>
      match s.router.routeFrame frame with
      | Except.ok (_, router) =>
          some
            { s with
              router := router
              requests := s.requests.map (TrackedRequest.answer frame) }
      | Except.error _ => some s
  | TableEvent.timeout i => do
      let r ← s.requests[i]?
      some { s with router := s.router.settle r.future FutureState.cancelled }
  | TableEvent.cancel i => do
      let r ← s.requests[i]?
      some
        { s with
          router := s.router.cancelRequest r.streamId
          requests := s.requests.set i (r.remove Removal.cancelled) }
  | TableEvent.failAll error =>
      some
        { s with
          router := s.router.failAll error
          requests :=
            s.requests.map (TrackedRequest.remove (Removal.failed error)) }

/--
A request is out of the table before its stream id is drawn again, and it is
not cancelled afterwards: the id of request {lit}`i` is drawn again when there
are {lit}`i + maxStreamId` requests.
-/
def Timely (s : RequestTable) : TableEvent -> Prop
  | TableEvent.start =>
      forall i r, s.requests[i]? = some r -> r.Registered ->
        s.requests.length < i + maxStreamId
  | TableEvent.cancel i => s.requests.length <= i + maxStreamId
  | TableEvent.arrive _ => True
  | TableEvent.timeout _ => True
  | TableEvent.failAll _ => True

def TimelyStep : RequestTable -> TableEvent -> RequestTable -> Prop :=
  Guarded (StepOf next) Timely

/-!
# The table and the requests agree
-/

structure Consistent (s : RequestTable) : Prop where
  counter : nextStreamId s.streamIdCounter =
    s.requests.length % maxStreamId + 1
  futures : s.router.futures.length = s.requests.length
  own : forall i r, s.requests[i]? = some r ->
    r.future = i ∧ r.streamId = i % maxStreamId + 1
  recent : forall i r, s.requests[i]? = some r -> r.Registered ->
    s.requests.length <= i + maxStreamId
  table : forall x id, s.router.pendingRequests.get? x = some id <->
    exists r, s.requests[id]? = some r ∧ r.streamId = x ∧ r.Registered

theorem consistent_new (notifyHandlers : Dict Int HandlerId)
    (globalHandlers : List HandlerId) :
    (new notifyHandlers globalHandlers).Consistent where
  counter := rfl
  futures := rfl
  own i r h := by cases h
  recent i r h := by cases h
  table x id := by
    constructor
    · intro h
      cases h
    · rintro ⟨r, h, _⟩
      cases h

variable {s s' : RequestTable}

theorem nextStreamId_mod (n : Nat) :
    nextStreamId (n % maxStreamId + 1) = (n + 1) % maxStreamId + 1 := by
  unfold nextStreamId maxStreamId
  split <;> omega

theorem index_eq_of_streamId {i j n : Nat} (hi : i < n) (hj : j < n)
    (hilate : n <= i + maxStreamId) (hjlate : n <= j + maxStreamId)
    (h : i % maxStreamId = j % maxStreamId) : i = j := by
  unfold maxStreamId at hilate hjlate h
  omega

theorem index_lt {i : Nat} {r : TrackedRequest}
    (h : s.requests[i]? = some r) : i < s.requests.length :=
  (List.getElem?_eq_some_iff.mp h).1

theorem Consistent.fresh (h : s.Consistent)
    (htimely : s.Timely TableEvent.start) :
    s.router.pendingRequests.get? (nextStreamId s.streamIdCounter) = none := by
  rw [h.counter]
  cases hentry : s.router.pendingRequests.get?
      (s.requests.length % maxStreamId + 1) with
  | none => rfl
  | some id =>
      rcases (h.table _ id).mp hentry with ⟨r, hr, hstream, hregistered⟩
      have hlate := htimely id r hr hregistered
      have hid := index_lt hr
      rw [(h.own id r hr).2] at hstream
      have hmod : id % maxStreamId = s.requests.length % maxStreamId :=
        Nat.succ.inj hstream
      have hsame := index_eq_of_streamId (Nat.lt_succ_of_lt hid)
        (Nat.lt_succ_self _) hlate (by unfold maxStreamId; omega) hmod
      exact absurd hsame (Nat.ne_of_lt hid)

/-- A step that draws no id and marks requests keeps the agreement, if exactly
the entries of the requests that it leaves registered remain. -/
theorem Consistent.marked (h : s.Consistent)
    (mark : Nat -> TrackedRequest -> TrackedRequest)
    (hmark : forall i r, TrackedRequest.Marks r (mark i r))
    (hcounter : s'.streamIdCounter = s.streamIdCounter)
    (hfutures : s'.router.futures.length = s.router.futures.length)
    (hlength : s'.requests.length = s.requests.length)
    (hrequests : forall i, s'.requests[i]? = s.requests[i]?.map (mark i))
    (htable : forall x id r, s.requests[id]? = some r ->
      s.router.pendingRequests.get? x = some id ->
        (s'.router.pendingRequests.get? x = some id <->
          (mark id r).Registered))
    (hold : forall x id, s'.router.pendingRequests.get? x = some id ->
      s.router.pendingRequests.get? x = some id) : s'.Consistent := by
  have horigin : forall i r', s'.requests[i]? = some r' ->
      exists r, s.requests[i]? = some r ∧ r' = mark i r := by
    intro i r' hr'
    rw [hrequests, Option.map_eq_some_iff] at hr'
    rcases hr' with ⟨r, hr, hmarked⟩
    exact ⟨r, hr, hmarked.symm⟩
  refine ⟨?_, ?_, ?_, ?_, ?_⟩
  · rw [hcounter, hlength]
    exact h.counter
  · rw [hfutures, hlength]
    exact h.futures
  · intro i r' hr'
    rcases horigin i r' hr' with ⟨r, hr, rfl⟩
    rw [(hmark i r).streamId, (hmark i r).future]
    exact h.own i r hr
  · intro i r' hr' hregistered
    rcases horigin i r' hr' with ⟨r, hr, rfl⟩
    rw [hlength]
    exact h.recent i r hr ((hmark i r).registered hregistered)
  · intro x id
    constructor
    · intro hentry
      have hbefore := hold x id hentry
      rcases (h.table x id).mp hbefore with ⟨r, hr, hstream, _⟩
      refine ⟨mark id r, ?_, ?_, ?_⟩
      · rw [hrequests, hr]
        rfl
      · rw [(hmark id r).streamId]
        exact hstream
      · exact (htable x id r hr hbefore).mp hentry
    · rintro ⟨r', hr', hstream, hregistered⟩
      rcases horigin id r' hr' with ⟨r, hr, rfl⟩
      rw [(hmark id r).streamId] at hstream
      have hbefore := (h.table x id).mpr
        ⟨r, hr, hstream, (hmark id r).registered hregistered⟩
      exact (htable x id r hr hbefore).mpr hregistered

end RequestTable

end Connection
end Hmmp
