import Hmmp.Connection.RequestTable

/-!
# Requests of one connection are multiplexed

While every request finishes before its stream id is drawn again, the table and
the requests agree after every step, stream ids are fresh, and outcomes are
final.
-/

namespace Hmmp
namespace Connection

open Foundation
open Wire

namespace RequestTable

variable {s s' : RequestTable}

/-!
# What each step does
-/

theorem Consistent.draw (h : s.Consistent)
    (htimely : s.Timely TableEvent.start) : s.draw.Consistent := by
  have hfresh := h.fresh htimely
  have hcounter := h.counter
  refine ⟨?_, ?_, ?_, ?_, ?_⟩
  · show nextStreamId (nextStreamId s.streamIdCounter) =
      (s.requests ++ [_]).length % maxStreamId + 1
    rw [hcounter, nextStreamId_mod, List.length_append, List.length_singleton]
  · show (s.router.registerRequest _).2.futures.length =
      (s.requests ++ [_]).length
    rw [FrameRouter.registerRequest_futures_length, h.futures,
      List.length_append, List.length_singleton]
  · intro i r hr
    rcases getElem?_concat_cases hr with hold | ⟨rfl, rfl⟩
    · exact h.own i r hold
    · exact ⟨h.futures, hcounter⟩
  · intro i r hr hregistered
    show (s.requests ++ [_]).length <= _
    rw [List.length_append, List.length_singleton]
    rcases getElem?_concat_cases hr with hold | ⟨rfl, rfl⟩
    · exact htimely i r hold hregistered
    · unfold maxStreamId
      omega
  · intro x id
    show (s.router.registerRequest _).2.pendingRequests.get? x = some id <-> _
    rw [FrameRouter.registerRequest_pending]
    constructor
    · intro hentry
      split at hentry
      · rename_i hx
        injection hentry with hentry
        rw [← hentry, hx, h.futures]
        exact ⟨_, List.getElem?_concat_length, rfl, rfl⟩
      · rcases (h.table x id).mp hentry with ⟨r, hr, hstream, hregistered⟩
        have hkept : s.draw.requests[id]? = s.requests[id]? :=
          List.getElem?_append_left (index_lt hr)
        exact ⟨r, hkept.trans hr, hstream, hregistered⟩
    · rintro ⟨r, hr, hstream, hregistered⟩
      rcases getElem?_concat_cases hr with hold | ⟨rfl, rfl⟩
      · have hbefore := (h.table x id).mpr ⟨r, hold, hstream, hregistered⟩
        have hx : x ≠ nextStreamId s.streamIdCounter := by
          intro heq
          rw [heq, hfresh] at hbefore
          cases hbefore
        rw [if_neg hx]
        exact hbefore
      · rw [if_pos hstream.symm, h.futures]

theorem Consistent.arrive (h : s.Consistent) {frame : Frame}
    {calls : List HandlerCall} {router : FrameRouter}
    (hroute : s.router.routeFrame frame = Except.ok (calls, router)) :
    Consistent
      { s with
        router := router
        requests := s.requests.map (TrackedRequest.answer frame) } := by
  by_cases hzero : frame.streamId = 0
  · have hanswer : TrackedRequest.answer frame = id := by
      funext r
      unfold TrackedRequest.answer
      rw [if_neg (fun hboth => hboth.1 hzero)]
      rfl
    rw [FrameRouter.routeFrame_of_notification hzero hroute, hanswer,
      List.map_id]
    exact h
  · rw [FrameRouter.routeFrame_of_stream s.router hzero] at hroute
    injection hroute with hpair
    injection hpair with _ hrouter
    have hpending := fun x => s.router.finish_pending frame.streamId
      (FutureState.result frame) x
    rw [← hrouter]
    refine h.marked (fun _ => TrackedRequest.answer frame)
      (fun _ => TrackedRequest.answer_marks frame) rfl
      (s.router.finish_futures_length _ _) (List.length_map _)
      (fun i => List.getElem?_map) ?_ ?_
    · intro x id r hr hentry
      rcases (h.table x id).mp hentry with ⟨r', hr', hstream, hregistered⟩
      rw [hr] at hr'
      injection hr' with hr'
      subst hr'
      show (s.router.finish _ _).pendingRequests.get? x = some id <-> _
      rw [hpending]
      unfold TrackedRequest.answer
      by_cases hx : x = frame.streamId
      · rw [if_pos hx, if_pos ⟨hzero, hstream.trans hx⟩]
        constructor
        · intro hnone
          cases hnone
        · intro hgone
          exact absurd hgone (r.remove_not_registered _)
      · have hother : ¬ (frame.streamId ≠ 0 ∧ r.streamId = frame.streamId) :=
          fun hboth => hx (hstream.symm.trans hboth.2)
        rw [if_neg hx, if_neg hother]
        exact ⟨fun _ => hregistered, fun _ => hentry⟩
    · intro x id hentry
      exact (FrameRouter.finish_entry hentry).2

theorem Consistent.timeout (h : s.Consistent) (id : FutureId) :
    Consistent
      { s with router := s.router.settle id FutureState.cancelled } := by
  have hpending := s.router.settle_pendingRequests id FutureState.cancelled
  refine ⟨h.counter, ?_, h.own, h.recent, ?_⟩
  · rw [FrameRouter.settle_futures_length]
    exact h.futures
  · intro x other
    show (s.router.settle _ _).pendingRequests.get? x = some other <-> _
    rw [hpending]
    exact h.table x other

def markCancelled (i j : Nat) (r : TrackedRequest) : TrackedRequest :=
  if j = i then r.remove Removal.cancelled else r

theorem markCancelled_marks (i j : Nat) (r : TrackedRequest) :
    TrackedRequest.Marks r (markCancelled i j r) := by
  unfold markCancelled
  split
  · exact r.remove_marks Removal.cancelled
  · exact TrackedRequest.Marks.refl r

theorem set_eq_markCancelled {requests : List TrackedRequest} {i : Nat}
    {r : TrackedRequest} (hr : requests[i]? = some r) (j : Nat) :
    (requests.set i (r.remove Removal.cancelled))[j]? =
      requests[j]?.map (markCancelled i j) := by
  by_cases hj : i = j
  · subst hj
    rw [List.getElem?_set_self (List.getElem?_eq_some_iff.mp hr).1, hr]
    simp [markCancelled]
  · have hj' : ¬ j = i := fun heq => hj heq.symm
    rw [List.getElem?_set_ne hj]
    cases requests[j]? <;> simp [markCancelled, hj']

theorem Consistent.cancel (h : s.Consistent) {i : Nat} {r : TrackedRequest}
    (hr : s.requests[i]? = some r)
    (htimely : s.Timely (TableEvent.cancel i)) :
    Consistent
      { s with
        router := s.router.cancelRequest r.streamId
        requests := s.requests.set i (r.remove Removal.cancelled) } := by
  have hpending := fun x => s.router.finish_pending r.streamId
    FutureState.cancelled x
  refine h.marked (markCancelled i) (markCancelled_marks i) rfl
    (s.router.finish_futures_length _ _) List.length_set
    (set_eq_markCancelled hr) ?_ ?_
  · intro x id q hq hentry
    rcases (h.table x id).mp hentry with ⟨q', hq', hstream, hregistered⟩
    rw [hq] at hq'
    injection hq' with hq'
    subst hq'
    show (s.router.finish _ _).pendingRequests.get? x = some id <-> _
    rw [hpending]
    by_cases hid : id = i
    · subst hid
      rw [hr] at hq
      injection hq with hq
      subst hq
      rw [if_pos hstream.symm]
      unfold markCancelled
      rw [if_pos rfl]
      constructor
      · intro hnone
        cases hnone
      · intro hgone
        exact absurd hgone (r.remove_not_registered _)
    · -- two registered requests of one id would be one request
      have hx : x ≠ r.streamId := by
        intro heq
        rw [← hstream, (h.own id q hq).2, (h.own i r hr).2] at heq
        exact hid (index_eq_of_streamId (index_lt hq) (index_lt hr)
          (h.recent id q hq hregistered) htimely (Nat.succ.inj heq))
      unfold markCancelled
      rw [if_neg hx, if_neg hid]
      exact ⟨fun _ => hregistered, fun _ => hentry⟩
  · intro x id hentry
    exact (FrameRouter.finish_entry hentry).2

theorem Consistent.failAll (h : s.Consistent) (error : PyError) :
    Consistent
      { s with
        router := s.router.failAll error
        requests :=
          s.requests.map (TrackedRequest.remove (Removal.failed error)) } := by
  have hempty : forall x,
      (s.router.failAll error).pendingRequests.get? x = none := by
    intro x
    rw [FrameRouter.failAll_eq, FrameRouter.settleAll_pendingRequests]
    rfl
  refine h.marked (fun _ => TrackedRequest.remove (Removal.failed error))
    (fun _ => TrackedRequest.remove_marks (Removal.failed error)) rfl ?_
    (List.length_map _) (fun i => List.getElem?_map) ?_ ?_
  · show (s.router.failAll error).futures.length = _
    rw [FrameRouter.failAll_eq, FrameRouter.settleAll_futures_length]
  · intro x id r hr hentry
    show (s.router.failAll error).pendingRequests.get? x = some id <-> _
    rw [hempty]
    constructor
    · intro hnone
      cases hnone
    · intro hgone
      exact absurd hgone (r.remove_not_registered _)
  · intro x id hentry
    have hentry : (s.router.failAll error).pendingRequests.get? x = some id :=
      hentry
    rw [hempty] at hentry
    cases hentry

theorem Consistent.step (h : s.Consistent) {e : TableEvent}
    (hstep : TimelyStep s e s') : s'.Consistent := by
  rcases hstep with ⟨htimely, hnext⟩
  unfold StepOf next at hnext
  cases e with
  | start =>
      injection hnext with hnext
      subst hnext
      exact h.draw htimely
  | arrive frame =>
      dsimp only at hnext
      split at hnext
      · rename_i calls router hroute
        injection hnext with hnext
        subst hnext
        exact h.arrive hroute
      · injection hnext with hnext
        subst hnext
        exact h
  | timeout i =>
      rcases Option.bind_eq_some_iff.mp hnext with ⟨r, _, hnext⟩
      injection hnext with hnext
      subst hnext
      exact h.timeout r.future
  | cancel i =>
      rcases Option.bind_eq_some_iff.mp hnext with ⟨r, hr, hnext⟩
      injection hnext with hnext
      subst hnext
      exact h.cancel hr htimely
  | failAll error =>
      injection hnext with hnext
      subst hnext
      exact h.failAll error

/-- Along every run in which requests finish in time the table agrees with the
requests. -/
theorem consistent_reachable {notifyHandlers : Dict Int HandlerId}
    {globalHandlers : List HandlerId}
    (h : Reachable TimelyStep (new notifyHandlers globalHandlers) s) :
    s.Consistent :=
  h.invariant (fun _ _ _ hs hstep => hs.step hstep)
    (consistent_new notifyHandlers globalHandlers)

/-!
# Outcomes
-/

theorem next_future_of_done {e : TableEvent} (hstep : StepOf next s e s')
    {id : FutureId} {state : FutureState}
    (hstate : s.router.future id = some state)
    (hdone : state ≠ FutureState.pending) :
    s'.router.future id = some state := by
  unfold StepOf next at hstep
  cases e with
  | start =>
      injection hstep with hstep
      subst hstep
      show (s.router.registerRequest _).2.future id = some state
      rw [s.router.registerRequest_future_old _
        (FrameRouter.future_lt hstate)]
      exact hstate
  | arrive frame =>
      dsimp only at hstep
      split at hstep
      · rename_i calls router hroute
        injection hstep with hstep
        subst hstep
        rcases FrameRouter.routeFrame_cases hroute with rfl | rfl
        · exact hstate
        · exact FrameRouter.finish_future_of_done hstate hdone _ _
      · injection hstep with hstep
        subst hstep
        exact hstate
  | timeout i =>
      rcases Option.bind_eq_some_iff.mp hstep with ⟨r, _, hstep⟩
      injection hstep with hstep
      subst hstep
      exact FrameRouter.settle_future_of_done hstate hdone _ _
  | cancel i =>
      rcases Option.bind_eq_some_iff.mp hstep with ⟨r, _, hstep⟩
      injection hstep with hstep
      subst hstep
      exact FrameRouter.finish_future_of_done hstate hdone _ _
  | failAll error =>
      injection hstep with hstep
      subst hstep
      exact FrameRouter.settleAll_future_of_done
        (r := { s.router with pendingRequests := Dict.empty }) hstate hdone
        s.router.pendingRequests.entries _

theorem run_future_of_done {labels : List TableEvent}
    (hrun : Run TimelyStep s labels s') {id : FutureId} {state : FutureState}
    (hstate : s.router.future id = some state)
    (hdone : state ≠ FutureState.pending) :
    s'.router.future id = some state :=
  @Run.invariant _ _ _ (fun s => s.router.future id = some state)
    (fun _ _ _ hs hstep => next_future_of_done hstep.2 hs hdone) _ _ _ hrun
    hstate

theorem Consistent.answers (h : s.Consistent) {frame : Frame}
    (hstep : next s (TableEvent.arrive frame) = some s') {id : FutureId}
    (hchanged : s'.router.future id ≠ s.router.future id) :
    frame.streamId ≠ 0 ∧
      s.router.pendingRequests.get? frame.streamId = some id ∧
        s.router.future id = some FutureState.pending ∧
          s'.router.future id = some (FutureState.result frame) := by
  unfold next at hstep
  dsimp only at hstep
  split at hstep
  · rename_i calls router hroute
    injection hstep with hstep
    subst hstep
    have hzero : frame.streamId ≠ 0 := by
      intro hzero
      rw [FrameRouter.routeFrame_of_notification hzero hroute] at hchanged
      exact hchanged rfl
    rw [FrameRouter.routeFrame_of_stream s.router hzero] at hroute
    injection hroute with hpair
    injection hpair with _ hrouter
    subst hrouter
    have hentry : s.router.pendingRequests.get? frame.streamId =
        some id := by
      by_contra hother
      exact hchanged (s.router.finish_future_of_ne _ hother)
    rcases (h.table _ id).mp hentry with ⟨r, hr, _, _⟩
    have hpending : s.router.future id = some FutureState.pending := by
      by_contra hnot
      have hlt : id < s.router.futures.length := by
        rw [h.futures]
        exact index_lt hr
      have hstate : s.router.future id = some (s.router.futures.get
          ⟨id, hlt⟩) := List.getElem?_eq_getElem hlt
      rw [hstate] at hnot
      have hkept := FrameRouter.finish_future_of_done hstate
        (fun heq => hnot (congrArg some heq)) frame.streamId
        (FutureState.result frame)
      exact hchanged (hkept.trans hstate.symm)
    exact ⟨hzero, hentry, hpending,
      FrameRouter.finish_future_of_registered _ hentry hpending⟩
  · injection hstep with hstep
    subst hstep
    exact absurd rfl hchanged

theorem Consistent.entry_iff (h : s.Consistent) (x : Nat) (id : FutureId) :
    s.router.pendingRequests.get? x = some id <->
      exists r, r ∈ s.requests ∧ r.streamId = x ∧ r.future = id ∧
        r.Registered := by
  rw [h.table]
  constructor
  · rintro ⟨r, hr, hstream, hregistered⟩
    exact ⟨r, List.mem_of_getElem? hr, hstream, (h.own id r hr).1,
      hregistered⟩
  · rintro ⟨r, hmem, hstream, rfl, hregistered⟩
    rcases List.mem_iff_getElem?.mp hmem with ⟨i, hr⟩
    rw [(h.own i r hr).1]
    exact ⟨r, hr, hstream, hregistered⟩

/-!
# Multiplexing
-/

def Changed (s s' : RequestTable) (id : FutureId) : Prop :=
  s'.router.future id ≠ s.router.future id

/--
On every run in which requests finish in time: the next stream id is in range
and belongs to no pending request; an outcome is final; a frame changes at most
one future, the one registered under its own stream id, which is not 0; and the
table holds exactly the registered requests.
-/
theorem multiplexed (notifyHandlers : Dict Int HandlerId)
    (globalHandlers : List HandlerId) {s : RequestTable}
    (h : Reachable TimelyStep (new notifyHandlers globalHandlers) s) :
    (s.Timely TableEvent.start ->
      1 <= nextStreamId s.streamIdCounter ∧
        nextStreamId s.streamIdCounter <= 2 ^ 31 - 1 ∧
          s.router.pendingRequests.get? (nextStreamId s.streamIdCounter) =
            none) ∧
    (forall labels s' id state, Run TimelyStep s labels s' ->
      s.router.future id = some state -> state ≠ FutureState.pending ->
        s'.router.future id = some state) ∧
    (forall frame s', next s (TableEvent.arrive frame) = some s' ->
      (forall id, Changed s s' id ->
        frame.streamId ≠ 0 ∧
          (exists r, r ∈ s.requests ∧ r.streamId = frame.streamId ∧
            r.future = id ∧ r.Registered) ∧
          s.router.future id = some FutureState.pending ∧
            s'.router.future id = some (FutureState.result frame)) ∧
      forall id id', Changed s s' id -> Changed s s' id' -> id = id') ∧
    forall x id, s.router.pendingRequests.get? x = some id <->
      exists r, r ∈ s.requests ∧ r.streamId = x ∧ r.future = id ∧
        r.Registered := by
  have hs := consistent_reachable h
  refine ⟨?_, ?_, ?_, hs.entry_iff⟩
  · intro htimely
    refine ⟨?_, ?_, hs.fresh htimely⟩
    · rw [hs.counter]
      exact Nat.le_add_left 1 _
    · have hmod : s.requests.length % maxStreamId < maxStreamId :=
        Nat.mod_lt _ (by decide)
      have hmax : maxStreamId = 2 ^ 31 - 1 := by decide
      rw [hs.counter]
      omega
  · intro labels s' id state hrun hstate hdone
    exact run_future_of_done hrun hstate hdone
  · intro frame s' hstep
    constructor
    · intro id hchanged
      rcases hs.answers hstep hchanged with ⟨hzero, hentry, hpending, hresult⟩
      exact ⟨hzero, (hs.entry_iff _ _).mp hentry, hpending, hresult⟩
    · intro id id' hchanged hchanged'
      have hentry := (hs.answers hstep hchanged).2.1
      rw [(hs.answers hstep hchanged').2.1] at hentry
      injection hentry with hsame
      exact hsame.symm

def streamFrame (streamId : Nat) : Frame where
  header := { streamId := streamId }
  metadata := Value.nil
  body := []
  governanceBlock := none

/-- Two requests: the timer of the first runs out before its response comes,
and the second is answered in between. -/
def lateResponse : List TableEvent :=
  [TableEvent.start, TableEvent.start, TableEvent.timeout 0,
    TableEvent.arrive (streamFrame 2), TableEvent.cancel 0,
    TableEvent.arrive (streamFrame 1)]

theorem lateResponse_run :
    exists s, Run TimelyStep (new Dict.empty []) lateResponse s ∧
      s.router.pendingRequests.get? 1 = none := by
  have hsecond : forall i r,
      (new Dict.empty []).draw.requests[i]? = some r -> r.Registered ->
        1 < i + maxStreamId := by
    intro i r _ _
    unfold maxStreamId
    omega
  have hfirst : (new Dict.empty []).Timely TableEvent.start := by
    intro i r hr
    cases hr
  have hcancel : 2 <= 0 + maxStreamId := by decide
  exact ⟨_, Run.cons ⟨hfirst, rfl⟩ (Run.cons ⟨hsecond, rfl⟩
    (Run.cons ⟨trivial, rfl⟩ (Run.cons ⟨trivial, rfl⟩
      (Run.cons ⟨hcancel, rfl⟩ (Run.single ⟨trivial, rfl⟩))))), rfl⟩

/-- After the late response the table is empty under its stream id, and so no
registered request has that id. -/
theorem multiplexed_lateResponse :
    exists s, Run TimelyStep (new Dict.empty []) lateResponse s ∧
      forall r, r ∈ s.requests -> r.streamId = 1 -> ¬ r.Registered := by
  rcases lateResponse_run with ⟨s, hrun, hnone⟩
  refine ⟨s, hrun, fun r hmem hstream hregistered => ?_⟩
  have hentry := ((multiplexed Dict.empty [] ⟨lateResponse, hrun⟩).2.2.2 1
    r.future).mpr ⟨r, hmem, hstream, rfl, hregistered⟩
  rw [hnone] at hentry
  cases hentry

end RequestTable

end Connection
end Hmmp
