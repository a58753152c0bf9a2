import Hmmp.Connection.RequestTableSafety

/-!
# Requests that still wait

A step changes a future in one way only, by what it is about.  A future is
pending only while its request is registered, and so the first frame of its
stream ends the wait.
-/

namespace Hmmp
namespace Connection

open Foundation
open Wire

namespace RequestTable

variable {s s' : RequestTable}

theorem next_arrive {frame : Frame} {routed : List HandlerCall × FrameRouter}
    (hroute : s.router.routeFrame frame = Except.ok routed) :
    s.next (.arrive frame) =
      some
        { s with
          router := routed.2
          requests := s.requests.map (TrackedRequest.answer frame) } := by
  unfold next
  dsimp only
  rw [hroute]

/-- What a step can make of a future that it changes. -/
def Effect (s : RequestTable) (id : FutureId) (state : Option FutureState) :
    TableEvent -> Prop
  | .start => id = s.requests.length ∧ state = some FutureState.pending
  | .arrive frame =>
      (exists r, s.requests[id]? = some r ∧ r.streamId = frame.streamId) ∧
        state = some (FutureState.result frame)
  | .timeout i => id = i ∧ state = some FutureState.cancelled
  | .cancel i => id = i ∧ state = some FutureState.cancelled
  | .failAll error => state = some (FutureState.exception error)

theorem Consistent.finish_change (h : s.Consistent) (streamId : Nat)
    (outcome : FutureState) (id : FutureId) :
    (s.router.finish streamId outcome).future id = s.router.future id ∨
      (exists r, s.requests[id]? = some r ∧ r.streamId = streamId ∧
        r.Registered) ∧
      (s.router.finish streamId outcome).future id = some outcome := by
  by_cases hentry : s.router.pendingRequests.get? streamId = some id
  · rcases s.router.finish_future_cases streamId outcome id with
      hsame | hchanged
    · exact Or.inl hsame
    · exact Or.inr ⟨(h.table streamId id).mp hentry, hchanged⟩
  · exact Or.inl (s.router.finish_future_of_ne outcome hentry)

theorem draw_future (h : s.Consistent) (id : FutureId) :
    s.draw.router.future id = s.router.future id ∨
      id = s.requests.length ∧
        s.draw.router.future id = some FutureState.pending := by
  by_cases hid : id = s.requests.length
  · right
    refine ⟨hid, ?_⟩
    rw [hid, ← h.futures]
    exact s.router.registerRequest_future_new _
  · left
    rcases Nat.lt_or_gt_of_ne hid with hlt | hgt
    · rw [← h.futures] at hlt
      exact s.router.registerRequest_future_old _ hlt
    · have hlength : s.draw.router.futures.length = s.requests.length + 1 := by
        rw [← h.futures]
        exact s.router.registerRequest_futures_length _
      unfold FrameRouter.future
      rw [List.getElem?_eq_none, List.getElem?_eq_none]
      · rw [h.futures]
        exact Nat.le_of_lt hgt
      · rw [hlength]
        exact hgt

theorem settleAll_future (r : FrameRouter)
    (entries : List (Nat × FutureId)) (outcome : FutureState)
    (id : FutureId) :
    (r.settleAll entries outcome).future id = r.future id ∨
      (r.settleAll entries outcome).future id = some outcome := by
  induction entries generalizing r with
  | nil => exact Or.inl rfl
  | cons entry entries ih =>
      rcases ih (r.settle entry.2 outcome) with hsame | hsettled
      · rcases r.settle_future_cases entry.2 id outcome with hkept | hchanged
        · exact Or.inl (hsame.trans hkept)
        · exact Or.inr (hsame.trans hchanged)
      · exact Or.inr hsettled

theorem settleAll_future_of_mem {r : FrameRouter} {x : Nat} {id : FutureId}
    (hpending : r.future id = some FutureState.pending)
    {entries : List (Nat × FutureId)} (hmem : (x, id) ∈ entries)
    (outcome : FutureState) :
    (r.settleAll entries outcome).future id = some outcome := by
  induction entries generalizing r with
  | nil => cases hmem
  | cons entry entries ih =>
      by_cases hid : entry.2 = id
      · have hsettled :=
          FrameRouter.settle_future_of_pending outcome hpending
        show ((r.settle entry.2 outcome).settleAll entries outcome).future id =
          some outcome
        rw [hid]
        rcases settleAll_future (r.settle id outcome) entries outcome id with
          hsame | hagain
        · exact hsame.trans hsettled
        · exact hagain
      · rcases List.mem_cons.mp hmem with hhead | hrest
        · exact absurd (congrArg Prod.snd hhead).symm hid
        · apply ih _ hrest
          rw [r.settle_future_of_ne outcome (Ne.symm hid)]
          exact hpending

theorem Consistent.effect (h : s.Consistent) {e : TableEvent}
    (hstep : TimelyStep s e s') (id : FutureId) :
    s'.router.future id = s.router.future id ∨
      s.Effect id (s'.router.future id) e := by
  rcases hstep with ⟨htimely, hnext⟩
  unfold StepOf next at hnext
  cases e with
  | start =>
      injection hnext with hnext
      subst hnext
      exact draw_future h id
  | arrive frame =>
      dsimp only at hnext
      split at hnext
      · rename_i calls router hroute
        injection hnext with hnext
        subst hnext
        rcases FrameRouter.routeFrame_cases hroute with rfl | rfl
        · exact Or.inl rfl
        · rcases h.finish_change frame.streamId (FutureState.result frame) id
            with hsame | ⟨⟨r, hr, hstream, _⟩, hchanged⟩
          · exact Or.inl hsame
          · exact Or.inr ⟨⟨r, hr, hstream⟩, hchanged⟩
      · injection hnext with hnext
        subst hnext
        exact Or.inl rfl
  | timeout i =>
      rcases Option.bind_eq_some_iff.mp hnext with ⟨r, hr, hnext⟩
      injection hnext with hnext
      subst hnext
      by_cases hid : id = i
      · rcases s.router.settle_future_cases r.future id FutureState.cancelled
          with hsame | hchanged
        · exact Or.inl hsame
        · exact Or.inr ⟨hid, hchanged⟩
      · left
        rw [← (h.own i r hr).1] at hid
        exact s.router.settle_future_of_ne FutureState.cancelled hid
  | cancel i =>
      rcases Option.bind_eq_some_iff.mp hnext with ⟨r, hr, hnext⟩
      injection hnext with hnext
      subst hnext
      rcases h.finish_change r.streamId FutureState.cancelled id with
        hsame | ⟨⟨q, hq, hstream, hregistered⟩, hchanged⟩
      · exact Or.inl hsame
      · right
        rw [(h.own id q hq).2, (h.own i r hr).2] at hstream
        exact ⟨index_eq_of_streamId (index_lt hq) (index_lt hr)
          (h.recent id q hq hregistered) htimely (Nat.succ.inj hstream),
          hchanged⟩
  | failAll error =>
      injection hnext with hnext
      subst hnext
      exact settleAll_future { s.router with pendingRequests := Dict.empty }
        s.router.pendingRequests.entries _ id

/-!
# Waiting requests are registered
-/

def WaitsRegistered (s : RequestTable) : Prop :=
  forall i r, s.requests[i]? = some r ->
    s.router.future i = some FutureState.pending -> r.Registered

theorem waitsRegistered_new (notifyHandlers : Dict Int HandlerId)
    (globalHandlers : List HandlerId) :
    (new notifyHandlers globalHandlers).WaitsRegistered := by
  intro i r h
  cases h

theorem Consistent.ends_wait (h : s.Consistent) (hwaits : s.WaitsRegistered)
    {i : Nat} {r : TrackedRequest} (hr : s.requests[i]? = some r)
    (hpending : s.router.future i = some FutureState.pending)
    (outcome : FutureState) :
    (s.router.finish r.streamId outcome).future i = some outcome :=
  FrameRouter.finish_future_of_registered outcome
    ((h.table r.streamId i).mpr ⟨r, hr, rfl, hwaits i r hr hpending⟩) hpending

theorem pending_before {e : TableEvent} (hstep : StepOf next s e s')
    {i : Nat} (hold : i < s.router.futures.length)
    (hpending : s'.router.future i = some FutureState.pending) :
    s.router.future i = some FutureState.pending := by
  have hstate : s.router.future i =
      some (s.router.futures.get ⟨i, hold⟩) := List.getElem?_eq_getElem hold
  by_contra hnot
  rw [hstate] at hnot
  have hkept := next_future_of_done hstep hstate
    (fun heq => hnot (congrArg some heq))
  rw [hpending] at hkept
  exact hnot hkept.symm

theorem WaitsRegistered.step (hwaits : s.WaitsRegistered)
    (h : s.Consistent) {e : TableEvent} (hstep : TimelyStep s e s') :
    s'.WaitsRegistered := by
  have hbefore : forall {i : Nat} {r : TrackedRequest},
      s.requests[i]? = some r ->
      s'.router.future i = some FutureState.pending ->
        s.router.future i = some FutureState.pending := by
    intro i r hr hpending
    apply pending_before hstep.2 _ hpending
    rw [h.futures]
    exact index_lt hr
  rcases hstep with ⟨htimely, hnext⟩
  unfold StepOf next at hnext
  intro i r' hr' hpending
  cases e with
  | start =>
      injection hnext with hnext
      subst hnext
      rcases getElem?_concat_cases hr' with hold | ⟨_, rfl⟩
      · exact hwaits i r' hold (hbefore hold hpending)
      · rfl
  | arrive frame =>
      dsimp only at hnext
      split at hnext
      · rename_i calls router hroute
        injection hnext with hnext
        subst hnext
        have hr' : (s.requests.map (TrackedRequest.answer frame))[i]? =
            some r' := hr'
        rw [List.getElem?_map, Option.map_eq_some_iff] at hr'
        rcases hr' with ⟨r, hr, rfl⟩
        have hwas := hbefore hr hpending
        by_cases hmine : frame.streamId ≠ 0 ∧ r.streamId = frame.streamId
        · rw [FrameRouter.routeFrame_of_stream s.router hmine.1] at hroute
          injection hroute with hpair
          injection hpair with _ hrouter
          subst hrouter
          have hended := h.ends_wait hwaits hr hwas (FutureState.result frame)
          rw [hmine.2] at hended
          have hsame := hpending.symm.trans hended
          injection hsame with hsame
          cases hsame
        · unfold TrackedRequest.answer
          rw [if_neg hmine]
          exact hwaits i r hr hwas
      · injection hnext with hnext
        subst hnext
        exact hwaits i r' hr' hpending
  | timeout k =>
      rcases Option.bind_eq_some_iff.mp hnext with ⟨r, hr, hnext⟩
      injection hnext with hnext
      subst hnext
      exact hwaits i r' hr' (hbefore hr' hpending)
  | cancel k =>
      rcases Option.bind_eq_some_iff.mp hnext with ⟨r, hr, hnext⟩
      injection hnext with hnext
      subst hnext
      by_cases hk : k = i
      · subst hk
        have hended := h.ends_wait hwaits hr (hbefore hr hpending)
          FutureState.cancelled
        have hsame := hpending.symm.trans hended
        injection hsame with hsame
        cases hsame
      · have hr' : (s.requests.set k _)[i]? = some r' := hr'
        rw [List.getElem?_set_ne hk] at hr'
        exact hwaits i r' hr' (hbefore hr' hpending)
  | failAll error =>
      injection hnext with hnext
      subst hnext
      have hr' : (s.requests.map _)[i]? = some r' := hr'
      rw [List.getElem?_map, Option.map_eq_some_iff] at hr'
      rcases hr' with ⟨r, hr, rfl⟩
      have hwas := hbefore hr hpending
      have hentry := (h.table r.streamId i).mpr
        ⟨r, hr, rfl, hwaits i r hr hwas⟩
      have hfailed := settleAll_future_of_mem
        (r := { s.router with pendingRequests := Dict.empty }) hwas
        (Dict.get?_eq_some.mp hentry) (FutureState.exception error)
      have hsame := hpending.symm.trans hfailed
      injection hsame with hsame
      cases hsame

end RequestTable

end Connection
end Hmmp
