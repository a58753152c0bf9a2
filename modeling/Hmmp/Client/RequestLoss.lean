import Hmmp.Client.RequestEntries

/-!
# Requests of a lost connection

Closing a connection leaves the router alone.  The requests sent on it have
failed only if each of them was answered before the close callback starts, or
its caller had timed out and cancelled it.
-/

namespace Hmmp
namespace Client

open Foundation
open Wire
open Connection

namespace RequestCalls

variable {s s' : RequestCalls} {e : CallEvent}

/-!
# Settled calls
-/

/-- The future of the call is done and registered nowhere. -/
def Settled (s : RequestCalls) (r : RequestCall) : Prop :=
  s.isPending r.future = false ∧ s.Unregistered r.future

/-- The calls of every connection that has called back are settled. -/
def LostCallsFailed (s : RequestCalls) : Prop :=
  forall (j : Nat) (r : RequestCall), s.calls[j]? = some r ->
    r.lost = true -> s.Settled r

theorem Settled.kept {s s' : RequestCalls} {r : RequestCall}
    (h : s.Settled r) (hsettles : Settles s.router s'.router)
    (hcreated : r.future < s.router.futures.length) : s'.Settled r := by
  constructor
  · apply Bool.eq_false_iff.mpr
    intro hpending
    have hbefore := hsettles.no_reset _ hcreated (isPending_iff.mp hpending)
    have hdone := h.1
    rw [isPending_iff.mpr hbefore] at hdone
    cases hdone
  · intro x hentry
    exact h.2 x (hsettles.no_entry x _ hcreated hentry)

/-!
# Calls that are finished
-/

/-- The server has answered the call, or its caller has timed out and cancelled
the request. -/
def Finished (r : RequestCall) : Prop :=
  r.answered = true ∨ r.phase = .ended .timedOut

instance (r : RequestCall) : Decidable (Finished r) :=
  inferInstanceAs (Decidable (_ ∨ _))

/-- No call draws the stream id of a call that is not finished or that a timer
may stop. -/
def Fresh (s : RequestCalls) : CallEvent -> Prop
  | .call _ => forall c, c ∈ s.connections[s.current]? ->
      forall r, r ∈ s.calls -> r.streamId = nextStreamId c.streamIdCounter ->
        r.phase.mayTimeOut = false ∧ Finished r
  | _ => True

/-- A connection calls back when the calls sent on it are finished. -/
def FinishedClose (s : RequestCalls) (e : CallEvent) : Prop :=
  forall k, k ∈ s.closing e -> forall r, r ∈ s.calls -> r.connection = k ->
    Finished r

def Drained (s : RequestCalls) (e : CallEvent) : Prop :=
  s.Fresh e ∧ s.FinishedClose e

instance (s : RequestCalls) (e : CallEvent) : Decidable (s.Fresh e) := by
  cases e <;> unfold Fresh <;> infer_instance

instance (s : RequestCalls) (e : CallEvent) : Decidable (s.Drained e) :=
  inferInstanceAs (Decidable (_ ∧ forall k, k ∈ s.closing e ->
    forall r, r ∈ s.calls -> r.connection = k -> Finished r))

/--
Finished calls are settled, the others are registered under their stream ids,
and a call that a timer may stop shares its stream id with finished calls only.
-/
structure Accounted (s : RequestCalls) : Prop extends Indexed s where
  finished : forall (j : Nat) (r : RequestCall), s.calls[j]? = some r ->
    Finished r -> s.Settled r
  unfinished : forall (j : Nat) (r : RequestCall), s.calls[j]? = some r ->
    ¬ Finished r -> s.router.pendingRequests.get? r.streamId = some r.future
  alone : forall (i j : Nat) (q r : RequestCall), s.calls[i]? = some q ->
    s.calls[j]? = some r -> q.phase.mayTimeOut = true ->
      q.streamId = r.streamId -> i ≠ j -> Finished r

theorem accounted_start : Accounted {} where
  toIndexed := indexed_start
  finished j r h := by cases h
  unfinished j r h := by cases h
  alone i j q r h := by cases h

theorem Continues.finished {j : Nat} {r r' : RequestCall}
    (h : Continues s e j r r') (hstep : s.next e = some s')
    (hr : s.calls[j]? = some r) (hfinished : Finished r) : Finished r' := by
  rcases hfinished with hanswered | htimedOut
  · left
    rw [h.answered, hanswered, Bool.true_or]
  · right
    rw [h.ended hstep hr (by rw [htimedOut]; rfl), htimedOut]

theorem Continues.finishes {j : Nat} {r r' : RequestCall}
    (h : Continues s e j r r') (hstep : s.next e = some s')
    (hj : s'.calls[j]? = some r') (hfinished : Finished r')
    (hnot : ¬ Finished r) :
    heard r e = true ∨ e = .giveUp j := by
  rcases hfinished with hanswered | htimedOut
  · rw [h.answered, Bool.or_eq_true] at hanswered
    exact Or.inl (hanswered.resolve_left fun hbefore => hnot (Or.inl hbefore))
  · right
    have hphase : r'.phase ≠ r.phase := by
      intro hsame
      exact hnot (Or.inr (hsame.symm.trans htimedOut))
    have hsubject := h.phase hphase
    have hafter := next_phase hstep hsubject hj
    rw [htimedOut] at hafter
    cases e with
    | giveUp i =>
        injection hsubject with hsubject
        rw [hsubject]
    | sent | sendFailed | raised | timeout | resume | cancel => cases hafter
    | establish | task | call | route => cases hsubject

theorem finish_settled (h : s.Indexed) {y : Nat} {r : RequestCall}
    (hentry : s.router.pendingRequests.get? y = some r.future)
    {outcome : FutureState} (hdone : outcome ≠ .pending)
    (hrouter : s'.router = s.router.finish y outcome) : s'.Settled r := by
  unfold Settled Unregistered
  rw [hrouter]
  constructor
  · apply Bool.eq_false_iff.mpr
    rw [ne_eq, isPending_iff, hrouter]
    intro hafter
    have hbefore := (FrameRouter.finish_confined s.router y outcome).no_reset
      r.future (h.tableCreated y _ hentry) hafter
    rw [FrameRouter.finish_future_of_registered outcome hentry hbefore]
      at hafter
    injection hafter with hafter
    exact hdone hafter
  · intro x hafter
    rcases FrameRouter.finish_entry hafter with ⟨hx, hafter⟩
    rcases h.entries y _ hentry with ⟨q, hq, _⟩
    exact hx ((h.streamId_eq hafter hq).trans (h.streamId_eq hentry hq).symm)

theorem route_finish {frame : Frame}
    (hstep : s.next (.route frame) = some s') (hzero : frame.streamId ≠ 0) :
    s'.router =
      s.router.finish frame.streamId (FutureState.result frame) := by
  have hrouter := next_router hstep
  simp only [routerAfter, FrameRouter.routeFrame_of_stream s.router hzero]
    at hrouter
  exact (Option.some.inj hrouter).symm

theorem Accounted.entry_kept (h : s.Accounted) (hfresh : s.Fresh e)
    (hstep : s.next e = some s') {j : Nat} {r : RequestCall}
    (hr : s.calls[j]? = some r) (hnot : ¬ Finished r)
    (hsilent : heard r e = false) (hstays : e ≠ .giveUp j) :
    s'.router.pendingRequests.get? r.streamId = some r.future := by
  have hentry := h.unfinished j r hr hnot
  cases next_routerStep hstep with
  | same _ hrouter =>
      rw [hrouter]
      exact hentry
  | draw kind c hevent hc hrouter =>
      subst hevent
      have hother : r.streamId ≠ nextStreamId c.streamIdCounter := fun hsame =>
        hnot (hfresh c hc r (List.mem_of_getElem? hr) hsame).2
      rw [hrouter, FrameRouter.registerRequest_pending, if_neg hother]
      exact hentry
  | settle _ _ _ _ hrouter =>
      rw [hrouter, FrameRouter.settle_pendingRequests]
      exact hentry
  | giveUp i q hevent hq hrouter =>
      subst hevent
      have hij : i ≠ j := fun hij => hstays (by rw [hij])
      have hmay := mayTimeOut_of_giveUp hstep hq
      have hother : r.streamId ≠ q.streamId := fun hsame =>
        hnot (h.alone i j q r hq hr hmay hsame.symm hij)
      rw [hrouter, FrameRouter.finish_pending, if_neg hother]
      exact hentry
  | answer frame hevent hzero hrouter =>
      subst hevent
      have hother : r.streamId ≠ frame.streamId := by
        simpa [heard, answers, hzero] using hsilent
      rw [hrouter, FrameRouter.finish_pending, if_neg hother]
      exact hentry

theorem Begins.not_finished {r' : RequestCall} (h : Begins s e r') :
    ¬ Finished r' := by
  rcases h.sent with ⟨c, _, _, hphase⟩
  rintro (hanswered | htimedOut)
  · rw [h.unanswered] at hanswered
    cases hanswered
  · rw [hphase] at htimedOut
    split at htimedOut <;> cases htimedOut

theorem accounted_finished (h : s.Accounted) (hstep : s.next e = some s')
    {j : Nat} {r' : RequestCall} (hj : s'.calls[j]? = some r')
    (hfinished : Finished r') : s'.Settled r' := by
  rcases next_call hstep hj with ⟨r, hr, hcontinues⟩ | ⟨_, hbegins⟩
  · have hsettled : s'.Settled r := by
      by_cases hbefore : Finished r
      · exact (h.finished j r hr hbefore).kept (next_settles hstep)
          (h.created hr)
      · have hentry := h.unfinished j r hr hbefore
        rcases hcontinues.finishes hstep hj hfinished hbefore with
          hheard | hgaveUp
        · cases e with
          | route frame =>
              simp only [heard, answers, Bool.and_eq_true, bne_iff_ne,
                beq_iff_eq] at hheard
              rw [hheard.2] at hentry
              exact finish_settled h.toIndexed hentry (by intro hres; cases hres)
                (route_finish hstep hheard.1)
          | _ => cases hheard
        · subst hgaveUp
          exact finish_settled h.toIndexed hentry (by intro hres; cases hres)
            (giveUp_finish hstep hr)
    unfold Settled at hsettled ⊢
    rw [hcontinues.future]
    exact hsettled
  · exact absurd hfinished hbegins.not_finished

theorem accounted_unfinished (h : s.Accounted) (hfresh : s.Fresh e)
    (hstep : s.next e = some s') {j : Nat} {r' : RequestCall}
    (hj : s'.calls[j]? = some r') (hnot : ¬ Finished r') :
    s'.router.pendingRequests.get? r'.streamId = some r'.future := by
  rcases next_call hstep hj with ⟨r, hr, hcontinues⟩ | ⟨_, hbegins⟩
  · have hbefore : ¬ Finished r := fun hfinished =>
      hnot (hcontinues.finished hstep hr hfinished)
    rw [hcontinues.streamId, hcontinues.future]
    apply h.entry_kept hfresh hstep hr hbefore
    · apply Bool.eq_false_iff.mpr
      intro hheard
      apply hnot
      left
      rw [hcontinues.answered, hheard, Bool.or_true]
    · intro he
      subst he
      exact hnot (Or.inr (next_phase hstep rfl hj))
  · rw [(begins_entry hstep hbegins _).1, if_pos rfl, hbegins.future]

theorem accounted_alone (h : s.Accounted) (hfresh : s.Fresh e)
    (hstep : s.next e = some s') {i j : Nat} {q' r' : RequestCall}
    (hi : s'.calls[i]? = some q') (hj : s'.calls[j]? = some r')
    (hmay : q'.phase.mayTimeOut = true) (hsame : q'.streamId = r'.streamId)
    (hij : i ≠ j) : Finished r' := by
  rcases next_call hstep hi with ⟨q, hq, hqc⟩ | ⟨hnew, hbegins⟩
  · have hbefore := hqc.mayTimeOut hstep hq hi hmay
    rcases next_call hstep hj with ⟨r, hr, hrc⟩ | ⟨hnew', hbegins'⟩
    · rw [hqc.streamId, hrc.streamId] at hsame
      exact hrc.finished hstep hr (h.alone i j q r hq hr hbefore hsame hij)
    · rcases hbegins'.sent with ⟨c, hc, hstream, _⟩
      have hevent := hbegins'.event
      subst hevent
      have hover := (hfresh c hc q (List.mem_of_getElem? hq)
        (hqc.streamId.symm.trans (hsame.trans hstream))).1
      rw [hbefore] at hover
      cases hover
  · rcases next_call hstep hj with ⟨r, hr, hrc⟩ | ⟨hnew', _⟩
    · rcases hbegins.sent with ⟨c, hc, hstream, _⟩
      have hevent := hbegins.event
      subst hevent
      exact hrc.finished hstep hr (hfresh c hc r (List.mem_of_getElem? hr)
        (hrc.streamId.symm.trans (hsame.symm.trans hstream))).2
    · exact absurd (hnew.trans hnew'.symm) hij

theorem accounted_next (h : s.Accounted) (hfresh : s.Fresh e)
    (hstep : s.next e = some s') : s'.Accounted where
  toIndexed := indexed_next h.toIndexed hstep
  finished _ _ hj := accounted_finished h hstep hj
  unfinished _ _ hj := accounted_unfinished h hfresh hstep hj
  alone _ _ _ _ hi hj := accounted_alone h hfresh hstep hi hj

theorem Accounted.finished_of_settled (h : s.Accounted) {j : Nat}
    {r : RequestCall} (hr : s.calls[j]? = some r) (hsettled : s.Settled r) :
    Finished r := by
  by_contra hnot
  exact hsettled.2 r.streamId (h.unfinished j r hr hnot)

theorem lostCallsFailed_next (h : s.Accounted) (hlost : s.LostCallsFailed)
    (hclose : s.FinishedClose e) (hstep : s.next e = some s') :
    s'.LostCallsFailed := by
  intro j r' hj hmarked
  rcases next_call hstep hj with ⟨r, hr, hcontinues⟩ | ⟨_, hbegins⟩
  · have hsettled : s.Settled r := by
      rcases hcontinues.lost hmarked with hbefore | hback
      · exact hlost j r hr hbefore
      · exact h.finished j r hr
          (hclose r.connection hback r (List.mem_of_getElem? hr) rfl)
    have hkept := hsettled.kept (next_settles hstep) (h.created hr)
    unfold Settled at hkept ⊢
    rw [hcontinues.future]
    exact hkept
  · rw [hbegins.fresh] at hmarked
    cases hmarked

/-!
# The close that loses calls
-/

theorem not_callsBack_sendDone {t tasks : ConnectionTasks}
    (h : t.next .sendDone = some tasks) : callsBack t tasks = false := by
  simp only [ConnectionTasks.next, Option.ite_none_right_eq_some] at h
  rw [← Option.some.inj h.2]
  simp [callsBack]

theorem perform_marks {s s' : RequestCalls} {k : Nat} {te : TaskEvent}
    {c : OpenedConnection} {tasks : ConnectionTasks}
    (h : s.perform k te = some s') (hc : s.connections[k]? = some c)
    (htasks : c.tasks.next te = some tasks)
    (hback : callsBack c.tasks tasks = true) {j : Nat} {r : RequestCall}
    (hr : s.calls[j]? = some r) (hk : r.connection = k) :
    s'.calls[j]? = some { r with lost := true } := by
  rcases perform_eq_some h with ⟨c', tasks', hc', htasks', heq⟩
  rw [hc] at hc'
  injection hc' with hc'
  subst hc'
  rw [htasks] at htasks'
  injection htasks' with htasks'
  subst htasks'
  rw [heq]
  simp [hback, hr, markLost, hk]

theorem next_marks {s s' : RequestCalls} {e : CallEvent} {k : Nat}
    (hstep : s.next e = some s') (hback : s.closing e = some k) {j : Nat}
    {r : RequestCall} (hr : s.calls[j]? = some r) (hk : r.connection = k) :
    s'.router = s.router ∧
      exists r', s'.calls[j]? = some r' ∧ r'.future = r.future ∧
        r'.lost = true := by
  rcases closing_eq_some.mp hback with
    ⟨te, c, tasks, hperforms, hc, htasks, hcalls⟩
  have hquiet : te ≠ .sendDone := by
    intro hte
    subst hte
    rw [not_callsBack_sendDone htasks] at hcalls
    cases hcalls
  cases e with
  | task k' te' =>
      injection hperforms with hpair
      injection hpair with hk' hte
      subst hk' hte
      simp only [next, Option.ite_none_left_eq_some] at hstep
      refine ⟨perform_router hstep.2, _,
        perform_marks hstep.2 hc htasks hcalls hr hk, rfl, rfl⟩
  | sendFailed i =>
      rcases Option.map_eq_some_iff.mp hperforms with ⟨q, hq, hpair⟩
      injection hpair with hk' hte
      subst hk' hte
      rcases Option.bind_eq_some_iff.mp hstep with ⟨q', hq', hrest⟩
      rw [hq] at hq'
      injection hq' with hq'
      subst hq'
      simp only [Option.ite_none_right_eq_some] at hrest
      rcases Option.map_eq_some_iff.mp hrest.2 with ⟨t, ht, heq⟩
      have hmarked := perform_marks ht hc htasks hcalls hr hk
      have hrouter := perform_router ht
      rw [← heq]
      refine ⟨hrouter, ?_⟩
      simp only [setPhase, List.getElem?_modify, hmarked]
      split
      · exact ⟨_, rfl, rfl, rfl⟩
      · exact ⟨_, rfl, rfl, rfl⟩
  | sent i =>
      rcases Option.map_eq_some_iff.mp hperforms with ⟨q, _, hpair⟩
      injection hpair with _ hte
      exact absurd hte.symm hquiet
  | cancel i =>
      rcases Option.map_eq_some_iff.mp hperforms with ⟨q, _, hpair⟩
      injection hpair with _ hte
      exact absurd hte.symm hquiet
  | establish | call | raised | timeout | giveUp | resume | route =>
      cases hperforms

theorem finishedClose_of_failed (h : s.Accounted) (hstep : s.next e = some s')
    (hlost : s'.LostCallsFailed) : s.FinishedClose e := by
  intro k hback r hmem hk
  rcases List.mem_iff_getElem?.mp hmem with ⟨j, hr⟩
  rcases next_marks hstep hback hr hk with
    ⟨hrouter, r', hr', hfuture, hmarked⟩
  have hsettled := hlost j r' hr' hmarked
  apply h.finished_of_settled hr
  unfold Settled Unregistered isPending at hsettled ⊢
  rw [hrouter, hfuture] at hsettled
  exact hsettled

/-- A request that is under way when its connection is closed. -/
def closedUnderRequest : List CallEvent :=
  [.establish true, .task 0 .connect, .task 0 .connected,
    .task 0 (.setState .authenticated), .call .request, .sent 0,
    .task 0 .close, .task 0 (.closed 0)]

/--
The request that waits when its connection is closed goes on waiting, and its
future stays registered.
-/
theorem closed_under_request_waits :
    ¬ (forall (labels : List CallEvent) (s : RequestCalls),
        Run Step {} labels s -> s.LostCallsFailed) := by
  intro hall
  have hfinal : (closedUnderRequest.foldlM next {}).map
      (fun s => (s.calls.map RequestCall.lost, s.isPending 0,
        s.calls.map RequestCall.future)) = some ([true], true, [0]) := by
    decide
  rcases Option.map_eq_some_iff.mp hfinal with ⟨s, hrun, hshape⟩
  have hfailed := hall closedUnderRequest s (run_stepOf_iff.mpr hrun)
  simp only [Prod.mk.injEq] at hshape
  rcases hshape with ⟨hlost, hpending, hfuture⟩
  rcases List.map_eq_singleton_iff.mp hlost with ⟨r, hcalls, hr⟩
  rw [hcalls] at hfuture
  have hfuture : r.future = 0 := by simpa using hfuture
  have hsettled := (hfailed 0 r (by rw [hcalls]; rfl) hr).1
  rw [hfuture, hpending] at hsettled
  cases hsettled

/--
Along every run in which a connection calls back only when the server has
answered every request sent on it, or its caller has timed out and cancelled
it, and in which no call draws the stream id of another that is not finished or
that a timer may stop, the requests of every lost connection are done and
registered nowhere; and the next step keeps this exactly when it meets the
condition on the connection that calls back.
-/
theorem lost_requests_failed (labels : List CallEvent) (s : RequestCalls)
    (hrun : Run (Guarded Step Drained) {} labels s) :
    s.LostCallsFailed ∧
      forall e s', Step s e s' ->
        (s'.LostCallsFailed <-> s.FinishedClose e) := by
  have hstart : Accounted {} ∧ LostCallsFailed {} := by
    refine ⟨accounted_start, ?_⟩
    intro j r h
    cases h
  have hkeep : forall (t : RequestCalls) (e : CallEvent) (t' : RequestCalls),
      t.Accounted ∧ t.LostCallsFailed -> Guarded Step Drained t e t' ->
        t'.Accounted ∧ t'.LostCallsFailed := by
    intro t e t' hinv hstep
    exact ⟨accounted_next hinv.1 hstep.1.1 hstep.2,
      lostCallsFailed_next hinv.1 hinv.2 hstep.1.2 hstep.2⟩
  have hinv := hrun.invariant hkeep hstart
  refine ⟨hinv.2, ?_⟩
  intro e s' hstep
  constructor
  · exact finishedClose_of_failed hinv.1 hstep
  · intro hclose
    exact lostCallsFailed_next hinv.1 hinv.2 hclose hstep

def firstAnswer : Frame where
  header := { streamId := 1 }
  metadata := Value.nil
  body := []
  governanceBlock := none

/-- A connection on which one request is answered and one times out before it
is closed. -/
def drainedClose : List CallEvent :=
  [.establish true, .task 0 .connect, .task 0 .connected,
    .task 0 (.setState .authenticated), .call .request, .sent 0,
    .route firstAnswer, .resume 0, .call .request, .sent 1, .timeout 1,
    .giveUp 1, .task 0 .close, .task 0 (.closed 0)]

/-- Both requests of the lost connection have failed or were answered. -/
theorem lost_requests_failed_drained :
    exists s : RequestCalls, s.calls.map RequestCall.lost = [true, true] ∧
      s.LostCallsFailed ∧
        forall e s', Step s e s' ->
          (s'.LostCallsFailed <-> s.FinishedClose e) := by
  have hfinal : (drainedClose.foldlM
      (fun s e => if Drained s e then next s e else none) {}).map
        (fun s => s.calls.map RequestCall.lost) = some [true, true] := by
    decide
  rcases Option.map_eq_some_iff.mp hfinal with ⟨s, hrun, hlost⟩
  exact ⟨s, hlost, lost_requests_failed drainedClose s
    (run_guarded_iff.mpr hrun)⟩

end RequestCalls

end Client
end Hmmp
