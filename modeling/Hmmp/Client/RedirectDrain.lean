import Mathlib.Tactic.Linarith
import Hmmp.Client.Redirect
import Hmmp.Models.SnapshotReading

/-!
# In-flight requests of a redirected connection

From the moment the read loop hands a redirect to the router until the
migration closes the connection, no frame is routed.  So a response that stands
behind the redirect is not delivered, however early it arrives.
-/

namespace Hmmp
namespace Client

open Foundation
open Wire
open Connection
open Models

namespace RedirectedClient

/-- The read loop takes a redirect from the front of what has arrived. -/
structure ReadsRedirect (lib : IpLib) (before after : RedirectedClient)
    (redirect : RedirectInfo) : Prop where
  step : Step lib before .read after
  phase : after.phase = .notifying redirect

/-- A request waits for the response under its stream id. -/
structure Awaits (s : RedirectedClient) (streamId : Nat)
    (future : FutureId) : Prop where
  entry : s.router.pendingRequests.get? streamId = some future
  pending : s.router.future future = some FutureState.pending

/--
Whenever the graceful sleep ends and the migration closes the connection, a
response of the request that arrived behind the redirect before the end of the
period has been delivered.
-/
def Drains (lib : IpLib) (after : RedirectedClient) (streamId : Nat)
    (future : FutureId) : Prop :=
  forall (labels : List RedirectEvent) (s s' : RedirectedClient)
    (redirect : RedirectInfo) (wakeAt : Rat) (i : Nat) (arrival : Arrival),
    Run (Step lib) after labels s -> s.phase = .sleeping redirect wakeAt ->
      s.connected = true -> Step lib s .wake s' ->
        s.arrived[i]? = some arrival -> after.routed <= i ->
          arrival.frame.streamId = streamId -> arrival.at_ < wakeAt ->
            s'.router.future future = some (.result arrival.frame)

/-- The future has not been given a response. -/
def Unanswered (future : FutureId) (s : RedirectedClient) : Prop :=
  future < s.router.futures.length ∧
    forall frame, s.router.future future ≠ some (.result frame)

variable {lib : IpLib}

/-!
# While the handler of the redirect runs
-/

def Busy (s : RedirectedClient) : Prop :=
  s.phase ≠ .reading

theorem next_busy {s s' : RedirectedClient} {e : RedirectEvent}
    (h : s.Busy) (hstep : s.next lib e = some s') :
    s'.Busy ∧ s'.routed = s.routed := by
  cases e with
  | read =>
      cases hphase : s.phase with
      | reading => exact absurd hphase h
      | notifying | sleeping | migrating | ended =>
          simp [next, hphase] at hstep
  | tick elapsed =>
      simp only [next, Option.ite_none_right_eq_some] at hstep
      rw [← Option.some.inj hstep.2]
      exact ⟨h, rfl⟩
  | arrive frame =>
      simp only [next, Option.ite_none_right_eq_some] at hstep
      rw [← Option.some.inj hstep.2]
      exact ⟨h, rfl⟩
  | handlersDone =>
      cases hphase : s.phase with
      | notifying redirect =>
          simp only [next, hphase] at hstep
          rw [← Option.some.inj hstep]
          exact ⟨by simp [Busy], rfl⟩
      | reading | sleeping | migrating | ended =>
          simp [next, hphase] at hstep
  | wake =>
      cases hphase : s.phase with
      | sleeping redirect wakeAt =>
          simp only [next, hphase, Option.ite_none_right_eq_some] at hstep
          rw [← Option.some.inj hstep.2]
          exact ⟨by simp [Busy, migrate], rfl⟩
      | reading | notifying | migrating | ended =>
          simp [next, hphase] at hstep
  | migrated =>
      cases hphase : s.phase with
      | migrating =>
          simp only [next, hphase] at hstep
          rw [← Option.some.inj hstep]
          exact ⟨by simp [Busy], rfl⟩
      | reading | notifying | sleeping | ended =>
          simp [next, hphase] at hstep
  | register | cancel | cancelRequest =>
      rw [← Option.some.inj hstep]
      exact ⟨h, rfl⟩
  | lose =>
      rw [← Option.some.inj hstep]
      refine ⟨?_, rfl⟩
      unfold Busy at h ⊢
      cases hphase : s.phase with
      | reading => exact absurd hphase h
      | notifying | sleeping | migrating | ended => simp

theorem Unanswered.of_cases {s s' : RedirectedClient} {future : FutureId}
    (h : s.Unanswered future)
    (hlength : s'.router.futures.length = s.router.futures.length)
    (hcases : s'.router.future future = s.router.future future ∨
      s'.router.future future = some FutureState.cancelled) :
    s'.Unanswered future := by
  rcases h with ⟨hcreated, hnone⟩
  refine ⟨?_, ?_⟩
  · rw [hlength]
    exact hcreated
  · intro frame hresult
    rcases hcases with hsame | hcancelled
    · exact hnone frame (hsame.symm.trans hresult)
    · cases hcancelled.symm.trans hresult

theorem next_unanswered {s s' : RedirectedClient} {e : RedirectEvent}
    {future : FutureId} (hbusy : s.Busy) (h : s.Unanswered future)
    (hstep : s.next lib e = some s') : s'.Unanswered future := by
  have hcreated := h.1
  have hnone := h.2
  cases e with
  | read =>
      cases hphase : s.phase with
      | reading => exact absurd hphase hbusy
      | notifying | sleeping | migrating | ended =>
          simp [next, hphase] at hstep
  | register streamId =>
      rw [← Option.some.inj hstep]
      refine ⟨?_, ?_⟩
      · rw [FrameRouter.registerRequest_futures_length]
        exact Nat.lt_succ_of_lt hcreated
      · intro frame
        rw [FrameRouter.registerRequest_future_old _ _ hcreated]
        exact hnone frame
  | cancel other =>
      rw [← Option.some.inj hstep]
      exact h.of_cases (FrameRouter.settle_futures_length ..)
        (s.router.settle_future_cases other future .cancelled)
  | cancelRequest streamId =>
      rw [← Option.some.inj hstep]
      exact h.of_cases (FrameRouter.finish_futures_length ..)
        (s.router.finish_future_cases streamId .cancelled future)
  | tick elapsed =>
      simp only [next, Option.ite_none_right_eq_some] at hstep
      rw [← Option.some.inj hstep.2]
      exact ⟨hcreated, hnone⟩
  | arrive frame =>
      simp only [next, Option.ite_none_right_eq_some] at hstep
      rw [← Option.some.inj hstep.2]
      exact ⟨hcreated, hnone⟩
  | handlersDone =>
      simp only [next] at hstep
      split at hstep
      · rw [← Option.some.inj hstep]
        exact ⟨hcreated, hnone⟩
      · cases hstep
  | wake =>
      simp only [next] at hstep
      split at hstep
      · simp only [Option.ite_none_right_eq_some] at hstep
        rw [← Option.some.inj hstep.2]
        exact ⟨hcreated, hnone⟩
      · cases hstep
  | migrated =>
      simp only [next] at hstep
      split at hstep
      · rw [← Option.some.inj hstep]
        exact ⟨hcreated, hnone⟩
      · cases hstep
  | lose =>
      rw [← Option.some.inj hstep]
      exact ⟨hcreated, hnone⟩

/-- Over a whole run nothing is routed and nothing is answered. -/
theorem run_unanswered {s s' : RedirectedClient}
    {labels : List RedirectEvent} {future : FutureId}
    (hrun : Run (Step lib) s labels s') (hbusy : s.Busy)
    (h : s.Unanswered future) :
    s'.Busy ∧ s'.routed = s.routed ∧ s'.Unanswered future := by
  have hkeep : forall (t : RedirectedClient) (e : RedirectEvent)
      (t' : RedirectedClient),
      (t.Busy ∧ t.routed = s.routed ∧ t.Unanswered future) ->
        Step lib t e t' -> t'.Busy ∧ t'.routed = s.routed ∧ t'.Unanswered future := by
    intro t e t' hinv hstep
    rcases hinv with ⟨hbusy, hrouted, hnone⟩
    rcases next_busy hbusy hstep with ⟨hbusy', hrouted'⟩
    exact ⟨hbusy', hrouted'.trans hrouted, next_unanswered hbusy hnone hstep⟩
  exact hrun.invariant hkeep ⟨hbusy, rfl, h⟩

/-!
# The redirect and a response behind it
-/

theorem redirects_of_globals (handlers : List HandlerId) :
    redirects (handlers.map HandlerCall.globalHandler) = false := by
  apply Bool.eq_false_iff.mpr
  intro h
  rcases List.mem_map.mp (List.contains_iff_mem.mp h) with ⟨handler, _, heq⟩
  cases heq

theorem phaseAfter_notifying {calls : List HandlerCall} {frame : Frame}
    {redirect : RedirectInfo}
    (h : phaseAfter lib calls frame = .notifying redirect) :
    redirects calls = true := by
  unfold phaseAfter at h
  cases hcalls : redirects calls with
  | true => rfl
  | false => simp [hcalls] at h

theorem ReadsRedirect.spec {before after : RedirectedClient}
    {redirect : RedirectInfo} (h : ReadsRedirect lib before after redirect) :
    after.router = before.router ∧ after.connected = true ∧
      after.arrived = before.arrived ∧ after.routed <= after.arrived.length ∧
        after.clock = before.clock := by
  rcases h with ⟨hstep, hphase⟩
  change before.next lib .read = some after at hstep
  simp only [next] at hstep
  split at hstep
  · simp only [Option.ite_none_right_eq_some] at hstep
    rcases hstep with ⟨hconnected, hread⟩
    rcases Option.map_eq_some_iff.mp hread with ⟨arrival, harrival, heq⟩
    have hlt := (List.getElem?_eq_some_iff.mp harrival).1
    unfold readNext at heq
    cases hroute : before.router.routeFrame arrival.frame with
    | error e =>
        rw [hroute] at heq
        rw [← heq] at hphase
        cases hphase
    | ok routed =>
        rcases routed with ⟨calls, router⟩
        rw [hroute] at heq
        rw [← heq] at hphase
        have hredirects := phaseAfter_notifying hphase
        rw [← heq]
        refine ⟨?_, hconnected, rfl, hlt, rfl⟩
        by_cases hzero : arrival.frame.streamId = 0
        · exact FrameRouter.routeFrame_of_notification hzero hroute
        · rw [FrameRouter.routeFrame_of_stream _ hzero] at hroute
          injection hroute with hpair
          injection hpair with hcalls _
          rw [← hcalls, redirects_of_globals] at hredirects
          cases hredirects
  · cases hstep

theorem ReadsRedirect.unanswered {before after : RedirectedClient}
    {redirect : RedirectInfo} (h : ReadsRedirect lib before after redirect)
    {streamId : Nat} {future : FutureId}
    (hawaits : before.Awaits streamId future) :
    after.Busy ∧ after.Unanswered future := by
  refine ⟨?_, ?_, ?_⟩
  · unfold Busy
    rw [h.phase]
    simp
  · rw [h.spec.1]
    exact FrameRouter.future_lt hawaits.pending
  · intro frame
    rw [h.spec.1, hawaits.pending]
    intro heq
    injection heq with heq
    cases heq

def responseFrame (streamId : Nat) : Frame :=
  { header := { streamId := streamId }
    metadata := .nil
    body := []
    governanceBlock := none }

/-- The response arrives at once, and the graceful period passes. -/
def promptResponse (streamId wait : Nat) : List RedirectEvent :=
  [.arrive (responseFrame streamId), .handlersDone, .tick wait]

/-- The state in which the migration is due, with a response behind the
redirect. -/
def due (after : RedirectedClient) (redirect : RedirectInfo)
    (streamId : Nat) : RedirectedClient :=
  { after with
    clock := after.clock + redirect.gracefulWaitMs
    arrived := after.arrived ++
      [{ frame := responseFrame streamId, at_ := after.clock }]
    phase := .sleeping redirect (after.clock + redirect.gracefulWaitMs) }

theorem run_due {before after : RedirectedClient} {redirect : RedirectInfo}
    (h : ReadsRedirect lib before after redirect) (streamId : Nat) :
    Run (Step lib) after (promptResponse streamId redirect.gracefulWaitMs)
      (after.due redirect streamId) := by
  have hwait : (0 : Rat) <= (redirect.gracefulWaitMs : Rat) := by
    exact_mod_cast Nat.zero_le _
  let told : RedirectedClient :=
    { after with
      arrived := after.arrived ++
        [{ frame := responseFrame streamId, at_ := after.clock }] }
  let asleep : RedirectedClient :=
    { told with
      phase := .sleeping redirect (after.clock + redirect.gracefulWaitMs) }
  have harrive : Step lib after (.arrive (responseFrame streamId)) told := by
    show after.next lib _ = some _
    simp [next, h.spec.2.1, told]
  have hsleep : Step lib told .handlersDone asleep := by
    show told.next lib _ = some _
    simp [next, told, h.phase, asleep]
  have htick : Step lib asleep (.tick (redirect.gracefulWaitMs : Rat))
      (after.due redirect streamId) := by
    show asleep.next lib _ = some _
    simp [next, hwait, due, asleep, told]
  exact Run.cons harrive (Run.cons hsleep (Run.single htick))

theorem wake_due (after : RedirectedClient) (redirect : RedirectInfo)
    (streamId : Nat) :
    Step lib (after.due redirect streamId) .wake
      ((after.due redirect streamId).migrate redirect) := by
  show next _ _ _ = some _
  simp [next, due]

theorem not_drains {before after : RedirectedClient}
    {redirect : RedirectInfo} (h : ReadsRedirect lib before after redirect)
    {streamId : Nat} {future : FutureId}
    (hawaits : before.Awaits streamId future)
    (hwait : 0 < redirect.gracefulWaitMs) :
    ¬ Drains lib after streamId future := by
  intro hdrains
  rcases h.unanswered hawaits with ⟨hbusy, hnone⟩
  have hrun := run_due h streamId
  have htime : after.clock < after.clock + (redirect.gracefulWaitMs : Rat) := by
    have hpos : (0 : Rat) < (redirect.gracefulWaitMs : Rat) := by
      exact_mod_cast hwait
    linarith
  have hdelivered := hdrains _ _ _ redirect _ after.arrived.length
    { frame := responseFrame streamId, at_ := after.clock } hrun rfl
    h.spec.2.1 (wake_due after redirect streamId) (by simp [due])
    h.spec.2.2.2.1 rfl htime
  exact (run_unanswered hrun hbusy hnone).2.2.2 _ hdelivered

/-!
# A redirect on the wire
-/

def redirectFrame : Frame :=
  { header := {}
    metadata := .map [(.str (text "body_type"), .int 5)]
    body := [0, 0, 0, 1, 1, 0x03, 0xE8, 4, 0x1F, 0x90, 127, 0, 0, 1]
    governanceBlock := none }

def redirectInfo : RedirectInfo :=
  { sequenceNumber := 1
    reason := 1
    gracefulWaitMs := 1000
    targetIp := text "127.0.0.1"
    targetPort := 8080 }

/-- A client with request 1 in flight, to which a redirect has been sent. -/
def redirected : RedirectedClient :=
  { arrived := [{ frame := redirectFrame, at_ := 0 }]
    router := (registerNotifyHandlers {}).registerRequest 1 |>.2 }

def afterRedirect : RedirectedClient :=
  { redirected with routed := 1, phase := .notifying redirectInfo }

theorem redirected_reads :
    ReadsRedirect plainIpLib redirected afterRedirect redirectInfo where
  step := rfl
  phase := rfl

theorem redirected_awaits : Awaits redirected 1 0 where
  entry := rfl
  pending := rfl

/--
A response that arrives together with the redirect is still unread when the
connection is closed a second later.
-/
theorem redirect_starves_response :
    ¬ (forall (lib : IpLib) (before after : RedirectedClient)
        (redirect : RedirectInfo) (streamId : Nat) (future : FutureId),
        ReadsRedirect lib before after redirect ->
        before.Awaits streamId future -> 0 < redirect.gracefulWaitMs ->
          Drains lib after streamId future) := by
  intro hall
  exact not_drains redirected_reads redirected_awaits (by decide)
    (hall plainIpLib redirected afterRedirect redirectInfo 1 0 redirected_reads
      redirected_awaits (by decide))

/--
Once the read loop has taken a redirect, no run gives a request that was
waiting a response and nothing behind the redirect is routed, so no request is
drained.
-/
theorem redirect_never_drains (lib : IpLib)
    (before after : RedirectedClient) (redirect : RedirectInfo)
    (streamId : Nat) (future : FutureId)
    (hredirect : ReadsRedirect lib before after redirect)
    (hawaits : before.Awaits streamId future)
    (hwait : 0 < redirect.gracefulWaitMs) :
    (forall (labels : List RedirectEvent) (s : RedirectedClient),
      Run (Step lib) after labels s -> s.routed = after.routed ∧
        forall frame, s.router.future future ≠ some (.result frame)) ∧
      ¬ Drains lib after streamId future := by
  refine ⟨?_, not_drains hredirect hawaits hwait⟩
  intro labels s hrun
  rcases hredirect.unanswered hawaits with ⟨hbusy, hnone⟩
  rcases run_unanswered hrun hbusy hnone with ⟨_, hrouted, hnone'⟩
  exact ⟨hrouted, hnone'.2⟩

/-- The redirect of one second. -/
theorem redirect_never_drains_second :
    (forall (labels : List RedirectEvent) (s : RedirectedClient),
      Run (Step plainIpLib) afterRedirect labels s ->
        s.routed = afterRedirect.routed ∧
          forall frame, s.router.future 0 ≠ some (.result frame)) ∧
      ¬ Drains plainIpLib afterRedirect 1 0 :=
  redirect_never_drains plainIpLib redirected afterRedirect redirectInfo 1 0
    redirected_reads redirected_awaits (by decide)

end RedirectedClient

end Client
end Hmmp
