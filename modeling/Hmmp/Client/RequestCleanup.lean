import Hmmp.Client.RequestEntries

/-!
# Requests that end leave the table

A call takes its entry out of the table when its response is routed and when it
resumes after its timer has run out, and leaves it there when its send fails or
when it is cancelled.  Along the runs without these exits, and without stream
ids that are registered already or that belong to a request whose timer may
still run out, every call that has ended is out of the table.
-/

namespace Hmmp
namespace Client

open Foundation
open Wire
open Connection

namespace RequestCalls

/-!
# The law of one step
-/

def OwnFuture (s : RequestCalls) (e : CallEvent) (future : FutureId) : Prop :=
  (e = .call .request ∧ future = s.router.futures.length) ∨
    exists i r, subject e = some i ∧ s.calls[i]? = some r ∧
      r.kind = .request ∧ r.future = future

/-- No request that has ended is registered. -/
def EndedUnregistered (s : RequestCalls) : Prop :=
  forall (j : Nat) (r : RequestCall), s.calls[j]? = some r ->
    r.kind = .request -> r.phase.isEnded = true -> s.Unregistered r.future

/-- A step of a request leaves the entries of all other calls alone. -/
def OthersKept (s : RequestCalls) (e : CallEvent) (s' : RequestCalls) :
    Prop :=
  forall future, s.OwnFuture e future -> forall x other, other ≠ future ->
    (s'.router.pendingRequests.get? x = some other <->
      s.router.pendingRequests.get? x = some other)

def Tidy (s : RequestCalls) (e : CallEvent) (s' : RequestCalls) : Prop :=
  s'.EndedUnregistered ∧ s.OthersKept e s'

/-- A request that a timer may stop has the stream id. -/
def InUse (s : RequestCalls) (streamId : Nat) : Prop :=
  exists (i : Nat) (r : RequestCall), s.calls[i]? = some r ∧
    r.kind = .request ∧ r.phase.mayTimeOut = true ∧ r.streamId = streamId

/--
A call begins under a stream id that is not registered, a request begins on an
open stream, and no request ends by a failed send or by a cancellation while it
is registered.
-/
def Clean (s : RequestCalls) : CallEvent -> Prop
  | .call kind => forall c, s.connections[s.current]? = some c ->
      s.router.pendingRequests.get? (nextStreamId c.streamIdCounter) = none ∧
        (kind = .request -> c.tasks.life.writer = true)
  | .raised i => forall r, s.calls[i]? = some r -> r.kind = .request ->
      s.Unregistered r.future
  | .cancel i => forall r, s.calls[i]? = some r -> r.kind = .request ->
      s.Unregistered r.future
  | _ => True

/-- A clean step that draws no stream id in use. -/
def Orderly (s : RequestCalls) (e : CallEvent) : Prop :=
  s.Clean e ∧ forall kind, e = .call kind ->
    forall c, s.connections[s.current]? = some c ->
      ¬ s.InUse (nextStreamId c.streamIdCounter)

/-!
# Entries of requests
-/

/-- A request is registered only while it goes on, until it is answered or
stopped; the stream id of a request that a timer may stop is registered for no
other call. -/
structure CleanInv (s : RequestCalls) : Prop extends Indexed s where
  active : forall (j : Nat) (r : RequestCall) (x : Nat),
    s.calls[j]? = some r -> r.kind = .request ->
      s.router.pendingRequests.get? x = some j ->
        r.phase.isEnded = false ∧
          (s.isPending j = true ∨ r.phase = .expired)
  own : forall (j : Nat) (r : RequestCall) (id : FutureId),
    s.calls[j]? = some r -> r.kind = .request ->
      r.phase.mayTimeOut = true ->
        s.router.pendingRequests.get? r.streamId = some id -> id = j

theorem cleanInv_start : CleanInv {} where
  toIndexed := indexed_start
  active j r x h := by cases h
  own j r id h := by cases h

variable {s s' : RequestCalls} {e : CallEvent}

theorem finish_future_of_registered (h : s.Indexed) (y : Nat)
    (outcome : FutureState) {x id : Nat}
    (hentry : (s.router.finish y outcome).pendingRequests.get? x = some id) :
    (s.router.finish y outcome).future id = s.router.future id := by
  rcases FrameRouter.finish_entry hentry with ⟨hx, hbefore⟩
  apply FrameRouter.finish_future_of_ne
  intro hy
  rcases h.entries x id hbefore with ⟨r, hr, _⟩
  exact hx ((h.streamId_eq hbefore hr).trans (h.streamId_eq hy hr).symm)

theorem next_registered_future (h : s.Indexed) (hstep : s.next e = some s')
    {x id : Nat} (hid : id < s.router.futures.length)
    (hentry : s'.router.pendingRequests.get? x = some id)
    (htimer : e ≠ .timeout id) (hcancel : e ≠ .cancel id) :
    s'.router.future id = s.router.future id := by
  cases next_routerStep hstep with
  | same _ hrouter => rw [hrouter]
  | draw _ _ _ _ hrouter =>
      rw [hrouter]
      exact FrameRouter.registerRequest_future_old _ _ hid
  | settle i r hevent hr hrouter =>
      rw [hrouter, h.index i r hr]
      apply FrameRouter.settle_future_of_ne
      intro hsame
      subst hsame
      rcases hevent with hevent | hevent
      · exact htimer hevent
      · exact hcancel hevent
  | giveUp _ _ _ _ hrouter =>
      rw [hrouter] at hentry ⊢
      exact finish_future_of_registered h _ _ hentry
  | answer _ _ _ hrouter =>
      rw [hrouter] at hentry ⊢
      exact finish_future_of_registered h _ _ hentry

theorem giveUp_unregistered (h : s.Indexed) {j : Nat} {r : RequestCall}
    (hstep : s.next (.giveUp j) = some s') (hr : s.calls[j]? = some r)
    (x : Nat) : s'.router.pendingRequests.get? x ≠ some j := by
  intro hentry
  rw [giveUp_finish hstep hr] at hentry
  rcases FrameRouter.finish_entry hentry with ⟨hx, hbefore⟩
  exact hx (h.streamId_eq hbefore hr)

/-!
# The invariant of orderly runs
-/

theorem cleanInv_moves (h : s.CleanInv) (hclean : s.Clean e)
    (hstep : s.next e = some s') {j : Nat} {r r' : RequestCall} {x : Nat}
    (hr : s.calls[j]? = some r) (hj : s'.calls[j]? = some r')
    (hkind : r.kind = .request) (hsubject : subject e = some j)
    (hbefore : s.router.pendingRequests.get? x = some j)
    (hentry : s'.router.pendingRequests.get? x = some j) :
    r'.phase.isEnded = false ∧ (s'.isPending j = true ∨ r'.phase = .expired) := by
  have hready := next_ready hstep hsubject hr
  rcases h.active j r x hr hkind hbefore with ⟨_, hactive⟩
  have hid : j < s.router.futures.length := h.tableCreated x j hbefore
  rw [next_phase hstep hsubject hj]
  cases e with
  | sent i | sendFailed i =>
      have hsending : r.phase = .sending := hready
      have hpending : s.isPending j = true := by
        rcases hactive with hpending | hexpired
        · exact hpending
        · rw [hsending] at hexpired
          cases hexpired
      refine ⟨rfl, Or.inl ?_⟩
      rw [isPending_iff, next_registered_future h.toIndexed hstep hid hentry
        (by simp) (by simp)]
      exact isPending_iff.mp hpending
  | timeout i => exact ⟨rfl, Or.inr rfl⟩
  | giveUp i =>
      injection hsubject with hsubject
      subst hsubject
      exact absurd hentry (giveUp_unregistered h.toIndexed hstep hr x)
  | resume i =>
      rcases hready with ⟨hwaiting, hdone⟩
      rw [h.index j r hr] at hdone
      rcases hactive with hpending | hexpired
      · rw [hdone] at hpending
        cases hpending
      · rw [hwaiting] at hexpired
        cases hexpired
  | raised i | cancel i =>
      injection hsubject with hsubject
      subst hsubject
      have hfree := hclean r hr hkind x
      rw [h.index _ r hr] at hfree
      exact absurd hbefore hfree
  | establish | task | call | route => cases hsubject

theorem cleanInv_active (h : s.CleanInv) (hclean : s.Clean e)
    (hstep : s.next e = some s') {j : Nat} {r' : RequestCall} {x : Nat}
    (hj : s'.calls[j]? = some r') (hkind : r'.kind = .request)
    (hentry : s'.router.pendingRequests.get? x = some j) :
    r'.phase.isEnded = false ∧ (s'.isPending j = true ∨ r'.phase = .expired) := by
  rcases next_call hstep hj with ⟨r, hr, hcontinues⟩ | ⟨hnew, hbegins⟩
  · have hrkind : r.kind = .request := hcontinues.kind.symm.trans hkind
    have hid : j < s.router.futures.length := by
      rw [h.length]
      exact (List.getElem?_eq_some_iff.mp hr).1
    have hbefore := (next_settles hstep).no_entry x j hid hentry
    by_cases hsubject : subject e = some j
    · exact cleanInv_moves h hclean hstep hr hj hrkind hsubject hbefore hentry
    · have hphase : r'.phase = r.phase := by
        by_contra hmoved
        exact hsubject (hcontinues.phase hmoved)
      rcases h.active j r x hr hrkind hbefore with ⟨hgoes, hactive⟩
      rw [hphase]
      refine ⟨hgoes, hactive.imp_left fun hpending => ?_⟩
      rw [isPending_iff, next_registered_future h.toIndexed hstep hid hentry
        (fun he => hsubject (by rw [he]; rfl))
        (fun he => hsubject (by rw [he]; rfl))]
      exact isPending_iff.mp hpending
  · have hpending := (begins_entry hstep hbegins x).2
    rw [h.length, ← hnew] at hpending
    rcases hbegins.sent with ⟨c, hc, _, hphase⟩
    have hevent := hbegins.event
    subst hevent
    rw [hphase, if_pos ((hclean c hc).2 hkind)]
    exact ⟨rfl, Or.inl hpending⟩

theorem cleanInv_own (h : s.CleanInv) (hguard : s.Orderly e)
    (hstep : s.next e = some s') {j : Nat} {r' : RequestCall} {id : FutureId}
    (hj : s'.calls[j]? = some r') (hkind : r'.kind = .request)
    (hmay : r'.phase.mayTimeOut = true)
    (hentry : s'.router.pendingRequests.get? r'.streamId = some id) :
    id = j := by
  rcases next_call hstep hj with ⟨r, hr, hcontinues⟩ | ⟨hnew, hbegins⟩
  · have hrkind : r.kind = .request := hcontinues.kind.symm.trans hkind
    have hbefore := hcontinues.mayTimeOut hstep hr hj hmay
    rw [hcontinues.streamId] at hentry
    rcases next_entry h.toIndexed hstep hentry with
      hold | ⟨_, q, _, hbegins, hstream⟩
    · exact h.own j r id hr hrkind hbefore hold
    · -- a new call would have drawn the id of this one
      rcases hbegins.sent with ⟨c, hc, hdrawn, _⟩
      exact absurd ⟨j, r, hr, hrkind, hbefore, hstream.symm.trans hdrawn⟩
        (hguard.2 q.kind hbegins.event c hc)
  · rw [(begins_entry hstep hbegins _).1, if_pos rfl] at hentry
    injection hentry with hentry
    rw [← hentry, h.length, hnew]

theorem cleanInv_next (h : s.CleanInv) (hguard : s.Orderly e)
    (hstep : s.next e = some s') : s'.CleanInv where
  toIndexed := indexed_next h.toIndexed hstep
  active _ _ _ hj hkind hentry :=
    cleanInv_active h hguard.1 hstep hj hkind hentry
  own _ _ _ hj hkind hmay hentry :=
    cleanInv_own h hguard hstep hj hkind hmay hentry

theorem CleanInv.endedUnregistered (h : s.CleanInv) :
    s.EndedUnregistered := by
  intro j r hj hkind hended x hentry
  rw [h.index j r hj] at hentry
  rw [(h.active j r x hj hkind hentry).1] at hended
  cases hended

/-!
# Clean steps are the tidy ones
-/

theorem othersKept_next (h : s.CleanInv) (hclean : s.Clean e)
    (hstep : s.next e = some s') : s.OthersKept e s' := by
  intro future hown x other hother
  cases next_routerStep hstep with
  | same _ hrouter => rw [hrouter]
  | draw kind c hevent hc hrouter =>
      subst hevent
      rcases hown with ⟨_, hfuture⟩ | ⟨_, _, hsubject, _⟩
      · rw [hrouter, FrameRouter.registerRequest_pending]
        split
        · rename_i hx
          rw [hx, (hclean c hc).1, ← hfuture]
          simp [Ne.symm hother]
        · rfl
      · cases hsubject
  | settle _ _ _ _ hrouter =>
      rw [hrouter, FrameRouter.settle_pendingRequests]
  | giveUp i q hevent hq hrouter =>
      subst hevent
      rcases hown with ⟨he, _⟩ | ⟨_, r, hsubject, hr, hkind, hfuture⟩
      · cases he
      · injection hsubject with hsubject
        subst hsubject
        rw [hq] at hr
        injection hr with hr
        subst hr
        have hmay := mayTimeOut_of_giveUp hstep hq
        rw [hrouter, FrameRouter.finish_pending]
        split
        · rename_i hx
          refine iff_of_false (by simp) ?_
          intro hentry
          rw [hx] at hentry
          have hsame := h.own i q other hq hkind hmay hentry
          rw [← h.index i q hq, hfuture] at hsame
          exact hother hsame
        · rfl
  | answer frame hevent _ _ =>
      subst hevent
      rcases hown with ⟨he, _⟩ | ⟨_, _, hsubject, _⟩
      · cases he
      · cases hsubject

theorem unregistered_of_tidy_exit (hstep : s.next e = some s')
    (htidy : s'.EndedUnregistered) {i : Nat} {r : RequestCall}
    (hsubject : subject e = some i)
    (hphase : (phaseAfter e).isEnded = true)
    (hentries : s'.router.pendingRequests = s.router.pendingRequests)
    (hr : s.calls[i]? = some r) (hkind : r.kind = .request) :
    s.Unregistered r.future := by
  rcases next_continues hstep hr with ⟨r', hr', hcontinues⟩
  have hended := next_phase hstep hsubject hr'
  rw [← hended] at hphase
  have hafter := htidy i r' hr' (hcontinues.kind.trans hkind) hphase
  intro x hentry
  apply hafter x
  rw [hentries, hcontinues.future]
  exact hentry

theorem clean_of_tidy (h : s.CleanInv) (hstep : s.next e = some s')
    {future : FutureId} (hown : s.OwnFuture e future)
    (htidy : s.Tidy e s') : s.Clean e := by
  have hrouter := next_router hstep
  cases e with
  | call kind =>
      have hkind : kind = .request ∧ future = s.router.futures.length := by
        rcases hown with ⟨he, hfuture⟩ | ⟨i, r, hsubject, _⟩
        · injection he with hkind
          exact ⟨hkind, hfuture⟩
        · cases hsubject
      rcases next_begins hstep with ⟨r', hnew, hbegins⟩
      rcases hbegins.sent with ⟨c, hc, hstream, hphase⟩
      have hentry := (begins_entry hstep hbegins
        (nextStreamId c.streamIdCounter)).1
      rw [if_pos hstream.symm] at hentry
      intro c' hc'
      rw [hc] at hc'
      injection hc' with hc'
      subst hc'
      constructor
      · cases hused : s.router.pendingRequests.get?
            (nextStreamId c.streamIdCounter) with
        | none => rfl
        | some other =>
            have hcreated := h.tableCreated _ other hused
            have hne : other ≠ future := by
              rw [hkind.2]
              exact Nat.ne_of_lt hcreated
            have hkept := (htidy.2 future hown _ other hne).mpr hused
            rw [hentry] at hkept
            injection hkept with hkept
            exact absurd (hkept.symm.trans hkind.2.symm) hne
      · intro _
        by_contra hclosed
        rw [if_neg hclosed] at hphase
        have hkind' := hbegins.event
        injection hkind' with hkind'
        apply htidy.1 _ r' hnew (hkind'.symm.trans hkind.1)
          (by rw [hphase]; rfl) (nextStreamId c.streamIdCounter)
        rw [hentry, hbegins.future]
  | raised i =>
      intro r hr hkind
      exact unregistered_of_tidy_exit hstep htidy.1 rfl rfl
        (by rw [← Option.some.inj hrouter]) hr hkind
  | cancel i =>
      intro r hr hkind
      apply unregistered_of_tidy_exit hstep htidy.1 rfl rfl _ hr hkind
      rcases Option.map_eq_some_iff.mp hrouter with ⟨q, _, heq⟩
      rw [← heq]
      split
      · rw [FrameRouter.settle_pendingRequests]
      · rfl
  | establish | task | sent | sendFailed | timeout | giveUp | resume | route =>
      trivial

def cancelledRequest : List CallEvent :=
  [.establish true, .task 0 .connect, .task 0 .connected,
    .task 0 (.setState .authenticated), .call .request, .sent 0, .cancel 0]

/--
A caller that is cancelled while it waits leaves its entry in the table.
-/
theorem cancelled_request_stays_registered :
    ¬ (forall (labels : List CallEvent) (s : RequestCalls),
        Run Step {} labels s -> s.EndedUnregistered ∧
          forall e s', Step s e s' -> s.OthersKept e s') := by
  intro hall
  have hfinal : (cancelledRequest.foldlM next {}).map
      (fun s => (s.calls.map (fun r => (r.kind, r.phase, r.future)),
        s.router.pendingRequests.get? 1)) =
      some ([(.request, .ended .cancelled, 0)], some 0) := by
    decide
  rcases Option.map_eq_some_iff.mp hfinal with ⟨s, hrun, hshape⟩
  have hended := (hall cancelledRequest s (run_stepOf_iff.mpr hrun)).1
  simp only [Prod.mk.injEq] at hshape
  rcases List.map_eq_singleton_iff.mp hshape.1 with ⟨r, hcalls, hr⟩
  simp only [Prod.mk.injEq] at hr
  rcases hr with ⟨hkind, hphase, hfuture⟩
  apply hended 0 r (by rw [hcalls]; rfl) hkind (by rw [hphase]; rfl) 1
  rw [hfuture]
  exact hshape.2

/--
Along every orderly run no request that has ended is registered, and every
orderly step keeps this and, if it is a step of a request, the entries of all
other calls; and a step of a request that does so is clean.
-/
theorem ended_requests_unregistered (labels : List CallEvent)
    (s : RequestCalls) (hrun : Run (Guarded Step Orderly) {} labels s) :
    s.EndedUnregistered ∧
      forall e s', Step s e s' ->
        (s.Orderly e -> s.Tidy e s') ∧
          ((exists future, s.OwnFuture e future) ->
            s.Tidy e s' -> s.Clean e) := by
  have hkeep : forall (t : RequestCalls) (e : CallEvent) (t' : RequestCalls),
      t.CleanInv -> Guarded Step Orderly t e t' -> t'.CleanInv := by
    intro t e t' hinv hstep
    exact cleanInv_next hinv hstep.1 hstep.2
  have hinv : s.CleanInv := hrun.invariant hkeep cleanInv_start
  refine ⟨hinv.endedUnregistered, ?_⟩
  intro e s' hstep
  constructor
  · intro hguard
    exact ⟨(cleanInv_next hinv hguard hstep).endedUnregistered,
      othersKept_next hinv hguard.1 hstep⟩
  · rintro ⟨future, hown⟩ htidy
    exact clean_of_tidy hinv hstep hown htidy

/-- A request whose timer runs out and that resumes after it. -/
def timedOutRequest : List CallEvent :=
  [.establish true, .task 0 .connect, .task 0 .connected,
    .task 0 (.setState .authenticated), .call .request, .sent 0,
    .timeout 0, .giveUp 0]

def timedOut : RequestCalls :=
  { router := { futures := [.cancelled] }
    connections := [{
      tasks := { life :=
        { state := .authenticated, writer := true, connects := 1 } }
      streamIdCounter := 1 }]
    calls := [{
      kind := .request
      streamId := 1
      future := 0
      connection := 0
      phase := .ended .timedOut }] }

/-- A request that has timed out has left the table. -/
theorem ended_requests_unregistered_timeout :
    timedOut.EndedUnregistered ∧
      forall e s', Step timedOut e s' ->
        (timedOut.Orderly e -> timedOut.Tidy e s') ∧
          ((exists future, timedOut.OwnFuture e future) ->
            timedOut.Tidy e s' -> timedOut.Clean e) := by
  apply ended_requests_unregistered timedOutRequest
  have hquiet : forall (s : RequestCalls) (e : CallEvent),
      (forall kind, e ≠ .call kind) -> s.Clean e -> s.Orderly e := by
    intro s e hcall hclean
    exact ⟨hclean, fun kind he => absurd he (hcall kind)⟩
  refine Run.cons ⟨hquiet _ _ (by simp) trivial, rfl⟩
    (Run.cons ⟨hquiet _ _ (by simp) trivial, rfl⟩
    (Run.cons ⟨hquiet _ _ (by simp) trivial, rfl⟩
    (Run.cons ⟨hquiet _ _ (by simp) trivial, rfl⟩
    (Run.cons ⟨?_, rfl⟩
    (Run.cons ⟨hquiet _ _ (by simp) trivial, rfl⟩
    (Run.cons ⟨hquiet _ _ (by simp) trivial, rfl⟩
    (Run.single ⟨hquiet _ _ (by simp) trivial, rfl⟩)))))))
  constructor
  · intro c hc
    injection hc with hc
    subst hc
    exact ⟨rfl, fun _ => rfl⟩
  · rintro kind he c hc ⟨i, r, hr, _⟩
    cases hr

end RequestCalls

end Client
end Hmmp
