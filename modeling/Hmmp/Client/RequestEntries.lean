import Hmmp.Client.RequestCalls

/-!
# Entries and futures of request calls

A step settles futures and takes entries out of the table.  The only entry it
makes is that of a call it begins, under the stream id that the call has drawn.
-/

namespace Hmmp
namespace Client

open Foundation
open Wire
open Connection

/-- Entries and pending futures of the later router are those of the earlier
one, as far as the futures existed. -/
structure Settles (r r' : FrameRouter) : Prop where
  grows : r.futures.length <= r'.futures.length
  no_entry : forall x id, id < r.futures.length ->
    r'.pendingRequests.get? x = some id -> r.pendingRequests.get? x = some id
  no_reset : forall id, id < r.futures.length ->
    r'.future id = some FutureState.pending ->
      r.future id = some FutureState.pending

namespace Settles

theorem refl (r : FrameRouter) : Settles r r where
  grows := Nat.le_refl _
  no_entry _ _ _ h := h
  no_reset _ _ h := h

theorem of_confined {ids : Nat -> Prop} {r r' : FrameRouter}
    (h : FrameRouter.Confined ids r r') : Settles r r' where
  grows := h.grows
  no_entry := h.no_entry
  no_reset := h.no_reset

theorem of_settle (r : FrameRouter) (id : FutureId) (outcome : FutureState) :
    Settles r (r.settle id outcome) where
  grows := Nat.le_of_eq (r.settle_futures_length id outcome).symm
  no_entry x other _ hentry := by
    rw [FrameRouter.settle_pendingRequests] at hentry
    exact hentry
  no_reset _ _ hpending := r.settle_not_reset hpending

theorem of_finish (r : FrameRouter) (streamId : Nat) (outcome : FutureState) :
    Settles r (r.finish streamId outcome) :=
  of_confined (FrameRouter.finish_confined r streamId outcome)

end Settles

namespace RequestCalls

theorem next_settles {s s' : RequestCalls} {e : CallEvent}
    (h : s.next e = some s') : Settles s.router s'.router := by
  cases next_routerStep h with
  | same _ hrouter =>
      rw [hrouter]
      exact Settles.refl _
  | draw _ _ _ _ hrouter =>
      rw [hrouter]
      exact Settles.of_confined (FrameRouter.registerRequest_confined ..)
  | settle _ _ _ _ hrouter =>
      rw [hrouter]
      exact Settles.of_settle ..
  | giveUp _ _ _ _ hrouter =>
      rw [hrouter]
      exact Settles.of_finish ..
  | answer _ _ _ hrouter =>
      rw [hrouter]
      exact Settles.of_finish ..

theorem isPending_iff {s : RequestCalls} {future : FutureId} :
    s.isPending future = true <->
      s.router.future future = some FutureState.pending := by
  unfold isPending
  split
  · rename_i hpending
    simp [hpending]
  · rename_i hother
    constructor
    · intro h
      cases h
    · intro h
      exact absurd h hother

/-!
# Calls and their futures
-/

/-- Call {lit}`j` owns future {lit}`j`, and entries stand under the stream ids
of their calls. -/
structure Indexed (s : RequestCalls) : Prop where
  length : s.router.futures.length = s.calls.length
  index : forall (j : Nat) (r : RequestCall), s.calls[j]? = some r ->
    r.future = j
  entries : forall x id, s.router.pendingRequests.get? x = some id ->
    exists r, s.calls[id]? = some r ∧ r.streamId = x

variable {s s' : RequestCalls} {e : CallEvent}

theorem Indexed.streamId_eq (h : s.Indexed) {x id : Nat}
    {r : RequestCall} (hentry : s.router.pendingRequests.get? x = some id)
    (hr : s.calls[id]? = some r) : x = r.streamId := by
  rcases h.entries x id hentry with ⟨q, hq, hx⟩
  rw [hr] at hq
  injection hq with hq
  rw [hq, hx]

theorem Indexed.tableCreated (h : s.Indexed) : s.router.TableCreated := by
  intro x id hentry
  rcases h.entries x id hentry with ⟨r, hr, _⟩
  rw [h.length]
  exact (List.getElem?_eq_some_iff.mp hr).1

theorem Indexed.created (h : s.Indexed) {j : Nat} {r : RequestCall}
    (hr : s.calls[j]? = some r) : r.future < s.router.futures.length := by
  rw [h.index j r hr, h.length]
  exact (List.getElem?_eq_some_iff.mp hr).1

theorem indexed_start : Indexed {} where
  length := rfl
  index j r h := by cases h
  entries x id h := by cases h

theorem next_futures_length (hstep : s.next e = some s')
    (hlength : s.router.futures.length = s.calls.length) :
    s'.router.futures.length = s'.calls.length := by
  rw [next_calls_length hstep, ← hlength]
  cases next_routerStep hstep with
  | same hcall hrouter =>
      rw [hrouter, begun_of_ne hcall]
      rfl
  | draw _ _ hevent _ hrouter =>
      rw [hrouter, hevent, FrameRouter.registerRequest_futures_length]
      rfl
  | settle _ _ hevent _ hrouter =>
      rw [hrouter, FrameRouter.settle_futures_length]
      rcases hevent with rfl | rfl <;> rfl
  | giveUp _ _ hevent _ hrouter =>
      rw [hrouter, hevent]
      exact FrameRouter.finish_futures_length ..
  | answer _ hevent _ hrouter =>
      rw [hrouter, hevent]
      exact FrameRouter.finish_futures_length ..

theorem begins_entry (hstep : s.next e = some s') {r' : RequestCall}
    (hbegins : Begins s e r') (x : Nat) :
    (s'.router.pendingRequests.get? x =
        if x = r'.streamId then some s.router.futures.length
        else s.router.pendingRequests.get? x) ∧
      s'.isPending s.router.futures.length = true := by
  have hrouter := next_router hstep
  rw [hbegins.event] at hrouter
  rcases Option.map_eq_some_iff.mp hrouter with ⟨c, hc, heq⟩
  rcases hbegins.sent with ⟨c', hc', hstream, _⟩
  rw [hc] at hc'
  injection hc' with hc'
  subst hc'
  rw [isPending_iff, ← heq, hstream]
  exact ⟨FrameRouter.registerRequest_pending ..,
    FrameRouter.registerRequest_future_new ..⟩

/-- The only entry a step makes is that of the call it begins. -/
theorem next_entry (h : s.Indexed) (hstep : s.next e = some s') {x id : Nat}
    (hentry : s'.router.pendingRequests.get? x = some id) :
    s.router.pendingRequests.get? x = some id ∨
      (id = s.calls.length ∧ exists r', s'.calls[id]? = some r' ∧
        Begins s e r' ∧ r'.streamId = x) := by
  cases next_routerStep hstep with
  | same _ hrouter =>
      rw [hrouter] at hentry
      exact Or.inl hentry
  | draw kind _ hevent _ _ =>
      subst hevent
      rcases next_begins hstep with ⟨r', hnew, hbegins⟩
      rw [(begins_entry hstep hbegins x).1] at hentry
      split at hentry
      · rename_i hx
        injection hentry with hentry
        rw [← hentry, h.length]
        exact Or.inr ⟨rfl, r', hnew, hbegins, hx.symm⟩
      · exact Or.inl hentry
  | settle _ _ _ _ hrouter =>
      rw [hrouter, FrameRouter.settle_pendingRequests] at hentry
      exact Or.inl hentry
  | giveUp _ _ _ _ hrouter =>
      rw [hrouter] at hentry
      exact Or.inl (FrameRouter.finish_entry hentry).2
  | answer _ _ _ hrouter =>
      rw [hrouter] at hentry
      exact Or.inl (FrameRouter.finish_entry hentry).2

theorem giveUp_finish {i : Nat} {r : RequestCall}
    (hstep : s.next (.giveUp i) = some s') (hr : s.calls[i]? = some r) :
    s'.router = s.router.finish r.streamId .cancelled := by
  have hrouter := next_router hstep
  simp only [routerAfter, hr, Option.map_some] at hrouter
  exact (Option.some.inj hrouter).symm

theorem indexed_next (h : s.Indexed) (hstep : s.next e = some s') :
    s'.Indexed where
  length := next_futures_length hstep h.length
  index j r' hj := by
    rcases next_call hstep hj with ⟨r, hr, hcontinues⟩ | ⟨hnew, hbegins⟩
    · rw [hcontinues.future, h.index j r hr]
    · rw [hbegins.future, h.length, hnew]
  entries x id hentry := by
    rcases next_entry h hstep hentry with hbefore | ⟨_, r', hr', _, hx⟩
    · rcases h.entries x id hbefore with ⟨r, hr, hx⟩
      rcases next_continues hstep hr with ⟨r', hr', hcontinues⟩
      exact ⟨r', hr', hcontinues.streamId.trans hx⟩
    · exact ⟨r', hr', hx⟩

end RequestCalls

end Client
end Hmmp
