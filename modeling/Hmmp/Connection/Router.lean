import Hmmp.Foundation.Dict
import Hmmp.Wire.Frame

/-!
# Frame router

The table of pending requests and the futures their callers wait on.  A future
is identified by its place among the futures the router has created; its state
changes once at most.
-/

namespace Hmmp
namespace Connection

open Foundation
open Wire

/-- The state of a future. -/
inductive FutureState where
  | pending
  | result (frame : Frame)
  | exception (e : PyError)
  | cancelled

abbrev FutureId := Nat

/-- A registered handler, known by a number. -/
abbrev HandlerId := Nat

/-- A handler the router has awaited, with an exception of it ignored. -/
inductive HandlerCall where
  | globalHandler (handler : HandlerId)
  | notifyHandler (handler : HandlerId)
  deriving DecidableEq

structure FrameRouter where
  pendingRequests : Dict Nat FutureId := Dict.empty
  notifyHandlers : Dict Int HandlerId := Dict.empty
  globalHandlers : List HandlerId := []
  futures : List FutureState := []

namespace FrameRouter

def future (r : FrameRouter) (id : FutureId) : Option FutureState :=
  r.futures[id]?

/-- Give a future its outcome, unless it is done already. -/
def settle (r : FrameRouter) (id : FutureId) (outcome : FutureState) :
    FrameRouter :=
  match r.future id with
  | some FutureState.pending => { r with futures := r.futures.set id outcome }
  | _ => r

/-- Create a future and register it under a stream id. -/
def registerRequest (r : FrameRouter) (streamId : Nat) :
    FutureId × FrameRouter :=
  (r.futures.length,
    { r with
      pendingRequests := r.pendingRequests.set streamId r.futures.length
      futures := r.futures ++ [FutureState.pending] })

/-- Take the future registered under a stream id out of the table and settle
it. -/
def finish (r : FrameRouter) (streamId : Nat) (outcome : FutureState) :
    FrameRouter :=
  match r.pendingRequests.get? streamId with
  | none => r
  | some id =>
      { r with pendingRequests := r.pendingRequests.pop streamId }.settle id
        outcome

def cancelRequest (r : FrameRouter) (streamId : Nat) : FrameRouter :=
  r.finish streamId FutureState.cancelled

def failAll (r : FrameRouter) (error : PyError) : FrameRouter :=
  r.pendingRequests.entries.foldl
    (fun acc entry => acc.settle entry.2 (FutureState.exception error))
    { r with pendingRequests := Dict.empty }

def registerNotifyHandler (r : FrameRouter) (opcode : OpCode)
    (handler : HandlerId) : FrameRouter :=
  { r with notifyHandlers := r.notifyHandlers.set opcode.code handler }

/-- The response branch of the routing of a frame. -/
def routeResponse (r : FrameRouter) (frame : Frame) : FrameRouter :=
  r.finish frame.streamId (FutureState.result frame)

/-- The handler of a server notification, if one is registered. -/
def notifyHandlerOf (r : FrameRouter) (frame : Frame) :
    Except PyError (List HandlerCall) := do
  let opcode ← frame.bodyType
  if opcode.truthy then
    let key ← opcode.intKey
    match key.bind r.notifyHandlers.get? with
    | some handler => pure [HandlerCall.notifyHandler handler]
    | none => pure []
  else pure []

/-- Route a frame: the handlers awaited, in order, and the router after it. -/
def routeFrame (r : FrameRouter) (frame : Frame) :
    Except PyError (List HandlerCall × FrameRouter) := do
  let globals := r.globalHandlers.map HandlerCall.globalHandler
  if frame.streamId = 0 then
    let notified ← r.notifyHandlerOf frame
    pure (globals ++ notified, r)
  else
    pure (globals, r.routeResponse frame)

/-!
# What the operations change
-/

theorem settle_pendingRequests (r : FrameRouter) (id : FutureId)
    (outcome : FutureState) :
    (r.settle id outcome).pendingRequests = r.pendingRequests := by
  unfold settle
  split <;> rfl

theorem settle_futures_length (r : FrameRouter) (id : FutureId)
    (outcome : FutureState) :
    (r.settle id outcome).futures.length = r.futures.length := by
  unfold settle
  split
  · exact List.length_set
  · rfl

theorem settle_future_of_ne (r : FrameRouter) {id other : FutureId}
    (outcome : FutureState) (h : other ≠ id) :
    (r.settle id outcome).future other = r.future other := by
  unfold settle
  split
  · exact List.getElem?_set_ne (Ne.symm h)
  · rfl

theorem future_lt {r : FrameRouter} {id : FutureId} {state : FutureState}
    (h : r.future id = some state) : id < r.futures.length :=
  (List.getElem?_eq_some_iff.mp h).1

theorem settle_future_of_pending {r : FrameRouter} {id : FutureId}
    (outcome : FutureState) (h : r.future id = some FutureState.pending) :
    (r.settle id outcome).future id = some outcome := by
  unfold settle
  rw [h]
  exact List.getElem?_set_self (future_lt h)

theorem registerRequest_pending (r : FrameRouter) (streamId x : Nat) :
    (r.registerRequest streamId).2.pendingRequests.get? x =
      if x = streamId then some r.futures.length
      else r.pendingRequests.get? x :=
  Dict.get?_set r.pendingRequests streamId x r.futures.length

theorem registerRequest_futures_length (r : FrameRouter) (streamId : Nat) :
    (r.registerRequest streamId).2.futures.length = r.futures.length + 1 := by
  simp [registerRequest]

theorem registerRequest_future_new (r : FrameRouter) (streamId : Nat) :
    (r.registerRequest streamId).2.future r.futures.length =
      some FutureState.pending := by
  simp [registerRequest, future]

theorem registerRequest_future_old (r : FrameRouter) (streamId : Nat)
    {id : FutureId} (h : id < r.futures.length) :
    (r.registerRequest streamId).2.future id = r.future id :=
  List.getElem?_append_left h

theorem registerRequest_future_cases (r : FrameRouter) (streamId : Nat)
    (id : FutureId) :
    (r.registerRequest streamId).2.future id = r.future id ∨
      (r.registerRequest streamId).2.future id =
        some FutureState.pending := by
  rcases Nat.lt_trichotomy id r.futures.length with hlt | heq | hgt
  · exact Or.inl (r.registerRequest_future_old streamId hlt)
  · rw [heq]
    exact Or.inr (r.registerRequest_future_new streamId)
  · left
    unfold future
    rw [List.getElem?_eq_none (Nat.le_of_lt hgt), List.getElem?_eq_none]
    rw [registerRequest_futures_length]
    exact hgt

theorem finish_pending (r : FrameRouter) (streamId : Nat)
    (outcome : FutureState) (x : Nat) :
    (r.finish streamId outcome).pendingRequests.get? x =
      if x = streamId then none else r.pendingRequests.get? x := by
  unfold finish
  split
  · rename_i hnone
    by_cases hx : x = streamId
    · rw [if_pos hx, hx, hnone]
    · rw [if_neg hx]
  · rw [settle_pendingRequests]
    exact Dict.get?_pop r.pendingRequests streamId x

theorem finish_entry {r : FrameRouter} {streamId : Nat}
    {outcome : FutureState} {x : Nat} {id : FutureId}
    (h : (r.finish streamId outcome).pendingRequests.get? x = some id) :
    x ≠ streamId ∧ r.pendingRequests.get? x = some id := by
  rw [finish_pending] at h
  split at h
  · cases h
  · rename_i hx
    exact ⟨hx, h⟩

theorem finish_futures_length (r : FrameRouter) (streamId : Nat)
    (outcome : FutureState) :
    (r.finish streamId outcome).futures.length = r.futures.length := by
  unfold finish
  split
  · rfl
  · rw [settle_futures_length]

theorem finish_future_of_ne (r : FrameRouter) {streamId : Nat}
    (outcome : FutureState) {id : FutureId}
    (h : r.pendingRequests.get? streamId ≠ some id) :
    (r.finish streamId outcome).future id = r.future id := by
  unfold finish
  split
  · rfl
  · rename_i owner howner
    rw [settle_future_of_ne]
    · rfl
    · intro heq
      subst heq
      exact h howner

theorem finish_future_of_registered {r : FrameRouter} {streamId : Nat}
    (outcome : FutureState) {id : FutureId}
    (hentry : r.pendingRequests.get? streamId = some id)
    (hpending : r.future id = some FutureState.pending) :
    (r.finish streamId outcome).future id = some outcome := by
  unfold finish
  rw [hentry]
  exact settle_future_of_pending outcome hpending

theorem settle_future_cases (r : FrameRouter) (id other : FutureId)
    (outcome : FutureState) :
    (r.settle id outcome).future other = r.future other ∨
      (r.settle id outcome).future other = some outcome := by
  by_cases hother : other = id
  · subst hother
    by_cases hpending : r.future other = some FutureState.pending
    · exact Or.inr (settle_future_of_pending outcome hpending)
    · left
      unfold settle
      split
      · rename_i hstate
        exact absurd hstate hpending
      · rfl
  · exact Or.inl (r.settle_future_of_ne outcome hother)

theorem finish_future_cases (r : FrameRouter) (streamId : Nat)
    (outcome : FutureState) (id : FutureId) :
    (r.finish streamId outcome).future id = r.future id ∨
      (r.finish streamId outcome).future id = some outcome := by
  unfold finish
  split
  · exact Or.inl rfl
  · exact settle_future_cases
      { r with pendingRequests := r.pendingRequests.pop streamId } _ id outcome

theorem routeFrame_of_stream (r : FrameRouter) {frame : Frame}
    (h : frame.streamId ≠ 0) :
    r.routeFrame frame =
      Except.ok (r.globalHandlers.map HandlerCall.globalHandler,
        r.routeResponse frame) := by
  unfold routeFrame
  rw [if_neg h]
  rfl

theorem routeFrame_of_notification {r r' : FrameRouter} {frame : Frame}
    {calls : List HandlerCall} (hzero : frame.streamId = 0)
    (h : r.routeFrame frame = .ok (calls, r')) : r' = r := by
  unfold routeFrame at h
  rw [if_pos hzero] at h
  rcases bind_eq_ok.mp h with ⟨notified, _, hpure⟩
  injection hpure with hpair
  injection hpair with _ hrouter
  exact hrouter.symm

theorem routeFrame_cases {r r' : FrameRouter} {frame : Frame}
    {calls : List HandlerCall} (h : r.routeFrame frame = .ok (calls, r')) :
    r' = r ∨ r' = r.finish frame.streamId (FutureState.result frame) := by
  by_cases hzero : frame.streamId = 0
  · exact Or.inl (routeFrame_of_notification hzero h)
  · rw [routeFrame_of_stream r hzero] at h
    injection h with hpair
    injection hpair with _ hrouter
    exact Or.inr hrouter.symm

/-- Every entry of the table is a future the router has created. -/
def TableCreated (r : FrameRouter) : Prop :=
  forall x id, r.pendingRequests.get? x = some id -> id < r.futures.length

theorem settle_created {r : FrameRouter} (id : FutureId)
    (outcome : FutureState) (h : r.TableCreated) :
    (r.settle id outcome).TableCreated := by
  intro x other hentry
  rw [settle_pendingRequests] at hentry
  rw [settle_futures_length]
  exact h x other hentry

/-!
# Confined changes

A change of the router that is confined to some stream ids touches no other
entry of the table and no future but those registered under these ids.
-/

/-- The futures of {lit}`r` are settled in {lit}`r'` only through the entries of
the given stream ids. -/
structure Confined (ids : Nat -> Prop) (r r' : FrameRouter) : Prop where
  entry : forall x, ¬ ids x ->
    r'.pendingRequests.get? x = r.pendingRequests.get? x
  future : forall id, id < r.futures.length ->
    (forall x, ids x -> r.pendingRequests.get? x ≠ some id) ->
      r'.future id = r.future id
  no_entry : forall x id, id < r.futures.length ->
    r'.pendingRequests.get? x = some id -> r.pendingRequests.get? x = some id
  no_reset : forall id, id < r.futures.length ->
    r'.future id = some FutureState.pending ->
      r.future id = some FutureState.pending
  grows : r.futures.length <= r'.futures.length
  created : r.TableCreated -> r'.TableCreated

namespace Confined

theorem refl (ids : Nat -> Prop) (r : FrameRouter) : Confined ids r r where
  entry _ _ := rfl
  future _ _ _ := rfl
  no_entry _ _ _ h := h
  no_reset _ _ h := h
  grows := Nat.le_refl _
  created h := h

theorem trans {ids : Nat -> Prop} {r r' r'' : FrameRouter}
    (h : Confined ids r r') (h' : Confined ids r' r'') :
    Confined ids r r'' where
  entry x hx := (h'.entry x hx).trans (h.entry x hx)
  future id hid hfree := by
    have hid' : id < r'.futures.length := Nat.lt_of_lt_of_le hid h.grows
    rw [h'.future id hid' ?_, h.future id hid hfree]
    intro x hx hentry
    exact hfree x hx (h.no_entry x id hid hentry)
  no_entry x id hid hentry :=
    h.no_entry x id hid
      (h'.no_entry x id (Nat.lt_of_lt_of_le hid h.grows) hentry)
  no_reset id hid hpending :=
    h.no_reset id hid
      (h'.no_reset id (Nat.lt_of_lt_of_le hid h.grows) hpending)
  grows := Nat.le_trans h.grows h'.grows
  created hcreated := h'.created (h.created hcreated)

theorem mono {ids ids' : Nat -> Prop} {r r' : FrameRouter}
    (hids : forall x, ids x -> ids' x) (h : Confined ids r r') :
    Confined ids' r r' where
  entry x hx := h.entry x fun hmem => hx (hids x hmem)
  future id hid hfree := h.future id hid fun x hx => hfree x (hids x hx)
  no_entry := h.no_entry
  no_reset := h.no_reset
  grows := h.grows
  created := h.created

end Confined

theorem settle_not_reset (r : FrameRouter) {id other : FutureId}
    {outcome : FutureState}
    (h : (r.settle id outcome).future other = some FutureState.pending) :
    r.future other = some FutureState.pending := by
  by_cases hother : other = id
  · subst hother
    unfold settle at h
    split at h
    · assumption
    · exact h
  · rw [settle_future_of_ne r outcome hother] at h
    exact h

theorem registerRequest_confined (r : FrameRouter) (streamId : Nat) :
    Confined (fun x => x = streamId) r (r.registerRequest streamId).2 where
  entry x hx := by
    rw [registerRequest_pending, if_neg hx]
  future id hid _ := r.registerRequest_future_old streamId hid
  no_entry x id hid hentry := by
    rw [registerRequest_pending] at hentry
    split at hentry
    · injection hentry with hentry
      exact absurd hentry (Nat.ne_of_gt hid)
    · exact hentry
  no_reset id hid hpending := by
    rw [r.registerRequest_future_old streamId hid] at hpending
    exact hpending
  grows := by
    rw [registerRequest_futures_length]
    exact Nat.le_succ _
  created hcreated x id hentry := by
    rw [registerRequest_pending] at hentry
    rw [registerRequest_futures_length]
    split at hentry
    · injection hentry with hentry
      exact Nat.lt_succ_of_le (Nat.le_of_eq hentry.symm)
    · exact Nat.lt_succ_of_lt (hcreated x id hentry)

theorem finish_confined (r : FrameRouter) (streamId : Nat)
    (outcome : FutureState) :
    Confined (fun x => x = streamId) r (r.finish streamId outcome) where
  entry x hx := by
    rw [finish_pending, if_neg hx]
  future id _ hfree := r.finish_future_of_ne outcome (hfree streamId rfl)
  no_entry x id _ hentry := (finish_entry hentry).2
  no_reset id _ hpending := by
    unfold finish at hpending
    split at hpending
    · exact hpending
    · exact settle_not_reset
        { r with pendingRequests := r.pendingRequests.pop streamId } hpending
  grows := Nat.le_of_eq (r.finish_futures_length streamId outcome).symm
  created hcreated x id hentry := by
    rw [finish_futures_length]
    exact hcreated x id (finish_entry hentry).2

end FrameRouter

end Connection
end Hmmp
