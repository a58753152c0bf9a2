import Hmmp.Client.Config
import Hmmp.Connection.ConnectionTasks

/-!
# Request calls between their await points

Every call that awaits a response registers a future under the next stream id
of the client's connection, sends its frame and waits.  Sending and waiting are
separate await points, and a call can end at each of them.  A timer cancels the
future of a waiting call; the call cancels its request when it resumes, and
other tasks run in between.  The router outlives the connections, each of which
counts its stream ids from the start.
-/

namespace Hmmp
namespace Client

open Foundation
open Wire
open Connection

/-- The functions that send a request and await its response. -/
inductive CallKind where
  | request
  | heartbeat
  | handshake
  deriving DecidableEq

/-- The check of the connection before a stream id is drawn. -/
def CallKind.allowed : CallKind -> ConnectionState -> Bool
  | .request, state => state == ConnectionState.authenticated
  | .heartbeat, state => state.isConnected
  | .handshake, _ => true

/-- How a call ends: with the outcome of its future, by a failed send, with a
timeout, or cancelled. -/
inductive CallEnd where
  | returned
  | raised
  | timedOut
  | cancelled
  deriving DecidableEq

/-- Where a call is: inside {lit}`send_frame`, inside the {lit}`close` of a
failed send, waiting on its future, stopped by its timer but not yet resumed,
or over. -/
inductive CallPhase where
  | sending
  | failing
  | waiting
  | expired
  | ended (how : CallEnd)
  deriving DecidableEq

def CallPhase.isEnded : CallPhase -> Bool
  | .ended _ => true
  | _ => false

/-- A timer may still stop the call, or has stopped it. -/
def CallPhase.mayTimeOut : CallPhase -> Bool
  | .sending => true
  | .waiting => true
  | .expired => true
  | _ => false

/-- A call, with a mark once a frame of its stream has been routed, and one
once its connection has called back that it is closed. -/
structure RequestCall where
  kind : CallKind
  streamId : Nat
  future : FutureId
  connection : Nat
  phase : CallPhase
  answered : Bool := false
  lost : Bool := false

/-- A connection the client has created; the last one is its current one. -/
structure OpenedConnection where
  tasks : ConnectionTasks := {}
  streamIdCounter : Nat := 0

structure RequestCalls where
  router : FrameRouter := {}
  connections : List OpenedConnection := []
  calls : List RequestCall := []

inductive CallEvent where
  | establish (autoReconnect : Bool)
  | task (k : Nat) (e : TaskEvent)
  | call (kind : CallKind)
  | sent (i : Nat)
  | sendFailed (i : Nat)
  | raised (i : Nat)
  | timeout (i : Nat)
  | giveUp (i : Nat)
  | resume (i : Nat)
  | cancel (i : Nat)
  | route (frame : Frame)

/-- The steps of a connection that its calls take. -/
def ofCalls : TaskEvent -> Bool
  | .startSend => true
  | .sendDone => true
  | .sendFailed => true
  | _ => false

namespace RequestCalls

def isPending (s : RequestCalls) (future : FutureId) : Bool :=
  match s.router.future future with
  | some FutureState.pending => true
  | _ => false

/-- No stream id is registered for the future. -/
def Unregistered (s : RequestCalls) (future : FutureId) : Prop :=
  forall x, s.router.pendingRequests.get? x ≠ some future

def current (s : RequestCalls) : Nat :=
  s.connections.length - 1

/-- The step calls the close callback of a connection. -/
def callsBack (before after : ConnectionTasks) : Bool :=
  decide (before.life.callbacks.length < after.life.callbacks.length)

def markLost (k : Nat) (r : RequestCall) : RequestCall :=
  if r.connection = k then { r with lost := true } else r

/-- The frame is a response on the stream of the call. -/
def answers (frame : Frame) (r : RequestCall) : Bool :=
  frame.streamId != 0 && r.streamId == frame.streamId

def markAnswered (frame : Frame) (r : RequestCall) : RequestCall :=
  { r with answered := r.answered || answers frame r }

/-- A step of a connection; its calls are lost when it calls back. -/
def perform (s : RequestCalls) (k : Nat) (e : TaskEvent) :
    Option RequestCalls := do
  let c ← s.connections[k]?
  let tasks ← c.tasks.next e
  some { s with
    connections := s.connections.set k { c with tasks := tasks }
    calls :=
      if callsBack c.tasks tasks then s.calls.map (markLost k) else s.calls }

def setPhase (s : RequestCalls) (i : Nat) (phase : CallPhase) : RequestCalls :=
  { s with calls := s.calls.modify i fun r => { r with phase := phase } }

/-- Draw a stream id, register a future and enter {lit}`send_frame`, which
raises at once when there is no stream. -/
def send (s : RequestCalls) (c : OpenedConnection) (kind : CallKind) :
    RequestCalls :=
  let streamId := nextStreamId c.streamIdCounter
  let (future, router) := s.router.registerRequest streamId
  let (tasks, phase) :=
    match c.tasks.next .startSend with
    | some tasks => (tasks, CallPhase.sending)
    | none => (c.tasks, CallPhase.ended .raised)
  { router := router
    connections := s.connections.set s.current
      { tasks := tasks, streamIdCounter := streamId }
    calls := s.calls ++
      [{ kind := kind
         streamId := streamId
         future := future
         connection := s.current
         phase := phase }] }

def next (s : RequestCalls) : CallEvent -> Option RequestCalls
  | .establish autoReconnect =>
      some { s with connections := s.connections ++
        [{ tasks := { autoReconnect := autoReconnect } }] }
  | .task k e => if ofCalls e then none else s.perform k e
  | .call kind => do
      let c ← s.connections[s.current]?
      if kind.allowed c.tasks.life.state then some (s.send c kind) else none
  | .sent i => do
      let r ← s.calls[i]?
      if r.phase = .sending then
        (s.perform r.connection .sendDone).map (setPhase · i .waiting)
      else none
  | .sendFailed i => do
      let r ← s.calls[i]?
      if r.phase = .sending then
        (s.perform r.connection .sendFailed).map (setPhase · i .failing)
      else none
  | .raised i => do
      let r ← s.calls[i]?
      if r.phase = .failing then some (s.setPhase i (.ended .raised)) else none
  -- the timer may run out before the caller resumes with an outcome
  | .timeout i => do
      let r ← s.calls[i]?
      if r.phase = .waiting then
        some (setPhase
          { s with router := s.router.settle r.future .cancelled } i .expired)
      else none
  | .giveUp i => do
      let r ← s.calls[i]?
      if r.phase = .expired then
        some (setPhase
          { s with router := s.router.cancelRequest r.streamId } i
          (.ended .timedOut))
      else none
  | .resume i => do
      let r ← s.calls[i]?
      if r.phase = .waiting ∧ s.isPending r.future = false then
        some (s.setPhase i (.ended .returned))
      else none
  | .cancel i => do
      let r ← s.calls[i]?
      match r.phase with
      | .sending =>
          (s.perform r.connection .sendDone).map
            (setPhase · i (.ended .cancelled))
      | .failing => some (s.setPhase i (.ended .cancelled))
      | .waiting =>
          some (setPhase
            { s with router := s.router.settle r.future .cancelled } i
            (.ended .cancelled))
      | .expired => some (s.setPhase i (.ended .cancelled))
      | .ended _ => none
  | .route frame =>
      match s.router.routeFrame frame with
      | .ok (_, router) =>
          some { s with
            router := router
            calls := s.calls.map (markAnswered frame) }
      | .error _ => none

/-- The steps of the calls, the connections and the router. -/
def Step : RequestCalls -> CallEvent -> RequestCalls -> Prop :=
  StepOf next

/-!
# What a step does to the calls
-/

/-- The call a step belongs to, if it has begun before. -/
def subject : CallEvent -> Option Nat
  | .sent i => some i
  | .sendFailed i => some i
  | .raised i => some i
  | .timeout i => some i
  | .giveUp i => some i
  | .resume i => some i
  | .cancel i => some i
  | _ => none

/-- The step of a connection that a step performs. -/
def performs (s : RequestCalls) : CallEvent -> Option (Nat × TaskEvent)
  | .task k e => some (k, e)
  | .sent i => (s.calls[i]?).map fun r => (r.connection, .sendDone)
  | .sendFailed i => (s.calls[i]?).map fun r => (r.connection, .sendFailed)
  | .cancel i => (s.calls[i]?).map fun r => (r.connection, .sendDone)
  | _ => none

/-- The connection a step makes call back. -/
def closing (s : RequestCalls) (e : CallEvent) : Option Nat := do
  let (k, te) ← s.performs e
  let c ← s.connections[k]?
  let tasks ← c.tasks.next te
  if callsBack c.tasks tasks then some k else none

def heard (r : RequestCall) : CallEvent -> Bool
  | .route frame => answers frame r
  | _ => false

def Ready (s : RequestCalls) (r : RequestCall) : CallEvent -> Prop
  | .sent _ => r.phase = .sending
  | .sendFailed _ => r.phase = .sending
  | .raised _ => r.phase = .failing
  | .timeout _ => r.phase = .waiting
  | .giveUp _ => r.phase = .expired
  | .resume _ => r.phase = .waiting ∧ s.isPending r.future = false
  | .cancel _ => r.phase.isEnded = false
  | _ => False

def phaseAfter : CallEvent -> CallPhase
  | .sent _ => .waiting
  | .sendFailed _ => .failing
  | .raised _ => .ended .raised
  | .timeout _ => .expired
  | .giveUp _ => .ended .timedOut
  | .cancel _ => .ended .cancelled
  | _ => .ended .returned

def routerAfter (s : RequestCalls) : CallEvent -> Option FrameRouter
  | .call _ => (s.connections[s.current]?).map fun c =>
      (s.router.registerRequest (nextStreamId c.streamIdCounter)).2
  | .timeout i =>
      (s.calls[i]?).map fun r => s.router.settle r.future .cancelled
  | .giveUp i =>
      (s.calls[i]?).map fun r => s.router.cancelRequest r.streamId
  | .cancel i => (s.calls[i]?).map fun r =>
      if r.phase = .waiting then s.router.settle r.future .cancelled
      else s.router
  | .route frame =>
      match s.router.routeFrame frame with
      | .ok (_, router) => some router
      | .error _ => none
  | _ => some s.router

/-- The same call before and after a step. -/
structure Continues (s : RequestCalls) (e : CallEvent) (j : Nat)
    (r r' : RequestCall) : Prop where
  kind : r'.kind = r.kind
  streamId : r'.streamId = r.streamId
  future : r'.future = r.future
  connection : r'.connection = r.connection
  phase : r'.phase ≠ r.phase -> subject e = some j
  answered : r'.answered = (r.answered || heard r e)
  lost : r'.lost = true -> r.lost = true ∨ s.closing e = some r.connection

/-- A call that a step begins. -/
structure Begins (s : RequestCalls) (e : CallEvent) (r' : RequestCall) :
    Prop where
  event : e = .call r'.kind
  future : r'.future = s.router.futures.length
  unanswered : r'.answered = false
  fresh : r'.lost = false
  sent : exists c, s.connections[s.current]? = some c ∧
    r'.streamId = nextStreamId c.streamIdCounter ∧
    r'.phase = if c.tasks.life.writer then .sending else .ended .raised

theorem closing_eq_some {s : RequestCalls} {e : CallEvent} {k : Nat} :
    s.closing e = some k <->
      exists te c tasks, s.performs e = some (k, te) ∧
        s.connections[k]? = some c ∧ c.tasks.next te = some tasks ∧
          callsBack c.tasks tasks = true := by
  unfold closing
  constructor
  · intro h
    rcases Option.bind_eq_some_iff.mp h with ⟨⟨k', te⟩, hperforms, h⟩
    rcases Option.bind_eq_some_iff.mp h with ⟨c, hc, h⟩
    rcases Option.bind_eq_some_iff.mp h with ⟨tasks, htasks, h⟩
    rcases Option.ite_none_right_eq_some.mp h with ⟨hback, hk⟩
    injection hk with hk
    subst hk
    exact ⟨te, c, tasks, hperforms, hc, htasks, hback⟩
  · rintro ⟨te, c, tasks, hperforms, hc, htasks, hback⟩
    simp [hperforms, hc, htasks, hback]

theorem perform_eq_some {s s' : RequestCalls} {k : Nat} {e : TaskEvent}
    (h : s.perform k e = some s') :
    exists c tasks, s.connections[k]? = some c ∧
      c.tasks.next e = some tasks ∧
      s' = { s with
        connections := s.connections.set k { c with tasks := tasks }
        calls :=
          if callsBack c.tasks tasks then s.calls.map (markLost k)
          else s.calls } := by
  rcases Option.bind_eq_some_iff.mp h with ⟨c, hc, hrest⟩
  rcases Option.bind_eq_some_iff.mp hrest with ⟨tasks, htasks, heq⟩
  exact ⟨c, tasks, hc, htasks, (Option.some.inj heq).symm⟩

theorem perform_router {s s' : RequestCalls} {k : Nat} {e : TaskEvent}
    (h : s.perform k e = some s') : s'.router = s.router := by
  rcases perform_eq_some h with ⟨c, tasks, _, _, heq⟩
  rw [heq]

theorem perform_call {s s' : RequestCalls} {k : Nat} {te : TaskEvent}
    (h : s.perform k te = some s') {j : Nat} {r' : RequestCall}
    (hj : s'.calls[j]? = some r') :
    exists r, s.calls[j]? = some r ∧
      (r' = r ∨ (r' = { r with lost := true } ∧ r.connection = k ∧
        exists c tasks, s.connections[k]? = some c ∧
          c.tasks.next te = some tasks ∧
            callsBack c.tasks tasks = true)) := by
  rcases perform_eq_some h with ⟨c, tasks, hc, htasks, heq⟩
  subst heq
  cases hback : callsBack c.tasks tasks with
  | false =>
      rw [hback] at hj
      exact ⟨r', hj, Or.inl rfl⟩
  | true =>
      simp only [hback, if_true, List.getElem?_map,
        Option.map_eq_some_iff] at hj
      rcases hj with ⟨r, hr, hmark⟩
      refine ⟨r, hr, ?_⟩
      unfold markLost at hmark
      by_cases hk : r.connection = k
      · rw [if_pos hk] at hmark
        exact Or.inr ⟨hmark.symm, hk, c, tasks, hc, htasks, hback⟩
      · rw [if_neg hk] at hmark
        exact Or.inl hmark.symm

theorem setPhase_call {s : RequestCalls} {i j : Nat} {phase : CallPhase}
    {r' : RequestCall} (hj : (s.setPhase i phase).calls[j]? = some r') :
    exists r, s.calls[j]? = some r ∧
      r' = if i = j then { r with phase := phase } else r := by
  simp only [setPhase, List.getElem?_modify] at hj
  cases hr : s.calls[j]? with
  | none => simp [hr] at hj
  | some r =>
      refine ⟨r, rfl, ?_⟩
      by_cases hij : i = j
      · simpa [hr, hij, eq_comm] using hj
      · simpa [hr, hij, eq_comm] using hj

theorem Continues.refl (s : RequestCalls) {e : CallEvent} (j : Nat)
    {r : RequestCall} (hsilent : heard r e = false) :
    Continues s e j r r where
  kind := rfl
  streamId := rfl
  future := rfl
  connection := rfl
  phase h := absurd rfl h
  answered := by rw [hsilent, Bool.or_false]
  lost h := Or.inl h

theorem Continues.setPhase {s : RequestCalls} {e : CallEvent} {i j : Nat}
    {r r' : RequestCall} (h : Continues s e j r r')
    (hsubject : subject e = some i) (phase : CallPhase) :
    Continues s e j r (if i = j then { r' with phase := phase } else r') := by
  by_cases hij : i = j
  · rw [if_pos hij]
    exact {
      kind := h.kind
      streamId := h.streamId
      future := h.future
      connection := h.connection
      phase := by
        intro _
        rw [hsubject, hij]
      answered := h.answered
      lost := h.lost }
  · rw [if_neg hij]
    exact h

theorem heard_of_performs {s : RequestCalls} {e : CallEvent}
    {target : Nat × TaskEvent} (h : s.performs e = some target)
    (r : RequestCall) : heard r e = false := by
  cases e with
  | route frame => cases h
  | _ => rfl

theorem continues_of_perform {s s' : RequestCalls} {e : CallEvent} {k : Nat}
    {te : TaskEvent} (h : s.perform k te = some s')
    (hperforms : s.performs e = some (k, te)) {j : Nat} {r' : RequestCall}
    (hj : s'.calls[j]? = some r') :
    exists r, s.calls[j]? = some r ∧ Continues s e j r r' := by
  rcases perform_call h hj with
    ⟨r, hr, hsame | ⟨hlost, hk, c, tasks, hc, htasks, hback⟩⟩
  · rw [hsame]
    exact ⟨r, hr, Continues.refl s j (heard_of_performs hperforms r)⟩
  · rw [hlost]
    refine ⟨r, hr, rfl, rfl, rfl, rfl, ?_, ?_, ?_⟩
    · intro hphase
      exact absurd rfl hphase
    · rw [heard_of_performs hperforms r, Bool.or_false]
    · intro _
      rw [hk]
      exact Or.inr
        (closing_eq_some.mpr ⟨te, c, tasks, hperforms, hc, htasks, hback⟩)

theorem next_send {s s' : RequestCalls} {kind : CallKind}
    (h : s.next (.call kind) = some s') :
    exists c, s.connections[s.current]? = some c ∧
      kind.allowed c.tasks.life.state = true ∧ s' = s.send c kind := by
  rcases lookup_guarded_eq_some.mp h with ⟨c, hc, hallowed, hsent⟩
  exact ⟨c, hc, hallowed, (Option.some.inj hsent).symm⟩

theorem next_own {s s' : RequestCalls} {e : CallEvent} {i : Nat}
    (h : s.next e = some s') (hsubject : subject e = some i) :
    exists r t, s.calls[i]? = some r ∧ s.Ready r e ∧
      s' = t.setPhase i (phaseAfter e) ∧ s.routerAfter e = some t.router ∧
        (t.calls = s.calls ∨ exists te,
          s.performs e = some (r.connection, te) ∧
            s.perform r.connection te = some t) := by
  cases e with
  | sent _ | sendFailed _ =>
      injection hsubject with hsubject
      subst hsubject
      rcases lookup_guarded_eq_some.mp h with ⟨r, hr, hready, hmoved⟩
      rcases Option.map_eq_some_iff.mp hmoved with ⟨t, ht, heq⟩
      refine ⟨r, t, hr, hready, heq.symm, ?_,
        Or.inr ⟨_, by simp [performs, hr], ht⟩⟩
      rw [perform_router ht]
      rfl
  | raised _ | resume _ =>
      injection hsubject with hsubject
      subst hsubject
      rcases lookup_guarded_eq_some.mp h with ⟨r, hr, hready, hmoved⟩
      exact ⟨r, _, hr, hready, (Option.some.inj hmoved).symm, rfl,
        Or.inl rfl⟩
  | timeout _ | giveUp _ =>
      injection hsubject with hsubject
      subst hsubject
      rcases lookup_guarded_eq_some.mp h with ⟨r, hr, hready, hmoved⟩
      exact ⟨r, _, hr, hready, (Option.some.inj hmoved).symm,
        by simp [routerAfter, hr], Or.inl rfl⟩
  | cancel _ =>
      injection hsubject with hsubject
      subst hsubject
      rcases Option.bind_eq_some_iff.mp h with ⟨r, hr, hrest⟩
      cases hphase : r.phase with
      | sending =>
          simp only [hphase] at hrest
          rcases Option.map_eq_some_iff.mp hrest with ⟨t, ht, heq⟩
          refine ⟨r, t, hr, by simp [Ready, hphase, CallPhase.isEnded],
            heq.symm, ?_, Or.inr ⟨_, by simp [performs, hr], ht⟩⟩
          rw [perform_router ht]
          simp [routerAfter, hr, hphase]
      | failing | waiting | expired =>
          simp only [hphase] at hrest
          exact ⟨r, _, hr, by simp [Ready, hphase, CallPhase.isEnded],
            (Option.some.inj hrest).symm, by simp [routerAfter, hr, hphase],
            Or.inl rfl⟩
      | ended how => simp [hphase] at hrest
  | establish | task | call | route => cases hsubject

theorem heard_of_subject {e : CallEvent} {i : Nat} (h : subject e = some i)
    (r : RequestCall) : heard r e = false := by
  cases e with
  | route frame => cases h
  | _ => rfl

theorem continues_of_own {s s' : RequestCalls} {e : CallEvent} {i : Nat}
    (h : s.next e = some s') (hsubject : subject e = some i) {j : Nat}
    {r' : RequestCall} (hj : s'.calls[j]? = some r') :
    exists r, s.calls[j]? = some r ∧ Continues s e j r r' := by
  rcases next_own h hsubject with ⟨r₀, t, hr₀, -, rfl, -, hcalls⟩
  rcases setPhase_call hj with ⟨r₁, hr₁, heq⟩
  have hcontinues : exists r, s.calls[j]? = some r ∧ Continues s e j r r₁ := by
    rcases hcalls with hsame | ⟨te, hperforms, hperform⟩
    · rw [hsame] at hr₁
      exact ⟨r₁, hr₁, Continues.refl s j (heard_of_subject hsubject r₁)⟩
    · exact continues_of_perform hperform hperforms hr₁
  rcases hcontinues with ⟨r, hr, hcontinues⟩
  refine ⟨r, hr, ?_⟩
  rw [heq]
  exact hcontinues.setPhase hsubject (phaseAfter e)

theorem next_call {s s' : RequestCalls} {e : CallEvent}
    (h : s.next e = some s') {j : Nat} {r' : RequestCall}
    (hj : s'.calls[j]? = some r') :
    (exists r, s.calls[j]? = some r ∧ Continues s e j r r') ∨
      (j = s.calls.length ∧ Begins s e r') := by
  cases e with
  | establish autoReconnect =>
      rw [← Option.some.inj h] at hj
      exact Or.inl ⟨r', hj, Continues.refl s j rfl⟩
  | task k te =>
      simp only [next, Option.ite_none_left_eq_some] at h
      exact Or.inl (continues_of_perform h.2 rfl hj)
  | call kind =>
      rcases next_send h with ⟨c, hc, _, rfl⟩
      rcases Nat.lt_trichotomy j s.calls.length with hlt | heq | hgt
      · simp only [send, List.getElem?_append_left hlt] at hj
        exact Or.inl ⟨r', hj, Continues.refl s j rfl⟩
      · subst heq
        simp only [send, List.getElem?_concat_length,
          Option.some.injEq] at hj
        subst hj
        refine Or.inr ⟨rfl, rfl, rfl, rfl, rfl, c, hc, rfl, ?_⟩
        by_cases hwriter : c.tasks.life.writer = true <;>
          simp [ConnectionTasks.next, hwriter]
      · have hnone : (s.send c kind).calls[j]? = none := by
          apply List.getElem?_eq_none
          simp only [send, List.length_append, List.length_singleton]
          exact hgt
        rw [hnone] at hj
        cases hj
  | sent | sendFailed | raised | timeout | giveUp | resume | cancel =>
      exact Or.inl (continues_of_own h rfl hj)
  | route frame =>
      simp only [next] at h
      split at h
      · rw [← Option.some.inj h] at hj
        rcases Option.map_eq_some_iff.mp (List.getElem?_map ▸ hj) with
          ⟨r, hr, rfl⟩
        exact Or.inl ⟨r, hr, rfl, rfl, rfl, rfl, fun hphase =>
          absurd rfl hphase, rfl, Or.inl⟩
      · cases h

theorem perform_calls_length {s s' : RequestCalls} {k : Nat} {te : TaskEvent}
    (h : s.perform k te = some s') : s'.calls.length = s.calls.length := by
  rcases perform_eq_some h with ⟨c, tasks, _, _, heq⟩
  rw [heq]
  cases callsBack c.tasks tasks <;> simp

theorem setPhase_calls_length (s : RequestCalls) (i : Nat)
    (phase : CallPhase) :
    (s.setPhase i phase).calls.length = s.calls.length := by
  simp [setPhase]

theorem Ready.not_ended {s : RequestCalls} {r : RequestCall} {e : CallEvent}
    (h : s.Ready r e) : r.phase.isEnded = false := by
  cases e <;> simp_all [Ready, CallPhase.isEnded]

theorem setPhase_phase {s : RequestCalls} {i : Nat} {phase : CallPhase}
    {r' : RequestCall} (hi : (s.setPhase i phase).calls[i]? = some r') :
    r'.phase = phase := by
  rcases setPhase_call hi with ⟨r, _, heq⟩
  rw [heq, if_pos rfl]

theorem next_ready {s s' : RequestCalls} {e : CallEvent} {i : Nat}
    (h : s.next e = some s') (hsubject : subject e = some i)
    {r : RequestCall} (hr : s.calls[i]? = some r) : s.Ready r e := by
  rcases next_own h hsubject with ⟨q, t, hq, hready, -, -, -⟩
  rw [hr] at hq
  injection hq with hq
  rw [hq]
  exact hready

theorem mayTimeOut_of_giveUp {s s' : RequestCalls} {i : Nat}
    (h : s.next (.giveUp i) = some s') {r : RequestCall}
    (hr : s.calls[i]? = some r) : r.phase.mayTimeOut = true := by
  have hready : r.phase = .expired := next_ready h rfl hr
  rw [hready]
  rfl

theorem next_phase {s s' : RequestCalls} {e : CallEvent} {i : Nat}
    (h : s.next e = some s') (hsubject : subject e = some i)
    {r' : RequestCall} (hi : s'.calls[i]? = some r') :
    r'.phase = phaseAfter e := by
  rcases next_own h hsubject with ⟨r, t, -, -, rfl, -, -⟩
  exact setPhase_phase hi

theorem next_own_length {s s' : RequestCalls} {e : CallEvent} {i : Nat}
    (h : s.next e = some s') (hsubject : subject e = some i) :
    s'.calls.length = s.calls.length := by
  rcases next_own h hsubject with ⟨r, t, -, -, rfl, -, hcalls⟩
  rw [setPhase_calls_length]
  rcases hcalls with hsame | ⟨te, -, hperform⟩
  · rw [hsame]
  · exact perform_calls_length hperform

def begun : CallEvent -> Nat
  | .call _ => 1
  | _ => 0

theorem begun_of_ne {e : CallEvent} (h : forall kind, e ≠ .call kind) :
    begun e = 0 := by
  cases e with
  | call kind => exact absurd rfl (h kind)
  | _ => rfl

theorem next_calls_length {s s' : RequestCalls} {e : CallEvent}
    (h : s.next e = some s') :
    s'.calls.length = s.calls.length + begun e := by
  cases e with
  | establish autoReconnect =>
      rw [← Option.some.inj h]
      rfl
  | task k te =>
      simp only [next, Option.ite_none_left_eq_some] at h
      exact perform_calls_length h.2
  | call kind =>
      rcases next_send h with ⟨c, _, _, rfl⟩
      simp [send, begun]
  | sent | sendFailed | raised | timeout | giveUp | resume | cancel =>
      exact next_own_length h rfl
  | route frame =>
      simp only [next] at h
      split at h
      · rw [← Option.some.inj h]
        exact List.length_map _
      · cases h

theorem Continues.ended {s s' : RequestCalls} {e : CallEvent} {j : Nat}
    {r r' : RequestCall} (h : Continues s e j r r')
    (hstep : s.next e = some s') (hr : s.calls[j]? = some r)
    (hended : r.phase.isEnded = true) : r'.phase = r.phase := by
  by_contra hphase
  have hready := next_ready hstep (h.phase hphase) hr
  rw [hready.not_ended] at hended
  cases hended

/-- No step leads back to where a timer may stop the call. -/
theorem Continues.mayTimeOut {s s' : RequestCalls} {e : CallEvent} {j : Nat}
    {r r' : RequestCall} (h : Continues s e j r r')
    (hstep : s.next e = some s') (hr : s.calls[j]? = some r)
    (hj : s'.calls[j]? = some r') (hmay : r'.phase.mayTimeOut = true) :
    r.phase.mayTimeOut = true := by
  by_cases hphase : r'.phase = r.phase
  · rw [← hphase]
    exact hmay
  · have hsubject := h.phase hphase
    have hready := next_ready hstep hsubject hr
    rw [next_phase hstep hsubject hj] at hmay
    cases e with
    | sent _ =>
        rw [show r.phase = .sending from hready]
        rfl
    | timeout _ =>
        rw [show r.phase = .waiting from hready]
        rfl
    | sendFailed | raised | giveUp | resume | cancel => cases hmay
    | establish | task | call | route => cases hsubject

theorem next_begins {s s' : RequestCalls} {kind : CallKind}
    (h : s.next (.call kind) = some s') :
    exists r', s'.calls[s.calls.length]? = some r' ∧
      Begins s (.call kind) r' := by
  have hlt : s.calls.length < s'.calls.length := by
    rw [next_calls_length h]
    exact Nat.lt_succ_self _
  have hnew := List.getElem?_eq_getElem hlt
  rcases next_call h hnew with ⟨r, hr, _⟩ | ⟨_, hbegins⟩
  · rw [List.getElem?_eq_none (Nat.le_refl _)] at hr
    cases hr
  · exact ⟨_, hnew, hbegins⟩

theorem next_continues {s s' : RequestCalls} {e : CallEvent}
    (h : s.next e = some s') {j : Nat} {r : RequestCall}
    (hr : s.calls[j]? = some r) :
    exists r', s'.calls[j]? = some r' ∧ Continues s e j r r' := by
  have hlt : j < s.calls.length := (List.getElem?_eq_some_iff.mp hr).1
  have hlength : s.calls.length <= s'.calls.length := by
    rw [next_calls_length h]
    exact Nat.le_add_right _ _
  have hj : s'.calls[j]? = some s'.calls[j] :=
    List.getElem?_eq_getElem (Nat.lt_of_lt_of_le hlt hlength)
  rcases next_call h hj with ⟨q, hq, hcontinues⟩ | ⟨hnew, _⟩
  · rw [hr] at hq
    injection hq with hq
    rw [← hq] at hcontinues
    exact ⟨_, hj, hcontinues⟩
  · omega

/-!
# What a step does to the router
-/

theorem next_router {s s' : RequestCalls} {e : CallEvent}
    (h : s.next e = some s') : s.routerAfter e = some s'.router := by
  cases e with
  | establish autoReconnect =>
      rw [← Option.some.inj h]
      rfl
  | task k te =>
      simp only [next, Option.ite_none_left_eq_some] at h
      rw [perform_router h.2]
      rfl
  | call kind =>
      rcases next_send h with ⟨c, hc, _, rfl⟩
      simp [routerAfter, hc, send]
  | sent | sendFailed | raised | timeout | giveUp | resume | cancel =>
      rcases next_own h rfl with ⟨r, t, -, -, rfl, hrouter, -⟩
      exact hrouter
  | route frame =>
      simp only [next] at h
      split at h
      · rename_i calls router hroute
        rw [← Option.some.inj h]
        simp [routerAfter, hroute]
      · cases h

/-- A step registers a future, settles one, ends a stream id, or leaves the
router alone. -/
inductive RouterStep (s : RequestCalls) (e : CallEvent) (router : FrameRouter) :
    Prop where
  | same (hcall : forall kind, e ≠ .call kind) (hrouter : router = s.router)
  | draw (kind : CallKind) (c : OpenedConnection) (hevent : e = .call kind)
      (hc : s.connections[s.current]? = some c)
      (hrouter : router =
        (s.router.registerRequest (nextStreamId c.streamIdCounter)).2)
  | settle (i : Nat) (r : RequestCall)
      (hevent : e = .timeout i ∨ e = .cancel i) (hr : s.calls[i]? = some r)
      (hrouter : router = s.router.settle r.future .cancelled)
  | giveUp (i : Nat) (r : RequestCall) (hevent : e = .giveUp i)
      (hr : s.calls[i]? = some r)
      (hrouter : router = s.router.finish r.streamId .cancelled)
  | answer (frame : Frame) (hevent : e = .route frame)
      (hstream : frame.streamId ≠ 0)
      (hrouter : router =
        s.router.finish frame.streamId (FutureState.result frame))

theorem next_routerStep {s s' : RequestCalls} {e : CallEvent}
    (h : s.next e = some s') : RouterStep s e s'.router := by
  have hrouter := next_router h
  cases e with
  | call kind =>
      rcases Option.map_eq_some_iff.mp hrouter with ⟨c, hc, heq⟩
      exact .draw kind c rfl hc heq.symm
  | timeout i =>
      rcases Option.map_eq_some_iff.mp hrouter with ⟨r, hr, heq⟩
      exact .settle i r (Or.inl rfl) hr heq.symm
  | giveUp i =>
      rcases Option.map_eq_some_iff.mp hrouter with ⟨r, hr, heq⟩
      exact .giveUp i r rfl hr heq.symm
  | cancel i =>
      rcases Option.map_eq_some_iff.mp hrouter with ⟨r, hr, heq⟩
      by_cases hwaiting : r.phase = .waiting
      · rw [if_pos hwaiting] at heq
        exact .settle i r (Or.inr rfl) hr heq.symm
      · rw [if_neg hwaiting] at heq
        exact .same (by simp) heq.symm
  | route frame =>
      simp only [routerAfter] at hrouter
      split at hrouter
      · rename_i calls router hroute
        injection hrouter with hrouter
        rw [← hrouter]
        by_cases hzero : frame.streamId = 0
        · exact .same (by simp)
            (FrameRouter.routeFrame_of_notification hzero hroute)
        · rw [FrameRouter.routeFrame_of_stream s.router hzero] at hroute
          injection hroute with hpair
          injection hpair with _ hfinish
          exact .answer frame rfl hzero hfinish.symm
      · cases hrouter
  | establish | task | sent | sendFailed | raised | resume =>
      exact .same (by simp) (Option.some.inj hrouter).symm

end RequestCalls

end Client
end Hmmp
