import Hmmp.Client.ClientTasks

/-!
# Uninterrupted calls

A call of {lit}`connect` or {lit}`disconnect` whose steps no other task
interrupts changes the client as the sequences of calls say.
-/

namespace Hmmp
namespace Client

open Connection
open Foundation

namespace ClientTasks

def calls (s : ClientTasks) : ConnectCalls :=
  { running := s.running, connections := s.connections }

/-- The steps of a call of {lit}`connect` in task {lit}`t`. -/
def connectSteps (t : Nat) : Outcome -> List ClientTaskEvent
  | .authenticated => [.connect, .wake t, .wake t]
  | .failed .tcp => [.connect, .fails t]
  | .failed _ => [.connect, .wake t, .fails t]

/-- A call of {lit}`connect` that is alone in its task, at one of its waits. -/
def connecting (s : ClientTasks) (c : CreatedConnection) (pc : TaskPc) :
    ClientTasks :=
  { s with
    running := true
    disconnected := false
    connections := s.connections ++ [c]
    tasks := s.tasks ++ [{ owner := .connect, pc := pc }] }

theorem connect_eq {s : ClientTasks} (hrunning : s.running = false) :
    s.connect = s.connecting .closed (.opening false s.connections.length) := by
  simp [connect, hrunning, start, establish, goTo, connecting,
    modify_concat_length]

theorem opened_connecting (s : ClientTasks) (pc : TaskPc) :
    (s.connecting .closed pc).opened s.tasks.length s.connections.length
        false = s.connecting .halfway (.handshaking false) := by
  simp [opened, setState, goTo, current, connecting, modify_concat_length,
    CreatedConnection.halfway]

theorem getTask_connecting (s : ClientTasks) (c : CreatedConnection)
    (pc : TaskPc) : (s.connecting c pc).tasks[s.tasks.length]? =
      some { owner := .connect, pc := pc } := by
  simp [connecting]

theorem fails_connecting {s : ClientTasks} {c : CreatedConnection}
    {pc : TaskPc} (hpc : pc = .opening false s.connections.length ∨
      pc = .handshaking false) :
    exists s', (s.connecting c pc).fails s.tasks.length
        { owner := .connect, pc := pc } = some s' ∧
      s'.calls = { running := true, connections := s.connections ++ [c] } := by
  rcases hpc with rfl | rfl
  · exact ⟨_, rfl, rfl⟩
  · exact ⟨_, rfl, rfl⟩

theorem wake_handshaking (autoReconnect : Bool) (s : ClientTasks) :
    exists s', (s.connecting .halfway (.handshaking false)).wake autoReconnect
        s.tasks.length { owner := .connect, pc := .handshaking false } =
          some s' ∧
      s'.calls =
        { running := true, connections := s.connections ++ [.ready] } := by
  refine ⟨_, if_pos ?_, ?_⟩
  · simp [connecting, current, CreatedConnection.halfway]
  · simp [calls, established, resume, goTo, start, setState, current,
      connecting, modify_concat_length, CreatedConnection.halfway,
      CreatedConnection.ready]

/-- A call of {lit}`connect` that no other task interrupts does what the
sequences of calls say. -/
theorem connect_uninterrupted (autoReconnect : Bool) (s : ClientTasks)
    (hrunning : s.running = false) (outcome : Outcome)
    (houtcome : forall stage retries,
      outcome ≠ .failed (.send stage retries)) :
    exists s', Run (Step autoReconnect) s
        (connectSteps s.tasks.length outcome) s' ∧
      s'.calls = (s.calls.connect autoReconnect outcome).2 := by
  have hcalls : s.calls.connect autoReconnect outcome =
      ConnectCalls.establish autoReconnect
        { s.calls with running := true } outcome :=
    ConnectCalls.connect_of_not_running hrunning outcome
  have hstart : Step autoReconnect s .connect
      (s.connecting .closed (.opening false s.connections.length)) := by
    rw [← connect_eq hrunning]
    rfl
  have hopened : Step autoReconnect
      (s.connecting .closed (.opening false s.connections.length))
      (.wake s.tasks.length)
      (s.connecting .halfway (.handshaking false)) := by
    refine Option.bind_eq_some_iff.mpr ⟨_, getTask_connecting .., ?_⟩
    rw [← opened_connecting s (.opening false s.connections.length)]
    rfl
  rw [hcalls]
  cases outcome with
  | authenticated =>
      rcases wake_handshaking autoReconnect s with ⟨s', hwake, hs'⟩
      refine ⟨s', Run.cons hstart (Run.cons hopened (Run.single ?_)), hs'⟩
      exact Option.bind_eq_some_iff.mpr ⟨_, getTask_connecting .., hwake⟩
  | failed failure =>
      cases failure with
      | tcp =>
          rcases fails_connecting (c := .closed) (Or.inl rfl) with
            ⟨s', hfails, hs'⟩
          refine ⟨s', Run.cons hstart (Run.single ?_), hs'⟩
          exact Option.bind_eq_some_iff.mpr ⟨_, getTask_connecting .., hfails⟩
      | exchange stage =>
          rcases fails_connecting (s := s) (c := .halfway) (Or.inr rfl) with
            ⟨s', hfails, hs'⟩
          refine ⟨s', Run.cons hstart (Run.cons hopened (Run.single ?_)), hs'⟩
          exact Option.bind_eq_some_iff.mpr ⟨_, getTask_connecting .., hfails⟩
      | send stage retries => exact absurd rfl (houtcome stage retries)

/-!
# Disconnecting
-/

/-- A call of {lit}`disconnect` of a client whose disconnected connections are
closed. -/
structure Disconnecting (s : ClientTasks) (t : Nat) (task : ClientTask) :
    Prop where
  mem : s.tasks[t]? = some task
  running : s.running = false
  owner : task.owner = .disconnect
  migrating : task.migrating = false
  closed : forall c, c ∈ s.connections ->
    c.state = ConnectionState.disconnected -> c = CreatedConnection.closed

theorem closeReturned_disconnecting {s : ClientTasks} {t : Nat}
    {task : ClientTask} (h : s.Disconnecting t task) :
    s.closeReturned t task = { s.goTo t .ended with disconnected := true } := by
  simp [closeReturned, h.migrating, h.owner]

theorem close_disconnecting (autoReconnect : Bool) {s : ClientTasks} {t : Nat}
    {task : ClientTask} (h : s.Disconnecting t task) :
    exists events s', Run (Step autoReconnect) (s.close t s.current task)
        events s' ∧ s'.calls = s.calls.disconnect := by
  have hreturned (hsame : s.connections.modify s.current
      (fun _ => CreatedConnection.closed) = s.connections) :
      (s.closeReturned t task).calls = s.calls.disconnect := by
    have hdisconnect : s.calls.disconnect =
        { running := false
          connections := s.connections.modify s.current
            fun _ => CreatedConnection.closed } := rfl
    rw [closeReturned_disconnecting h, hdisconnect, hsame, ← h.running]
    rfl
  unfold close
  cases hc : s.connections[s.current]? with
  | none =>
      refine ⟨[], _, Run.nil _, hreturned (List.modify_eq_self ?_)⟩
      exact List.getElem?_eq_none_iff.mp hc
  | some connection =>
      dsimp only
      split
      · rename_i hstate
        refine ⟨[], _, Run.nil _, hreturned (modify_of_fixed hc ?_)⟩
        exact (h.closed connection (List.mem_of_getElem? hc) hstate).symm
      · let waiting := (s.shut s.current ConnectionState.closing).goTo t
          (.closing s.current)
        let waiter : ClientTask := { task with pc := .closing s.current }
        have hwaiting : waiting.tasks[t]? = some waiter := by
          simp [waiting, waiter, goTo, shut, h.mem]
        have hclosed : waiting.closed autoReconnect t s.current waiter =
            { (waiting.shut s.current ConnectionState.disconnected).goTo t
              .ended with disconnected := true } := by
          have hrunning : (waiting.shut s.current
            ConnectionState.disconnected).running = false := h.running
          simp [closed, hrunning, closeReturned, waiter, h.migrating, h.owner]
        refine ⟨[.wake t], _, Run.single
          (Option.bind_eq_some_iff.mpr ⟨waiter, hwaiting, rfl⟩), ?_⟩
        rw [hclosed]
        simp [calls, ConnectCalls.disconnect, waiting, goTo, shut, current,
          List.modify_modify_eq, CreatedConnection.closed, h.running,
          Function.comp_def]

theorem Disconnecting.cancel {s : ClientTasks} {t r : Nat} {task : ClientTask}
    (h : s.Disconnecting t task) (hr : r ≠ t) (pc : TaskPc) :
    ((s.goTo t pc).goTo r .ended).Disconnecting t { task with pc := pc } where
  mem := by simp [goTo, hr, h.mem]
  running := h.running
  owner := h.owner
  migrating := h.migrating
  closed := h.closed

theorem live_eq_some {s : ClientTasks} {handle : Option Nat} {r : Nat}
    (h : s.live handle = some r) : handle = some r :=
  (Option.filter_eq_some_iff.mp h).1

theorem stopRead_disconnecting (autoReconnect : Bool) {s : ClientTasks}
    {t : Nat} {task : ClientTask} (h : s.Disconnecting t task)
    (hread : s.readTask ≠ some t) :
    exists events s', Run (Step autoReconnect) (s.stopRead t task) events s' ∧
      s'.calls = s.calls.disconnect := by
  unfold stopRead
  cases hr : s.live s.readTask with
  | none => exact close_disconnecting autoReconnect h
  | some r =>
      have hne : r ≠ t := by
        intro heq
        rw [heq] at hr
        exact hread (live_eq_some hr)
      have hcancelled := h.cancel hne .stoppingRead
      rcases close_disconnecting autoReconnect hcancelled with
        ⟨events, s', hrun, hcalls⟩
      refine ⟨.wake t :: events, s', Run.cons ?_ hrun, hcalls⟩
      exact Option.bind_eq_some_iff.mpr ⟨_, hcancelled.mem, rfl⟩

theorem stopHeartbeat_disconnecting (autoReconnect : Bool) {s : ClientTasks}
    {t : Nat} {task : ClientTask} (h : s.Disconnecting t task)
    (hread : s.readTask ≠ some t) (hheartbeat : s.heartbeatTask ≠ some t) :
    exists events s', Run (Step autoReconnect) (s.stopHeartbeat t task)
        events s' ∧ s'.calls = s.calls.disconnect := by
  unfold stopHeartbeat
  cases hr : s.live s.heartbeatTask with
  | none => exact stopRead_disconnecting autoReconnect h hread
  | some r =>
      have hne : r ≠ t := by
        intro heq
        rw [heq] at hr
        exact hheartbeat (live_eq_some hr)
      have hcancelled := h.cancel hne .stoppingHeartbeat
      rcases stopRead_disconnecting autoReconnect hcancelled hread with
        ⟨events, s', hrun, hcalls⟩
      refine ⟨.wake t :: events, s', Run.cons ?_ hrun, hcalls⟩
      exact Option.bind_eq_some_iff.mpr ⟨_, hcancelled.mem, rfl⟩

theorem disconnect_uninterrupted (autoReconnect : Bool) (s : ClientTasks)
    (hread : s.readTask ≠ some s.tasks.length)
    (hheartbeat : s.heartbeatTask ≠ some s.tasks.length)
    (hclosed : forall c, c ∈ s.connections ->
      c.state = ConnectionState.disconnected ->
        c = CreatedConnection.closed) :
    exists events s', Run (Step autoReconnect) s (.disconnect :: events) s' ∧
      s'.calls = s.calls.disconnect := by
  have hstarted : (start { s with running := false } .disconnect).Disconnecting
      s.tasks.length { owner := .disconnect } :=
    ⟨by simp [start], rfl, rfl, rfl, hclosed⟩
  rcases stopHeartbeat_disconnecting autoReconnect hstarted hread hheartbeat
    with ⟨events, s', hrun, hcalls⟩
  exact ⟨events, s', Run.cons rfl hrun, hcalls⟩

end ClientTasks

end Client
end Hmmp
