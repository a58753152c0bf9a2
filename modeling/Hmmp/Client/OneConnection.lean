import Hmmp.Client.TaskSteps

/-!
# One connection, one read loop, one heartbeat loop

Every careful step of a client keeps the invariant of its tasks, and so does
every careful run.
-/

namespace Hmmp
namespace Client

open Foundation

namespace ClientTasks

variable {s : ClientTasks} {t : Nat} {task : ClientTask} {pc : TaskPc}

/-!
# The steps
-/

theorem live_spec {handle : Option Nat} {r : Nat}
    (h : s.live handle = some r) :
    exists task, s.tasks[r]? = some task ∧ task.pc ≠ .ended := by
  have halive := (Option.filter_eq_some_iff.mp h).2
  rcases (Option.any_eq_true _ _).mp halive with ⟨task, htask, hpc⟩
  exact ⟨task, htask, of_decide_eq_true hpc⟩

theorem orderly_cancel {r : Nat} {handle : Option Nat} (h : s.Orderly)
    (ht : s.tasks[t]? = some task) (halive : task.pc ≠ .ended)
    (hmigrating : task.migrating = false) (hr : s.live handle = some r)
    (hpc : pc = .stoppingRead ∨ pc = .stoppingHeartbeat) :
    ((s.goTo t pc).goTo r .ended).Orderly := by
  have hmoved : (s.goTo t pc).Orderly := by
    refine orderly_goTo h ht ⟨halive, ?_, ?_, ?_, ?_, ?_, ?_⟩
    · rcases hpc with rfl | rfl <;> nofun
    · rcases hpc with rfl | rfl <;> rfl
    · unfold ClientTask.beats
      rcases hpc with rfl | rfl <;> cases task.owner <;> simp
    · simp [hmigrating]
    · rcases hpc with rfl | rfl <;> exact fun _ _ => rfl
    · rcases hpc with rfl | rfl <;> nofun
  rcases live_spec hr with ⟨other, hother, hlive⟩
  by_cases hrt : r = t
  · subst hrt
    refine orderly_goTo_ended hmoved (tasks_goTo_self ht) ?_
    rcases hpc with rfl | rfl <;> nofun
  · exact orderly_goTo_ended hmoved ((tasks_goTo_of_ne hrt).trans hother) hlive

theorem orderly_stopRead (h : s.Orderly) (ht : s.tasks[t]? = some task)
    (halive : task.pc ≠ .ended) (hmigrating : task.migrating = false)
    (hguard : (s.live s.readTask).isSome ∨ s.NoneOpening) :
    (s.stopRead t task).Orderly := by
  unfold stopRead
  cases hr : s.live s.readTask with
  | some r => exact orderly_cancel h ht halive hmigrating hr (Or.inl rfl)
  | none =>
      have hopening : s.NoneOpening := by
        simpa [hr] using hguard
      exact orderly_close h ht halive (fun _ => ⟨rfl, hopening⟩)
        (by simp [hmigrating])

theorem orderly_stopHeartbeat (h : s.Orderly) (ht : s.tasks[t]? = some task)
    (halive : task.pc ≠ .ended) (hmigrating : task.migrating = false)
    (hguard : (s.live s.heartbeatTask).isSome ∨
      (s.live s.readTask).isSome ∨ s.NoneOpening) :
    (s.stopHeartbeat t task).Orderly := by
  unfold stopHeartbeat
  cases hh : s.live s.heartbeatTask with
  | some r => exact orderly_cancel h ht halive hmigrating hh (Or.inr rfl)
  | none =>
      refine orderly_stopRead h ht halive hmigrating ?_
      simpa [hh] using hguard

theorem orderly_redirect {s' : ClientTasks} (h : s.Orderly)
    (ht : s.tasks[t]? = some task) (hstep : s.redirect t task = some s') :
    s'.Orderly := by
  have hok := h.ok task (List.mem_of_getElem? ht)
  unfold redirect at hstep
  split at hstep
  · rename_i c howner hpc
    rw [← Option.some.inj hstep]
    constructor
    · exact h.newest
    · exact h.connected
    · apply h.establishing.modify_at ht
      intro hestablishing
      cases hestablishing
    · apply h.readLoops.modify_at ht
      intro _
      simp [ClientTask.reads, howner, hpc]
    · apply h.heartbeatLoops.modify_at ht
      simp [ClientTask.beats, howner]
    · refine forall_mem_modify_at ht h.ok ⟨?_, ?_, ?_, ?_⟩
      · intro retry d hd
        cases hd
      · intro d hd
        refine ⟨(hok.readLoop d hd).1, ?_⟩
        intro hestablishing
        cases hestablishing
      · intro _
        exact ⟨⟨c, howner⟩, rfl⟩
      · intro hdisconnect
        rw [howner] at hdisconnect
        cases hdisconnect
    · intro hstopped
      have hquiet : s.Quiet := by
        rcases hstopped with hdisconnected | hclosing
        · exact h.quiet (Or.inl hdisconnected)
        · rcases exists_of_mem_modify hclosing with hold | ⟨old, -, -, d, hd⟩
          · exact h.quiet (Or.inr hold)
          · cases hd
      refine ⟨hquiet.1, hquiet.2.1, ?_⟩
      exact forall_mem_modify_at ht hquiet.2.2 rfl
  · cases hstep

theorem allows_heartbeat (howner : task.owner = .heartbeatLoop)
    (hbeats : task.beats = true) (hmigrating : task.migrating = false)
    (hpc : pc.establishing = false) : s.Allows task pc where
  alive := by
    intro hended
    simp [ClientTask.beats, howner, hended] at hbeats
  establishing := by simp [hpc]
  opening := by
    cases pc with
    | opening retry c => cases hpc
    | _ => rfl
  beats := fun _ => hbeats
  migrating := by simp [hmigrating]
  disconnect := by simp [howner]
  quiet := by simp [ClientTask.ClosesClient, howner]

theorem orderly_wake_loop {autoReconnect : Bool} {s' : ClientTasks}
    (h : s.Orderly) (ht : s.tasks[t]? = some task)
    (hpc : task.pc = .looping ∨ task.pc = .resting ∨
      exists c, task.pc = .sending c)
    (hstep : s.wake autoReconnect t task = some s') : s'.Orderly := by
  have hok := h.ok task (List.mem_of_getElem? ht)
  have halive : task.pc ≠ .ended := by
    rcases hpc with hpc | hpc | ⟨c, hpc⟩ <;> simp [hpc]
  have hmigrating : task.migrating = false := by
    apply hok.not_migrating
    rcases hpc with hpc | hpc | ⟨c, hpc⟩ <;> simp [hpc, TaskPc.migrates]
  have hended := orderly_goTo_ended h ht halive
  have hresumed := orderly_resume h ht halive hmigrating
  have hbeats (pc : TaskPc) (howner : task.owner = .heartbeatLoop)
      (hnext : pc.establishing = false) : (s.goTo t pc).Orderly := by
    refine orderly_goTo h ht (allows_heartbeat howner ?_ hmigrating hnext)
    rcases hpc with hpc | hpc | ⟨c, hpc⟩ <;>
      simp [ClientTask.beats, howner, hpc]
  unfold wake at hstep
  rcases hpc with hpc | hpc | ⟨c, hpc⟩
  · rw [hpc] at hstep
    cases howner : task.owner with
    | heartbeatLoop =>
        simp only [howner] at hstep
        split at hstep
        · rw [← Option.some.inj hstep]
          exact hbeats .resting howner rfl
        · rw [← Option.some.inj hstep]
          exact hended
    | _ =>
        simp only [howner] at hstep
        rw [howner] at hresumed
        rw [← Option.some.inj hstep]
        exact hresumed
  · rw [hpc] at hstep
    cases howner : task.owner with
    | heartbeatLoop =>
        simp only [howner] at hstep
        split at hstep
        · rw [← Option.some.inj hstep]
          exact hbeats (.sending s.current) howner rfl
        · rw [← Option.some.inj hstep]
          exact hended
    | _ => simp [howner] at hstep
  · rw [hpc] at hstep
    cases howner : task.owner with
    | heartbeatLoop =>
        simp only [howner] at hstep
        rw [← Option.some.inj hstep]
        exact hbeats .looping howner rfl
    | _ =>
        simp only [howner] at hstep
        rw [← Option.some.inj hstep]
        exact hended

theorem orderly_wake {autoReconnect : Bool} {s' : ClientTasks} (h : s.Orderly)
    (ht : s.tasks[t]? = some task)
    (hcareful : s.Careful autoReconnect (.wake t))
    (hstep : s.wake autoReconnect t task = some s') : s'.Orderly := by
  have hok := h.ok task (List.mem_of_getElem? ht)
  rcases hcareful task ht with ⟨hestablish, hhandshake, hheartbeat, hread⟩
  cases hpc : task.pc with
  | looping => exact orderly_wake_loop h ht (Or.inl hpc) hstep
  | resting => exact orderly_wake_loop h ht (Or.inr (Or.inl hpc)) hstep
  | sending c =>
      exact orderly_wake_loop h ht (Or.inr (Or.inr ⟨c, hpc⟩)) hstep
  | graceful =>
      have halive : task.pc ≠ .ended := by simp [hpc]
      rw [wake, hpc] at hstep
      rw [← Option.some.inj hstep]
      refine orderly_close h ht halive ?_ ?_
      · intro howner
        exact absurd howner (hok.owner_ne_disconnect halive
          (by simp [hpc, TaskPc.disconnects]))
      · intro _ hrunning hclosed
        apply (hestablish _).2
        cases hc : s.connections[s.current]? with
        | none => simp [establishes, hpc, hrunning, hc]
        | some c => simp [establishes, hpc, hrunning, hc, hclosed c hc]
  | closing c =>
      rw [wake, hpc] at hstep
      rw [← Option.some.inj hstep]
      apply orderly_closed h ht hpc
      intro hmigrating hrunning hauto
      apply (hestablish _).2
      simp [establishes, hpc, hmigrating, hrunning, hauto]
  | backoff =>
      have halive : task.pc ≠ .ended := by simp [hpc]
      have hguard := hestablish (by simp [establishes, hpc])
      rw [wake, hpc] at hstep
      rw [← Option.some.inj hstep]
      exact orderly_establish h ht
        (hok.owner_ne_disconnect halive (by simp [hpc, TaskPc.disconnects]))
        halive (fun _ => rfl) hguard.1 hguard.2
  | opening retry c =>
      rw [wake, hpc] at hstep
      rw [← Option.some.inj hstep]
      exact orderly_opened h ht hpc
  | handshaking retry =>
      have hguard := hhandshake (by simp [hpc, TaskPc.isHandshaking])
      rw [wake, hpc] at hstep
      simp only [Option.ite_none_right_eq_some] at hstep
      rcases hstep with ⟨hopen, hstep⟩
      rw [← Option.some.inj hstep]
      exact orderly_established h ht hpc hguard.1 hguard.2
        ((Option.any_eq_true _ _).mp hopen)
  | stoppingHeartbeat =>
      have hguard := hheartbeat hpc
      rw [wake, hpc] at hstep
      rw [← Option.some.inj hstep]
      exact orderly_stopRead h ht (by simp [hpc])
        (hok.not_migrating (by simp [hpc, TaskPc.migrates])) hguard
  | stoppingRead =>
      have hguard := hread hpc
      rw [wake, hpc] at hstep
      rw [← Option.some.inj hstep]
      have hmigrating := hok.not_migrating (by simp [hpc, TaskPc.migrates])
      exact orderly_close h ht (by simp [hpc]) (fun _ => ⟨rfl, hguard⟩)
        (by simp [hmigrating])
  | ended =>
      rw [wake, hpc] at hstep
      cases hstep

theorem orderly_fails {s' : ClientTasks} (h : s.Orderly)
    (ht : s.tasks[t]? = some task) (hstep : s.fails t task = some s') :
    s'.Orderly := by
  have hok := h.ok task (List.mem_of_getElem? ht)
  have hclose (c : Nat) (halive : task.pc ≠ .ended)
      (hdisconnects : task.pc.disconnects = false)
      (hmigrates : task.pc.migrates = false) :
      (s.close t c task).Orderly := by
    refine orderly_close h ht halive ?_ ?_
    · intro howner
      exact absurd howner (hok.owner_ne_disconnect halive hdisconnects)
    · simp [hok.not_migrating hmigrates]
  unfold fails at hstep
  cases hpc : task.pc with
  | resting =>
      rw [hpc] at hstep
      cases howner : task.owner with
      | readLoop c =>
          simp only [howner] at hstep
          rw [← Option.some.inj hstep]
          exact hclose c (by simp [hpc]) (by simp [hpc, TaskPc.disconnects])
            (by simp [hpc, TaskPc.migrates])
      | _ => simp [howner] at hstep
  | sending c =>
      rw [hpc] at hstep
      rw [← Option.some.inj hstep]
      exact hclose c (by simp [hpc]) (by simp [hpc, TaskPc.disconnects])
        (by simp [hpc, TaskPc.migrates])
  | opening retry c =>
      rw [hpc] at hstep
      rw [← Option.some.inj hstep]
      exact orderly_establishFailed h ht (by simp [hpc, TaskPc.establishing])
        (by simp [hpc, TaskPc.migrates])
  | handshaking retry =>
      rw [hpc] at hstep
      rw [← Option.some.inj hstep]
      exact orderly_establishFailed h ht (by simp [hpc, TaskPc.establishing])
        (by simp [hpc, TaskPc.migrates])
  | _ => simp [hpc] at hstep

theorem tasks_start_self {owner : TaskOwner} :
    (s.start owner).tasks[s.tasks.length]? = some { owner := owner } := by
  simp [start]

theorem orderly_request {s' : ClientTasks} (h : s.Orderly)
    (hstep : s.request = some s') : s'.Orderly := by
  unfold request at hstep
  rw [Option.ite_none_right_eq_some] at hstep
  rw [← Option.some.inj hstep.2]
  have hadded : (s.start .request).Orderly :=
    orderly_add h nofun nofun nofun
  refine orderly_goTo hadded tasks_start_self ⟨nofun, nofun, rfl, nofun,
    nofun, nofun, nofun⟩

theorem orderly_connect (h : s.Orderly)
    (hcareful : s.running = false -> s.CanEstablish ∧
      forall task, task ∈ s.tasks -> task.owner = .disconnect ->
        task.pc = .ended) : s.connect.Orderly := by
  unfold connect
  split
  · refine ⟨h.newest, h.connected, h.establishing, h.readLoops,
      h.heartbeatLoops, h.ok, ?_⟩
    rintro (hfalse | hclosing)
    · cases hfalse
    · exact h.quiet (Or.inr hclosing)
  · rename_i hrunning
    rw [Bool.not_eq_true] at hrunning
    rcases hcareful hrunning with ⟨hcan, hended⟩
    have hstarted : Orderly
        { s with running := true, disconnected := false } := by
      refine ⟨h.newest, h.connected, h.establishing, h.readLoops,
        h.heartbeatLoops, ?_, ?_⟩
      · intro task htask
        have hok := h.ok task htask
        refine ⟨hok.opening, hok.readLoop, hok.migrating, ?_⟩
        intro howner halive
        exact absurd (hended task htask howner) halive
      · rintro (hfalse | ⟨task, htask, howner, c, hclosing⟩)
        · cases hfalse
        · rw [hended task htask howner] at hclosing
          cases hclosing
    have hadded : (start { s with running := true, disconnected := false }
        .connect).Orderly := orderly_add hstarted nofun nofun nofun
    refine orderly_establish hadded tasks_start_self nofun nofun nofun rfl ?_
    refine ⟨?_, hcan.2⟩
    intro task htask
    rcases List.mem_append.mp htask with hold | hnew
    · exact hcan.1 task hold
    · rw [List.mem_singleton.mp hnew]
      rfl

theorem live_start {owner : TaskOwner} {handle : Option Nat}
    (h : (s.live handle).isSome) : ((s.start owner).live handle).isSome := by
  rcases Option.isSome_iff_exists.mp h with ⟨r, hr⟩
  rcases Option.filter_eq_some_iff.mp hr with ⟨rfl, hlive⟩
  rcases (Option.any_eq_true _ _).mp hlive with ⟨task, htask, hpc⟩
  have hlt := (List.getElem?_eq_some_iff.mp htask).1
  simp [live, start, List.getElem?_append_left hlt, htask,
    of_decide_eq_true hpc]

theorem orderly_disconnect (h : s.Orderly)
    (hcareful : (s.live s.heartbeatTask).isSome ∨
      (s.live s.readTask).isSome ∨ s.NoneOpening) :
    s.disconnect.Orderly := by
  have hstopped : Orderly { s with running := false } := by
    refine ⟨h.newest, h.connected, h.establishing, h.readLoops,
      h.heartbeatLoops, ?_, ?_⟩
    · intro task htask
      have hok := h.ok task htask
      refine ⟨hok.opening, hok.readLoop, hok.migrating, ?_⟩
      intro howner halive
      exact ⟨rfl, (hok.disconnect howner halive).2⟩
    · intro hstopped
      have hquiet := h.quiet hstopped
      exact ⟨rfl, hquiet.2⟩
  have hadded : (start { s with running := false } .disconnect).Orderly :=
    orderly_add hstopped nofun nofun fun _ => rfl
  refine orderly_stopHeartbeat hadded tasks_start_self nofun rfl ?_
  rcases hcareful with hheartbeat | hread | hopening
  · exact Or.inl (live_start hheartbeat)
  · exact Or.inr (Or.inl (live_start hread))
  · refine Or.inr (Or.inr ?_)
    intro task htask
    rcases List.mem_append.mp htask with hold | hnew
    · exact hopening task hold
    · rw [List.mem_singleton.mp hnew]
      rfl

theorem orderly_step {autoReconnect : Bool} {s s' : ClientTasks}
    {e : ClientTaskEvent} (h : s.Orderly)
    (hstep : Guarded (Step autoReconnect) (Careful autoReconnect) s e s') :
    s'.Orderly := by
  rcases hstep with ⟨hcareful, hnext⟩
  cases e with
  | connect =>
      rw [← Option.some.inj hnext]
      exact orderly_connect h hcareful
  | disconnect =>
      rw [← Option.some.inj hnext]
      exact orderly_disconnect h hcareful
  | request => exact orderly_request h hnext
  | redirect t =>
      rcases Option.bind_eq_some_iff.mp hnext with ⟨task, ht, hredirect⟩
      exact orderly_redirect h ht hredirect
  | wake t =>
      rcases Option.bind_eq_some_iff.mp hnext with ⟨task, ht, hwake⟩
      exact orderly_wake h ht hcareful hwake
  | fails t =>
      rcases Option.bind_eq_some_iff.mp hnext with ⟨task, ht, hfails⟩
      exact orderly_fails h ht hfails

/-!
# Careful runs
-/

/--
In every run whose steps are careful the client has at most one open stream,
one read loop and one heartbeat loop that sends again, and none of its streams
is open once {lit}`disconnect` has returned.
-/
theorem one_of_each (autoReconnect : Bool) (events : List ClientTaskEvent)
    (s : ClientTasks)
    (hrun : Run (Guarded (Step autoReconnect) (Careful autoReconnect)) {}
      events s) : s.OneOfEach := by
  have hkeep : forall (u : ClientTasks) (e : ClientTaskEvent)
      (u' : ClientTasks), u.Orderly ->
        Guarded (Step autoReconnect) (Careful autoReconnect) u e u' ->
          u'.Orderly := by
    intro u e u' horderly hstep
    exact orderly_step horderly hstep
  exact (hrun.invariant hkeep orderly_start).oneOfEach

/-- A redirect reaches a client that reconnects by itself: the migration closes
the connection, the close callback replaces it, and the migration connects once
more. -/
def redirectedRun : List ClientTaskEvent :=
  [.connect, .wake 0, .wake 0, .wake 1, .redirect 1, .wake 1, .wake 1, .wake 1,
    .wake 1, .wake 1, .wake 1]

theorem redirect_opens_two_streams :
    ¬ forall (autoReconnect : Bool) (events : List ClientTaskEvent)
      (s : ClientTasks),
      Run (Step autoReconnect) {} events s -> s.OneOfEach := by
  intro hall
  have hend : exists s, redirectedRun.foldlM (next true) {} = some s ∧
      s.connections[1]? = some CreatedConnection.ready ∧
      s.connections[2]? = some CreatedConnection.halfway :=
    ⟨_, rfl, rfl, rfl⟩
  rcases hend with ⟨s, hrun, hsecond, hthird⟩
  have hone := (hall true redirectedRun s
    (run_stepOf_iff.mpr hrun)).connections
  have hequal := hone 1 2 _ _ hsecond hthird rfl rfl
  cases hequal

/-- A connection is lost, the heartbeat loop notices it before the client has
reconnected, and in the end the client disconnects. -/
def reconnectedRun : List ClientTaskEvent :=
  [.connect, .wake 0, .wake 0, .wake 1, .wake 2, .fails 1, .wake 1, .wake 2,
    .wake 1, .wake 1, .wake 1, .wake 3, .wake 4, .disconnect, .wake 5, .wake 5,
    .wake 5]

theorem one_of_each_reconnected : OneOfEach
    { connections := [.closed, .closed]
      tasks := [
        { owner := .connect, pc := .ended },
        { owner := .readLoop 0, pc := .ended },
        { owner := .heartbeatLoop, pc := .ended },
        { owner := .readLoop 1, pc := .ended },
        { owner := .heartbeatLoop, pc := .ended },
        { owner := .disconnect, pc := .ended }]
      readTask := some 3
      heartbeatTask := some 4
      disconnected := true } :=
  one_of_each true reconnectedRun _ (run_guarded_iff.mpr rfl)

end ClientTasks

end Client
end Hmmp
