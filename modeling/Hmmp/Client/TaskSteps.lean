import Hmmp.Client.TaskInvariant

/-!
# The ways of a task

Each piece of code that a task runs between two waits keeps the invariant, if
the task establishes a connection only where that is allowed.
-/

namespace Hmmp
namespace Client

open Connection
open Foundation

namespace ClientTasks

variable {s : ClientTasks} {t : Nat} {task : ClientTask} {pc : TaskPc}

/-!
# What a task does when its wait ends
-/

theorem allows_resting {c : Nat} (howner : task.owner = .readLoop c)
    (halive : task.pc ≠ .ended) (hmigrating : task.migrating = false) :
    s.Allows task .resting where
  alive := halive
  establishing := nofun
  opening := rfl
  beats := by simp [ClientTask.beats, howner]
  migrating := by simp [hmigrating]
  disconnect := by simp [howner]
  quiet := nofun

theorem orderly_resume (h : s.Orderly) (ht : s.tasks[t]? = some task)
    (halive : task.pc ≠ .ended) (hmigrating : task.migrating = false) :
    (s.resume t task.owner).Orderly := by
  unfold resume
  cases howner : task.owner with
  | readLoop c =>
      dsimp only
      split
      · exact orderly_goTo h ht (allows_resting howner halive hmigrating)
      · exact orderly_goTo_ended h ht halive
  | _ => exact orderly_goTo_ended h ht halive

theorem orderly_disconnected (h : s.Orderly) (hquiet : s.Quiet) :
    Orderly { s with disconnected := true } :=
  ⟨h.newest, h.connected, h.establishing, h.readLoops, h.heartbeatLoops, h.ok,
    fun _ => hquiet⟩

theorem orderly_closeReturned (h : s.Orderly) (ht : s.tasks[t]? = some task)
    (halive : task.pc ≠ .ended)
    (hquiet : task.owner = .disconnect -> s.Quiet)
    (hcan : task.migrating = true -> s.running = true -> s.CanEstablish) :
    (s.closeReturned t task).Orderly := by
  have hok := h.ok task (List.mem_of_getElem? ht)
  unfold closeReturned
  split
  · rename_i hmigrating
    have hmoved := orderly_endMigration (t := t) h
    have hself := tasks_endMigration_self ht
    split
    · rename_i hrunning
      refine orderly_establish hmoved hself ?_ halive nofun hrunning
        (canEstablish_endMigration (hcan hmigrating hrunning))
      rcases (hok.migrating hmigrating).1 with ⟨c, howner⟩
      simp [howner]
    · have hresumed := orderly_resume hmoved hself halive rfl
      exact hresumed
  · have hended := orderly_goTo_ended h ht halive
    cases howner : task.owner with
    | disconnect =>
        exact orderly_disconnected hended (quiet_goTo (hquiet howner) rfl)
    | _ => exact hended

theorem orderly_close {c : Nat} (h : s.Orderly)
    (ht : s.tasks[t]? = some task) (halive : task.pc ≠ .ended)
    (hdisconnect : task.owner = .disconnect ->
      c = s.current ∧ s.NoneOpening)
    (hcan : task.migrating = true -> s.running = true ->
      (forall connection, s.connections[c]? = some connection ->
        connection.state = ConnectionState.disconnected) -> s.CanEstablish) :
    (s.close t c task).Orderly := by
  have hok := h.ok task (List.mem_of_getElem? ht)
  have hreturned (hc : forall connection,
      s.connections[c]? = some connection ->
        connection.state = ConnectionState.disconnected) :
      (s.closeReturned t task).Orderly := by
    refine orderly_closeReturned h ht halive ?_
      fun hmigrating hrunning => hcan hmigrating hrunning hc
    intro howner
    rcases hdisconnect howner with ⟨rfl, hopening⟩
    refine ⟨(hok.disconnect howner halive).1, h.noneOpen ?_, hopening⟩
    intro connection hconnection
    rw [← h.connected connection (List.mem_of_getElem? hconnection),
      hc connection hconnection]
    rfl
  unfold close
  cases hc : s.connections[c]? with
  | none => exact hreturned (by simp [hc])
  | some connection =>
      dsimp only
      split
      · rename_i hstate
        exact hreturned (by simp [hc, hstate])
      · refine orderly_goTo (orderly_shut h rfl) ht ?_
        refine ⟨halive, nofun, rfl, ?_, fun _ => rfl, fun _ _ => rfl, ?_⟩
        · unfold ClientTask.beats
          cases task.owner <;> simp
        · rintro ⟨howner, -⟩
          rcases hdisconnect howner with ⟨rfl, hopening⟩
          refine ⟨(hok.disconnect howner halive).1, ?_, hopening⟩
          apply (orderly_shut h rfl).noneOpen
          intro other hother
          have hlength : (s.shut s.current
              ConnectionState.closing).current = s.current := by
            simp [shut, current]
          rw [hlength] at hother
          rcases getElem?_modify_cases hother with ⟨hne, -⟩ | ⟨-, _, -, rfl⟩
          · exact absurd rfl hne
          · rfl

theorem allows_backoff (halive : task.pc ≠ .ended)
    (howner : task.owner ≠ .disconnect) : s.Allows task .backoff where
  alive := halive
  establishing := nofun
  opening := rfl
  beats := by
    unfold ClientTask.beats
    cases task.owner <;> simp
  migrating := fun _ => rfl
  disconnect := fun h => absurd h howner
  quiet := nofun

theorem Orderly.owner_ne_disconnect (h : s.Orderly)
    (ht : s.tasks[t]? = some task) (halive : task.pc ≠ .ended)
    (hrunning : s.running = true) : task.owner ≠ .disconnect := by
  intro howner
  have hstopped :=
    ((h.ok task (List.mem_of_getElem? ht)).disconnect howner halive).1
  rw [hrunning] at hstopped
  cases hstopped

theorem orderly_closed {autoReconnect : Bool} {c : Nat} (h : s.Orderly)
    (ht : s.tasks[t]? = some task) (hpc : task.pc = .closing c)
    (hcan : task.migrating = true -> s.running = true ->
      autoReconnect = false -> s.CanEstablish) :
    (s.closed autoReconnect t c task).Orderly := by
  have halive : task.pc ≠ .ended := by simp [hpc]
  have hshut : (s.shut c .disconnected).Orderly := orderly_shut h rfl
  unfold closed
  dsimp only
  split
  · rename_i hreconnects
    rw [Bool.and_eq_true] at hreconnects
    exact orderly_goTo hshut ht
      (allows_backoff halive (h.owner_ne_disconnect ht halive hreconnects.1))
  · rename_i hreconnects
    refine orderly_closeReturned hshut ht halive ?_ ?_
    · intro howner
      have hstopped : s.Stopped :=
        Or.inr ⟨task, List.mem_of_getElem? ht, howner, c, hpc⟩
      exact quiet_shut (h.quiet hstopped)
    · intro hmigrating hrunning
      have hauto : autoReconnect = false := by
        rw [hrunning, Bool.true_and, Bool.not_eq_true] at hreconnects
        exact hreconnects
      have hbefore := hcan hmigrating hrunning hauto
      refine ⟨hbefore.1, ?_⟩
      intro connection hconnection
      exact forall_mem_modify (h.noneOpen hbefore.2) (fun _ _ => rfl)
        connection (List.mem_of_getElem? hconnection)

theorem disconnects_of_establishing (h : pc.establishing = true) :
    pc.disconnects = false := by
  cases pc with
  | opening retry c => rfl
  | handshaking retry => rfl
  | _ => cases h

theorem orderly_establishFailed {retry : Bool} (h : s.Orderly)
    (ht : s.tasks[t]? = some task) (hestablishing : task.pc.establishing = true)
    (hretry : task.pc.migrates = retry) :
    (s.establishFailed t task retry).Orderly := by
  have hok := h.ok task (List.mem_of_getElem? ht)
  have halive : task.pc ≠ .ended := by
    intro hended
    simp [hended, TaskPc.establishing] at hestablishing
  unfold establishFailed
  split
  · split
    · rename_i hrunning
      exact orderly_goTo h ht
        (allows_backoff halive (h.owner_ne_disconnect ht halive hrunning))
    · rename_i hrunning
      refine orderly_closeReturned h ht halive ?_
        fun _ hrunning' => absurd hrunning' hrunning
      intro howner
      exact absurd howner (hok.owner_ne_disconnect halive
        (disconnects_of_establishing hestablishing))
  · rename_i hdirect
    rw [← hretry, Bool.not_eq_true] at hdirect
    exact orderly_resume h ht halive (hok.not_migrating hdirect)

/-- The client's connection waits for the answer to its handshake. -/
def openCurrent (s : ClientTasks) : ClientTasks :=
  { s with
    connections := s.connections.set s.current
      { state := ConnectionState.authenticating, isOpen := true } }

theorem opened_eq {retry : Bool} {c : Nat}
    (hc : c + 1 = s.connections.length) :
    s.opened t c retry = s.openCurrent.goTo t (.handshaking retry) := by
  have hcurrent : s.current = c := by
    unfold current
    omega
  have hset : (s.connections.set c
      { state := ConnectionState.pending, isOpen := true }).length - 1 = c := by
    rw [List.length_set]
    omega
  have hconnections : (s.connections.set c
      { state := ConnectionState.pending, isOpen := true }).modify c
        (fun connection =>
          { connection with state := ConnectionState.authenticating }) =
      s.connections.set c
        { state := ConnectionState.authenticating, isOpen := true } := by
    apply List.ext_getElem?
    intro i
    rw [List.getElem?_modify, List.getElem?_set, List.getElem?_set]
    split <;> rename_i hi
    · subst hi
      simp [show c < s.connections.length by omega]
    · simp
  simp only [opened, setState, openCurrent, current, hset] at hcurrent ⊢
  rw [hcurrent, hconnections]

theorem orderly_openCurrent (h : s.Orderly) (hstopped : ¬ s.Stopped)
    (hlength : 0 < s.connections.length) : s.openCurrent.Orderly := by
  have hsame : s.openCurrent.connections.length = s.connections.length :=
    List.length_set ..
  have hcurrent : s.current + 1 = s.connections.length := by
    unfold current
    omega
  constructor
  · intro i connection hi hopen
    rw [hsame]
    by_cases hic : i = s.current
    · rw [hic]
      exact hcurrent
    · rw [openCurrent, List.getElem?_set_ne (Ne.symm hic)] at hi
      exact h.newest i connection hi hopen
  · intro connection hconnection
    rcases List.mem_or_eq_of_mem_set hconnection with hold | rfl
    · exact h.connected connection hold
    · rfl
  · exact h.establishing
  · exact h.readLoops
  · exact h.heartbeatLoops
  · rw [hsame]
    exact h.ok
  · intro hnow
    exact absurd hnow hstopped

theorem orderly_opened {retry : Bool} {c : Nat} (h : s.Orderly)
    (ht : s.tasks[t]? = some task) (hpc : task.pc = .opening retry c) :
    (s.opened t c retry).Orderly := by
  have hmem := List.mem_of_getElem? ht
  have hok := h.ok task hmem
  have halive : task.pc ≠ .ended := by simp [hpc]
  have hc : c + 1 = s.connections.length := hok.opening retry c hpc
  have hstopped : ¬ s.Stopped := by
    intro hstopped
    have hopening := (h.quiet hstopped).2.2 task hmem
    rw [hpc] at hopening
    cases hopening
  rw [opened_eq hc]
  refine orderly_goTo (orderly_openCurrent h hstopped (by omega)) ht
    ⟨halive, ?_, rfl, ?_, ?_, ?_, ?_⟩
  · intro _
    simp [hpc, TaskPc.establishing]
  · unfold ClientTask.beats
    cases task.owner <;> simp
  · intro hmigrating
    have hmigrates := (hok.migrating hmigrating).2
    rw [hpc] at hmigrates
    exact hmigrates
  · intro howner
    exact absurd howner (hok.owner_ne_disconnect halive
      (by simp [hpc, TaskPc.disconnects]))
  · rintro ⟨-, d, hd⟩
    cases hd

/-!
# A handshake succeeds
-/

theorem Orderly.not_connected {c : Nat} (h : s.Orderly)
    (hc : c + 1 < s.connections.length) : s.isConnected c = false := by
  unfold isConnected
  cases hconnection : s.connections[c]? with
  | none => rfl
  | some connection =>
      rw [Option.any_some,
        h.connected connection (List.mem_of_getElem? hconnection)]
      by_contra hopen
      rw [Bool.not_eq_false] at hopen
      have hnewest := h.newest c connection hconnection hopen
      omega

theorem orderly_authenticated (h : s.Orderly)
    (hopen : forall c, s.connections[s.current]? = some c ->
      c.isOpen = true) :
    (s.setState s.current ConnectionState.authenticated).Orderly := by
  have hlength : (s.setState s.current
      ConnectionState.authenticated).connections.length =
        s.connections.length := List.length_modify ..
  constructor
  · intro i connection hi hconnection
    rw [hlength]
    rcases getElem?_modify_cases hi with ⟨-, hold⟩ | ⟨rfl, old, hold, rfl⟩
    · exact h.newest i connection hold hconnection
    · exact h.newest s.current old hold hconnection
  · apply forall_mem_modify h.connected
    intro connection hconnection
    exact (hopen connection hconnection).symm
  · exact h.establishing
  · exact h.readLoops
  · exact h.heartbeatLoops
  · rw [hlength]
    exact h.ok
  · intro hstopped
    have hquiet := h.quiet hstopped
    refine ⟨hquiet.1, forall_mem_modify hquiet.2.1 ?_, hquiet.2.2⟩
    intro connection hconnection
    exact hquiet.2.1 connection (List.mem_of_getElem? hconnection)

theorem goTo_start (owner : TaskOwner) (pc : TaskPc)
    (ht : t < s.tasks.length) :
    (s.start owner).goTo t pc = (s.goTo t pc).start owner := by
  simp only [start, goTo, modify_append_left ht]

theorem loopsEnded_goTo (hended : s.LoopsEnded t) :
    forall other, other ∈ (s.goTo t .ended).tasks ->
      other.reads = false ∧ other.beats = false := by
  intro other hother
  rcases List.mem_iff_getElem?.mp hother with ⟨i, hi⟩
  rcases getElem?_modify_cases hi with ⟨hne, hold⟩ | ⟨-, old, -, rfl⟩
  · exact hended i (List.getElem?_eq_some_iff.mp hold).1 hne other hold
  · unfold ClientTask.reads ClientTask.beats
    cases old.owner <;> simp

/-- The state in which the new loops have started and the task has ended. -/
def restarted (s : ClientTasks) (t : Nat) : ClientTasks :=
  { (((s.setState s.current ConnectionState.authenticated).goTo t
      .ended).start (.readLoop s.current)).start .heartbeatLoop with
    readTask := some s.tasks.length
    heartbeatTask := some (s.tasks.length + 1) }

theorem orderly_restarted (h : s.Orderly) (ht : s.tasks[t]? = some task)
    (halive : task.pc ≠ .ended) (hended : s.LoopsEnded t)
    (hopen : exists c, s.connections[s.current]? = some c ∧ c.isOpen = true) :
    (s.restarted t).Orderly := by
  rcases hopen with ⟨connection, hconnection, hopen⟩
  have hauthenticated : (s.setState s.current
      ConnectionState.authenticated).Orderly := by
    apply orderly_authenticated h
    intro c hc
    rw [hconnection] at hc
    rw [← Option.some.inj hc]
    exact hopen
  have hgone := orderly_goTo_ended hauthenticated ht halive
  have hloops := loopsEnded_goTo (s := s.setState s.current
    ConnectionState.authenticated) hended
  have hreader : (((s.setState s.current
      ConnectionState.authenticated).goTo t .ended).start
        (.readLoop s.current)).Orderly := by
    apply orderly_add hgone
    · intro c hc
      cases hc
      refine ⟨?_, fun other hother => (hloops other hother).1⟩
      have hlt := (List.getElem?_eq_some_iff.mp hconnection).1
      simpa [goTo, setState] using hlt
    · intro howner
      cases howner
    · intro howner
      cases howner
  have hboth : ((((s.setState s.current
      ConnectionState.authenticated).goTo t .ended).start
        (.readLoop s.current)).start .heartbeatLoop).Orderly := by
    apply orderly_add hreader
    · intro c howner
      cases howner
    · intro _ other hother
      rcases List.mem_append.mp hother with hold | hnew
      · exact (hloops other hold).2
      · rw [List.mem_singleton.mp hnew]
        rfl
    · intro howner
      cases howner
  exact ⟨hboth.newest, hboth.connected, hboth.establishing, hboth.readLoops,
    hboth.heartbeatLoops, hboth.ok, hboth.quiet⟩

theorem resume_of_not_connected
    (h : forall c, task.owner = .readLoop c -> s.isConnected c = false) :
    s.resume t task.owner = s.goTo t .ended := by
  unfold resume
  cases howner : task.owner with
  | readLoop c => simp [h c howner]
  | _ => rfl

theorem closeReturned_of_not_migrating (hmigrating : task.migrating = false)
    (howner : task.owner ≠ .disconnect) :
    s.closeReturned t task = s.goTo t .ended := by
  unfold closeReturned
  rw [hmigrating]
  cases h : task.owner with
  | disconnect => exact absurd h howner
  | _ => rfl

theorem isConnected_setState {c d : Nat} {state : ConnectionState}
    (hne : c ≠ d) : (s.setState d state).isConnected c = s.isConnected c := by
  unfold isConnected setState
  rw [List.getElem?_modify_ne _ _ (Ne.symm hne)]

theorem established_eq {retry : Bool} (h : s.Orderly)
    (ht : s.tasks[t]? = some task) (hpc : task.pc = .handshaking retry)
    (hmigrating : task.migrating = false) :
    s.established t task retry = s.restarted t := by
  have hok := h.ok task (List.mem_of_getElem? ht)
  have hlt := (List.getElem?_eq_some_iff.mp ht).1
  let started := { ((s.setState s.current
      ConnectionState.authenticated).start (.readLoop s.current)).start
        .heartbeatLoop with
    readTask := some s.tasks.length
    heartbeatTask := some (s.tasks.length + 1) }
  have hrestarted : started.goTo t .ended = s.restarted t := by
    have hstart := goTo_start (s := (s.setState s.current
      ConnectionState.authenticated)) (.readLoop s.current) .ended hlt
    have hlt' : t < ((s.setState s.current
        ConnectionState.authenticated).start
          (.readLoop s.current)).tasks.length := by
      rw [start, List.length_append]
      exact Nat.lt_add_right _ hlt
    have hstart' := goTo_start .heartbeatLoop .ended hlt'
    rw [hstart] at hstart'
    unfold restarted
    rw [← hstart']
    rfl
  rw [← hrestarted]
  cases retry with
  | true =>
      exact closeReturned_of_not_migrating (s := started) hmigrating
        (hok.owner_ne_disconnect (by simp [hpc])
          (by simp [hpc, TaskPc.disconnects]))
  | false =>
      apply resume_of_not_connected (s := started)
      intro c howner
      have holder := (hok.readLoop c howner).2
        (by simp [hpc, TaskPc.establishing])
      have hne : c ≠ s.current := by
        unfold current
        omega
      exact (isConnected_setState hne).trans (h.not_connected holder)

theorem orderly_established {retry : Bool} (h : s.Orderly)
    (ht : s.tasks[t]? = some task) (hpc : task.pc = .handshaking retry)
    (hmigrating : task.migrating = false) (hended : s.LoopsEnded t)
    (hopen : exists c, s.connections[s.current]? = some c ∧ c.isOpen = true) :
    (s.established t task retry).Orderly := by
  rw [established_eq h ht hpc hmigrating]
  exact orderly_restarted h ht (by simp [hpc]) hended hopen

end ClientTasks

end Client
end Hmmp
