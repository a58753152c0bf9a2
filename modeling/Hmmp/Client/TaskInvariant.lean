import Hmmp.Client.ClientTasks

/-!
# One connection at a time

Which runs of a client keep one connection, one read loop and one heartbeat
loop.  Nothing makes a task check, before it establishes a connection, what the
other tasks have done while it waited.
-/

namespace Hmmp
namespace Client

open Connection
open Foundation

/-!
# What a run should keep
-/

def ClientTask.reads (task : ClientTask) : Bool :=
  match task.owner with
  | .readLoop _ => task.pc != .ended
  | _ => false

/-- A heartbeat loop that is not on its way out. -/
def ClientTask.beats (task : ClientTask) : Bool :=
  match task.owner, task.pc with
  | .heartbeatLoop, .looping => true
  | .heartbeatLoop, .resting => true
  | .heartbeatLoop, .sending _ => true
  | _, _ => false

namespace ClientTasks

/-- A heartbeat loop that sends another heartbeat if its wait ends now. -/
def sendsAgain (s : ClientTasks) (task : ClientTask) : Bool :=
  task.beats && s.isConnected s.current &&
    (s.running || task.pc == .resting)

/--
At most one stream is open, at most one read loop is alive and at most one
heartbeat loop sends again, and after {lit}`disconnect` no stream is open.
-/
structure OneOfEach (s : ClientTasks) : Prop where
  connections : AtMostOne (fun c => c.isOpen = true) s.connections
  readLoops : AtMostOne (fun task => task.reads = true) s.tasks
  heartbeatLoops : AtMostOne (fun task => s.sendsAgain task = true) s.tasks
  disconnected : s.disconnected = true ->
    forall c, c ∈ s.connections -> c.isOpen = false

end ClientTasks

/-!
# The condition
-/

def TaskPc.establishing : TaskPc -> Bool
  | .opening _ _ => true
  | .handshaking _ => true
  | _ => false

def TaskPc.isOpening : TaskPc -> Bool
  | .opening _ _ => true
  | _ => false

def TaskPc.isHandshaking : TaskPc -> Bool
  | .handshaking _ => true
  | _ => false

namespace ClientTasks

/-- No connection is being established, and the client's connection is
closed. -/
def CanEstablish (s : ClientTasks) : Prop :=
  (forall task, task ∈ s.tasks -> task.pc.establishing = false) ∧
    forall c, c ∈ s.connections[s.current]? -> c.isOpen = false

def LoopsEnded (s : ClientTasks) (t : Nat) : Prop :=
  forall i, i < s.tasks.length -> i ≠ t -> forall task, task ∈ s.tasks[i]? ->
    task.reads = false ∧ task.beats = false

def NoneOpening (s : ClientTasks) : Prop :=
  forall task, task ∈ s.tasks -> task.pc.isOpening = false

/-- The task starts to establish a connection when its wait ends. -/
def establishes (autoReconnect : Bool) (s : ClientTasks)
    (task : ClientTask) : Bool :=
  match task.pc with
  | .backoff => true
  | .graceful =>
      s.running && (s.connections[s.current]?).all fun c =>
        c.state = ConnectionState.disconnected
  | .closing _ => task.migrating && s.running && !autoReconnect
  | _ => false

/--
A connection is established only by a running client whose connection is closed
and which establishes no other; when its handshake succeeds every other loop
has ended, and it is not the reconnection of a migration.  {lit}`connect` is not
called during {lit}`disconnect`, and {lit}`disconnect` does not come to its
{lit}`close` while a stream is being opened.
-/
def Careful (autoReconnect : Bool) (s : ClientTasks) :
    ClientTaskEvent -> Prop
  | .connect => s.running = false -> s.CanEstablish ∧
      forall task, task ∈ s.tasks -> task.owner = .disconnect ->
        task.pc = .ended
  | .disconnect => (s.live s.heartbeatTask).isSome ∨
      (s.live s.readTask).isSome ∨ s.NoneOpening
  | .wake t => forall task, task ∈ s.tasks[t]? ->
      (s.establishes autoReconnect task = true ->
        s.running = true ∧ s.CanEstablish) ∧
      (task.pc.isHandshaking = true ->
        task.migrating = false ∧ s.LoopsEnded t) ∧
      (task.pc = .stoppingHeartbeat ->
        (s.live s.readTask).isSome ∨ s.NoneOpening) ∧
      (task.pc = .stoppingRead -> s.NoneOpening)
  | _ => True

instance (s : ClientTasks) : Decidable s.CanEstablish :=
  inferInstanceAs (Decidable (_ ∧ _))

instance (s : ClientTasks) (t : Nat) : Decidable (s.LoopsEnded t) :=
  inferInstanceAs (Decidable (forall i, i < _ -> _))

instance (s : ClientTasks) : Decidable s.NoneOpening :=
  inferInstanceAs (Decidable (forall task, task ∈ _ -> _))

instance (autoReconnect : Bool) (s : ClientTasks) :
    (e : ClientTaskEvent) -> Decidable (s.Careful autoReconnect e)
  | .connect => inferInstanceAs (Decidable (_ -> _ ∧ _))
  | .disconnect => inferInstanceAs (Decidable (_ ∨ _ ∨ _))
  | .wake _ => inferInstanceAs (Decidable (forall task, task ∈ _ -> _))
  | .request => inferInstanceAs (Decidable True)
  | .redirect _ => inferInstanceAs (Decidable True)
  | .fails _ => inferInstanceAs (Decidable True)

/-!
# The invariant
-/

/-- The client has stopped, and no task can give it an open stream. -/
def Quiet (s : ClientTasks) : Prop :=
  s.running = false ∧ (forall c, c ∈ s.connections -> c.isOpen = false) ∧
    s.NoneOpening

end ClientTasks

/-- A call of {lit}`disconnect` that has come to its {lit}`close`. -/
def ClientTask.ClosesClient (task : ClientTask) : Prop :=
  task.owner = .disconnect ∧ exists c, task.pc = .closing c

def ClientTasks.Stopped (s : ClientTasks) : Prop :=
  s.disconnected = true ∨ exists task, task ∈ s.tasks ∧ task.ClosesClient

/-- The waits of a task inside a migration, up to the return of its
{lit}`close`. -/
def TaskPc.migrates : TaskPc -> Bool
  | .graceful => true
  | .closing _ => true
  | .backoff => true
  | .opening retry _ => retry
  | .handshaking retry => retry
  | .ended => true
  | _ => false

/-- The waits of a call of {lit}`disconnect`. -/
def TaskPc.disconnects : TaskPc -> Bool
  | .looping => true
  | .closing _ => true
  | .stoppingHeartbeat => true
  | .stoppingRead => true
  | _ => false

/-- What holds of each task of a client with {lit}`n` connections. -/
structure ClientTask.Ok (n : Nat) (running : Bool) (task : ClientTask) :
    Prop where
  opening : forall retry c, task.pc = .opening retry c -> c + 1 = n
  readLoop : forall c, task.owner = .readLoop c ->
    c < n ∧ (task.pc.establishing = true -> c + 1 < n)
  migrating : task.migrating = true ->
    (exists c, task.owner = .readLoop c) ∧ task.pc.migrates = true
  disconnect : task.owner = .disconnect -> task.pc ≠ .ended ->
    running = false ∧ task.pc.disconnects = true

theorem ClientTask.Ok.grow {task : ClientTask} {n : Nat} {running : Bool}
    (h : task.Ok n running) (hpc : task.pc.establishing = false) :
    task.Ok (n + 1) running := by
  constructor
  · intro retry c hopening
    rw [hopening] at hpc
    cases hpc
  · intro c howner
    refine ⟨Nat.lt_succ_of_lt (h.readLoop c howner).1, ?_⟩
    intro hestablishing
    rw [hpc] at hestablishing
    cases hestablishing
  · exact h.migrating
  · exact h.disconnect

theorem ClientTask.Ok.not_migrating {task : ClientTask} {n : Nat}
    {running : Bool} (h : task.Ok n running)
    (hpc : task.pc.migrates = false) : task.migrating = false := by
  by_contra hmigrating
  rw [Bool.not_eq_false] at hmigrating
  have hmigrates := (h.migrating hmigrating).2
  rw [hpc] at hmigrates
  cases hmigrates

theorem ClientTask.Ok.owner_ne_disconnect {task : ClientTask} {n : Nat}
    {running : Bool} (h : task.Ok n running) (halive : task.pc ≠ .ended)
    (hpc : task.pc.disconnects = false) : task.owner ≠ .disconnect := by
  intro howner
  have hdisconnects := (h.disconnect howner halive).2
  rw [hpc] at hdisconnects
  cases hdisconnects

namespace ClientTasks

structure Orderly (s : ClientTasks) : Prop where
  newest : forall (i : Nat) c, s.connections[i]? = some c ->
    c.isOpen = true -> i + 1 = s.connections.length
  connected : forall c, c ∈ s.connections -> c.state.isConnected = c.isOpen
  establishing : AtMostOne (fun task => task.pc.establishing = true) s.tasks
  readLoops : AtMostOne (fun task => task.reads = true) s.tasks
  heartbeatLoops : AtMostOne (fun task => task.beats = true) s.tasks
  ok : forall task, task ∈ s.tasks ->
    task.Ok s.connections.length s.running
  quiet : s.Stopped -> s.Quiet

theorem orderly_start : Orderly {} := by
  constructor <;> simp [AtMostOne, Stopped]

variable {s : ClientTasks} {t : Nat} {task : ClientTask} {pc : TaskPc}

theorem Orderly.oneOfEach (h : s.Orderly) : s.OneOfEach := by
  constructor
  · intro i j c d hc hd hopen hopen'
    have hi := h.newest i c hc hopen
    have hj := h.newest j d hd hopen'
    omega
  · exact h.readLoops
  · apply h.heartbeatLoops.mono
    intro task _ hsends
    simp only [sendsAgain, Bool.and_eq_true] at hsends
    exact hsends.1.1
  · intro hdisconnected
    exact (h.quiet (Or.inl hdisconnected)).2.1

/-!
# One task goes on
-/

/-- A task may come to wait for something else without establishing. -/
structure Allows (s : ClientTasks) (task : ClientTask) (pc : TaskPc) :
    Prop where
  alive : task.pc ≠ .ended
  establishing : pc.establishing = true -> task.pc.establishing = true
  opening : pc.isOpening = false
  beats : ClientTask.beats { task with pc := pc } = true -> task.beats = true
  migrating : task.migrating = true -> pc.migrates = true
  disconnect : task.owner = .disconnect -> pc ≠ .ended ->
    pc.disconnects = true
  quiet : ClientTask.ClosesClient { task with pc := pc } -> s.Quiet

theorem ok_goTo (h : s.Orderly) (hallows : s.Allows task pc)
    (hmem : task ∈ s.tasks) :
    ClientTask.Ok s.connections.length s.running { task with pc := pc } := by
  have hok := h.ok task hmem
  constructor
  · intro retry c hpc
    have hopening := hallows.opening
    rw [show pc = .opening retry c from hpc] at hopening
    cases hopening
  · intro c howner
    have hread := hok.readLoop c howner
    exact ⟨hread.1, fun hpc => hread.2 (hallows.establishing hpc)⟩
  · intro hmigrating
    exact ⟨(hok.migrating hmigrating).1, hallows.migrating hmigrating⟩
  · intro howner hpc
    exact ⟨(hok.disconnect howner hallows.alive).1,
      hallows.disconnect howner hpc⟩

theorem quiet_goTo (h : s.Quiet) (hpc : pc.isOpening = false) :
    (s.goTo t pc).Quiet :=
  ⟨h.1, h.2.1, forall_mem_modify h.2.2 fun _ _ => hpc⟩

theorem reads_of_alive (halive : task.pc ≠ .ended)
    (hreads : ClientTask.reads { task with pc := pc } = true) :
    task.reads = true := by
  unfold ClientTask.reads at hreads ⊢
  cases howner : task.owner <;> simp_all

theorem orderly_goTo (h : s.Orderly) (ht : s.tasks[t]? = some task)
    (hallows : s.Allows task pc) : (s.goTo t pc).Orderly := by
  have hnew := ok_goTo h hallows (List.mem_of_getElem? ht)
  constructor
  · exact h.newest
  · exact h.connected
  · exact h.establishing.modify_at ht hallows.establishing
  · exact h.readLoops.modify_at ht (reads_of_alive hallows.alive)
  · exact h.heartbeatLoops.modify_at ht hallows.beats
  · exact forall_mem_modify_at ht h.ok hnew
  · intro hstopped
    apply quiet_goTo _ hallows.opening
    rcases hstopped with hdisconnected | hclosing
    · exact h.quiet (Or.inl hdisconnected)
    · rcases exists_of_mem_modify hclosing with hold | ⟨old, hold, hnew⟩
      · exact h.quiet (Or.inr hold)
      · rw [ht] at hold
        rw [← Option.some.inj hold] at hnew
        exact hallows.quiet hnew

theorem allows_ended (halive : task.pc ≠ .ended) : s.Allows task .ended where
  alive := halive
  establishing := nofun
  opening := rfl
  beats := by
    unfold ClientTask.beats
    cases task.owner <;> simp
  migrating := fun _ => rfl
  disconnect := fun _ h => absurd rfl h
  quiet := nofun

theorem orderly_goTo_ended (h : s.Orderly) (ht : s.tasks[t]? = some task)
    (halive : task.pc ≠ .ended) : (s.goTo t .ended).Orderly :=
  orderly_goTo h ht (allows_ended halive)

theorem tasks_goTo_self (ht : s.tasks[t]? = some task) :
    (s.goTo t pc).tasks[t]? = some { task with pc := pc } := by
  simp [goTo, ht]

theorem tasks_goTo_of_ne {i : Nat} (hi : i ≠ t) :
    (s.goTo t pc).tasks[i]? = s.tasks[i]? := by
  simp [goTo, Ne.symm hi]

/-!
# Connections and tasks change
-/

theorem quiet_shut {c : Nat} {state : ConnectionState} (h : s.Quiet) :
    (s.shut c state).Quiet :=
  ⟨h.1, forall_mem_modify h.2.1 fun _ _ => rfl, h.2.2⟩

theorem orderly_shut {c : Nat} {state : ConnectionState} (h : s.Orderly)
    (hstate : state.isConnected = false) : (s.shut c state).Orderly := by
  have hlength : (s.shut c state).connections.length =
      s.connections.length := List.length_modify ..
  constructor
  · intro i connection hi hopen
    rw [hlength]
    rcases getElem?_modify_cases hi with ⟨-, hold⟩ | ⟨-, old, -, rfl⟩
    · exact h.newest i connection hold hopen
    · cases hopen
  · exact forall_mem_modify h.connected fun _ _ => hstate
  · exact h.establishing
  · exact h.readLoops
  · exact h.heartbeatLoops
  · rw [hlength]
    exact h.ok
  · intro hstopped
    exact quiet_shut (h.quiet hstopped)

theorem orderly_endMigration (h : s.Orderly) :
    (s.endMigration t).Orderly := by
  constructor
  · exact h.newest
  · exact h.connected
  · exact h.establishing.modify fun _ _ hpc => hpc
  · exact h.readLoops.modify fun _ _ hreads => hreads
  · exact h.heartbeatLoops.modify fun _ _ hbeats => hbeats
  · apply forall_mem_modify h.ok
    intro other hother
    have hok := h.ok other (List.mem_of_getElem? hother)
    exact ⟨hok.opening, hok.readLoop, nofun, hok.disconnect⟩
  · intro hstopped
    have hquiet : s.Quiet := by
      rcases hstopped with hdisconnected | hclosing
      · exact h.quiet (Or.inl hdisconnected)
      · rcases exists_of_mem_modify hclosing with hold | ⟨old, hold, hnew⟩
        · exact h.quiet (Or.inr hold)
        · exact h.quiet (Or.inr ⟨old, List.mem_of_getElem? hold, hnew⟩)
    refine ⟨hquiet.1, hquiet.2.1, ?_⟩
    apply forall_mem_modify hquiet.2.2
    intro other hother
    exact hquiet.2.2 other (List.mem_of_getElem? hother)

theorem tasks_endMigration_self (ht : s.tasks[t]? = some task) :
    (s.endMigration t).tasks[t]? = some { task with migrating := false } := by
  simp [endMigration, ht]

theorem canEstablish_endMigration (h : s.CanEstablish) :
    (s.endMigration t).CanEstablish := by
  refine ⟨forall_mem_modify h.1 ?_, h.2⟩
  intro other hother
  exact h.1 other (List.mem_of_getElem? hother)

theorem orderly_add {owner : TaskOwner} (h : s.Orderly)
    (hread : forall c, owner = .readLoop c -> c < s.connections.length ∧
      forall other, other ∈ s.tasks -> other.reads = false)
    (hbeat : owner = .heartbeatLoop ->
      forall other, other ∈ s.tasks -> other.beats = false)
    (hdisconnect : owner = .disconnect -> s.running = false) :
    (s.start owner).Orderly := by
  constructor
  · exact h.newest
  · exact h.connected
  · exact h.establishing.concat (by simp [TaskPc.establishing])
  · by_cases howner : exists c, owner = .readLoop c
    · rcases howner with ⟨c, howner⟩
      apply atMostOne_concat_of_none
      intro other hother
      simp [(hread c howner).2 other hother]
    · apply h.readLoops.concat
      intro hreads
      cases owner with
      | readLoop c => exact howner ⟨c, rfl⟩
      | _ => cases hreads
  · by_cases howner : owner = .heartbeatLoop
    · apply atMostOne_concat_of_none
      intro other hother
      simp [hbeat howner other hother]
    · apply h.heartbeatLoops.concat
      intro hbeats
      cases owner with
      | heartbeatLoop => exact howner rfl
      | _ => cases hbeats
  · intro other hother
    rcases List.mem_append.mp hother with hold | hnew
    · exact h.ok other hold
    · rw [List.mem_singleton.mp hnew]
      refine ⟨nofun, ?_, nofun, ?_⟩
      · intro c howner
        exact ⟨(hread c howner).1, nofun⟩
      · intro howner _
        exact ⟨hdisconnect howner, rfl⟩
  · intro hstopped
    have hquiet : s.Quiet := by
      rcases hstopped with hdisconnected | ⟨other, hother, hclosing⟩
      · exact h.quiet (Or.inl hdisconnected)
      · rcases List.mem_append.mp hother with hold | hnew
        · exact h.quiet (Or.inr ⟨other, hold, hclosing⟩)
        · rw [List.mem_singleton.mp hnew] at hclosing
          rcases hclosing.2 with ⟨c, hc⟩
          cases hc
    refine ⟨hquiet.1, hquiet.2.1, ?_⟩
    intro other hother
    rcases List.mem_append.mp hother with hold | hnew
    · exact hquiet.2.2 other hold
    · rw [List.mem_singleton.mp hnew]
      rfl

theorem Orderly.noneOpen (h : s.Orderly)
    (hcurrent : forall c, s.connections[s.current]? = some c ->
      c.isOpen = false) :
    forall c, c ∈ s.connections -> c.isOpen = false := by
  intro c hc
  rcases List.mem_iff_getElem?.mp hc with ⟨i, hi⟩
  by_contra hopen
  rw [Bool.not_eq_false] at hopen
  have hlast : s.current = i := by
    have hnewest := h.newest i c hi hopen
    unfold current
    omega
  rw [← hlast] at hi
  rw [hcurrent c hi] at hopen
  cases hopen

theorem Orderly.not_stopped (h : s.Orderly) (hrunning : s.running = true) :
    ¬ s.Stopped := by
  intro hstopped
  have hfalse := (h.quiet hstopped).1
  rw [hrunning] at hfalse
  cases hfalse

theorem ok_establish {retry : Bool} (h : s.Orderly) (hmem : task ∈ s.tasks)
    (howner : task.owner ≠ .disconnect)
    (hmigrating : task.migrating = true -> retry = true) :
    ClientTask.Ok (s.connections.length + 1) s.running
      { task with pc := .opening retry s.connections.length } := by
  have hok := h.ok task hmem
  constructor
  · intro retry' c hpc
    cases hpc
    rfl
  · intro c hread
    have hold := (hok.readLoop c hread).1
    exact ⟨Nat.lt_succ_of_lt hold, fun _ => Nat.succ_lt_succ hold⟩
  · intro hmig
    exact ⟨(hok.migrating hmig).1, hmigrating hmig⟩
  · intro hdisconnect
    exact absurd hdisconnect howner

theorem orderly_establish {retry : Bool} (h : s.Orderly)
    (ht : s.tasks[t]? = some task) (howner : task.owner ≠ .disconnect)
    (halive : task.pc ≠ .ended)
    (hmigrating : task.migrating = true -> retry = true)
    (hrunning : s.running = true) (hcan : s.CanEstablish) :
    (s.establish t retry).Orderly := by
  have hclosed : forall c, c ∈ (s.establish t retry).connections ->
      c.isOpen = false := by
    intro c hc
    rcases List.mem_append.mp hc with hold | hnew
    · exact h.noneOpen hcan.2 c hold
    · rw [List.mem_singleton.mp hnew]
      rfl
  have hlength : (s.establish t retry).connections.length =
      s.connections.length + 1 := by
    simp [establish, goTo]
  constructor
  · intro i c hi hopen
    rw [hclosed c (List.mem_of_getElem? hi)] at hopen
    cases hopen
  · intro c hc
    rcases List.mem_append.mp hc with hold | hnew
    · exact h.connected c hold
    · rw [List.mem_singleton.mp hnew]
      rfl
  · apply atMostOne_modify_of_others
    intro i other _ hother
    simp [hcan.1 other (List.mem_of_getElem? hother)]
  · exact h.readLoops.modify_at ht (reads_of_alive halive)
  · apply h.heartbeatLoops.modify
    intro other _ hbeats
    unfold ClientTask.beats at hbeats
    cases howner : other.owner <;> simp_all
  · rw [hlength]
    refine forall_mem_modify_at ht ?_
      (ok_establish h (List.mem_of_getElem? ht) howner hmigrating)
    intro other hother
    exact (h.ok other hother).grow (hcan.1 other hother)
  · intro hstopped
    refine absurd ?_ (h.not_stopped hrunning)
    rcases hstopped with hdisconnected | hclosing
    · exact Or.inl hdisconnected
    · rcases exists_of_mem_modify hclosing with hold | ⟨old, -, -, c, hc⟩
      · exact Or.inr hold
      · cases hc

end ClientTasks

end Client
end Hmmp
