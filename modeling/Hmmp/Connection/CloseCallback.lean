import Hmmp.Connection.ConnectionTasks

/-!
# One close callback a connect

A call of {lit}`close` that is entered while another one waits invokes the
callback a second time.  While no two calls overlap, the callback is invoked
once at most for each successful connect.
-/

namespace Hmmp
namespace Connection

open Foundation

namespace Lifecycle

/-- Every connect is answered by one callback and one reconnection at most, and
only by a connect are they caused. -/
def AtMostOnce (l : Lifecycle) : Prop :=
  forall connect, l.callbacks.count connect <= 1 ∧
    l.reconnections.count connect <= 1 ∧
    (connect ∈ l.callbacks -> 1 <= connect ∧ connect <= l.connects)

/-- The connects that are being closed or have been. -/
def spent (l : Lifecycle) : List Nat :=
  l.closers ++ l.callbacks

/-- A connect is spent once at most, and not at all while its stream is
open. -/
structure Inv (l : Lifecycle) : Prop where
  nodup : l.spent.Nodup
  bounded : forall connect, connect ∈ l.spent ->
    1 <= connect ∧ connect <= l.connects
  reported : l.state ≠ ConnectionState.disconnected ->
    1 <= l.connects ∧ l.connects ∉ l.callbacks
  unspent : l.state.isConnected = true -> l.connects ∉ l.closers
  restarted : l.reconnections.Sublist l.callbacks

theorem inv_start : Inv {} where
  nodup := List.nodup_nil
  bounded := by intro connect h; cases h
  reported := by intro h; exact absurd rfl h
  unspent := by intro h; cases h
  restarted := List.Sublist.refl _

theorem Inv.atMostOnce {l : Lifecycle} (h : Inv l) : l.AtMostOnce := by
  have hcallbacks : l.callbacks.Nodup := h.nodup.of_append_right
  intro connect
  refine ⟨List.nodup_iff_count_le_one.mp hcallbacks connect, ?_, ?_⟩
  · exact List.nodup_iff_count_le_one.mp
      (hcallbacks.sublist h.restarted) connect
  · intro hmem
    exact h.bounded connect (List.mem_append_right _ hmem)

theorem inv_open {l : Lifecycle} (h : Inv l) : Inv l.open_ where
  nodup := h.nodup
  bounded connect hmem := by
    have hold := h.bounded connect hmem
    exact ⟨hold.1, Nat.le_succ_of_le hold.2⟩
  reported _ := by
    refine ⟨Nat.succ_pos _, ?_⟩
    intro hmem
    have hold := h.bounded _ (List.mem_append_right _ hmem)
    exact Nat.not_succ_le_self _ hold.2
  unspent _ hmem := by
    have hold := h.bounded _ (List.mem_append_left _ hmem)
    exact Nat.not_succ_le_self _ hold.2
  restarted := h.restarted

theorem inv_setState {l : Lifecycle} (h : Inv l) {state : ConnectionState}
    (hold : l.state.isConnected = true)
    (_hnew : state.isConnected = true) :
    Inv { l with state := state } where
  nodup := h.nodup
  bounded := h.bounded
  reported _ := h.reported (by
    intro hstate
    rw [hstate] at hold
    cases hold)
  unspent _ := h.unspent hold
  restarted := h.restarted

theorem sublist_restarted {l : Lifecycle} (h : Inv l) (restarts : Bool)
    (connect : Nat) :
    (l.finishClose restarts connect).reconnections.Sublist
      (l.callbacks ++ [connect]) := by
  cases restarts with
  | true => exact List.Sublist.append h.restarted (List.Sublist.refl _)
  | false => exact h.restarted.trans (List.sublist_append_left _ _)

theorem inv_finishClose {l : Lifecycle} (h : Inv l) (restarts : Bool)
    {connect : Nat} (hfree : connect ∉ l.spent)
    (hbound : 1 <= connect ∧ connect <= l.connects) :
    Inv (l.finishClose restarts connect) where
  nodup := by
    show (l.closers ++ (l.callbacks ++ [connect])).Nodup
    rw [← List.append_assoc, List.nodup_append_comm]
    exact List.nodup_cons.mpr ⟨hfree, h.nodup⟩
  bounded other hmem := by
    have hcase : other ∈ (l.closers ++ l.callbacks) ++ [connect] := by
      rw [List.append_assoc]
      exact hmem
    rcases List.mem_append.mp hcase with hold | hnew
    · exact h.bounded other hold
    · rw [List.mem_singleton.mp hnew]
      exact hbound
  reported hstate := absurd rfl hstate
  unspent hstate := by cases hstate
  restarted := sublist_restarted h restarts connect

theorem mem_of_mem_eraseIdx_append {closers callbacks : List Nat} {j x : Nat}
    (h : x ∈ closers.eraseIdx j ++ callbacks) : x ∈ closers ++ callbacks := by
  rcases List.mem_append.mp h with hclosers | hcallbacks
  · exact List.mem_append_left _ (List.mem_of_mem_eraseIdx hclosers)
  · exact List.mem_append_right _ hcallbacks

theorem inv_dropCloser {l : Lifecycle} (h : Inv l) (j : Nat) :
    Inv (l.dropCloser j) where
  nodup := h.nodup.sublist
    (List.Sublist.append (List.eraseIdx_sublist ..) (List.Sublist.refl _))
  bounded connect hmem := h.bounded connect (mem_of_mem_eraseIdx_append hmem)
  reported := h.reported
  unspent hstate hmem := h.unspent hstate (List.mem_of_mem_eraseIdx hmem)
  restarted := h.restarted

theorem not_mem_spent_dropCloser {l : Lifecycle} (h : Inv l) {j connect : Nat}
    (hj : l.closers[j]? = some connect) :
    connect ∉ (l.dropCloser j).spent := by
  rcases List.getElem?_eq_some_iff.mp hj with ⟨hlt, hget⟩
  have hclosers : l.closers.Nodup := h.nodup.of_append_left
  have hother := (List.nodup_append.mp h.nodup).2.2
  intro hmem
  rcases List.mem_append.mp hmem with herased | hcallback
  · rw [← hget] at herased
    rcases List.mem_eraseIdx_iff_getElem.mp herased with
      ⟨i, hi, hne, heq⟩
    exact hne ((List.Nodup.getElem_inj_iff hclosers).mp heq)
  · exact hother connect (List.mem_of_getElem? hj) connect hcallback rfl

theorem inv_enterClose {l : Lifecycle} (h : Inv l) (restarts : Bool)
    (hfree : l.state = ConnectionState.closing -> l.closers = []) :
    Inv (l.enterClose restarts) := by
  unfold enterClose
  by_cases hstate : l.state = ConnectionState.disconnected
  · rw [if_pos hstate]
    exact h
  · rw [if_neg hstate]
    rcases h.reported hstate with ⟨hpos, hcallback⟩
    have hcloser : l.connects ∉ l.closers := by
      intro hmem
      cases hs : l.state with
      | disconnected => exact hstate hs
      | closing =>
          rw [hfree hs] at hmem
          cases hmem
      | pending | authenticating | authenticated =>
          exact h.unspent (by rw [hs]; rfl) hmem
    have hspent : l.connects ∉ l.spent := by
      intro hmem
      rcases List.mem_append.mp hmem with hmem | hmem
      · exact hcloser hmem
      · exact hcallback hmem
    by_cases hwriter : l.writer = true
    · rw [if_pos hwriter]
      have hperm : ((l.closers ++ [l.connects]) ++ l.callbacks).Perm
          (l.connects :: l.spent) := by
        rw [List.append_assoc]
        exact List.perm_middle
      exact {
        nodup := hperm.nodup_iff.mpr (List.nodup_cons.mpr ⟨hspent, h.nodup⟩)
        bounded := by
          intro connect hmem
          rcases List.mem_cons.mp (hperm.mem_iff.mp hmem) with heq | hold
          · rw [heq]
            exact ⟨hpos, Nat.le_refl _⟩
          · exact h.bounded connect hold
        reported := by
          intro _
          exact ⟨hpos, hcallback⟩
        unspent := by
          intro hconnected
          cases hconnected
        restarted := h.restarted }
    · rw [if_neg hwriter]
      exact inv_finishClose h restarts hspent ⟨hpos, Nat.le_refl _⟩

end Lifecycle

namespace ConnectionTasks

/-!
# Runs without overlapping calls of close
-/

/-- The step enters no {lit}`close` while another call of it waits, and sets
the state of a connected connection only. -/
def Separate (s : ConnectionTasks) (e : TaskEvent) : Prop :=
  (e.entersClose = true ->
    ¬ (s.life.state = ConnectionState.closing ∧ s.life.closers ≠ [])) ∧
  (forall state, e = .setState state ->
    s.life.state.isConnected = true ∧ state.isConnected = true)

theorem inv_step {s s' : ConnectionTasks} {e : TaskEvent}
    (h : s.life.Inv) (hguard : Separate s e) (hstep : Step s e s') :
    s'.life.Inv := by
  rcases next_life hstep with
    hsame | hopen | ⟨state, he, hset⟩ | ⟨he, hclose⟩ |
      ⟨j, connect, hj, hfinish⟩ | ⟨j, hdrop⟩
  · rw [hsame]
    exact h
  · rw [hopen]
    exact Lifecycle.inv_open h
  · rw [hset]
    rcases hguard.2 state he with ⟨hold, hnew⟩
    exact Lifecycle.inv_setState h hold hnew
  · rw [hclose]
    apply Lifecycle.inv_enterClose h
    intro hclosing
    by_contra hwaiting
    exact hguard.1 he ⟨hclosing, hwaiting⟩
  · rw [hfinish]
    have hbound : 1 <= connect ∧ connect <= s.life.connects :=
      h.bounded connect
        (List.mem_append_left _ (List.mem_of_getElem? hj))
    exact Lifecycle.inv_finishClose (Lifecycle.inv_dropCloser h j) _
      (Lifecycle.not_mem_spent_dropCloser h hj) hbound
  · rw [hdrop]
    exact Lifecycle.inv_dropCloser h j

/-- A connection that has just been created for a client. -/
def start (autoReconnect : Bool) : ConnectionTasks :=
  { autoReconnect := autoReconnect }

/-- An explicit close and the end of the stream overlap. -/
def overlappingCloses : List TaskEvent :=
  [.setRunning true, .connect, .connected, .startLoop, .startRead, .close,
    .endOfStream, .closed 0, .closed 0]

/--
The end of the stream that a read reports while an explicit close waits makes
the callback run twice, and each run starts a reconnection.
-/
theorem overlapping_closes_report_twice :
    ¬ (forall (autoReconnect : Bool) (labels : List TaskEvent)
        (s : ConnectionTasks),
        Run Step (start autoReconnect) labels s -> s.life.AtMostOnce) := by
  intro hall
  have hrun : Run Step (start true) overlappingCloses
      { life :=
          { connects := 1, callbacks := [1, 1], reconnections := [1, 1] }
        loops := 1
        running := true } :=
    run_stepOf_iff.mpr rfl
  have honce := (hall true overlappingCloses _ hrun 1).1
  revert honce
  decide

/--
In every run in which no call of close is entered while another one waits, and
in which the state is set on a connected connection only, each successful
connect is followed by one close callback and one reconnection at most.
-/
theorem close_callback_at_most_once (autoReconnect : Bool)
    (labels : List TaskEvent) (s : ConnectionTasks)
    (hrun : Run (Guarded Step Separate) (start autoReconnect) labels s) :
    s.life.AtMostOnce := by
  have hkeep : forall (t : ConnectionTasks) (e : TaskEvent)
      (t' : ConnectionTasks), t.life.Inv -> Guarded Step Separate t e t' ->
        t'.life.Inv := by
    intro t e t' hinv hstep
    exact inv_step hinv hstep.1 hstep.2
  exact (hrun.invariant hkeep Lifecycle.inv_start).atMostOnce

theorem separate_of_quiet {s : ConnectionTasks} {e : TaskEvent}
    (hclose : e.entersClose = false)
    (hset : forall state, e ≠ .setState state) : Separate s e := by
  constructor
  · intro h
    rw [hclose] at h
    cases h
  · intro state h
    exact absurd h (hset state)

/-- A connection that is opened and closed once. -/
theorem close_callback_at_most_once_single :
    Lifecycle.AtMostOnce
      { connects := 1, callbacks := [1], reconnections := [1] } := by
  apply close_callback_at_most_once true
    [.setRunning true, .connect, .connected, .close, .closed 0]
    { life := { connects := 1, callbacks := [1], reconnections := [1] }
      running := true }
  refine Run.cons ⟨separate_of_quiet rfl (by simp), rfl⟩ ?_
  refine Run.cons ⟨separate_of_quiet rfl (by simp), rfl⟩ ?_
  refine Run.cons ⟨separate_of_quiet rfl (by simp), rfl⟩ ?_
  refine Run.cons ⟨⟨?_, ?_⟩, rfl⟩ ?_
  · intro _ h
    exact h.2 rfl
  · intro state h
    cases h
  · exact Run.single ⟨separate_of_quiet rfl (by simp), rfl⟩

end ConnectionTasks

end Connection
end Hmmp
