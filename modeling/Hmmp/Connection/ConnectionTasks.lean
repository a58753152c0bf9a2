import Mathlib.Data.List.Nodup
import Hmmp.Connection.Connection
import Hmmp.Foundation.Transition

/-!
# Tasks on one connection

A connection between the await points of the tasks that use it.  Closing has
two halves: a task that enters {lit}`close` closes the stream and waits, and
when it resumes it forgets the stream and invokes the close callback.  Any
number of tasks may be between the two.
-/

namespace Hmmp
namespace Connection

open Foundation

/--
The part of a connection that closing works on.  Every call of {lit}`close` and
every close callback carries the number of the successful connect that was the
latest one when the call was entered.
-/
structure Lifecycle where
  state : ConnectionState := ConnectionState.disconnected
  writer : Bool := false
  connects : Nat := 0
  closers : List Nat := []
  callbacks : List Nat := []
  reconnections : List Nat := []

namespace Lifecycle

def open_ (l : Lifecycle) : Lifecycle :=
  { l with
    state := ConnectionState.pending
    writer := true
    connects := l.connects + 1 }

/-- The second half of {lit}`close`, up to the call of the callback, which
starts a reconnection if the client restarts connections. -/
def finishClose (l : Lifecycle) (restarts : Bool) (connect : Nat) :
    Lifecycle :=
  { l with
    state := ConnectionState.disconnected
    writer := false
    callbacks := l.callbacks ++ [connect]
    reconnections :=
      if restarts then l.reconnections ++ [connect] else l.reconnections }

/-- The first half of {lit}`close`, or all of it when there is no stream to
wait for. -/
def enterClose (l : Lifecycle) (restarts : Bool) : Lifecycle :=
  if l.state = ConnectionState.disconnected then l
  else if l.writer then
    { l with
      state := ConnectionState.closing
      closers := l.closers ++ [l.connects] }
  else
    l.finishClose restarts l.connects

/-- The {lit}`j`-th waiting call of {lit}`close` stops waiting. -/
def dropCloser (l : Lifecycle) (j : Nat) : Lifecycle :=
  { l with closers := l.closers.eraseIdx j }

end Lifecycle

/-- A connection with the calls that wait inside its methods, and the two flags
of its client that decide whether a lost connection is restarted. -/
structure ConnectionTasks where
  life : Lifecycle := {}
  connecting : Nat := 0
  sending : Nat := 0
  reading : Nat := 0
  loops : Nat := 0
  running : Bool := false
  autoReconnect : Bool := true

/-- A step of one task up to its next await point. -/
inductive TaskEvent where
  | connect
  | connected
  | connectFailed
  | setState (state : ConnectionState)
  | setRunning (running : Bool)
  | startSend
  | sendDone
  | sendFailed
  | startRead
  | readDone
  | endOfStream
  | malformedFrame
  | startLoop
  | loopDone
  | loopFailed
  | close
  | closed (j : Nat)
  | closeCancelled (j : Nat)
  deriving DecidableEq

/-- The steps that enter {lit}`close`. -/
def TaskEvent.entersClose : TaskEvent -> Bool
  | .sendFailed => true
  | .endOfStream => true
  | .malformedFrame => true
  | .loopFailed => true
  | .close => true
  | _ => false

namespace ConnectionTasks

def restarts (s : ConnectionTasks) : Bool :=
  s.running && s.autoReconnect

def enterClose (s : ConnectionTasks) : ConnectionTasks :=
  { s with life := s.life.enterClose s.restarts }

/-- A read or a send ends in the way its event says, if one is under way. -/
def next (s : ConnectionTasks) : TaskEvent -> Option ConnectionTasks
  | .connect =>
      if s.life.state = ConnectionState.disconnected then
        some { s with connecting := s.connecting + 1 }
      else none
  | .connected =>
      if 0 < s.connecting then
        some { s with
          connecting := s.connecting - 1
          life := s.life.open_ }
      else none
  | .connectFailed =>
      if 0 < s.connecting then
        some { s with connecting := s.connecting - 1 }
      else none
  | .setState state => some { s with life := { s.life with state := state } }
  | .setRunning running => some { s with running := running }
  | .startSend =>
      if s.life.writer then some { s with sending := s.sending + 1 } else none
  | .sendDone =>
      if 0 < s.sending then some { s with sending := s.sending - 1 } else none
  | .sendFailed =>
      if 0 < s.sending then
        some (enterClose { s with sending := s.sending - 1 })
      else none
  | .startRead =>
      if s.life.writer then some { s with reading := s.reading + 1 } else none
  | .readDone =>
      if 0 < s.reading then some { s with reading := s.reading - 1 } else none
  | .endOfStream =>
      if 0 < s.reading then
        some (enterClose { s with reading := s.reading - 1 })
      else none
  | .malformedFrame =>
      if 0 < s.reading then
        some (enterClose { s with reading := s.reading - 1 })
      else none
  | .startLoop => some { s with loops := s.loops + 1 }
  | .loopDone =>
      if 0 < s.loops then some { s with loops := s.loops - 1 } else none
  | .loopFailed =>
      if 0 < s.loops then
        some (enterClose { s with loops := s.loops - 1 })
      else none
  | .close => some s.enterClose
  | .closed j =>
      (s.life.closers[j]?).map fun connect =>
        { s with life := (s.life.dropCloser j).finishClose s.restarts connect }
  | .closeCancelled j =>
      (s.life.closers[j]?).map fun _ => { s with life := s.life.dropCloser j }

def Step : ConnectionTasks -> TaskEvent -> ConnectionTasks -> Prop :=
  StepOf next

/-- What a step does to the life cycle. -/
theorem next_life {s s' : ConnectionTasks} {e : TaskEvent}
    (h : s.next e = some s') :
    s'.life = s.life ∨
      s'.life = s.life.open_ ∨
      (exists state, e = .setState state ∧
        s'.life = { s.life with state := state }) ∨
      (e.entersClose = true ∧ s'.life = s.life.enterClose s.restarts) ∨
      (exists j connect, s.life.closers[j]? = some connect ∧
        s'.life =
          (s.life.dropCloser j).finishClose s.restarts connect) ∨
      (exists j, s'.life = s.life.dropCloser j) := by
  cases e with
  | connected =>
      simp only [next, Option.ite_none_right_eq_some] at h
      rw [← Option.some.inj h.2]
      exact Or.inr (Or.inl rfl)
  | setState state =>
      rw [← Option.some.inj h]
      exact Or.inr (Or.inr (Or.inl ⟨state, rfl, rfl⟩))
  | close =>
      rw [← Option.some.inj h]
      exact Or.inr (Or.inr (Or.inr (Or.inl ⟨rfl, rfl⟩)))
  | sendFailed =>
      simp only [next, Option.ite_none_right_eq_some] at h
      rw [← Option.some.inj h.2]
      exact Or.inr (Or.inr (Or.inr (Or.inl ⟨rfl, rfl⟩)))
  | endOfStream =>
      simp only [next, Option.ite_none_right_eq_some] at h
      rw [← Option.some.inj h.2]
      exact Or.inr (Or.inr (Or.inr (Or.inl ⟨rfl, rfl⟩)))
  | malformedFrame =>
      simp only [next, Option.ite_none_right_eq_some] at h
      rw [← Option.some.inj h.2]
      exact Or.inr (Or.inr (Or.inr (Or.inl ⟨rfl, rfl⟩)))
  | loopFailed =>
      simp only [next, Option.ite_none_right_eq_some] at h
      rw [← Option.some.inj h.2]
      exact Or.inr (Or.inr (Or.inr (Or.inl ⟨rfl, rfl⟩)))
  | closed j =>
      rcases Option.map_eq_some_iff.mp h with ⟨connect, hconnect, heq⟩
      rw [← heq]
      exact Or.inr (Or.inr (Or.inr (Or.inr
        (Or.inl ⟨j, connect, hconnect, rfl⟩))))
  | closeCancelled j =>
      rcases Option.map_eq_some_iff.mp h with ⟨connect, _, heq⟩
      rw [← heq]
      exact Or.inr (Or.inr (Or.inr (Or.inr (Or.inr ⟨j, rfl⟩))))
  | setRunning running =>
      rw [← Option.some.inj h]
      exact Or.inl rfl
  | startLoop =>
      rw [← Option.some.inj h]
      exact Or.inl rfl
  | connect | connectFailed | startSend | sendDone | startRead | readDone
    | loopDone =>
      simp only [next, Option.ite_none_right_eq_some] at h
      rw [← Option.some.inj h.2]
      exact Or.inl rfl

/-!
# Closing without interruption
-/

/-- The number of close callbacks a connection has invoked. -/
def closeCalls (c : HMMPConnection) : Nat :=
  c.callbacks.countP fun
    | Callback.close => true
    | Callback.frame _ => false

/-- The life cycle records the state, the stream and the close callbacks of the
connection. -/
structure Records (s : ConnectionTasks) (c : HMMPConnection) : Prop where
  state : s.life.state = c.state
  writer : s.life.writer = c.hasWriter
  callbacks : s.life.callbacks.length = closeCalls c

/-- The two halves of a call with no step between them do what
{lit}`HMMPConnection.close` does. -/
theorem close_uninterrupted {s : ConnectionTasks} {c : HMMPConnection}
    (h : Records s c) (honClose : c.onClose = true)
    (hwriter : c.hasWriter = true) (hstate : c.state ≠ .disconnected) :
    exists s', Run Step s [.close, .closed s.life.closers.length] s' ∧
      Records s' c.close := by
  let entered : ConnectionTasks :=
    { s with life := { s.life with
        state := ConnectionState.closing
        closers := s.life.closers ++ [s.life.connects] } }
  have henter : s.next .close = some entered := by
    simp only [next, enterClose, Lifecycle.enterClose]
    rw [if_neg (by rw [h.state]; exact hstate),
      if_pos (by rw [h.writer]; exact hwriter)]
  have hcloser : entered.life.closers[s.life.closers.length]? =
      some s.life.connects := by
    show (s.life.closers ++ [s.life.connects])[_]? = _
    simp
  refine ⟨{ entered with
    life := (entered.life.dropCloser s.life.closers.length).finishClose
      entered.restarts s.life.connects }, ?_, ?_⟩
  · apply Run.cons henter
    apply Run.single
    show entered.next _ = _
    rw [next, hcloser]
    rfl
  · have hcalls : closeCalls c.close = closeCalls c + 1 := by
      simp [closeCalls, HMMPConnection.close, hstate, honClose]
    constructor
    · simp [Lifecycle.finishClose, HMMPConnection.close, hstate]
    · simp [Lifecycle.finishClose, HMMPConnection.close, hstate]
    · show (s.life.callbacks ++ [s.life.connects]).length = _
      rw [hcalls, List.length_append, h.callbacks]
      rfl

end ConnectionTasks

end Connection
end Hmmp
