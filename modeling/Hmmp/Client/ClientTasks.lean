import Hmmp.Client.ConnectCalls
import Hmmp.Foundation.AtMostOne
import Hmmp.Foundation.Transition

/-!
# The tasks of a client

A client between the await points of its tasks.  A task runs a call of the
application or one of the two background loops, and from each of them it may
come to close a connection, and from there to reconnect.  The client's
connection is the last one created, and every task reads it anew.
-/

namespace Hmmp
namespace Client

open Connection
open Foundation

/-- What a task runs. -/
inductive TaskOwner where
  | connect
  | disconnect
  | request
  | readLoop (c : Nat)
  | heartbeatLoop
  deriving Repr, DecidableEq

/-- What a task waits for. -/
inductive TaskPc where
  /-- Its first step, or the answer to a heartbeat; a loop then tests its
  condition. -/
  | looping
  /-- The next frame, or the next heartbeat. -/
  | resting
  | sending (c : Nat)
  /-- The wait that a redirect asks for. -/
  | graceful
  | closing (c : Nat)
  /-- The wait between two attempts of {lit}`_reconnect`. -/
  | backoff
  /-- The stream of a new connection; {lit}`retry` tells an attempt of
  {lit}`_reconnect`. -/
  | opening (retry : Bool) (c : Nat)
  | handshaking (retry : Bool)
  | stoppingHeartbeat
  | stoppingRead
  | ended
  deriving Repr, DecidableEq

/-- A task, and whether it is inside the {lit}`close` of a migration. -/
structure ClientTask where
  owner : TaskOwner
  migrating : Bool := false
  pc : TaskPc := TaskPc.looping
  deriving Repr, DecidableEq

/-- The client; {lit}`disconnected` records that {lit}`disconnect` has returned
since the last call of {lit}`connect`. -/
structure ClientTasks where
  running : Bool := false
  connections : List CreatedConnection := []
  tasks : List ClientTask := []
  readTask : Option Nat := none
  heartbeatTask : Option Nat := none
  disconnected : Bool := false

inductive ClientTaskEvent where
  | connect
  | disconnect
  | request
  | redirect (t : Nat)
  /-- What the task waits for has come. -/
  | wake (t : Nat)
  /-- The task waits in vain: the stream is lost, a frame cannot be sent, a
  stream is not opened, or the handshake is not accepted. -/
  | fails (t : Nat)
  deriving Repr, DecidableEq

namespace ClientTasks

def current (s : ClientTasks) : Nat :=
  s.connections.length - 1

def isConnected (s : ClientTasks) (c : Nat) : Bool :=
  (s.connections[c]?).any fun connection => connection.state.isConnected

def start (s : ClientTasks) (owner : TaskOwner) : ClientTasks :=
  { s with tasks := s.tasks ++ [{ owner := owner }] }

def goTo (s : ClientTasks) (t : Nat) (pc : TaskPc) : ClientTasks :=
  { s with tasks := s.tasks.modify t fun task => { task with pc := pc } }

def endMigration (s : ClientTasks) (t : Nat) : ClientTasks :=
  { s with
    tasks := s.tasks.modify t fun task => { task with migrating := false } }

def setState (s : ClientTasks) (c : Nat) (state : ConnectionState) :
    ClientTasks :=
  { s with
    connections := s.connections.modify c
      fun connection => { connection with state := state } }

def shut (s : ClientTasks) (c : Nat) (state : ConnectionState) : ClientTasks :=
  { s with
    connections := s.connections.modify c
      fun _ => { state := state, isOpen := false } }

/-- {lit}`_establish_connection`, up to the wait for the stream. -/
def establish (s : ClientTasks) (t : Nat) (retry : Bool) : ClientTasks :=
  { s with
    connections := s.connections ++ [CreatedConnection.closed] }.goTo t
      (.opening retry s.connections.length)

/-- The task leaves the code that its loop or call has started; a read loop
goes on if its connection is connected. -/
def resume (s : ClientTasks) (t : Nat) (owner : TaskOwner) : ClientTasks :=
  match owner with
  | .readLoop c =>
      if s.isConnected c then s.goTo t .resting else s.goTo t .ended
  | _ => s.goTo t .ended

/-- {lit}`close` returns: a migration goes on, and everything else ends. -/
def closeReturned (s : ClientTasks) (t : Nat) (task : ClientTask) :
    ClientTasks :=
  if task.migrating then
    if s.running then (s.endMigration t).establish t false
    else (s.endMigration t).resume t task.owner
  else
    match task.owner with
    | .disconnect => { s.goTo t .ended with disconnected := true }
    | _ => s.goTo t .ended

/-- {lit}`close`, up to the wait for the stream, which another task may await
already. -/
def close (s : ClientTasks) (t c : Nat) (task : ClientTask) : ClientTasks :=
  match s.connections[c]? with
  | none => s.closeReturned t task
  | some connection =>
      if connection.state = ConnectionState.disconnected then
        s.closeReturned t task
      else (s.shut c ConnectionState.closing).goTo t (.closing c)

/-- {lit}`close` after the wait, and the close callback. -/
def closed (autoReconnect : Bool) (s : ClientTasks) (t c : Nat)
    (task : ClientTask) : ClientTasks :=
  let s := s.shut c ConnectionState.disconnected
  if s.running && autoReconnect then s.goTo t .backoff
  else s.closeReturned t task

/-- {lit}`_establish_connection`, from the stream to the handshake. -/
def opened (s : ClientTasks) (t c : Nat) (retry : Bool) : ClientTasks :=
  let s := { s with
    connections := s.connections.set c
      { state := ConnectionState.pending, isOpen := true } }
  (s.setState s.current ConnectionState.authenticating).goTo t
    (.handshaking retry)

/-- {lit}`_establish_connection` after the handshake. -/
def established (s : ClientTasks) (t : Nat) (task : ClientTask)
    (retry : Bool) : ClientTasks :=
  let s' := (s.setState s.current ConnectionState.authenticated).start
    (.readLoop s.current) |>.start .heartbeatLoop
  let s' := { s' with
    readTask := some s.tasks.length
    heartbeatTask := some (s.tasks.length + 1) }
  if retry then s'.closeReturned t task else s'.resume t task.owner

/-- {lit}`_establish_connection` raises: {lit}`_reconnect` tries again while the
client is running, a redirect logs the failure. -/
def establishFailed (s : ClientTasks) (t : Nat) (task : ClientTask)
    (retry : Bool) : ClientTasks :=
  if retry then
    if s.running then s.goTo t .backoff else s.closeReturned t task
  else s.resume t task.owner

/-- The task a handle names, if it has not ended. -/
def live (s : ClientTasks) (handle : Option Nat) : Option Nat :=
  handle.filter fun t =>
    (s.tasks[t]?).any fun task => task.pc ≠ TaskPc.ended

/-- {lit}`disconnect` from the read task on. -/
def stopRead (s : ClientTasks) (t : Nat) (task : ClientTask) : ClientTasks :=
  match s.live s.readTask with
  | some r => (s.goTo t .stoppingRead).goTo r .ended
  | none => s.close t s.current task

/-- {lit}`disconnect` from the heartbeat task on. -/
def stopHeartbeat (s : ClientTasks) (t : Nat) (task : ClientTask) :
    ClientTasks :=
  match s.live s.heartbeatTask with
  | some h => (s.goTo t .stoppingHeartbeat).goTo h .ended
  | none => s.stopRead t task

def wake (autoReconnect : Bool) (s : ClientTasks) (t : Nat)
    (task : ClientTask) : Option ClientTasks :=
  match task.pc with
  | .looping =>
      match task.owner with
      | .heartbeatLoop =>
          if s.running && s.isConnected s.current then some (s.goTo t .resting)
          else some (s.goTo t .ended)
      | owner => some (s.resume t owner)
  | .resting =>
      match task.owner with
      | .heartbeatLoop =>
          if s.isConnected s.current then
            some (s.goTo t (.sending s.current))
          else some (s.goTo t .ended)
      | _ => none
  | .sending _ =>
      match task.owner with
      | .heartbeatLoop => some (s.goTo t .looping)
      | _ => some (s.goTo t .ended)
  | .graceful => some (s.close t s.current task)
  | .closing c => some (s.closed autoReconnect t c task)
  -- nothing is read again after the back-off
  | .backoff => some (s.establish t true)
  | .opening retry c => some (s.opened t c retry)
  | .handshaking retry =>
      if (s.connections[s.current]?).any fun c => c.isOpen then
        some (s.established t task retry)
      else none
  | .stoppingHeartbeat => some (s.stopRead t task)
  | .stoppingRead => some (s.close t s.current task)
  | .ended => none

def fails (s : ClientTasks) (t : Nat) (task : ClientTask) :
    Option ClientTasks :=
  match task.pc with
  | .resting =>
      match task.owner with
      | .readLoop c => some (s.close t c task)
      | _ => none
  | .sending c => some (s.close t c task)
  | .opening retry _ => some (s.establishFailed t task retry)
  | .handshaking retry => some (s.establishFailed t task retry)
  | _ => none

def redirect (s : ClientTasks) (t : Nat) (task : ClientTask) :
    Option ClientTasks :=
  match task.owner, task.pc with
  | .readLoop _, .resting =>
      some { s with
        tasks := s.tasks.modify t fun task =>
          { task with migrating := true, pc := TaskPc.graceful } }
  | _, _ => none

def connect (s : ClientTasks) : ClientTasks :=
  if s.running then { s with disconnected := false }
  else
    { s with running := true, disconnected := false }.start .connect
      |>.establish s.tasks.length false

def disconnect (s : ClientTasks) : ClientTasks :=
  { s with running := false }.start .disconnect
    |>.stopHeartbeat s.tasks.length { owner := TaskOwner.disconnect }

def request (s : ClientTasks) : Option ClientTasks :=
  if (s.connections[s.current]?).any
      fun c => c.state = ConnectionState.authenticated then
    some ((s.start .request).goTo s.tasks.length (.sending s.current))
  else none

def next (autoReconnect : Bool) (s : ClientTasks) :
    ClientTaskEvent -> Option ClientTasks
  | .connect => some s.connect
  | .disconnect => some s.disconnect
  | .request => s.request
  | .redirect t => (s.tasks[t]?).bind (s.redirect t)
  | .wake t => (s.tasks[t]?).bind (s.wake autoReconnect t)
  | .fails t => (s.tasks[t]?).bind (s.fails t)

def Step (autoReconnect : Bool) :
    ClientTasks -> ClientTaskEvent -> ClientTasks -> Prop :=
  StepOf (next autoReconnect)

end ClientTasks

end Client
end Hmmp
