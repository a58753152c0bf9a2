import Hmmp.Client.Config
import Hmmp.Foundation.Transition
import Hmmp.Wire.IpAddress

/-!
# Redirects

The read loop of a connection hands a frame to the router and waits until the
router returns.  The handler of a redirect, which the router awaits, sleeps for
the graceful period and then closes the connection, so no frame that stands
behind the redirect is read before the connection is closed.
-/

namespace Hmmp

namespace Models

open Foundation
open Wire

structure RedirectInfo where
  sequenceNumber : Nat
  reason : Nat
  gracefulWaitMs : Nat
  targetIp : Text
  targetPort : Nat

namespace RedirectInfo

def read (lib : IpLib) : Reading RedirectInfo := do
  let sequenceNumber ← BinaryReader.readU32
  let reason ← BinaryReader.readU8
  let gracefulWaitMs ← BinaryReader.readU16
  let targetIpType ← IpType.ofCode (← BinaryReader.readU8)
  let targetPort ← BinaryReader.readU16
  let targetIpBytes ← BinaryReader.readBytes targetIpType.width
  pure
    { sequenceNumber := sequenceNumber
      reason := reason
      gracefulWaitMs := gracefulWaitMs
      targetIp := bytesToIp lib targetIpBytes targetIpType
      targetPort := targetPort }

def fromBytes (lib : IpLib) (data : Bytes) : Except PyError RedirectInfo := do
  let (redirect, _) ← (read lib).run (BinaryReader.new data)
  pure redirect

end RedirectInfo

end Models

namespace Client

open Foundation
open Wire
open Connection
open Models

/-- Where the read loop is: between two frames, inside the handler of a
redirect, or over. -/
inductive LoopPhase where
  | reading
  | notifying (redirect : RedirectInfo)
  | sleeping (redirect : RedirectInfo) (wakeAt : Rat)
  | migrating
  | ended

/-- A frame that has arrived completely, and when. -/
structure Arrival where
  frame : Frame
  at_ : Rat

/--
An authenticated client whose connection receives frames.  The read loop has
handed the first {lit}`routed` arrivals to the router.
-/
structure RedirectedClient where
  clock : Rat := 0
  connected : Bool := true
  phase : LoopPhase := .reading
  arrived : List Arrival := []
  routed : Nat := 0
  router : FrameRouter := {}
  target : Option (Text × Nat) := none
  migratedAt : Option Rat := none

inductive RedirectEvent where
  | tick (elapsed : Rat)
  | arrive (frame : Frame)
  | read
  | handlersDone
  | wake
  | migrated
  | register (streamId : Nat)
  | cancel (future : FutureId)
  | cancelRequest (streamId : Nat)
  | lose

namespace RedirectedClient

/-- The handler of a redirect is among those the router awaits. -/
def redirects (calls : List HandlerCall) : Bool :=
  calls.contains (.notifyHandler NotifyHandler.redirect.id)

/-- The phase of the loop once the router has begun to handle the frame.  A
redirect that cannot be parsed is logged and dropped by the router. -/
def phaseAfter (lib : IpLib) (calls : List HandlerCall) (frame : Frame) :
    LoopPhase :=
  if redirects calls then
    match RedirectInfo.fromBytes lib frame.body with
    | .ok redirect => .notifying redirect
    | .error _ => .reading
  else
    .reading

/-- The loop takes the next arrival and hands it to the router; an exception of
the router ends the loop and closes the connection. -/
def readNext (lib : IpLib) (s : RedirectedClient) (arrival : Arrival) :
    RedirectedClient :=
  match s.router.routeFrame arrival.frame with
  | .ok (calls, router) =>
      { s with
        routed := s.routed + 1
        router := router
        phase := phaseAfter lib calls arrival.frame }
  | .error _ =>
      { s with
        routed := s.routed + 1
        connected := false
        phase := .ended }

/-- The graceful sleep is over: take over the target and close the
connection. -/
def migrate (s : RedirectedClient) (redirect : RedirectInfo) :
    RedirectedClient :=
  { s with
    target := some (redirect.targetIp, redirect.targetPort)
    connected := false
    migratedAt := if s.connected then some s.clock else s.migratedAt
    phase := .migrating }

def next (lib : IpLib) (s : RedirectedClient) :
    RedirectEvent -> Option RedirectedClient
  | .tick elapsed =>
      if 0 <= elapsed then some { s with clock := s.clock + elapsed } else none
  | .arrive frame =>
      if s.connected then
        some { s with
          arrived := s.arrived ++ [{ frame := frame, at_ := s.clock }] }
      else none
  | .read =>
      match s.phase with
      | .reading =>
          if s.connected then (s.arrived[s.routed]?).map (readNext lib s)
          else none
      | _ => none
  | .handlersDone =>
      match s.phase with
      | .notifying redirect =>
          some { s with
            phase := .sleeping redirect (s.clock + redirect.gracefulWaitMs) }
      | _ => none
  | .wake =>
      match s.phase with
      | .sleeping redirect wakeAt =>
          if wakeAt <= s.clock then some (s.migrate redirect) else none
      | _ => none
  | .migrated =>
      match s.phase with
      | .migrating => some { s with phase := .ended }
      | _ => none
  | .register streamId =>
      some { s with router := (s.router.registerRequest streamId).2 }
  -- a timer, or the task that is cancelled, cancels the future it waits on
  | .cancel future =>
      some { s with router := s.router.settle future .cancelled }
  | .cancelRequest streamId =>
      some { s with router := s.router.cancelRequest streamId }
  | .lose =>
      some { s with
        connected := false
        phase :=
          match s.phase with
          | .reading => .ended
          | phase => phase }

def Step (lib : IpLib) :
    RedirectedClient -> RedirectEvent -> RedirectedClient -> Prop :=
  StepOf (next lib)

end RedirectedClient

end Client
end Hmmp
