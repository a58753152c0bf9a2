import Hmmp.Client.ChangeDispatch
import Hmmp.Client.NoticeBodies
import Hmmp.Foundation.Broadcast

/-!
# Notifications

A connected client whose read loop hands each frame to the router and waits
while the handlers of a notification are awaited one after another.  Meanwhile
other tasks register handlers, requests come and go, and the connection may be
lost.
-/

namespace Hmmp
namespace Client

open Foundation
open Wire
open Connection
open Models
open Security

/-- What a notification handler of the client hands to registered handlers. -/
inductive Notification where
  | service (snapshot : ServiceSnapshot UInt32)
  | config (notification : ConfigChangedNotification)
  | shutdown (notice : ShutdownNotice)
  | redirect (redirect : RedirectInfo)

/-- What handlers are registered for. -/
inductive Topic where
  | service (serviceName : Text)
  | config (key : Text)
  | shutdown
  | redirect
  deriving DecidableEq

def Notification.topic : Notification -> Topic
  | service snapshot => .service snapshot.serviceName
  | config notification => .config (notificationKey notification)
  | shutdown _ => .shutdown
  | redirect _ => .redirect

/-- The handlers registered with a client. -/
structure ClientHandlers where
  serviceChange : Dict Text (List HandlerId) := Dict.empty
  configChange : ConfigChangeHandlers := Dict.empty
  shutdown : List HandlerId := []
  redirect : List HandlerId := []

namespace ClientHandlers

/-- The handlers of a topic, in the order of their registration. -/
def of (h : ClientHandlers) : Topic -> List HandlerId
  | .service serviceName => underKey h.serviceChange serviceName
  | .config key => underKey h.configChange key
  | .shutdown => h.shutdown
  | .redirect => h.redirect

def onServiceChange (h : ClientHandlers) (serviceName : Text)
    (handler : HandlerId) : ClientHandlers :=
  let prepared :=
    if (h.serviceChange.get? serviceName).isNone then
      h.serviceChange.set serviceName []
    else h.serviceChange
  { h with
    serviceChange := prepared.set serviceName
      ((prepared.get? serviceName).getD [] ++ [handler]) }

def onConfigChange (config : ClientConfig) (h : ClientHandlers)
    (r : Registration) : ClientHandlers :=
  { h with configChange := Client.onConfigChange config h.configChange r }

def onShutdown (h : ClientHandlers) (handler : HandlerId) : ClientHandlers :=
  { h with shutdown := h.shutdown ++ [handler] }

def onRedirect (h : ClientHandlers) (handler : HandlerId) : ClientHandlers :=
  { h with redirect := h.redirect ++ [handler] }

end ClientHandlers

/-- What the handling of a frame depends on and does not change. -/
structure PushSetting where
  config : ClientConfig
  lib : IpLib
  crypto : CryptoLib
  cek : Bytes

namespace PushSetting

def readServiceChanged (env : PushSetting) (frame : Frame) :
    Except PyError (Option Notification) := do
  let snapshot ← ServiceSnapshot.fromBytes env.lib frame.body
  pure (some (.service snapshot))

def readConfigBody (body : Bytes) : Except PyError (Option Notification) := do
  let notification ← ConfigChangedNotification.fromBytes body
  pure (some (.config notification))

/-- A notification that cannot be decrypted is logged and dropped. -/
def readConfigChanged (env : PushSetting) (frame : Frame) :
    Except PyError (Option Notification) :=
  if frame.header.isEncrypted && !env.cek.isEmpty then
    match decryptConfigBody env.crypto frame.body env.cek frame.streamId
      OpCode.configChangedNotify.code with
    | Except.ok body => readConfigBody body
    | Except.error (PyError.decryptionError _) => pure none
    | Except.error e => throw e
  else readConfigBody frame.body

def readShutdownNotice (frame : Frame) :
    Except PyError (Option Notification) := do
  let notice ← ShutdownNotice.fromBytes frame.body
  pure (some (.shutdown notice))

def readRedirect (env : PushSetting) (frame : Frame) :
    Except PyError (Option Notification) := do
  let redirect ← RedirectInfo.fromBytes env.lib frame.body
  pure (some (.redirect redirect))

/-- What a notification handler reads from a frame before it calls the handlers
that are registered. -/
def notificationOf (env : PushSetting) (frame : Frame) :
    NotifyHandler -> Except PyError (Option Notification)
  | .serviceChanged => env.readServiceChanged frame
  | .configChanged => env.readConfigChanged frame
  | .shutdownNotice => readShutdownNotice frame
  | .redirect => env.readRedirect frame

end PushSetting

def NotifyHandler.ofId : HandlerId -> Option NotifyHandler
  | 0 => some serviceChanged
  | 1 => some configChanged
  | 2 => some shutdownNotice
  | 3 => some redirect
  | _ => none

/-- The notification handler among those the router awaits. -/
def awaitedHandler (calls : List HandlerCall) : Option NotifyHandler :=
  calls.findSome? fun call =>
    match call with
    | .notifyHandler handler => NotifyHandler.ofId handler
    | .globalHandler _ => none

/-- Where the read loop is: between two frames, in a registered handler, in the
migration that follows a redirect, or over. -/
inductive PushPhase where
  | reading
  | notifying (notification : Notification) (position : Nat)
  | migrating (redirect : RedirectInfo)
  | ended

structure PushClient where
  connected : Bool := true
  phase : PushPhase := .reading
  router : FrameRouter := registerNotifyHandlers {}
  handlers : ClientHandlers := {}
  calls : List (ListenerCall HandlerId Notification) := []
  logged : List PyError := []

inductive PushEvent where
  | onServiceChange (serviceName : Text) (handler : HandlerId)
  | onConfigChange (registration : Registration)
  | onShutdown (handler : HandlerId)
  | onRedirect (handler : HandlerId)
  | receive (frame : Frame)
  | returned (outcome : Except PyError Unit)
  | registerRequest (streamId : Nat)
  | cancel (future : FutureId)
  | cancelRequest (streamId : Nat)
  | lose

namespace PushClient

/-- What follows when the registered handlers are done. -/
def afterHandlers : Notification -> PushPhase
  | .redirect redirect => .migrating redirect
  | _ => .reading

/-- The handlers of a notification from a position on: the list of them is
looked at again for each. -/
def passOn (s : PushClient) (notification : Notification) (position : Nat) :
    PushClient :=
  match (s.handlers.of notification.topic)[position]? with
  | some handler =>
      { s with
        phase := .notifying notification position
        calls := s.calls ++
          [{ position := position
             listener := handler
             message := notification }] }
  | none => { s with phase := afterHandlers notification }

/-- The read loop hands a frame to the router, whose exception ends it.  What a
notification handler raises the router logs. -/
def receive (env : PushSetting) (s : PushClient) (frame : Frame) :
    PushClient :=
  match s.router.routeFrame frame with
  | .error _ => { s with connected := false, phase := .ended }
  | .ok (calls, router) =>
      match awaitedHandler calls with
      | none => { s with router := router }
      | some handler =>
          match env.notificationOf frame handler with
          | .ok (some notification) =>
              { s with router := router }.passOn notification 0
          | .ok none => { s with router := router }
          | .error e => { s with router := router, logged := s.logged ++ [e] }

def logOutcome (s : PushClient) : Except PyError Unit -> PushClient
  | .ok () => s
  | .error e => { s with logged := s.logged ++ [e] }

def next (env : PushSetting) (s : PushClient) :
    PushEvent -> Option PushClient
  | .onServiceChange serviceName handler =>
      some { s with handlers := s.handlers.onServiceChange serviceName handler }
  | .onConfigChange r =>
      some { s with handlers := s.handlers.onConfigChange env.config r }
  | .onShutdown handler =>
      some { s with handlers := s.handlers.onShutdown handler }
  | .onRedirect handler =>
      some { s with handlers := s.handlers.onRedirect handler }
  | .receive frame =>
      match s.phase with
      | .reading => if s.connected then some (s.receive env frame) else none
      | _ => none
  | .returned outcome =>
      match s.phase with
      | .notifying notification position =>
          some ((s.logOutcome outcome).passOn notification (position + 1))
      | _ => none
  | .registerRequest streamId =>
      some { s with router := (s.router.registerRequest streamId).2 }
  | .cancel future =>
      some { s with router := s.router.settle future .cancelled }
  | .cancelRequest streamId =>
      some { s with router := s.router.cancelRequest streamId }
  | .lose => some { s with connected := false }

def run (env : PushSetting) (s : PushClient) (events : List PushEvent) :
    Option PushClient :=
  events.foldlM (next env) s

end PushClient

end Client
end Hmmp
