import Hmmp.Connection.Connection
import Hmmp.Connection.Router

/-!
# Client configuration

The settings of a client and the notification handlers it registers on every
new connection.
-/

namespace Hmmp
namespace Client

open Foundation
open Wire
open Connection

structure ClientConfig where
  clientId : Text
  accessKey : Text := []
  secretKey : Text := []
  tenant : Text := text "public"
  autoReconnect : Bool := true
  useNonceChallenge : Bool := true
  configEncrypt : Bool := false
  configCipherSuites : List Text := [text "AES-256-GCM"]
  canaryLabels : Dict Text Text := Dict.empty
  labels : Dict Text Text := Dict.empty

/-- The notification handlers of a client. -/
inductive NotifyHandler where
  | serviceChanged
  | configChanged
  | shutdownNotice
  | redirect
  deriving Repr, DecidableEq

namespace NotifyHandler

def id : NotifyHandler -> HandlerId
  | serviceChanged => 0
  | configChanged => 1
  | shutdownNotice => 2
  | redirect => 3

end NotifyHandler

/-- The handlers registered while a connection is established. -/
def registerNotifyHandlers (r : FrameRouter) : FrameRouter :=
  (((r.registerNotifyHandler OpCode.serviceChangedNotify
        NotifyHandler.serviceChanged.id).registerNotifyHandler
      OpCode.configChangedNotify
        NotifyHandler.configChanged.id).registerNotifyHandler
      OpCode.instanceShutdownPrepareNotice
        NotifyHandler.shutdownNotice.id).registerNotifyHandler
      OpCode.clusterNodeRedirectNotify NotifyHandler.redirect.id

@[simp] theorem registerNotifyHandlers_pendingRequests (r : FrameRouter) :
    (registerNotifyHandlers r).pendingRequests = r.pendingRequests := rfl

@[simp] theorem registerNotifyHandlers_futures (r : FrameRouter) :
    (registerNotifyHandlers r).futures = r.futures := rfl

end Client
end Hmmp
