import Hmmp.Client.Notifications
import Hmmp.Connection.ReadLoop

/-!
# Delivery of notifications

What a client does with notifications is a broadcast: handlers subscribe to
topics, and a frame that carries a notification publishes it.  So a registered
handler gets every notification of its topic that is received after its
registration, and the one that is being handled then, each once and in their
order, whatever other handlers raise and whatever else happens.
-/

namespace Hmmp
namespace Client

open Foundation
open Wire
open Connection
open Models
open Security

/-!
# Routing of notifications
-/

/-- The router is as the client has set it up, but for requests. -/
structure Prepared (r : FrameRouter) : Prop where
  notify : r.notifyHandlers = (registerNotifyHandlers {}).notifyHandlers
  globals : r.globalHandlers = []

namespace Prepared

variable {r : FrameRouter}

theorem settle (h : Prepared r) (id : FutureId) (outcome : FutureState) :
    Prepared (r.settle id outcome) := by
  unfold FrameRouter.settle
  split
  · exact ⟨h.notify, h.globals⟩
  · exact h

theorem finish (h : Prepared r) (streamId : Nat) (outcome : FutureState) :
    Prepared (r.finish streamId outcome) := by
  unfold FrameRouter.finish
  split
  · exact h
  · have hpopped : Prepared
        { r with pendingRequests := r.pendingRequests.pop streamId } :=
      ⟨h.notify, h.globals⟩
    exact hpopped.settle _ _

theorem routeFrame (h : Prepared r) {frame : Frame} {r' : FrameRouter}
    {calls : List HandlerCall} (hrouted : r.routeFrame frame = .ok (calls, r')) :
    Prepared r' := by
  rcases FrameRouter.routeFrame_cases hrouted with rfl | rfl
  · exact h
  · exact h.finish _ _

theorem routeFrame_calls (h : Prepared r) (frame : Frame) :
    (r.routeFrame frame).map Prod.fst =
      ((registerNotifyHandlers {}).routeFrame frame).map Prod.fst := by
  unfold FrameRouter.routeFrame
  have hnotified : r.notifyHandlerOf frame =
      (registerNotifyHandlers {}).notifyHandlerOf frame := by
    unfold FrameRouter.notifyHandlerOf
    rw [h.notify]
  rw [h.globals, hnotified]
  by_cases hzero : frame.streamId = 0
  · rw [if_pos hzero, if_pos hzero]
    cases (registerNotifyHandlers {}).notifyHandlerOf frame with
    | error e => rfl
    | ok calls => rfl
  · rw [if_neg hzero, if_neg hzero]
    rfl

end Prepared

/-- The notification that a frame carries, if it is one that the client hands
to registered handlers. -/
def PushSetting.pushOf (env : PushSetting) (frame : Frame) :
    Option Notification :=
  match ((registerNotifyHandlers {}).routeFrame frame).map Prod.fst with
  | .error _ => none
  | .ok calls =>
      match awaitedHandler calls with
      | none => none
      | some handler =>
          match env.notificationOf frame handler with
          | .ok notification => notification
          | .error _ => none

/-!
# The client as a broadcaster
-/

def PushPhase.inHand : PushPhase -> Option (Notification × Nat)
  | notifying notification position => some (notification, position)
  | _ => none

namespace PushClient

/-- What the client is for those who register handlers. -/
def broadcaster (s : PushClient) : Broadcaster Topic HandlerId Notification where
  listeners := s.handlers.of
  inHand := s.phase.inHand
  calls := s.calls

theorem passOn_broadcaster (s : PushClient) (notification : Notification)
    (position : Nat) :
    (s.passOn notification position).broadcaster =
      s.broadcaster.passOn Notification.topic notification position := by
  have hlisteners : s.broadcaster.listeners = s.handlers.of := rfl
  unfold passOn Broadcaster.passOn
  rw [hlisteners]
  cases (s.handlers.of notification.topic)[position]? with
  | some handler => rfl
  | none => cases notification <;> rfl

theorem passOn_router (s : PushClient) (notification : Notification)
    (position : Nat) : (s.passOn notification position).router = s.router := by
  unfold passOn
  split <;> rfl

end PushClient

namespace ClientHandlers

theorem of_onServiceChange (h : ClientHandlers) (serviceName : Text)
    (handler : HandlerId) (t : Topic) :
    (h.onServiceChange serviceName handler).of t =
      if t = .service serviceName then h.of t ++ [handler] else h.of t := by
  cases t with
  | service name =>
      have hnew := underKey_new h.serviceChange serviceName
      unfold onServiceChange of
      simp only
      generalize (if (h.serviceChange.get? serviceName).isNone then
        h.serviceChange.set serviceName [] else h.serviceChange) =
          prepared at hnew ⊢
      show ((prepared.set serviceName
        (underKey prepared serviceName ++ [handler])).get? name).getD [] = _
      rw [Dict.get?_set]
      by_cases hname : name = serviceName
      · subst hname
        rw [if_pos rfl, if_pos rfl, Option.getD_some, hnew]
      · rw [if_neg hname, if_neg (by simpa using hname)]
        exact hnew name
  | config key => rw [if_neg (by simp)]; rfl
  | shutdown => rw [if_neg (by simp)]; rfl
  | redirect => rw [if_neg (by simp)]; rfl

theorem of_onConfigChange (config : ClientConfig) (h : ClientHandlers)
    (r : Registration) (t : Topic) :
    (h.onConfigChange config r).of t =
      if t = .config (r.id config).key then h.of t ++ [r.handler]
      else h.of t := by
  cases t with
  | config key =>
      show underKey (Client.onConfigChange config h.configChange r) key = _
      rw [underKey_onConfigChange]
      by_cases hkey : key = (r.id config).key
      · rw [if_pos hkey, if_pos (by rw [hkey])]
        rfl
      · rw [if_neg hkey, if_neg (by simpa using hkey)]
        rfl
  | service name => rw [if_neg (by simp)]; rfl
  | shutdown => rw [if_neg (by simp)]; rfl
  | redirect => rw [if_neg (by simp)]; rfl

theorem of_onShutdown (h : ClientHandlers) (handler : HandlerId) (t : Topic) :
    (h.onShutdown handler).of t =
      if t = .shutdown then h.of t ++ [handler] else h.of t := by
  cases t with
  | shutdown => rfl
  | service name => rw [if_neg (by simp)]; rfl
  | config key => rw [if_neg (by simp)]; rfl
  | redirect => rw [if_neg (by simp)]; rfl

theorem of_onRedirect (h : ClientHandlers) (handler : HandlerId) (t : Topic) :
    (h.onRedirect handler).of t =
      if t = .redirect then h.of t ++ [handler] else h.of t := by
  cases t with
  | redirect => rfl
  | service name => rw [if_neg (by simp)]; rfl
  | config key => rw [if_neg (by simp)]; rfl
  | shutdown => rw [if_neg (by simp)]; rfl

end ClientHandlers

namespace PushEvent

def subscription (env : PushSetting) : PushEvent -> Option (Topic × HandlerId)
  | onServiceChange serviceName handler => some (.service serviceName, handler)
  | onConfigChange r => some (.config (r.id env.config).key, r.handler)
  | onShutdown handler => some (.shutdown, handler)
  | onRedirect handler => some (.redirect, handler)
  | _ => none

/-- The frame that is received. -/
def received : PushEvent -> Option Frame
  | receive frame => some frame
  | _ => none

/-- What an event is for the broadcaster. -/
def broadcast (env : PushSetting) (event : PushEvent) :
    List (BroadcastEvent Topic HandlerId Notification) :=
  match event with
  | returned _ => [.returned]
  | receive frame => (env.pushOf frame).toList.map .publish
  | event => (event.subscription env).toList.map fun subscription =>
      .subscribe subscription.1 subscription.2

end PushEvent

namespace PushClient

variable {env : PushSetting} {s s' : PushClient}

theorem receive_broadcaster (env : PushSetting)
    (hprepared : Prepared s.router) (hreading : s.phase = .reading)
    (frame : Frame) :
    Prepared (s.receive env frame).router ∧
      (s.receive env frame).broadcaster =
        (env.pushOf frame).elim s.broadcaster fun notification =>
          s.broadcaster.passOn Notification.topic notification 0 := by
  have hcalls := hprepared.routeFrame_calls frame
  unfold receive PushSetting.pushOf
  rw [← hcalls]
  cases hrouted : s.router.routeFrame frame with
  | error e =>
      refine ⟨hprepared, ?_⟩
      unfold broadcaster
      rw [hreading]
      rfl
  | ok pair =>
      rcases pair with ⟨calls, router⟩
      have hrouter := hprepared.routeFrame hrouted
      simp only [Except.map]
      cases awaitedHandler calls with
      | none => exact ⟨hrouter, rfl⟩
      | some handler =>
          simp only
          cases env.notificationOf frame handler with
          | error e => exact ⟨hrouter, rfl⟩
          | ok notification =>
              cases notification with
              | none => exact ⟨hrouter, rfl⟩
              | some notification =>
                  simp only
                  rw [passOn_router, passOn_broadcaster]
                  exact ⟨hrouter, rfl⟩

theorem subscribe_broadcaster {topic : Topic} {handler : HandlerId}
    {handlers : ClientHandlers}
    (h : forall t, handlers.of t =
      if t = topic then s.handlers.of t ++ [handler] else s.handlers.of t) :
    s.broadcaster.run Notification.topic [.subscribe topic handler] =
      some { s with handlers := handlers }.broadcaster := by
  show some _ = some _
  congr 1
  unfold broadcaster Broadcaster.subscribe
  congr 1
  funext t
  exact (h t).symm

theorem next_broadcaster (hprepared : Prepared s.router) {event : PushEvent}
    (hstep : s.next env event = some s') :
    Prepared s'.router ∧
      s.broadcaster.run Notification.topic (event.broadcast env) =
        some s'.broadcaster := by
  cases event with
  | onServiceChange serviceName handler =>
      injection hstep with hstep
      subst hstep
      exact ⟨hprepared, subscribe_broadcaster
        (s.handlers.of_onServiceChange serviceName handler)⟩
  | onConfigChange r =>
      injection hstep with hstep
      subst hstep
      exact ⟨hprepared, subscribe_broadcaster
        (s.handlers.of_onConfigChange env.config r)⟩
  | onShutdown handler =>
      injection hstep with hstep
      subst hstep
      exact ⟨hprepared, subscribe_broadcaster
        (s.handlers.of_onShutdown handler)⟩
  | onRedirect handler =>
      injection hstep with hstep
      subst hstep
      exact ⟨hprepared, subscribe_broadcaster
        (s.handlers.of_onRedirect handler)⟩
  | receive frame =>
      cases hphase : s.phase with
      | reading =>
          simp only [next, hphase, Option.ite_none_right_eq_some] at hstep
          rcases hstep with ⟨hconnected, hstep⟩
          injection hstep with hstep
          subst hstep
          rcases receive_broadcaster env hprepared hphase frame with
            ⟨hrouter, hbroadcaster⟩
          refine ⟨hrouter, ?_⟩
          rw [hbroadcaster]
          have hinHand : s.broadcaster.inHand = none := by
            unfold broadcaster
            rw [hphase]
            rfl
          show s.broadcaster.run Notification.topic
            ((env.pushOf frame).toList.map .publish) = _
          cases env.pushOf frame with
          | none => rfl
          | some notification =>
              simp [Broadcaster.run, Broadcaster.next, hinHand]
      | notifying notification position =>
          simp [next, hphase] at hstep
      | migrating redirect => simp [next, hphase] at hstep
      | ended => simp [next, hphase] at hstep
  | returned outcome =>
      cases hphase : s.phase with
      | notifying notification position =>
          simp only [next, hphase, Option.some.injEq] at hstep
          subst hstep
          have hsame : (s.logOutcome outcome).broadcaster = s.broadcaster := by
            cases outcome <;> rfl
          have hrouter : (s.logOutcome outcome).router = s.router := by
            cases outcome <;> rfl
          rw [passOn_router, passOn_broadcaster, hsame, hrouter]
          refine ⟨hprepared, ?_⟩
          have hinHand : s.broadcaster.inHand =
              some (notification, position) := by
            unfold broadcaster
            rw [hphase]
            rfl
          simp [PushEvent.broadcast, Broadcaster.run, Broadcaster.next, hinHand]
      | reading => simp [next, hphase] at hstep
      | migrating redirect => simp [next, hphase] at hstep
      | ended => simp [next, hphase] at hstep
  | registerRequest streamId =>
      injection hstep with hstep
      subst hstep
      exact ⟨⟨hprepared.notify, hprepared.globals⟩, rfl⟩
  | cancel future =>
      injection hstep with hstep
      subst hstep
      exact ⟨hprepared.settle future .cancelled, rfl⟩
  | cancelRequest streamId =>
      injection hstep with hstep
      subst hstep
      exact ⟨hprepared.finish streamId .cancelled, rfl⟩
  | lose =>
      injection hstep with hstep
      subst hstep
      exact ⟨hprepared, rfl⟩

theorem run_append {events others : List PushEvent} :
    s.run env (events ++ others) = some s' <->
      exists mid, s.run env events = some mid ∧
        mid.run env others = some s' := by
  unfold run
  rw [List.foldlM_append]
  exact Option.bind_eq_some_iff

/-- A run of the client is one of the broadcaster. -/
theorem run_broadcaster (hprepared : Prepared s.router)
    {events : List PushEvent} (hrun : s.run env events = some s') :
    Prepared s'.router ∧
      s.broadcaster.run Notification.topic
        (events.flatMap (PushEvent.broadcast env)) = some s'.broadcaster := by
  induction events generalizing s with
  | nil =>
      injection hrun with hrun
      subst hrun
      exact ⟨hprepared, rfl⟩
  | cons event events ih =>
      unfold run at hrun
      rw [List.foldlM_cons] at hrun
      rcases Option.bind_eq_some_iff.mp hrun with ⟨mid, hstep, hrest⟩
      rcases next_broadcaster hprepared hstep with ⟨hmid, hbroadcast⟩
      rcases ih hmid hrest with ⟨hrouter, hothers⟩
      refine ⟨hrouter, ?_⟩
      rw [List.flatMap_cons]
      exact Broadcaster.run_append_eq_some.mpr ⟨_, hbroadcast, hothers⟩

/-!
# What a handler hears
-/

theorem broadcast_subscription {event : PushEvent} {topic : Topic}
    {handler : HandlerId}
    (h : event.subscription env = some (topic, handler)) :
    event.broadcast env = [.subscribe topic handler] := by
  cases event with
  | onServiceChange _ _ | onConfigChange _ | onShutdown _ | onRedirect _ =>
      injection h with h
      injection h with htopic hhandler
      subst htopic
      subst hhandler
      rfl
  | receive _ | returned _ | registerRequest _ | cancel _ | cancelRequest _
  | lose =>
      cases h

theorem published_broadcast (env : PushSetting) (topic : Topic)
    (events : List PushEvent) :
    Broadcaster.published Notification.topic topic
        (events.flatMap (PushEvent.broadcast env)) =
      ((events.filterMap PushEvent.received).filterMap env.pushOf).filter
        fun notification => decide (notification.topic = topic) := by
  induction events with
  | nil => rfl
  | cons event events ih =>
      cases event with
      | receive frame =>
          rw [show (PushEvent.receive frame :: events).filterMap PushEvent.received =
            frame :: events.filterMap PushEvent.received from rfl]
          cases hpush : env.pushOf frame with
          | none =>
              rw [List.filterMap_cons_none hpush, ← ih, List.flatMap_cons]
              simp [PushEvent.broadcast, hpush]
          | some notification =>
              rw [List.filterMap_cons_some hpush, List.filter_cons, ← ih,
                List.flatMap_cons]
              by_cases htopic : notification.topic = topic
              · simp [PushEvent.broadcast, hpush, Broadcaster.published, htopic]
              · simp [PushEvent.broadcast, hpush, Broadcaster.published, htopic]
      | onServiceChange _ _ | onConfigChange _ | onShutdown _ | onRedirect _
      | returned _ | registerRequest _ | cancel _ | cancelRequest _ | lose =>
          exact ih

theorem start_sound :
    Broadcaster.Sound Notification.topic (broadcaster {}) where
  called call hcall := absurd hcall List.not_mem_nil
  inHand _ _ h := by cases h
  chained := List.isChain_nil

/-- The calls of the handler at a position of a topic, and the notification it
is about to be called with. -/
def heard (topic : Topic) (position : Nat) (s : PushClient) :
    List Notification :=
  Broadcaster.heardAt Notification.topic topic position s.broadcaster ++
    Broadcaster.awaitedAt Notification.topic topic position s.broadcaster

/-- The notification of a topic that is being handled. -/
def handling (topic : Topic) (s : PushClient) : List Notification :=
  Broadcaster.inHandOf Notification.topic topic s.broadcaster

theorem registered_run {before after : List PushEvent}
    {registration : PushEvent} {topic : Topic} {handler : HandlerId}
    (hregisters : registration.subscription env = some (topic, handler))
    (hrun : run env {} (before ++ registration :: after) = some s) :
    exists mid, run env {} before = some mid ∧
      Broadcaster.Sound Notification.topic mid.broadcaster ∧
      mid.broadcaster.run Notification.topic
        (.subscribe topic handler ::
          after.flatMap (PushEvent.broadcast env)) = some s.broadcaster := by
  rcases run_append.mp hrun with ⟨mid, hbefore, hrest⟩
  rcases run_broadcaster ⟨rfl, rfl⟩ hbefore with ⟨hprepared, hmid⟩
  rcases run_broadcaster hprepared hrest with ⟨_, hafter⟩
  rw [List.flatMap_cons, broadcast_subscription hregisters,
    List.singleton_append] at hafter
  exact ⟨mid, hbefore, Broadcaster.run_sound start_sound hmid, hafter⟩

/-- Whatever happens around it, a handler that is registered hears the
notification of its topic that is being handled and then those of the frames
received since, in their order and once each, and its place in the list of its
topic stays its own.  Handlers are called one after another in the order of
their registration, with one notification at a time. -/
theorem notifications_heard (env : PushSetting) (before after : List PushEvent)
    (registration : PushEvent) (topic : Topic) (handler : HandlerId)
    (s : PushClient)
    (hregisters : registration.subscription env = some (topic, handler))
    (hrun : run env {} (before ++ registration :: after) = some s) :
    exists mid, run env {} before = some mid ∧
      s.heard topic (mid.handlers.of topic).length =
        mid.handling topic ++
          ((after.filterMap PushEvent.received).filterMap env.pushOf).filter
            (fun notification => decide (notification.topic = topic)) ∧
      (forall call, call ∈ s.calls -> call.message.topic = topic ->
        call.position = (mid.handlers.of topic).length ->
          call.listener = handler) ∧
      s.calls.IsChain Broadcaster.Follows := by
  rcases registered_run hregisters hrun with ⟨mid, hbefore, hsound, hafter⟩
  have hlast := Broadcaster.run_sound hsound hafter
  refine ⟨mid, hbefore, ?_, ?_, hlast.chained⟩
  · rw [← published_broadcast]
    exact Broadcaster.heard_since hsound hafter
  · intro call hcall htopic hposition
    have hcalled := hlast.called call hcall
    have hkept : (s.broadcaster.listeners topic)[
        (mid.handlers.of topic).length]? = some handler :=
      Broadcaster.listener_since hafter
    rw [htopic, hposition, hkept] at hcalled
    injection hcalled with hcalled
    exact hcalled.symm

/-- A client whose server announces its shutdown while one of the handlers
registered for it raises. -/
def shutdownSetting : PushSetting where
  config := { clientId := text "x" }
  lib := plainIpLib
  crypto := CryptoLib.plain
  cek := []

def shutdownFrame : Frame where
  header := { flags := 0, streamId := 0 }
  metadata := Value.map [(Value.str (text "body_type"), Value.int 0x0006)]
  body := [0, 0, 3, 232]
  governanceBlock := none

def raised : Except PyError Unit := Except.error (PyError.valueError "no")

/-- The second handler is registered while the first one is awaited. -/
theorem notifications_heard_shutdown :
    exists s mid, run shutdownSetting {}
        ([.onShutdown 7, .receive shutdownFrame] ++ .onShutdown 8 ::
          [.returned raised]) = some s ∧
      run shutdownSetting {} [.onShutdown 7, .receive shutdownFrame] =
        some mid ∧
      s.heard .shutdown (mid.handlers.of .shutdown).length =
        mid.handling .shutdown ++ [] := by
  rcases notifications_heard shutdownSetting
      [.onShutdown 7, .receive shutdownFrame] [.returned raised]
      (.onShutdown 8) .shutdown 8 _ rfl rfl with ⟨mid, hmid, hheard, _⟩
  exact ⟨_, mid, rfl, hmid, hheard⟩

end PushClient

/-!
# From the bytes of a server
-/

/-- The notices a server can push. -/
inductive NoticeBody where
  | service (b : SnapshotBody)
  | config (n : ConfigNotice) (c : CanaryNotice)
  | shutdown (delay : UInt32)
  | redirect (b : RedirectBody)

namespace NoticeBody

def opcode : NoticeBody -> OpCode
  | service _ => OpCode.serviceChangedNotify
  | config _ _ => OpCode.configChangedNotify
  | shutdown _ => OpCode.instanceShutdownPrepareNotice
  | redirect _ => OpCode.clusterNodeRedirectNotify

def layout : NoticeBody -> Bytes
  | service b => b.layout
  | config n c => n.layout ++ c.layout
  | shutdown delay => bigEndian 4 delay.toNat
  | redirect b => b.layout

/-- What a notice is to the handlers of the client. -/
def notification (lib : IpLib) : NoticeBody -> Notification
  | service b => .service (b.snapshot lib)
  | config n c => .config (c.assign n.notification)
  | shutdown delay => .shutdown { shutdownDelayMs := delay.toNat }
  | redirect b => .redirect (b.redirect lib)

/-- The notification handler of the client that handles a notice. -/
def handler : NoticeBody -> NotifyHandler
  | service _ => .serviceChanged
  | config _ _ => .configChanged
  | shutdown _ => .shutdownNotice
  | redirect _ => .redirect

end NoticeBody

/-- A notice as a server sends it: on no stream, not encrypted, and under the
operation code of its kind. -/
structure SentNotice (msgpack : Msgpack) where
  frame : EncodedFrame msgpack
  body : NoticeBody
  pushed : frame.request.streamId = 0
  opcode : frame.request.opcode = body.opcode
  named : frame.request.metadata.get? (text "body_type") = none
  plain : frame.sent.header.isEncrypted = false
  carries : frame.request.body = body.layout

namespace SentNotice

variable {msgpack : Msgpack}

theorem bodyType_sent (n : SentNotice msgpack) :
    n.frame.sent.bodyType = Except.ok (Value.int n.body.opcode.code) := by
  rw [n.frame.bodyType_sent n.named, n.opcode]

theorem routed (n : SentNotice msgpack) :
    ((registerNotifyHandlers {}).routeFrame n.frame.sent).map Prod.fst =
      Except.ok [.notifyHandler n.body.handler.id] := by
  have hstream : n.frame.sent.streamId = 0 := n.pushed
  have hnotified : (registerNotifyHandlers {}).notifyHandlerOf n.frame.sent =
      Except.ok [.notifyHandler n.body.handler.id] := by
    unfold FrameRouter.notifyHandlerOf
    rw [n.bodyType_sent]
    cases n.body <;> rfl
  unfold FrameRouter.routeFrame
  rw [if_pos hstream, hnotified]
  rfl

theorem awaited (n : SentNotice msgpack) :
    awaitedHandler [.notifyHandler n.body.handler.id] =
      some n.body.handler := by
  cases n.body <;> rfl

theorem read (env : PushSetting) (n : SentNotice msgpack) :
    env.notificationOf n.frame.sent n.body.handler =
      Except.ok (some (n.body.notification env.lib)) := by
  have hbody : n.frame.sent.body = n.body.layout := n.carries
  have hplain := n.plain
  generalize n.frame.sent = frame at hbody hplain
  cases hn : n.body with
  | service b =>
      rw [hn] at hbody
      have hread : ServiceSnapshot.fromBytes env.lib b.layout =
          Except.ok (b.snapshot env.lib) :=
        (ReadsBack.of_reads (SnapshotBody.reads env.lib)).exact b
      show (do pure (some (Notification.service
        (← ServiceSnapshot.fromBytes env.lib frame.body)))) = _
      rw [hbody]
      show (do pure (some (Notification.service
        (← ServiceSnapshot.fromBytes env.lib b.layout)))) = _
      rw [hread]
      rfl
  | config m c =>
      rw [hn] at hbody
      show env.readConfigChanged frame = _
      unfold PushSetting.readConfigChanged
      rw [hplain, Bool.false_and, if_neg Bool.false_ne_true, hbody]
      unfold PushSetting.readConfigBody
      show (do pure (some (Notification.config
        (← ConfigChangedNotification.fromBytes (m.layout ++ c.layout))))) = _
      rw [ConfigChangedNotification.fromBytes_layout m c]
      rfl
  | shutdown delay =>
      rw [hn] at hbody
      have hread := (ReadsBack.of_reads ShutdownNotice.reads).exact delay
      show (do pure (some (Notification.shutdown
        (← parseBody ShutdownNotice.read frame.body)))) = _
      rw [hbody]
      show (do pure (some (Notification.shutdown
        (← parseBody ShutdownNotice.read (bigEndian 4 delay.toNat))))) = _
      rw [hread]
      rfl
  | redirect b =>
      rw [hn] at hbody
      have hread := (ReadsBack.of_reads (RedirectBody.reads env.lib)).exact b
      show (do pure (some (Notification.redirect
        (← parseBody (RedirectInfo.read env.lib) frame.body)))) = _
      rw [hbody]
      show (do pure (some (Notification.redirect
        (← parseBody (RedirectInfo.read env.lib) b.layout)))) = _
      rw [hread]
      rfl

theorem pushOf_sent (env : PushSetting) (n : SentNotice msgpack) :
    env.pushOf n.frame.sent = some (n.body.notification env.lib) := by
  unfold PushSetting.pushOf
  rw [n.routed]
  simp only [n.awaited, n.read env]

end SentNotice

/-- What a server sends: notices, and responses on the streams of requests. -/
inductive ServerFrame (msgpack : Msgpack) where
  | notice (n : SentNotice msgpack)
  | response (f : EncodedFrame msgpack) (onStream : f.request.streamId ≠ 0)

namespace ServerFrame

variable {msgpack : Msgpack}

def frame : ServerFrame msgpack -> EncodedFrame msgpack
  | notice n => n.frame
  | response f _ => f

def notification (lib : IpLib) : ServerFrame msgpack -> Option Notification
  | notice n => some (n.body.notification lib)
  | response _ _ => none

theorem pushOf_sent (env : PushSetting) (f : ServerFrame msgpack) :
    env.pushOf f.frame.sent = f.notification env.lib := by
  cases f with
  | notice n => exact n.pushOf_sent env
  | response f onStream =>
      have hstream : f.sent.streamId ≠ 0 := onStream
      show env.pushOf f.sent = none
      unfold PushSetting.pushOf
      rw [FrameRouter.routeFrame_of_stream _ hstream]
      rfl

theorem filterMap_pushOf (env : PushSetting)
    (frames : List (ServerFrame msgpack)) :
    (frames.map fun f => f.frame.sent).filterMap env.pushOf =
      frames.filterMap (notification env.lib) := by
  rw [List.filterMap_map]
  congr 1
  funext f
  exact f.pushOf_sent env

end ServerFrame

/-- The bytes of notices and responses, in whatever chunks and cut off anywhere:
the read loop hands over the frames, and a handler registered while a client
receives them hears exactly the notices of its topic, as they were sent. -/
theorem pushed_notices_heard (msgpack : Msgpack)
    (frames : List (ServerFrame msgpack)) (last : EncodedFrame msgpack)
    (cut missing : Bytes) (hcut : last.wire = cut ++ missing)
    (hmissing : missing ≠ []) (c : HMMPConnection) (reader : StreamReader)
    (handle : FrameHandler) (hconnected : c.isConnected = true)
    (hhandle : c.onFrame = some handle)
    (hreturns : forall frame, handle frame = Except.ok ())
    (hreader : c.reader = some reader)
    (hcarries : reader.Carries
      ((frames.map fun f => f.frame.wire).flatten ++ cut)) :
    (forall rounds, frames.length < rounds -> exists c',
      HMMPConnection.readFrameLoop msgpack rounds c = some c' ∧
        c'.callbacks = c.callbacks ++
          (frames.map fun f => Callback.frame f.frame.sent) ++ c.closing) ∧
    forall (env : PushSetting) (before after : List PushEvent)
      (registration : PushEvent) (topic : Topic) (handler : HandlerId)
      (s : PushClient) (n : Nat),
      registration.subscription env = some (topic, handler) ->
      PushClient.run env {} (before ++ registration :: after) = some s ->
      after.filterMap PushEvent.received =
        (frames.take n).map (fun f => f.frame.sent) ->
      exists mid, PushClient.run env {} before = some mid ∧
        s.heard topic (mid.handlers.of topic).length =
          mid.handling topic ++
            ((frames.take n).filterMap
              (ServerFrame.notification env.lib)).filter
                fun notification => decide (notification.topic = topic) := by
  constructor
  · intro rounds hrounds
    have hwires : (frames.map ServerFrame.frame).map EncodedFrame.wire =
        frames.map fun f => f.frame.wire := List.map_map
    rw [← hwires] at hcarries
    have hloop := HMMPConnection.readFrameLoop_eq
      (frames.map ServerFrame.frame) last hcut hmissing hconnected hhandle
      hreturns hreader hcarries (by simpa using hrounds)
    refine ⟨_, hloop, ?_⟩
    simp [HMMPConnection.afterDelivery, Function.comp_def]
  · intro env before after registration topic handler s n hregisters hrun
      hreceived
    rcases PushClient.registered_run hregisters hrun with
      ⟨mid, hmid, hsound, hafter⟩
    refine ⟨mid, hmid, ?_⟩
    have hheard := Broadcaster.heard_since hsound hafter
    rw [PushClient.published_broadcast, hreceived,
      ServerFrame.filterMap_pushOf] at hheard
    exact hheard

/-- The request and the metadata of a notice of a shutdown in a second. -/
def shutdownRequest : FrameRequest where
  opcode := OpCode.instanceShutdownPrepareNotice
  body := [0, 0, 3, 232]
  isRequest := false

def shutdownMetadata : Bytes :=
  [0x82, 0xA9, 98, 111, 100, 121, 95, 116, 121, 112, 101, 0x06, 0xAE, 99, 108,
    105, 101, 110, 116, 95, 118, 101, 114, 115, 105, 111, 110, 0xB1, 104, 109,
    109, 112, 45, 112, 121, 116, 104, 111, 110, 47, 48, 46, 55, 46, 48]

theorem shutdown_encodable :
    FrameEncoder.Encodable {} Msgpack.flat shutdownRequest
      shutdownMetadata where
  streamId := by decide
  flags := by decide
  governanceBit := by decide
  governance := by decide
  packs := by rfl
  unpacks := by rfl
  metadata := by decide
  payload := by decide

def shutdownNotice : SentNotice Msgpack.flat where
  frame :=
    { encoder := {}
      request := shutdownRequest
      metaBytes := shutdownMetadata
      encodable := shutdown_encodable }
  body := .shutdown 1000
  pushed := rfl
  opcode := rfl
  named := rfl
  plain := by decide
  carries := by decide

def shutdownStream : StreamReader where
  buffer := []
  arriving := [Arrival.data shutdownNotice.frame.wire]

theorem pushed_notices_heard_shutdown :
    (exists c', HMMPConnection.readFrameLoop Msgpack.flat 2
        { heartbeatConnection with reader := some shutdownStream } =
          some c' ∧
      c'.callbacks =
        [Callback.frame shutdownNotice.frame.sent, Callback.close]) ∧
    exists s, PushClient.run PushClient.shutdownSetting {}
        [.onShutdown 7, .receive shutdownNotice.frame.sent,
          .returned PushClient.raised] = some s ∧
      s.heard .shutdown 0 = [.shutdown { shutdownDelayMs := 1000 }] := by
  rcases pushed_notices_heard Msgpack.flat [.notice shutdownNotice]
    shutdownNotice.frame [] shutdownNotice.frame.wire rfl (by decide)
    { heartbeatConnection with reader := some shutdownStream } shutdownStream
    (fun _ => Except.ok ()) rfl rfl (fun _ => rfl) rfl ⟨by decide, by decide⟩
    with ⟨hloop, hheard⟩
  refine ⟨hloop 2 (by decide), _, rfl, ?_⟩
  rcases hheard PushClient.shutdownSetting []
    [.receive shutdownNotice.frame.sent, .returned PushClient.raised]
    (.onShutdown 7) .shutdown 7 _ 1 rfl rfl rfl with ⟨mid, hmid, hmessages⟩
  injection hmid with hmid
  subst hmid
  exact hmessages

end Client
end Hmmp
